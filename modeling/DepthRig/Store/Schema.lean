import DepthRig.Store.Cell

/-!
# The session store's tables

The store's tables: take indexes, sessions with their times, per-device outcomes of each
session's stages, recorded calibrations and the schema version. Time columns hold text in a
column class of their own, which stores text that reads as an integer as that integer.
-/

namespace DepthRig.Store

/-- The schema version table. -/
def versionTable : Table :=
  { name := "schema_migrations"
    columns := [{ name := "version", affinity := .integer, unique := true },
      { name := "dirty", affinity := .numeric }] }

/-- Take names and their last index. -/
def takesTable : Table :=
  { name := "takes"
    columns := [{ name := "name", affinity := .text, key := true },
      { name := "last_index", affinity := .integer, notNull := true, default := .value (.int 0) },
      { name := "updated_at", affinity := .numeric, default := .now }] }

/-- Recording sessions. -/
def sessionsTable : Table :=
  { name := "sessions"
    columns := [{ name := "session_id", affinity := .text, key := true },
      { name := "take_name", affinity := .text, notNull := true },
      { name := "take_index", affinity := .integer, notNull := true },
      { name := "sync_mode", affinity := .text, notNull := true },
      { name := "started_at", affinity := .numeric, notNull := true },
      { name := "stopped_at", affinity := .numeric },
      { name := "frames_captured", affinity := .integer, notNull := true, default := .value (.int 0) },
      { name := "sync_status", affinity := .text, notNull := true, default := .value (.text "") }] }

/-- Per-device outcomes of a session's stages. -/
def outcomesTable : Table :=
  { name := "device_outcomes"
    columns := [{ name := "outcome_id", affinity := .integer, key := true, counter := true },
      { name := "session_id", affinity := .text, notNull := true },
      { name := "stage", affinity := .text, notNull := true },
      { name := "endpoint", affinity := .text, notNull := true },
      { name := "serial", affinity := .text, notNull := true, default := .value (.text "") },
      { name := "error", affinity := .text, notNull := true, default := .value (.text "") },
      { name := "recorded_at", affinity := .numeric, default := .now }]
    references := [⟨"session_id", "sessions", "session_id"⟩] }

/-- Recorded calibrations. -/
def calibrationsTable : Table :=
  { name := "calibrations"
    columns := [{ name := "calibration_id", affinity := .integer, key := true, counter := true },
      { name := "serial", affinity := .text, notNull := true },
      { name := "rotation_json", affinity := .text, notNull := true },
      { name := "translation_json", affinity := .text, notNull := true },
      { name := "refined", affinity := .integer, notNull := true, default := .value (.int 0) },
      { name := "recorded_at", affinity := .numeric, default := .now }] }

/-- The tables of the first schema version, in the order they are created. -/
def initialTables : List Table := [takesTable, sessionsTable, outcomesTable, calibrationsTable]

end DepthRig.Store
