import DepthRig.Proofs.Store.SessionListing

/-!
# A session's life in the store

A session is looked up by id: the first row with that id is read back
(`session_eq_find`). A session whose start instant has a four-digit UTC year reads back as
it was recorded. One whose UTC year is not of four digits does not: an instant of year 0
at a zone east of UTC may fall in year −1 in UTC, and its stored text
`-0001-12-31T23:30:00Z` is no time the store reads, so the lookup fails
(`session_started_in_year_zero_unreadable`).
-/

namespace DepthRig.Store

open Time

theorem cell_session_id_row (R : List (List Cell)) (k : StoredSession) :
    ({ sessionsTable with rows := R } : Table).cell k.row "session_id" = .text k.id := by
  simp [Table.cell, Table.columnIndex_eq, sameName_eq, List.findIdx?_cons, sessionsTable,
    StoredSession.row]

/-- Looking a session up reads the first row with its id, and fails as not found if there
is none. -/
theorem session_eq_find {s : SessionStore} {ks : List StoredSession} (hopen : s.db.closed = false)
    (hdb : s.db.table? sessionsTable.name = some { sessionsTable with rows := ks.map StoredSession.row })
    (id : String) :
    s.session id =
      match ks.find? (fun k => k.id == id) with
      | some k => SessionStore.readSession { sessionsTable with rows := ks.map StoredSession.row } k.row
      | none => .error (.ofKind .notFound ("session " ++ id ++ ": not found")) := by
  have hpred : ((fun r => (({ sessionsTable with rows := ks.map StoredSession.row } : Table).cell r
      "session_id").same (.text id)) ∘ StoredSession.row) = fun k => k.id == id := by
    funext k
    simp [cell_session_id_row]
  simp only [SessionStore.session, SessionStore.ensureOpen, hopen, Database.table_of_table? hdb,
    Bool.false_eq_true, if_false, bind, Except.bind, Except.mapError]
  rw [List.find?_map, hpred]
  cases ks.find? (fun k => k.id == id) <;> rfl

/-- A session started at `0000-01-01T00:30:00+01:00`, of year 0 where it was taken but at
`-0001-12-31T23:30:00Z` in UTC, is stored under a text that does not read back: looking it
up fails. -/
theorem session_started_in_year_zero_unreadable :
    (⟨-62167221000, 0, 3600⟩ : Stamp).text = "0000-01-01T00:30:00+01:00" ∧
      ∃ s, sessionsOnly.startSession "t" 1 "network" ⟨-62167221000, 0, 3600⟩ = .ok (s, sessionId 1) ∧
        (s.session (sessionId 1)).toOption = none := by
  let st : Start := ⟨"t", 1, "network", ⟨-62167221000, 0, 3600⟩⟩
  have hutc : st.started.utc.text = "-0001-12-31T23:30:00Z" := by decide +kernel
  have hnumber : (NumberText.read? "-0001-12-31T23:30:00Z").isNone = true := by decide +kernel
  have hstored : (readStoredTime "-0001-12-31T23:30:00Z").isNone = true := by decide +kernel
  have hparse : (rfc3339.parse "-0001-12-31T23:30:00Z").toOption.isNone = true := by decide +kernel
  have htext : Cell.withAffinity .numeric (.text st.started.utc.text) = .text st.started.utc.text := by
    rw [hutc]
    simp [Cell.withAffinity, Option.isNone_iff_eq_none.mp hnumber]
  have hstart := startSession_eq sessionsOnly_holds.isOpen sessionsOnly_holds.table
    (by simp) st htext
  refine ⟨by decide +kernel, _, hstart, ?_⟩
  obtain ⟨e, he⟩ : ∃ e, rfc3339.parse "-0001-12-31T23:30:00Z" = .error e := by
    cases h : rfc3339.parse "-0001-12-31T23:30:00Z" with
    | ok v => simp [h, Except.toOption] at hparse
    | error e => exact ⟨e, rfl⟩
  have hdb := @Database.table?_put_self sessionsOnly.db
    { sessionsTable with rows := [(st.record (sessionId 1)).row] } _ sessionsOnly_holds.table
  show ((SessionStore.mk (sessionsOnly.db.put
    { sessionsTable with rows := [(st.record (sessionId 1)).row] }) 1).session (sessionId 1)).toOption = none
  rw [@session_eq_find _ [st.record (sessionId 1)] (by simp [sessionsOnly]) hdb]
  simp [st, Start.record, SessionStore.readSession, StoredSession.row, Table.cell, Table.columnIndex_eq,
    sameName_eq, List.findIdx?_cons, sessionsTable, hutc, readTimeCell,
    Option.isNone_iff_eq_none.mp hstored, SessionStore.readStamp, he, scanText, scanInt,
    scanOptionalText, Except.mapError, bind, Except.bind, pure, Except.pure, Except.toOption]

end DepthRig.Store
