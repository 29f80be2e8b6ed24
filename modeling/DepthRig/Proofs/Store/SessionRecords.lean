import DepthRig.Proofs.Store.Tables
import DepthRig.Proofs.Store.StoredTime
import DepthRig.Store.Sessions

/-!
# Sessions as rows of the store

A session is one row of the sessions table (`StoredSession`), and the row reads back as the
session written when its instants have four-digit UTC years (`readSession_row`). Session ids
are distinct, and starting sessions one after another keeps a store holding its sessions.
-/

namespace DepthRig.Time

/-- An instant the store writes and reads back: its UTC year has four digits and its
nanoseconds make less than a second. -/
structure Stamp.Storable (s : Stamp) : Prop where
  year_nonneg : 0 ≤ s.date.1
  year_lt : s.date.1 < 10000
  nanos_lt : s.nanos < 10 ^ 9

end DepthRig.Time

namespace DepthRig.Store

open Time

/-! ### Session ids -/

/-- The number a list of hexadecimal digits spells, most significant first. -/
def hexValue (cs : List Char) : Nat := cs.foldl (fun v c => 16 * v + (Hex.value? c).getD 0) 0

theorem hexValue_append_singleton (cs : List Char) (c : Char) :
    hexValue (cs ++ [c]) = 16 * hexValue cs + (Hex.value? c).getD 0 := by
  simp [hexValue, List.foldl_append]

theorem hexValue_zeros_append (k : Nat) (cs : List Char) :
    hexValue (List.replicate k '0' ++ cs) = hexValue cs := by
  have hzero : Hex.value? '0' = some 0 := by decide
  have hzeros : (List.replicate k '0').foldl (fun v c => 16 * v + (Hex.value? c).getD 0) 0 = 0 := by
    induction k with
    | zero => rfl
    | succ k ih =>
      simp only [List.replicate_succ', List.foldl_append, ih, List.foldl_cons, List.foldl_nil, hzero,
        Option.getD_some]
  simp only [hexValue, List.foldl_append, hzeros]

theorem value?_toLower_digitChar {d : Nat} (h : d < 16) :
    Hex.value? (Nat.digitChar d).toLower = some d := by
  have hall : ∀ i : Fin 16, Hex.value? (Nat.digitChar i).toLower = some i := by decide
  exact hall ⟨d, h⟩

theorem hexValue_toDigits (n : Nat) : hexValue ((Nat.toDigits 16 n).map Char.toLower) = n := by
  induction n using Nat.strong_induction_on with
  | _ n ih =>
    by_cases hn : n < 16
    · simp [Nat.toDigits_of_lt_base hn, hexValue, value?_toLower_digitChar hn]
    · rw [Nat.toDigits_of_base_le (by omega) (by omega), List.map_append, List.map_singleton,
        hexValue_append_singleton, ih (n / 16) (by omega),
        value?_toLower_digitChar (Nat.mod_lt n (by omega))]
      simp only [Option.getD_some]
      omega

/-- The number of a session id is spelled by what follows its fixed 24-character head. -/
theorem hexValue_sessionId (n : Nat) : hexValue ((sessionId n).toList.drop 24) = n := by
  unfold sessionId
  rw [String.toList_append, String.toList_append, String.toList_ofList, String.toList_ofList,
    String.toList_ofList, List.append_assoc, List.drop_append]
  simp [hexValue_zeros_append, hexValue_toDigits]

theorem sessionId_injective : Function.Injective sessionId := by
  intro m n h
  rw [← hexValue_sessionId m, h, hexValue_sessionId]

/-! ### Stored sessions -/

/-- What the store keeps of a session; the stop instant is there once it is finished. -/
structure StoredSession where
  id : String
  take : String
  index : Int
  syncMode : String
  started : Stamp
  stopped : Option Stamp := none
  frames : Int := 0
  status : String := ""

namespace StoredSession

/-- The session's row of the sessions table. -/
def row (k : StoredSession) : List Cell :=
  [.text k.id, .text k.take, .int k.index, .text k.syncMode, .text k.started.utc.text,
    k.stopped.elim .null (fun t => .text t.utc.text), .int k.frames, .text k.status]

/-- The session as it is read back: its instants in UTC, and the zero instant as the stop
of an open session. -/
def session (k : StoredSession) : Session :=
  ⟨k.id, k.take, k.index, k.syncMode, k.started.utc, (k.stopped.map Stamp.utc).getD Stamp.zero,
    k.frames, k.status⟩

/-- The session's instants are storable. -/
structure Readable (k : StoredSession) : Prop where
  started : k.started.Storable
  stopped : ∀ t ∈ k.stopped, t.Storable

end StoredSession

/-- A session to start: its take, index, sync mode and start instant. -/
structure Start where
  take : String
  index : Int
  syncMode : String
  started : Stamp

/-- What starting a session records under an id. -/
def Start.record (st : Start) (id : String) : StoredSession :=
  { id, take := st.take, index := st.index, syncMode := st.syncMode, started := st.started }

/-! ### Writing a session's row -/

@[simp] theorem Cell.withAffinity_text_text (s : String) :
    Cell.withAffinity .text (.text s) = .text s := rfl

@[simp] theorem Cell.withAffinity_integer_int (n : Int) :
    Cell.withAffinity .integer (.int n) = .int n := rfl

@[simp] theorem Cell.text_beq_null (s : String) : (Cell.text s == .null) = false := rfl

@[simp] theorem Cell.int_beq_null (n : Int) : (Cell.int n == .null) = false := rfl

/-- Inserting a new session's five values fills in the table's defaults for the rest and
appends the row, when its id is new and its start text stays text in a numeric column. -/
theorem insert_sessions {db : Database} {R : List (List Cell)} {id take mode text : String}
    {index : Int} (hdb : db.table? sessionsTable.name = some { sessionsTable with rows := R })
    (hnew : ∀ r ∈ R, (r.getD 0 .null).same (.text id) = false)
    (htext : Cell.withAffinity .numeric (.text text) = .text text) :
    db.insert sessionsTable.name ["session_id", "take_name", "take_index", "sync_mode", "started_at"]
        [.text id, .text take, .int index, .text mode, .text text] =
      .ok (db.put { sessionsTable with
        rows := R ++ [[.text id, .text take, .int index, .text mode, .text text, .null, .int 0, .text ""]] }) := by
  have hany : (R.any fun r => (r[0]?.getD Cell.null).same (.text id)) = false := by
    simpa using hnew
  rw [Database.insert, Database.table_of_table? hdb]
  simp [Table.columnIndex_eq, sameName_eq, sessionsTable, bind, Except.bind, pure, Except.pure,
    htext, Database.initial, Database.checkRow, Database.nullViolation, Database.uniqueViolation,
    hany, Database.checkReferences]

/-- Starting a session in an open store appends its row under the next id. -/
theorem startSession_eq {s : SessionStore} {R : List (List Cell)} (hopen : s.db.closed = false)
    (hdb : s.db.table? sessionsTable.name = some { sessionsTable with rows := R })
    (hnew : ∀ r ∈ R, (r.getD 0 .null).same (.text (sessionId (s.issued + 1))) = false)
    (st : Start)
    (htext : Cell.withAffinity .numeric (.text st.started.utc.text) = .text st.started.utc.text) :
    s.startSession st.take st.index st.syncMode st.started =
      .ok ({ s with
          db := s.db.put { sessionsTable with
            rows := R ++ [(st.record (sessionId (s.issued + 1))).row] }
          issued := s.issued + 1 },
        sessionId (s.issued + 1)) := by
  simp only [SessionStore.startSession, SessionStore.ensureOpen, hopen, insert_sessions hdb hnew htext]
  rfl

/-! ### Reading a session's row -/

@[simp] theorem readTimeCell_null : readTimeCell .null = .null := rfl

/-- A session's row reads back as the session, its instants in UTC. -/
theorem readSession_row (R : List (List Cell)) {k : StoredSession} (hk : k.Readable) :
    SessionStore.readSession { sessionsTable with rows := R } k.row = .ok k.session := by
  obtain ⟨⟨h0, h1, hn⟩, hstop⟩ := hk
  have hstart := readTimeCell_utc_text h0 h1 hn
  have hparse := rfc3339_parse_utc_text k.started h0 h1 hn
  cases hk : k.stopped with
  | none =>
    simp [SessionStore.readSession, StoredSession.row, StoredSession.session, Table.cell, Table.columnIndex_eq,
      sameName_eq, List.findIdx?_cons, sessionsTable, hk, hstart, SessionStore.readStamp, hparse, scanText, scanInt,
      scanOptionalText, Except.mapError, bind, Except.bind, pure, Except.pure]
  | some t =>
    obtain ⟨t0, t1, tn⟩ := hstop t (by simp [hk])
    simp [SessionStore.readSession, StoredSession.row, StoredSession.session, Table.cell, Table.columnIndex_eq,
      sameName_eq, List.findIdx?_cons, sessionsTable, hk, hstart, SessionStore.readStamp, hparse, readTimeCell_utc_text t0 t1 tn,
      rfc3339_parse_utc_text t t0 t1 tn, scanText, scanInt, scanOptionalText, Except.mapError, bind, Except.bind,
      pure, Except.pure]

/-! ### Runs of starts -/

/-- The store is open and its sessions table holds exactly the rows of `ks`, in order, each
readable, under distinct ids that have all been issued. -/
structure SessionStore.Holds (s : SessionStore) (ks : List StoredSession) : Prop where
  isOpen : s.db.closed = false
  table : s.db.table? sessionsTable.name = some { sessionsTable with rows := ks.map StoredSession.row }
  readable : ∀ k ∈ ks, k.Readable
  ids_nodup : (ks.map StoredSession.id).Nodup
  ids_issued : ∀ k ∈ ks, ∃ j ≤ s.issued, k.id = sessionId j

namespace SessionStore.Holds

variable {s : SessionStore} {ks : List StoredSession}

/-- The next id is none of the held sessions' ids. -/
theorem next_id_fresh (h : s.Holds ks) : ∀ k ∈ ks, k.id ≠ sessionId (s.issued + 1) := by
  intro k hk heq
  obtain ⟨j, hj, hid⟩ := h.ids_issued k hk
  have := sessionId_injective (hid.symm.trans heq)
  omega

/-- Starting a session with a storable start instant appends it under the next id. -/
theorem startSession (h : s.Holds ks) {st : Start} (hst : st.started.Storable) :
    ∃ s', s.startSession st.take st.index st.syncMode st.started = .ok (s', sessionId (s.issued + 1)) ∧
      s'.Holds (ks ++ [st.record (sessionId (s.issued + 1))]) ∧ s'.issued = s.issued + 1 := by
  have hnew : ∀ r ∈ ks.map StoredSession.row,
      (r.getD 0 .null).same (.text (sessionId (s.issued + 1))) = false := by
    intro r hr
    obtain ⟨k, hk, rfl⟩ := List.mem_map.mp hr
    simpa [StoredSession.row] using h.next_id_fresh k hk
  have htext := withAffinity_utc_text hst.year_nonneg hst.year_lt hst.nanos_lt
  refine ⟨_, startSession_eq h.isOpen h.table hnew st htext, ⟨?_, ?_, ?_, ?_, ?_⟩, rfl⟩
  · simpa using h.isOpen
  · rw [List.map_append, List.map_singleton]
    exact @Database.table?_put_self _
      { sessionsTable with rows := ks.map StoredSession.row ++ [(st.record _).row] } _ h.table
  · intro k hk
    rcases List.mem_append.mp hk with hk | hk
    · exact h.readable k hk
    · obtain rfl := List.mem_singleton.mp hk
      exact ⟨hst, by simp [Start.record]⟩
  · simpa [List.nodup_append, Start.record] using ⟨h.ids_nodup, h.next_id_fresh⟩
  · intro k hk
    rcases List.mem_append.mp hk with hk | hk
    · obtain ⟨j, hj, hid⟩ := h.ids_issued k hk
      exact ⟨j, Nat.le_succ_of_le hj, hid⟩
    · obtain rfl := List.mem_singleton.mp hk
      exact ⟨s.issued + 1, le_refl _, rfl⟩

end SessionStore.Holds

/-- Start sessions one after another, stopping at the first failure: the store after them
and their ids. -/
def startAll (s : SessionStore) : List Start → Except Fault (SessionStore × List String)
  | [] => .ok (s, [])
  | st :: rest => do
    let (s, id) ← s.startSession st.take st.index st.syncMode st.started
    let (s, ids) ← startAll s rest
    pure (s, id :: ids)

/-- What a run of starts records, the first under the id after the `n`-th. -/
def Start.records : Nat → List Start → List StoredSession
  | _, [] => []
  | n, st :: rest => st.record (sessionId (n + 1)) :: Start.records (n + 1) rest

/-- Starting sessions with storable start instants, one after another, records each under
the next id, after the sessions held already. -/
theorem SessionStore.Holds.startAll {s : SessionStore} {ks : List StoredSession} (h : s.Holds ks)
    {starts : List Start} (hst : ∀ st ∈ starts, st.started.Storable) :
    ∃ s', DepthRig.Store.startAll s starts =
        .ok (s', (Start.records s.issued starts).map StoredSession.id) ∧
      s'.Holds (ks ++ Start.records s.issued starts) ∧ s'.issued = s.issued + starts.length := by
  induction starts generalizing s ks with
  | nil => exact ⟨s, rfl, by simpa [Start.records] using h, rfl⟩
  | cons st rest ih =>
    obtain ⟨s₁, hrun₁, h₁, hissued₁⟩ := h.startSession (hst st List.mem_cons_self)
    obtain ⟨s₂, hrun₂, h₂, hissued₂⟩ := ih h₁ fun st' hst' => hst st' (List.mem_cons_of_mem _ hst')
    refine ⟨s₂, ?_, ?_, ?_⟩
    · simp only [DepthRig.Store.startAll, hrun₁, bind, Except.bind, hrun₂, hissued₁, pure,
        Except.pure, Start.records, List.map_cons]
      rfl
    · simpa [Start.records, hissued₁] using h₂
    · simp only [hissued₂, hissued₁, List.length_cons]
      omega

end DepthRig.Store
