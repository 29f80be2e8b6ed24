import DepthRig.Proofs.Store.SessionRecords

/-!
# Listing sessions

The store lists sessions by the text of their start instant, greatest first, and keeps the
first `limit` of them (`sessions_eq`). The text of an instant in UTC grows with the instant
across whole seconds (`utc_text_lt_of_unix_lt`), so the list runs from the newest second to
the oldest. Within one second it does not follow the instants: the fraction is written
without trailing zeros, and `…:05.5Z` is a smaller text than `…:05Z`, so a session started
half a second after another in the same second is listed after it.
-/

namespace DepthRig.Store

open Time

/-- Whether a session may be listed before another: its stored start text is not the
smaller. -/
def StoredSession.startsNoEarlier (a b : StoredSession) : Bool :=
  !decide (a.started.utc.text < b.started.utc.text)

theorem StoredSession.startsNoEarlier_iff (a b : StoredSession) :
    a.startsNoEarlier b = true ↔ b.session.startedAt.text ≤ a.session.startedAt.text := by
  rw [startsNoEarlier, Bool.not_eq_true', decide_eq_false_iff_not, String.not_lt]
  rfl

theorem StoredSession.pairwise_mergeSort_startsNoEarlier (ks : List StoredSession) :
    (ks.mergeSort StoredSession.startsNoEarlier).Pairwise
      fun a b => b.session.startedAt.text ≤ a.session.startedAt.text := by
  have hsorted := List.pairwise_mergeSort
    (fun a b c (hab : a.startsNoEarlier b = true) (hbc : b.startsNoEarlier c = true) => by
      rw [startsNoEarlier_iff] at *
      exact String.le_trans hbc hab)
    (fun a b => by
      rcases String.le_total a.session.startedAt.text b.session.startedAt.text with h | h
      · simp [(startsNoEarlier_iff b a).mpr h]
      · simp [(startsNoEarlier_iff a b).mpr h])
    ks
  exact hsorted.imp fun h => (startsNoEarlier_iff _ _).mp h

/-! ### The listing in closed form -/

theorem cell_started_at_row (R : List (List Cell)) (k : StoredSession) :
    ({ sessionsTable with rows := R } : Table).cell k.row "started_at" = .text k.started.utc.text := by
  simp [Table.cell, Table.columnIndex_eq, sameName_eq, List.findIdx?_cons, sessionsTable,
    StoredSession.row]

theorem mapM_readSession_row (R : List (List Cell)) {l : List StoredSession}
    (hl : ∀ k ∈ l, k.Readable) :
    l.mapM (fun k => SessionStore.readSession { sessionsTable with rows := R } k.row) =
      .ok (l.map StoredSession.session) := by
  induction l with
  | nil => rfl
  | cons k l ih =>
    simp only [List.mapM_cons, readSession_row R (hl k List.mem_cons_self),
      ih fun k' hk' => hl k' (List.mem_cons_of_mem _ hk'), List.map_cons]
    rfl

/-- The store's listing of the sessions it holds: sorted by stored start text, greatest
first and otherwise in the order they were recorded, the first `limit` of them (100 for a
limit of 0 or less). -/
theorem sessions_eq {s : SessionStore} {ks : List StoredSession} (h : s.Holds ks) (limit : Int) :
    s.sessions limit =
      .ok (((ks.mergeSort StoredSession.startsNoEarlier).take
        (if limit ≤ 0 then 100 else limit).toNat).map StoredSession.session) := by
  let T : Table := { sessionsTable with rows := ks.map StoredSession.row }
  have hsort : (ks.map StoredSession.row).mergeSort
      (fun a b => !(T.cell a "started_at").lt (T.cell b "started_at")) =
      (ks.mergeSort StoredSession.startsNoEarlier).map StoredSession.row := by
    rw [List.map_mergeSort]
    intro a _ b _
    simp only [T, cell_started_at_row]
    rfl
  have hread : ∀ k ∈ (ks.mergeSort StoredSession.startsNoEarlier).take
      (if limit ≤ 0 then 100 else limit).toNat, k.Readable :=
    fun k hk => h.readable k (List.mem_mergeSort.mp (List.mem_of_mem_take hk))
  simp only [SessionStore.sessions, SessionStore.ensureOpen, h.isOpen, Database.table_of_table? h.table]
  change (((ks.map StoredSession.row).mergeSort
      (fun a b => !(T.cell a "started_at").lt (T.cell b "started_at"))).take _).mapM
      (SessionStore.readSession T) = _
  rw [hsort, ← List.map_take, List.mapM_map]
  exact mapM_readSession_row _ hread

/-! ### Sessions started into an empty table -/

theorem Start.length_records (n : Nat) (starts : List Start) :
    (Start.records n starts).length = starts.length := by
  induction starts generalizing n with
  | nil => rfl
  | cons st rest ih => simp [Start.records, ih]

/-- Of two readable sessions, the one with the greater stored start text started in the
same second or a later one. -/
theorem StoredSession.unix_le_of_text_le {a b : StoredSession} (ha : a.Readable) (hb : b.Readable)
    (h : b.session.startedAt.text ≤ a.session.startedAt.text) :
    b.session.startedAt.unix ≤ a.session.startedAt.unix :=
  Int.not_lt.mp fun hlt => String.not_lt.mpr h <|
    utc_text_lt_of_unix_lt ha.started.year_nonneg ha.started.year_lt hb.started.year_nonneg
      hb.started.year_lt hlt

/-- Sessions started one after another into an empty sessions table, with storable start
instants, are listed by stored start text: `min limit count` of them, none of the others
with a greater text, and from the newest second to the oldest. -/
theorem sessions_latest_by_start_text (s₀ : SessionStore) (h₀ : s₀.Holds []) (starts : List Start)
    (hst : ∀ st ∈ starts, st.started.Storable) (limit : Int) :
    ∃ s ids listed rest, startAll s₀ starts = .ok (s, ids) ∧ s.sessions limit = .ok listed ∧
      listed.length = min (if limit ≤ 0 then 100 else limit).toNat starts.length ∧
      (listed ++ rest).Perm ((Start.records s₀.issued starts).map StoredSession.session) ∧
      (listed ++ rest).Pairwise (fun a b => b.startedAt.text ≤ a.startedAt.text) ∧
      (listed ++ rest).Pairwise (fun a b => b.startedAt.unix ≤ a.startedAt.unix) := by
  obtain ⟨s, hrun, hs, -⟩ := h₀.startAll hst
  rw [List.nil_append] at hs
  let sorted := (Start.records s₀.issued starts).mergeSort StoredSession.startsNoEarlier
  let k := (if limit ≤ 0 then 100 else limit).toNat
  have hsplit : (sorted.take k).map StoredSession.session ++ (sorted.drop k).map StoredSession.session =
      sorted.map StoredSession.session := by
    rw [← List.map_append, List.take_append_drop]
  have hordered := StoredSession.pairwise_mergeSort_startsNoEarlier (Start.records s₀.issued starts)
  refine ⟨s, _, _, (sorted.drop k).map StoredSession.session, hrun, sessions_eq hs limit, ?_, ?_, ?_, ?_⟩
  · simp [Start.length_records]
  · rw [hsplit]
    exact (List.mergeSort_perm _ _).map _
  · rw [hsplit, List.pairwise_map]
    exact hordered
  · rw [hsplit, List.pairwise_map]
    refine hordered.imp_of_mem fun ha hb hab => ?_
    exact StoredSession.unix_le_of_text_le (hs.readable _ (List.mem_mergeSort.mp ha))
      (hs.readable _ (List.mem_mergeSort.mp hb)) hab

/-- A store whose only table is an empty sessions table. -/
def sessionsOnly : SessionStore := ⟨{ tables := [{ sessionsTable with rows := [] }] }, 0⟩

theorem sessionsOnly_holds : sessionsOnly.Holds [] :=
  ⟨rfl, by simp [sessionsOnly, Database.table?], by simp, by simp, by simp⟩

/-- Two sessions a second apart, listed one at a time. -/
theorem sessions_latest_by_start_text_of_two :
    sessionsOnly.Holds [] ∧
      (∀ st ∈ [(⟨"take", 1, "network", ⟨1704164645, 0, 0⟩⟩ : Start),
          ⟨"take", 2, "network", ⟨1704164646, 0, 0⟩⟩], st.started.Storable) ∧
      ∃ s ids listed rest,
        startAll sessionsOnly [⟨"take", 1, "network", ⟨1704164645, 0, 0⟩⟩,
          ⟨"take", 2, "network", ⟨1704164646, 0, 0⟩⟩] = .ok (s, ids) ∧
        s.sessions 1 = .ok listed ∧
        listed.length = min (if (1 : Int) ≤ 0 then (100 : Int) else 1).toNat 2 ∧
        (listed ++ rest).Perm ((Start.records sessionsOnly.issued
          [⟨"take", 1, "network", ⟨1704164645, 0, 0⟩⟩,
            ⟨"take", 2, "network", ⟨1704164646, 0, 0⟩⟩]).map StoredSession.session) ∧
        (listed ++ rest).Pairwise (fun a b => b.startedAt.text ≤ a.startedAt.text) ∧
        (listed ++ rest).Pairwise (fun a b => b.startedAt.unix ≤ a.startedAt.unix) := by
  have hst : ∀ st ∈ [(⟨"take", 1, "network", ⟨1704164645, 0, 0⟩⟩ : Start),
      ⟨"take", 2, "network", ⟨1704164646, 0, 0⟩⟩], st.started.Storable := by
    intro st hst
    simp only [List.mem_cons, List.not_mem_nil, or_false] at hst
    rcases hst with rfl | rfl <;> exact ⟨by decide, by decide, by decide⟩
  exact ⟨sessionsOnly_holds, hst, sessions_latest_by_start_text sessionsOnly sessionsOnly_holds _ hst 1⟩

/-- Two sessions started in the same second, at `03:04:05Z` and half a second later, are
listed oldest first: `…:05.5Z` is the smaller text. -/
theorem sessions_same_second_oldest_first :
    ∃ s ids, startAll sessionsOnly [⟨"take", 1, "network", ⟨1704164645, 0, 0⟩⟩,
        ⟨"take", 2, "network", ⟨1704164645, 500000000, 0⟩⟩] = .ok (s, ids) ∧
      (s.sessions 2).map (List.map Session.startedAt) =
        .ok [⟨1704164645, 0, 0⟩, ⟨1704164645, 500000000, 0⟩] := by
  let early : Start := ⟨"take", 1, "network", ⟨1704164645, 0, 0⟩⟩
  let late : Start := ⟨"take", 2, "network", ⟨1704164645, 500000000, 0⟩⟩
  have hst : ∀ st ∈ [early, late], st.started.Storable := by
    intro st hst
    simp only [List.mem_cons, List.not_mem_nil, or_false] at hst
    rcases hst with rfl | rfl <;> exact ⟨by decide, by decide, by decide⟩
  obtain ⟨s, hrun, hs, -⟩ := sessionsOnly_holds.startAll hst
  -- the whole second's text has no fraction, so the later instant's text is the smaller
  have hnot : ¬early.started.utc.text < late.started.utc.text := by
    rw [@fraction_text_lt_iff early.started late.started (by decide) (by decide) rfl (by decide)
      (by decide),
      fractionDigits_zero]
    exact fun h => h List.nil_prefix
  have hsorted : [early.record (sessionId 1), late.record (sessionId 2)].mergeSort
      StoredSession.startsNoEarlier = [early.record (sessionId 1), late.record (sessionId 2)] :=
    List.mergeSort_of_pairwise (by simpa [StoredSession.startsNoEarlier, Start.record] using hnot)
  refine ⟨s, _, hrun, ?_⟩
  rw [sessions_eq (by simpa using hs) 2]
  simp only [sessionsOnly, Start.records, hsorted]
  rfl

end DepthRig.Store
