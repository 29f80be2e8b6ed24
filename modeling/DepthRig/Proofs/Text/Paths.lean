import DepthRig.Text.Path
import Mathlib

/-!
# Joining a plain name to a directory

`Path.clean` pushes a path's parts on a stack, dropping empty parts and `.` and popping for
`..`. A plain name, holding no slash and neither `.` nor `..`, is pushed as it is, so
`join [d, n]` is a direct child of `d`; `splitOn_slash` first shows that the legacy splitting
cuts where `List.splitOn` does.
-/

namespace DepthRig.Path

/-! ### Splitting at slashes -/

open String in
/-- The splitting loop over the separator `/`, started after `l` with the part `m` read so
far, gives the parts already found, then the list view of the rest with `m` in front. -/
theorem splitOnAux_slash (l m r : List Char) (acc : List String) :
    splitOnAux (ofList (l ++ m ++ r)) "/" ⟨utf8Len l⟩ ⟨utf8Len l + utf8Len m⟩ 0 acc =
      acc.reverse ++ (List.splitOnPPrepend (· == '/') r m.reverse).map ofList := by
  -- each step of the loop reads the next character of `r`
  induction r generalizing l m acc with
  | nil =>
    unfold splitOnAux
    simp only [atEnd_iff, rawEndPos_ofList, utf8Len_append, List.append_nil, Pos.Raw.mk_le_mk,
      Nat.le_refl, if_true]
    simpa using extract_of_valid l m []
  | cons c r ih =>
    unfold splitOnAux
    have hget := get_of_valid (l ++ m) (c :: r)
    have hnext := next_of_valid (l ++ m) c r
    have hsep : Pos.Raw.get "/" 0 = '/' := rfl
    have hsepnext : Pos.Raw.next "/" 0 = ⟨1⟩ := rfl
    have hend : "/".rawEndPos ≤ ⟨1⟩ := by decide
    have hlen : ¬ (ofList (l ++ m ++ c :: r)).rawEndPos ≤ ⟨utf8Len l + utf8Len m⟩ := by
      have := c.utf8Size_pos
      simp only [rawEndPos_ofList, utf8Len_append, utf8Len_cons, Pos.Raw.mk_le_mk]
      omega
    simp only [List.append_assoc, utf8Len_append] at hget hnext hlen
    simp only [List.append_assoc, atEnd_iff, hlen, if_false, hget, hsep, hsepnext,
      Pos.Raw.unoffsetBy_zero, hnext, List.headD_cons]
    by_cases h : c = '/'
    · -- a slash ends the part `m` and starts an empty one after it
      subst h
      have hpart := extract_of_valid l m ('/' :: r)
      have hone : '/'.utf8Size = 1 := rfl
      have hback : (⟨utf8Len l + utf8Len m + 1⟩ : Pos.Raw).unoffsetBy ⟨1⟩ =
          ⟨utf8Len l + utf8Len m⟩ := by
        simp [Pos.Raw.ext_iff, Pos.Raw.byteIdx_unoffsetBy]
      simp only [List.append_assoc] at hpart
      simp only [beq_self_eq_true, if_true, hend, hone, hback, hpart,
        @List.splitOnPPrepend_cons_pos _ (· == '/') _ _ _ (beq_self_eq_true '/'),
        List.reverse_reverse, List.map_cons]
      simpa [List.append_assoc, hone, Nat.add_assoc] using ih (l ++ m ++ ['/']) [] (ofList m :: acc)
    · -- any other character extends the part being read
      have hc : (c == '/') = false := by simpa using h
      simp only [hc, Bool.false_eq_true, if_false]
      rw [@List.splitOnPPrepend_cons_neg _ (· == '/') _ _ _ hc]
      simpa [List.append_assoc, Nat.add_assoc] using ih l (m ++ [c]) acc

/-- Splitting a text at its slashes is splitting its characters there. -/
theorem splitOn_slash (s : String) :
    s.splitOn "/" = (s.toList.splitOn '/').map String.ofList := by
  rw [String.splitOn, if_neg (by decide)]
  simpa [List.splitOn_eq_splitOnP] using splitOnAux_slash [] [] s.toList []

/-- The parts of a path between its slashes, empty ones included. -/
def parts (p : String) : List String := (p.toList.splitOn '/').map String.ofList

theorem parts_empty : parts "" = [""] := rfl

theorem parts_append_slash (a b : String) : parts (a ++ "/" ++ b) = parts a ++ parts b := by
  simp [parts, String.toList_append, List.append_assoc, List.splitOn_append_cons_self]

theorem parts_of_not_mem {n : String} (h : '/' ∉ n.toList) : parts n = [n] := by
  simp [parts, List.splitOn_eq_singleton h]

theorem parts_intercalate {ks : List String} (hne : ks ≠ []) (h : ∀ k ∈ ks, '/' ∉ k.toList) :
    parts ("/".intercalate ks) = ks := by
  rw [parts, String.toList_intercalate, show "/".toList = ['/'] from rfl,
    List.splitOn_intercalate '/' (by simpa using h) (by simpa using hne)]
  simp

theorem not_mem_of_mem_splitOn {cs : List Char} :
    ∀ {xs : List Char}, xs ∈ cs.splitOn '/' → '/' ∉ xs := by
  induction cs with
  | nil => simp
  | cons c cs ih =>
    intro xs hxs
    rw [List.splitOn_cons_eq_if_modifyHead] at hxs
    by_cases hc : c = '/'
    · simp only [hc, beq_self_eq_true, if_true, List.mem_cons] at hxs
      rcases hxs with rfl | hxs
      · simp
      · exact ih hxs
    · simp only [beq_iff_eq, hc, if_false] at hxs
      cases hs : cs.splitOn '/' with
      | nil => exact absurd hs (List.splitOn_ne_nil _ _)
      | cons first rest =>
        rw [hs, List.modifyHead_cons, List.mem_cons] at hxs
        rcases hxs with rfl | hxs
        · simp only [List.mem_cons, not_or]
          exact ⟨Ne.symm hc, ih (by simp [hs])⟩
        · exact ih (by simp [hs, hxs])

theorem not_mem_parts {p k : String} (hk : k ∈ parts p) : '/' ∉ k.toList := by
  simp only [parts, List.mem_map] at hk
  obtain ⟨cs, hcs, rfl⟩ := hk
  simpa using not_mem_of_mem_splitOn hcs

/-! ### The stack of kept parts -/

/-- The parts `clean` keeps of a path, the last one first. -/
def kept (rooted : Bool) (p : String) : List String := (parts p).foldl (pushPart rooted) []

theorem kept_empty (rooted : Bool) : kept rooted "" = [] := rfl

/-- A path written from the parts it keeps, the first part first, as `clean` writes it. -/
def render (rooted : Bool) (ks : List String) : String :=
  if rooted then "/" ++ "/".intercalate ks
  else if ("/".intercalate ks).isEmpty then "." else "/".intercalate ks

/-- `clean` writes out the parts its stack keeps, also for the empty path. -/
theorem clean_eq (p : String) :
    clean p = render (p.startsWith "/") (kept (p.startsWith "/") p).reverse := by
  by_cases hp : p = ""
  · subst hp; rfl
  · rw [clean, if_neg (by simpa [String.isEmpty_iff] using hp), splitOn_slash]
    rfl

/-- The stack `clean` keeps, top first, holds parts that read back as themselves: none is
empty, `.`, or holds a slash, and `..` parts lie at the bottom, only under a path that is not
rooted. -/
def StackOk (rooted : Bool) : List String → Prop
  | [] => True
  | k :: rest =>
    k ≠ "" ∧ k ≠ "." ∧ '/' ∉ k.toList ∧ (k = ".." → rooted = false ∧ ∀ j ∈ rest, j = "..") ∧
      StackOk rooted rest

theorem StackOk.pushPart {rooted : Bool} {ks : List String} {part : String}
    (h : StackOk rooted ks) (hp : '/' ∉ part.toList) :
    StackOk rooted (pushPart rooted ks part) := by
  unfold Path.pushPart
  by_cases hskip : (part == "" || part == ".") = true
  · rw [if_pos hskip]; exact h
  rw [if_neg hskip]
  simp only [Bool.or_eq_true, beq_iff_eq, not_or] at hskip
  by_cases hup : part = ".."
  · -- `..` takes off the part under it, or lies on other `..` parts, or on nothing unless rooted
    subst hup
    simp only [beq_self_eq_true, if_true]
    cases ks with
    | nil =>
      cases rooted
      · exact ⟨by decide, by decide, by decide, fun _ => ⟨rfl, by simp⟩, trivial⟩
      · trivial
    | cons top rest =>
      obtain ⟨-, -, -, htop, hrest⟩ := h
      by_cases ht : top = ".."
      · subst ht
        obtain ⟨hr, hall⟩ := htop rfl
        have hdots : StackOk rooted (".." :: rest) :=
          ⟨by decide, by decide, by decide, fun _ => ⟨hr, hall⟩, hrest⟩
        exact ⟨by decide, by decide, by decide, fun _ => ⟨hr, by simpa using hall⟩, hdots⟩
      · simp only [ht, beq_iff_eq, if_false]
        exact hrest
  · simp only [beq_iff_eq, hup, if_false]
    exact ⟨hskip.1, hskip.2, hp, fun h => absurd h hup, h⟩

theorem StackOk.parts {rooted : Bool} {ks : List String} (h : StackOk rooted ks) :
    ∀ k ∈ ks, k ≠ "" ∧ '/' ∉ k.toList := by
  induction ks with
  | nil => simp
  | cons k rest ih =>
    obtain ⟨h₁, -, h₃, -, hrest⟩ := h
    intro j hj
    rcases List.mem_cons.1 hj with rfl | hj
    · exact ⟨h₁, h₃⟩
    · exact ih hrest j hj

theorem stackOk_foldl {rooted : Bool} {ks : List String} (ps : List String)
    (h : StackOk rooted ks) (hp : ∀ p ∈ ps, '/' ∉ p.toList) :
    StackOk rooted (ps.foldl (pushPart rooted) ks) := by
  induction ps generalizing ks with
  | nil => exact h
  | cons p ps ih =>
    exact ih (h.pushPart (hp p (by simp))) fun q hq => hp q (by simp [hq])

theorem stackOk_kept (rooted : Bool) (p : String) : StackOk rooted (kept rooted p) :=
  stackOk_foldl _ trivial fun _ => not_mem_parts

/-- Pushing a kept stack's parts again, bottom first, gives the stack back: `clean` keeps
what it wrote. -/
theorem foldl_reverse_of_stackOk {rooted : Bool} {ks : List String} (h : StackOk rooted ks) :
    ks.reverse.foldl (pushPart rooted) [] = ks := by
  induction ks with
  | nil => rfl
  | cons k rest ih =>
    obtain ⟨h₁, h₂, -, hup, hrest⟩ := h
    rw [List.reverse_cons, List.foldl_append, ih hrest, List.foldl_cons, List.foldl_nil]
    by_cases hk : k = ".."
    · subst hk
      obtain ⟨hr, hall⟩ := hup rfl
      subst hr
      cases rest with
      | nil => rfl
      | cons top more => simp [pushPart, hall top (by simp)]
    · simp [pushPart, h₁, h₂, hk]

theorem pushPart_empty (rooted : Bool) (ks : List String) : pushPart rooted ks "" = ks := rfl

/-! ### Rooted paths -/

theorem startsWith_slash_iff (s : String) :
    s.startsWith "/" = true ↔ s.toList.head? = some '/' := by
  rw [String.startsWith_string_iff, show "/".toList = ['/'] from rfl]
  cases s.toList with
  | nil => simp
  | cons c cs => simp [List.cons_prefix_cons, eq_comm]

theorem startsWith_slash_append {a : String} (b : String) (ha : a ≠ "") :
    (a ++ b).startsWith "/" = a.startsWith "/" := by
  have hne : a.toList ≠ [] := by simpa using ha
  apply Bool.eq_iff_iff.2
  rw [startsWith_slash_iff, startsWith_slash_iff, String.toList_append,
    List.head?_append_of_ne_nil _ hne]

/-! ### Plain names -/

/-- A plain name: a path part that `clean` keeps as it is. -/
def PlainName (n : String) : Prop := n ≠ "" ∧ n ≠ "." ∧ n ≠ ".." ∧ '/' ∉ n.toList

theorem pushPart_plainName {n : String} (h : PlainName n) (rooted : Bool) (ks : List String) :
    pushPart rooted ks n = n :: ks := by
  obtain ⟨h₁, h₂, h₃, -⟩ := h
  simp [pushPart, h₁, h₂, h₃]

theorem PlainName.startsWith {n : String} (hn : PlainName n) : n.startsWith "/" = false := by
  rw [Bool.eq_false_iff, ne_eq, startsWith_slash_iff]
  intro h
  exact hn.2.2.2 (List.mem_of_mem_head? h)

/-- Joining a plain name puts it on top of the directory's kept parts. -/
theorem join_plainName (d : String) {n : String} (hn : PlainName n) :
    join [d, n] = render (d.startsWith "/") ((kept (d.startsWith "/") d).reverse ++ [n]) := by
  have hparts := parts_of_not_mem hn.2.2.2
  by_cases hd : d = ""
  · -- `join` skips the empty directory and cleans the name alone
    subst hd
    have hjoin : join ["", n] = clean n := by
      simp [join, hn.1]
    rw [hjoin, clean_eq, hn.startsWith, kept, hparts, kept_empty]
    simp [pushPart_plainName hn]
    rfl
  · have hjoin : join [d, n] = clean (d ++ "/" ++ n) := by
      simp [join, hd]
    have hkept : ∀ r, kept r (d ++ "/" ++ n) = n :: kept r d := by
      intro r
      rw [kept, parts_append_slash, List.foldl_append, hparts, List.foldl_cons, List.foldl_nil,
        pushPart_plainName hn, kept]
    rw [hjoin, clean_eq, String.append_assoc, startsWith_slash_append _ hd, ← String.append_assoc,
      hkept, List.reverse_cons]

/-! ### The directory before the last part -/

/-- The text `render` writes before a last part: the root's slash, then the other parts, each
followed by a slash. -/
def dirPrefix (rooted : Bool) (ks : List String) : String :=
  (if rooted then "/" else "") ++ (if ks = [] then "" else "/".intercalate ks ++ "/")

theorem render_append_plainName (rooted : Bool) (ks : List String) {n : String}
    (hn : PlainName n) : render rooted (ks ++ [n]) = dirPrefix rooted ks ++ n := by
  have hbody : "/".intercalate (ks ++ [n]) =
      (if ks = [] then "" else "/".intercalate ks ++ "/") ++ n := by
    by_cases hks : ks = []
    · simp [hks]
    · rw [String.intercalate_append_of_ne_nil hks (by simp), if_neg hks]
      simp
  have hne : ("/".intercalate (ks ++ [n])).isEmpty = false := by
    rw [String.isEmpty_eq_false_iff, hbody]
    intro h
    exact hn.1 (String.append_eq_empty_iff.1 h).2
  cases rooted
  · show (if ("/".intercalate (ks ++ [n])).isEmpty then "." else "/".intercalate (ks ++ [n])) = _
    rw [hne, if_neg (by decide), hbody]
    simp [dirPrefix]
  · simp [render, dirPrefix, hbody, String.append_assoc]

theorem dirPrefix_ends (rooted : Bool) (ks : List String) :
    dirPrefix rooted ks = "" ∨ (dirPrefix rooted ks).toList.getLast? = some '/' := by
  by_cases hks : ks = []
  · cases rooted <;> simp [dirPrefix, hks]
  · right
    cases rooted
    · simp [dirPrefix, hks]
    · simp only [dirPrefix, if_true, if_neg hks, String.toList_append]
      rw [← List.append_assoc]
      exact List.getLast?_concat ..

theorem upToLastSlash_append {pre n : String} (hpre : pre = "" ∨ pre.toList.getLast? = some '/')
    (hn : '/' ∉ n.toList) : upToLastSlash (pre ++ n) = pre := by
  have hdrop : ∀ c ∈ n.toList.reverse, (c != '/') = true := by
    intro c hc
    have : c ≠ '/' := fun h => hn (h ▸ List.mem_reverse.1 hc)
    simpa using this
  rw [upToLastSlash, String.toList_append, List.reverse_append,
    List.dropWhile_append_of_pos hdrop]
  rcases hpre with rfl | hlast
  · simp
  · obtain ⟨init, hinit⟩ : ∃ init, pre.toList = init ++ ['/'] :=
      ⟨pre.toList.dropLast, (List.dropLast_append_getLast? _ hlast).symm⟩
    rw [hinit, List.reverse_append]
    simp [← hinit]

/-- The parts of a directory prefix: an empty part for the root, the directory's parts, and
the empty part after the last slash. -/
theorem parts_dirPrefix (rooted : Bool) {ks : List String} (hne : ks ≠ [])
    (h : ∀ k ∈ ks, '/' ∉ k.toList) :
    parts (dirPrefix rooted ks) = (if rooted then [""] else []) ++ ks ++ [""] := by
  have hbody := parts_intercalate hne h
  cases rooted
  · simp only [dirPrefix, Bool.false_eq_true, if_false, if_neg hne, String.empty_append]
    have e : "/".intercalate ks ++ "/" = "/".intercalate ks ++ "/" ++ "" := String.append_empty.symm
    rw [e, parts_append_slash, hbody, parts_empty]
    simp
  · simp only [dirPrefix, if_true, if_neg hne]
    have e : "/" ++ ("/".intercalate ks ++ "/") = "" ++ "/" ++ ("/".intercalate ks ++ "/" ++ "") := by
      simp
    rw [e, parts_append_slash, parts_append_slash, hbody, parts_empty]
    simp

theorem startsWith_dirPrefix (rooted : Bool) {ks : List String}
    (h : ∀ k ∈ ks, k ≠ "" ∧ '/' ∉ k.toList) : (dirPrefix rooted ks).startsWith "/" = rooted := by
  cases rooted
  · by_cases hks : ks = []
    · simp [dirPrefix, hks]
    · -- the prefix starts with the first part's first character, which is no slash
      obtain ⟨k, rest, rfl⟩ := List.exists_cons_of_ne_nil hks
      obtain ⟨hk, hslash⟩ := h k (by simp)
      obtain ⟨c, cs, hc⟩ := List.exists_cons_of_ne_nil (by simpa using hk : k.toList ≠ [])
      rw [Bool.eq_false_iff, ne_eq, startsWith_slash_iff]
      simp only [dirPrefix, Bool.false_eq_true, if_false, if_neg hks, String.empty_append,
        String.toList_append, String.toList_intercalate, List.map_cons, hc]
      intro hhead
      have hc' : c ≠ '/' := fun e => hslash (by simp [hc, e])
      cases rest <;> simp_all [List.intercalate_cons_cons]
  · rw [startsWith_slash_iff]
    simp [dirPrefix]

/-- The directory prefix of a kept stack keeps that stack. -/
theorem kept_dirPrefix {rooted : Bool} {ks : List String} (h : StackOk rooted ks) :
    kept rooted (dirPrefix rooted ks.reverse) = ks := by
  by_cases hks : ks = []
  · subst hks
    cases rooted
    · rfl
    · have e : dirPrefix true [].reverse = "" ++ "/" ++ "" := rfl
      rw [kept, e, parts_append_slash, parts_empty]
      rfl
  · have hparts := h.parts
    rw [kept, parts_dirPrefix rooted (by simpa using hks)
      (fun k hk => (hparts k (List.mem_reverse.1 hk)).2)]
    cases rooted <;> simp [List.foldl_append, pushPart_empty, foldl_reverse_of_stackOk h]

/-- The directory text `render` writes before a last part cleans back to the directory. -/
theorem clean_dirPrefix {rooted : Bool} {ks : List String} (h : StackOk rooted ks) :
    clean (dirPrefix rooted ks.reverse) = render rooted ks.reverse := by
  have hparts := h.parts
  rw [clean_eq, startsWith_dirPrefix rooted (fun k hk => hparts k (List.mem_reverse.1 hk)),
    kept_dirPrefix h]

/-- Joining a plain name to a directory gives a direct child of it: the path up to its last
slash cleans to the directory, and the name follows that slash. -/
theorem join_plainName_child (d : String) {n : String} (hn : PlainName n) :
    dir (join [d, n]) = clean d ∧ upToLastSlash (join [d, n]) ++ n = join [d, n] := by
  have hjoin := join_plainName d hn
  rw [render_append_plainName _ _ hn] at hjoin
  have hup : upToLastSlash (join [d, n]) =
      dirPrefix (d.startsWith "/") (kept (d.startsWith "/") d).reverse := by
    rw [hjoin]
    exact upToLastSlash_append (dirPrefix_ends _ _) hn.2.2.2
  refine ⟨?_, by rw [hup, hjoin]⟩
  rw [dir, hup, clean_dirPrefix (stackOk_kept _ d), clean_eq]

end DepthRig.Path
