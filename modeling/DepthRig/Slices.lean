/-!
# Slices and their backing arrays

A slice is a window on a backing array, so two slices may share one array and a write through
one shows through the other. `append` writes in place when the capacity allows and otherwise
moves to a new array whose size is the runtime's choice, an argument here; `s[:n:n]` cuts the
capacity so that an append must move.
-/

namespace DepthRig

/-- A window on a backing array, from its first element: the array's address, the length and
the capacity. -/
structure Slice where
  addr : Nat
  len : Nat
  cap : Nat
  deriving DecidableEq, Repr

namespace Slice

/-- The nil slice. -/
def nil : Slice := ⟨0, 0, 0⟩

/-- `s[:len(s):len(s)]`: the same elements with the capacity cut to the length. -/
def clamp (s : Slice) : Slice := ⟨s.addr, s.len, s.len⟩

@[simp] theorem clamp_addr (s : Slice) : s.clamp.addr = s.addr := rfl
@[simp] theorem clamp_len (s : Slice) : s.clamp.len = s.len := rfl
@[simp] theorem clamp_cap (s : Slice) : s.clamp.cap = s.len := rfl

end Slice

/-- Every backing array ever allocated, by address. -/
structure Heap (α : Type) where
  arrays : List (List (Option α)) := [[]]

namespace Heap

variable {α : Type}

/-- The array at an address (empty past the last one). -/
def array (h : Heap α) (a : Nat) : List (Option α) := h.arrays.getD a []

/-- The elements a slice shows. -/
def read (h : Heap α) (s : Slice) : List (Option α) := (h.array s.addr).take s.len

/-- A new array of `cap` nil elements, at the next address. -/
def alloc (h : Heap α) (cap : Nat) : Heap α × Nat :=
  (⟨h.arrays ++ [List.replicate cap none]⟩, h.arrays.length)

/-- Write elements into the array at `a` from position `start` on. -/
def writeFrom (h : Heap α) (a start : Nat) (xs : List (Option α)) : Heap α :=
  ⟨h.arrays.modify a fun arr => arr.take start ++ xs ++ arr.drop (start + xs.length)⟩

/-- `make([]T, len, cap)`. -/
def make (h : Heap α) (len cap : Nat) : Heap α × Slice :=
  let (h, a) := h.alloc cap
  (h, ⟨a, len, cap⟩)

/-- `copy(dst, src)`: as many of `src`'s elements as both slices hold. -/
def copy (h : Heap α) (dst src : Slice) : Heap α :=
  h.writeFrom dst.addr 0 ((h.read src).take dst.len)

/-- `append(s, xs...)`: in place when the capacity allows; else into a new array of capacity
`grown`, or the new length if that is more, which first receives the slice's elements. -/
def append (h : Heap α) (s : Slice) (xs : List (Option α)) (grown : Nat) : Heap α × Slice :=
  if s.len + xs.length ≤ s.cap then
    (h.writeFrom s.addr s.len xs, { s with len := s.len + xs.length })
  else
    let cap := max grown (s.len + xs.length)
    let (h', a) := h.alloc cap
    (h'.writeFrom a 0 (h.read s ++ xs), ⟨a, s.len + xs.length, cap⟩)

/-! ## What the operations leave alone -/

@[simp] theorem length_alloc (h : Heap α) (cap : Nat) :
    (h.alloc cap).1.arrays.length = h.arrays.length + 1 := by
  simp [alloc]

@[simp] theorem alloc_snd (h : Heap α) (cap : Nat) : (h.alloc cap).2 = h.arrays.length := rfl

@[simp] theorem length_writeFrom (h : Heap α) (a start : Nat) (xs : List (Option α)) :
    (h.writeFrom a start xs).arrays.length = h.arrays.length := by
  simp [writeFrom]

/-- Allocating leaves every array that was there. -/
theorem array_alloc_of_lt (h : Heap α) (cap : Nat) {b : Nat} (hb : b < h.arrays.length) :
    (h.alloc cap).1.array b = h.array b := by
  simp [alloc, array, List.getD_eq_getElem?_getD, List.getElem?_append_left hb]

/-- The new array is all nil. -/
theorem array_alloc_self (h : Heap α) (cap : Nat) :
    (h.alloc cap).1.array h.arrays.length = List.replicate cap none := by
  simp [alloc, array, List.getD_eq_getElem?_getD]

/-- A write leaves every other array. -/
theorem array_writeFrom_of_ne (h : Heap α) {a b : Nat} (start : Nat) (xs : List (Option α))
    (hab : a ≠ b) : (h.writeFrom a start xs).array b = h.array b := by
  simp [writeFrom, array, List.getD_eq_getElem?_getD, hab]

/-- A write into an array replaces the elements from `start` on by the ones written. -/
theorem array_writeFrom_self (h : Heap α) {a : Nat} (ha : a < h.arrays.length) (start : Nat)
    (xs : List (Option α)) :
    (h.writeFrom a start xs).array a =
      (h.array a).take start ++ xs ++ (h.array a).drop (start + xs.length) := by
  simp [writeFrom, array, List.getD_eq_getElem?_getD, List.getElem?_eq_getElem ha]

/-- An append within the capacity writes in place. -/
theorem append_of_le (h : Heap α) {s : Slice} {xs : List (Option α)} (grown : Nat)
    (hle : s.len + xs.length ≤ s.cap) :
    h.append s xs grown = (h.writeFrom s.addr s.len xs, { s with len := s.len + xs.length }) :=
  if_pos hle

/-- An append past the capacity moves to a new array. -/
theorem append_of_lt (h : Heap α) {s : Slice} {xs : List (Option α)} (grown : Nat)
    (hlt : s.cap < s.len + xs.length) :
    h.append s xs grown =
      (((h.alloc (max grown (s.len + xs.length))).1).writeFrom h.arrays.length 0 (h.read s ++ xs),
        ⟨h.arrays.length, s.len + xs.length, max grown (s.len + xs.length)⟩) :=
  if_neg (Nat.not_le.2 hlt)

/-- A write of nothing changes nothing. -/
@[simp] theorem writeFrom_nil (h : Heap α) (a start : Nat) : h.writeFrom a start [] = h := by
  have hid : (fun arr : List (Option α) => arr.take start ++ [] ++ arr.drop (start + 0)) = id := by
    funext arr
    simp
  simp only [writeFrom, List.length_nil, hid, List.modify_id]

/-- A write that stays within an array keeps its length. -/
theorem length_array_writeFrom (h : Heap α) {a : Nat} (ha : a < h.arrays.length) {start : Nat}
    {xs : List (Option α)} (hle : start + xs.length ≤ (h.array a).length) :
    ((h.writeFrom a start xs).array a).length = (h.array a).length := by
  rw [array_writeFrom_self h ha]
  simp only [List.length_append, List.length_take, List.length_drop]
  omega

/-! ## The last array -/

/-- The heap with one more array, at the next address. -/
def push (h : Heap α) (arr : List (Option α)) : Heap α := ⟨h.arrays ++ [arr]⟩

theorem alloc_eq_push (h : Heap α) (cap : Nat) :
    h.alloc cap = (h.push (List.replicate cap none), h.arrays.length) := rfl

@[simp] theorem length_push (h : Heap α) (arr : List (Option α)) :
    (h.push arr).arrays.length = h.arrays.length + 1 := by
  simp [push]

@[simp] theorem array_push_self (h : Heap α) (arr : List (Option α)) :
    (h.push arr).array h.arrays.length = arr := by
  simp [push, array, List.getD_eq_getElem?_getD]

theorem array_push_of_lt (h : Heap α) (arr : List (Option α)) {a : Nat}
    (ha : a < h.arrays.length) : (h.push arr).array a = h.array a := by
  simp [push, array, List.getD_eq_getElem?_getD, List.getElem?_append_left ha]

/-- A write into the last array rewrites it in the heap's last place. -/
theorem writeFrom_push (h : Heap α) (arr : List (Option α)) (start : Nat)
    (xs : List (Option α)) :
    (h.push arr).writeFrom h.arrays.length start xs =
      h.push (arr.take start ++ xs ++ arr.drop (start + xs.length)) := by
  have hmod : ∀ (as : List (List (Option α))) (f : List (Option α) → List (Option α)),
      (as ++ [arr]).modify as.length f = as ++ [f arr] := by
    intro as f
    induction as with
    | nil => simp
    | cons b as ih => simpa using ih
  simp only [writeFrom, push, hmod]

/-! ## Slices that fit -/

/-- A slice fits a heap when its array is there and holds its capacity. -/
structure Fits (h : Heap α) (s : Slice) : Prop where
  addr_lt : s.addr < h.arrays.length
  len_le_cap : s.len ≤ s.cap
  cap_le : s.cap ≤ (h.array s.addr).length

theorem Fits.length_read {h : Heap α} {s : Slice} (hs : h.Fits s) :
    (h.read s).length = s.len := by
  have hlen := hs.len_le_cap
  have hcap := hs.cap_le
  simp only [read, List.length_take]
  omega

/-- A full slice of the last array fits. -/
theorem fits_push (h : Heap α) (arr : List (Option α)) :
    (h.push arr).Fits ⟨h.arrays.length, arr.length, arr.length⟩ :=
  ⟨by simp, Nat.le_refl _, by simp⟩

theorem read_push_self (h : Heap α) (arr : List (Option α)) (cap : Nat) :
    (h.push arr).read ⟨h.arrays.length, arr.length, cap⟩ = arr := by
  simp [read]

/-- A write within an array keeps every slice fitting. -/
theorem Fits.writeFrom {h : Heap α} {s : Slice} (hs : h.Fits s) {a start : Nat}
    {xs : List (Option α)} (ha : a < h.arrays.length)
    (hle : start + xs.length ≤ (h.array a).length) : (h.writeFrom a start xs).Fits s := by
  refine ⟨by simpa using hs.addr_lt, hs.len_le_cap, ?_⟩
  by_cases hsa : s.addr = a
  · rw [hsa, length_array_writeFrom h ha hle, ← hsa]
    exact hs.cap_le
  · rw [array_writeFrom_of_ne h start xs (Ne.symm hsa)]
    exact hs.cap_le

/-- Cutting the capacity shows the same elements. -/
@[simp] theorem read_clamp (h : Heap α) (s : Slice) : h.read s.clamp = h.read s := rfl

theorem Fits.clamp {h : Heap α} {s : Slice} (hs : h.Fits s) : h.Fits s.clamp :=
  ⟨hs.addr_lt, Nat.le_refl _, Nat.le_trans hs.len_le_cap hs.cap_le⟩

/-! ## Heaps that grow -/

/-- `h'` keeps every array of `h` as it was, and may have more. -/
def Extends (h h' : Heap α) : Prop := h.arrays <+: h'.arrays

theorem Extends.refl (h : Heap α) : h.Extends h := List.prefix_refl _

theorem Extends.trans {h₁ h₂ h₃ : Heap α} (h₁₂ : h₁.Extends h₂) (h₂₃ : h₂.Extends h₃) :
    h₁.Extends h₃ :=
  List.IsPrefix.trans h₁₂ h₂₃

theorem extends_push (h : Heap α) (arr : List (Option α)) : h.Extends (h.push arr) :=
  List.prefix_append _ _

theorem Extends.length_le {h h' : Heap α} (he : h.Extends h') :
    h.arrays.length ≤ h'.arrays.length :=
  List.IsPrefix.length_le he

theorem Extends.array_eq {h h' : Heap α} (he : h.Extends h') {a : Nat}
    (ha : a < h.arrays.length) : h'.array a = h.array a := by
  simp only [array, List.getD_eq_getElem?_getD, List.getElem?_eq_getElem ha,
    List.getElem?_eq_getElem (Nat.lt_of_lt_of_le ha he.length_le), List.IsPrefix.getElem he ha]

theorem Extends.read_eq {h h' : Heap α} (he : h.Extends h') {s : Slice}
    (hs : s.addr < h.arrays.length) : h'.read s = h.read s := by
  simp only [read, he.array_eq hs]

theorem Extends.fits {h h' : Heap α} (he : h.Extends h') {s : Slice} (hs : h.Fits s) :
    h'.Fits s :=
  ⟨Nat.lt_of_lt_of_le hs.addr_lt he.length_le, hs.len_le_cap, by
    rw [he.array_eq hs.addr_lt]
    exact hs.cap_le⟩

/-! ## Keeping arrays -/

/-- `h'` keeps the arrays of the slices `fs` as they were, and every slice that fits `h`
fits `h'`. -/
structure Keeps (h h' : Heap α) (fs : List Slice) : Prop where
  array_eq : ∀ f ∈ fs, h'.array f.addr = h.array f.addr
  fits : ∀ {t : Slice}, h.Fits t → h'.Fits t

theorem Keeps.refl (h : Heap α) (fs : List Slice) : h.Keeps h fs :=
  ⟨fun _ _ => rfl, id⟩

theorem Keeps.read_eq {h h' : Heap α} {fs : List Slice} (hk : h.Keeps h' fs) {f : Slice}
    (hf : f ∈ fs) : h'.read f = h.read f := by
  simp only [read, hk.array_eq f hf]

theorem Extends.keeps {h h' : Heap α} (he : h.Extends h') {fs : List Slice}
    (hfs : ∀ f ∈ fs, f.addr < h.arrays.length) : h.Keeps h' fs :=
  ⟨fun f hf => he.array_eq (hfs f hf), he.fits⟩

/-- A write within one array keeps the arrays of slices elsewhere. -/
theorem keeps_writeFrom (h : Heap α) {a start : Nat} {xs : List (Option α)}
    (ha : a < h.arrays.length) (hle : start + xs.length ≤ (h.array a).length)
    {fs : List Slice} (hfs : ∀ f ∈ fs, f.addr ≠ a) : h.Keeps (h.writeFrom a start xs) fs :=
  ⟨fun f hf => array_writeFrom_of_ne h start xs (Ne.symm (hfs f hf)),
    fun ht => ht.writeFrom ha hle⟩

/-! ## Appends -/

/-- An append that moves puts the slice's elements and the new ones in a new last array. -/
theorem append_of_lt_eq_push (h : Heap α) {s : Slice} {xs : List (Option α)} (grown : Nat)
    (hs : h.Fits s) (hlt : s.cap < s.len + xs.length) :
    h.append s xs grown =
      (h.push ((h.read s ++ xs) ++ List.replicate (max grown (s.len + xs.length) - (s.len + xs.length)) none),
        ⟨h.arrays.length, s.len + xs.length, max grown (s.len + xs.length)⟩) := by
  rw [append_of_lt h grown hlt, alloc_eq_push, writeFrom_push]
  have hread := hs.length_read
  simp [List.drop_replicate, hread]

/-- What an append shows: the slice's elements, then the new ones. -/
theorem read_append (h : Heap α) {s : Slice} (hs : h.Fits s) (xs : List (Option α))
    (grown : Nat) : (h.append s xs grown).1.read (h.append s xs grown).2 = h.read s ++ xs := by
  have hread := hs.length_read
  by_cases hle : s.len + xs.length ≤ s.cap
  · rw [append_of_le h grown hle]
    simp only [read, array_writeFrom_self h hs.addr_lt]
    -- the slice's elements and the new ones come first in the rewritten array
    exact List.take_left' (by simp only [read] at hread; simp [hread])
  · rw [append_of_lt_eq_push h grown hs (Nat.lt_of_not_le hle)]
    rw [read, array_push_self]
    exact List.take_left' (by simp [hread])

/-- The result of an append fits. -/
theorem fits_append (h : Heap α) {s : Slice} (hs : h.Fits s) (xs : List (Option α))
    (grown : Nat) : (h.append s xs grown).1.Fits (h.append s xs grown).2 := by
  by_cases hle : s.len + xs.length ≤ s.cap
  · rw [append_of_le h grown hle]
    have hlen := length_array_writeFrom h hs.addr_lt (Nat.le_trans hle hs.cap_le)
    exact ⟨by simpa using hs.addr_lt, hle, by simpa [hlen] using hs.cap_le⟩
  · rw [append_of_lt_eq_push h grown hs (Nat.lt_of_not_le hle)]
    have hread := hs.length_read
    refine ⟨by simp, Nat.le_max_right _ _, ?_⟩
    simp only [array_push_self, List.length_append, List.length_replicate, hread]
    omega

/-- An append keeps the arrays of the slices `fs`, provided none shares the slice's array when
the slice has room. -/
theorem keeps_append (h : Heap α) {s : Slice} (hs : h.Fits s) (xs : List (Option α))
    (grown : Nat) {fs : List Slice} (hfs : ∀ f ∈ fs, f.addr < h.arrays.length)
    (hapart : s.len < s.cap → ∀ f ∈ fs, f.addr ≠ s.addr) :
    h.Keeps (h.append s xs grown).1 fs := by
  by_cases hle : s.len + xs.length ≤ s.cap
  · rw [append_of_le h grown hle]
    by_cases hx : xs = []
    · subst hx
      simpa using Keeps.refl h fs
    · -- something is written, so the slice had room
      have hroom : s.len < s.cap := by
        have := List.length_pos_iff.2 hx
        omega
      exact keeps_writeFrom h hs.addr_lt (Nat.le_trans hle hs.cap_le) (hapart hroom)
  · rw [append_of_lt_eq_push h grown hs (Nat.lt_of_not_le hle)]
    exact (extends_push _ _).keeps hfs

/-- Where an append's result stands: in the slice's own array with its capacity, or in a new
array. -/
theorem append_addr (h : Heap α) (s : Slice) (xs : List (Option α)) (grown : Nat) :
    ((h.append s xs grown).2.addr = s.addr ∧ (h.append s xs grown).2.cap = s.cap ∧
        s.len ≤ (h.append s xs grown).2.len) ∨
      (h.append s xs grown).2.addr = h.arrays.length := by
  by_cases hle : s.len + xs.length ≤ s.cap
  · rw [append_of_le h grown hle]
    exact .inl ⟨rfl, rfl, Nat.le_add_right _ _⟩
  · rw [append_of_lt h grown (Nat.lt_of_not_le hle)]
    exact .inr rfl

end Heap

end DepthRig
