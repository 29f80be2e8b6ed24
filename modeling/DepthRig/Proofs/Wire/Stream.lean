import DepthRig.Proofs.Wire.Framing
import DepthRig.Wire.Lists

/-!
# Readers on a stream

A stream reader takes whole fields and decides what to make of them only once it holds them,
so what it reads, or the fault it finds, is settled by the bytes it took; only a stop for want
of bytes depends on what is still to come. `Decode.Steady` says this of a reader; it holds of
the primitives and is kept by binding and catching, so it holds of every reader built from
them.
-/

namespace DepthRig.Wire

variable {α β : Type}

/-- Whether an outcome is settled by the bytes read: a value, or a fault in the bytes. -/
def Decided : Except ReadStop α → Prop
  | .ok _ => True
  | .error (.wire _) => True
  | .error _ => False

@[simp] theorem decided_ok (a : α) : Decided (.ok a : Except ReadStop α) := trivial

@[simp] theorem decided_wire (e : WireError) : Decided (.error (.wire e) : Except ReadStop α) :=
  trivial

/-- Whether a stop can end a read on a stream that has (`true`) or has not ended: a fault
in the bytes on either, a wait only on an open stream, an end only on an ended one. -/
def ReadStop.Fits : ReadStop → Bool → Prop
  | .waiting, closed => closed = false
  | .ended, closed => closed = true
  | .cut, closed => closed = true
  | .wire _, _ => True

/-- A settled stop is a fault in the bytes. -/
theorem Decided.wire {s : ReadStop} (h : Decided (.error s : Except ReadStop α)) :
    ∃ e, s = .wire e := by
  cases s <;> simp_all [Decided]

namespace Decode

@[simp] theorem runOn_throw (s : ReadStop) (c : Cursor) :
    (throw s : Decode α).runOn c = (.error s, c) := rfl

/-- A reader with a handler runs the handler from where the reader stopped. -/
theorem runOn_tryCatch (d : Decode α) (h : ReadStop → Decode α) (c : Cursor) :
    (tryCatch d h).runOn c = match d.runOn c with
      | (.ok a, c') => (.ok a, c')
      | (.error s, c') => (h s).runOn c' := by
  simp only [Decode.runOn, ExceptT.run, tryCatch, tryCatchThe, MonadExceptOf.tryCatch,
    ExceptT.tryCatch, ExceptT.mk, StateT.run, bind, StateT.bind]
  rcases d c with ⟨r, c'⟩
  cases r <;> rfl

/-- `d` comes to `r` on the bytes `taken` at offset `o`: whatever follows them, and whether
the stream has ended, it takes exactly those bytes and comes to `r`. -/
def Decides (d : Decode α) (o : Nat) (taken : List UInt8) (r : Except ReadStop α) : Prop :=
  ∀ more closed, d.runOn ⟨taken ++ more, o, closed⟩ = (r, ⟨more, o + taken.length, closed⟩)

/-- A reader that goes on with `next` from where it has taken `t₁`, as binding and catching
do, decides what `next` decides after `t₁`, on `t₁` and the bytes `next` takes. -/
theorem Decides.append {β : Type} {x next : Decode β} {o : Nat} {t₁ t₂ : List UInt8}
    {r : Except ReadStop β}
    (hx : ∀ more closed, x.runOn ⟨t₁ ++ more, o, closed⟩ = next.runOn ⟨more, o + t₁.length, closed⟩)
    (h₂ : next.Decides (o + t₁.length) t₂ r) : x.Decides o (t₁ ++ t₂) r := by
  intro more closed
  rw [List.append_assoc, hx, h₂ more closed, List.length_append, Nat.add_assoc]

/-- A stream reader: an outcome settled by the bytes is decided by the bytes it took, a
stop for want of bytes fits the stream, and what it reads satisfies `P`. -/
structure Steady (d : Decode α) (P : α → Prop) : Prop where
  decides : ∀ c, Decided (d.runOn c).1 →
    ∃ taken more, c.rest = taken ++ more ∧ d.Decides c.offset taken (d.runOn c).1
  stops : ∀ c s, (d.runOn c).1 = .error s → s.Fits c.closed
  returns : ∀ c a, (d.runOn c).1 = .ok a → P a

namespace Steady

variable {P Q : α → Prop} {d : Decode α}

/-- A settled outcome in full: the bytes taken, and the cursor left just after them. -/
theorem runOn_eq (hd : d.Steady P) (c : Cursor) (h : Decided (d.runOn c).1) :
    ∃ taken more, c.rest = taken ++ more ∧ d.Decides c.offset taken (d.runOn c).1 ∧
      d.runOn c = ((d.runOn c).1, ⟨more, c.offset + taken.length, c.closed⟩) := by
  obtain ⟨taken, more, hrest, hdec⟩ := hd.decides c h
  refine ⟨taken, more, hrest, hdec, ?_⟩
  have hc : c = ⟨taken ++ more, c.offset, c.closed⟩ := by
    cases c
    simp_all
  conv_lhs => rw [hc, hdec more c.closed]

theorem mono (hd : d.Steady P) (hPQ : ∀ a, P a → Q a) : d.Steady Q :=
  ⟨hd.decides, hd.stops, fun c a h => hPQ a (hd.returns c a h)⟩

protected theorem pure {a : α} (ha : P a) : (pure a : Decode α).Steady P where
  decides c _ := ⟨[], c.rest, rfl, fun more closed => by simp⟩
  stops _ _ h := by simp at h
  returns _ _ h := by
    simp only [runOn_pure, Except.ok.injEq] at h
    exact h ▸ ha

protected theorem fail (e : WireError) : (fail e : Decode α).Steady P where
  decides c _ := ⟨[], c.rest, rfl, fun more closed => by simp⟩
  stops _ _ h := by
    simp only [runOn_fail, Except.error.injEq] at h
    simp [← h, ReadStop.Fits]
  returns _ _ h := by simp at h

protected theorem readFull (n : Nat) : (readFull n).Steady fun bs => bs.length = n where
  decides c h := by
    rw [runOn_readFull] at h ⊢
    split_ifs at h ⊢ with hn
    · refine ⟨c.rest.take n, c.rest.drop n, (List.take_append_drop n c.rest).symm, ?_⟩
      intro more closed
      have hlen : (c.rest.take n).length = n := by simp [hn]
      rw [runOn_readFull_append hlen, hlen]
    all_goals simp [Decided] at h
  stops c s h := by
    rw [runOn_readFull] at h
    split_ifs at h <;> cases h <;> simp_all [ReadStop.Fits]
  returns c a h := by
    rw [runOn_readFull] at h
    split_ifs at h with hn
    simp only [Except.ok.injEq] at h
    simp [← h, hn]

protected theorem discard (n : Nat) : (discard n).Steady fun _ => True where
  decides c h := by
    rw [runOn_discard] at h ⊢
    split_ifs at h ⊢ with hn
    · refine ⟨c.rest.take n, c.rest.drop n, (List.take_append_drop n c.rest).symm, ?_⟩
      intro more closed
      have hlen : (c.rest.take n).length = n := by simp [hn]
      simp [runOn_discard, hlen]
    all_goals simp [Decided] at h
  stops c s h := by
    rw [runOn_discard] at h
    split_ifs at h <;> cases h <;> simp_all [ReadStop.Fits]
  returns _ _ _ := trivial

/-- A bind of stream readers is one, the first reader's values holding for the second. -/
protected theorem bind {R : β → Prop} {k : α → Decode β} (hd : d.Steady P)
    (hk : ∀ a, P a → (k a).Steady R) : (d >>= k).Steady R where
  decides c h := by
    rw [runOn_bind] at h ⊢
    rcases hrun : d.runOn c with ⟨r, c'⟩
    rw [hrun] at h
    cases r with
    | error s =>
      -- the first reader stopped on the bytes: the bind stops there with it
      obtain ⟨e, rfl⟩ := Decided.wire h
      obtain ⟨taken, more, hrest, hdec, -⟩ := hd.runOn_eq c (by simp [hrun])
      rw [hrun] at hdec
      exact ⟨taken, more, hrest, fun more' closed => by simp [hdec more' closed]⟩
    | ok a =>
      -- the first reader took `t₁`, the second takes `t₂` from where it left the cursor
      have ha : P a := hd.returns c a (by simp [hrun])
      obtain ⟨t₁, r₁, hrest₁, hdec₁, hc₁⟩ := hd.runOn_eq c (by simp [hrun])
      rw [hrun] at hdec₁ hc₁
      obtain ⟨-, rfl⟩ := Prod.mk.inj hc₁
      obtain ⟨t₂, r₂, hrest₂, hdec₂, -⟩ := (hk a ha).runOn_eq _ h
      have hr₁ : r₁ = t₂ ++ r₂ := hrest₂
      refine ⟨t₁ ++ t₂, r₂, by rw [hrest₁, hr₁, List.append_assoc], ?_⟩
      exact Decides.append (fun more closed => by rw [runOn_bind, hdec₁ more closed]) hdec₂
  stops c s h := by
    rw [runOn_bind] at h
    rcases hrun : d.runOn c with ⟨r, c'⟩
    rw [hrun] at h
    cases r with
    | error s' =>
      simp only [Except.error.injEq] at h
      exact h ▸ hd.stops c s' (by simp [hrun])
    | ok a =>
      -- the second reader runs on the same stream, after the first one's bytes
      obtain ⟨t₁, r₁, -, -, hc₁⟩ := hd.runOn_eq c (by simp [hrun])
      rw [hrun] at hc₁
      rw [(Prod.mk.inj hc₁).2] at h
      exact (hk a (hd.returns c a (by simp [hrun]))).stops ⟨r₁, c.offset + t₁.length, c.closed⟩ s h
  returns c b h := by
    rw [runOn_bind] at h
    rcases hrun : d.runOn c with ⟨r, c'⟩
    rw [hrun] at h
    cases r with
    | error s => simp at h
    | ok a => exact (hk a (hd.returns c a (by simp [hrun]))).returns c' b h

protected theorem map {f : α → β} {R : β → Prop} (hd : d.Steady P) (hf : ∀ a, P a → R (f a)) :
    (f <$> d).Steady R := by
  rw [map_eq_pure_bind]
  exact hd.bind fun a ha => Steady.pure (hf a ha)

/-- A stream reader with a handler is one, when the handler passes every stop for want of
bytes on as it is. -/
protected theorem tryCatch {h : ReadStop → Decode α} (hd : d.Steady P)
    (hwire : ∀ e, (h (.wire e)).Steady P) (hpass : ∀ s, ¬ Decided (.error s : Except ReadStop α) →
      h s = throw s) : (tryCatch d h).Steady P where
  decides c hdec := by
    rw [runOn_tryCatch] at hdec ⊢
    rcases hrun : d.runOn c with ⟨r, c'⟩
    rw [hrun] at hdec
    cases r with
    | ok a =>
      obtain ⟨taken, more, hrest, hd', -⟩ := hd.runOn_eq c (by simp [hrun])
      rw [hrun] at hd'
      exact ⟨taken, more, hrest, fun more' closed => by simp [runOn_tryCatch, hd' more' closed]⟩
    | error s =>
      dsimp only at hdec ⊢
      by_cases hs : Decided (.error s : Except ReadStop α)
      · -- the reader stopped on its bytes `t₁` and the handler goes on from there
        obtain ⟨e, rfl⟩ := Decided.wire hs
        obtain ⟨t₁, r₁, hrest₁, hdec₁, hc₁⟩ := hd.runOn_eq c (by simp [hrun])
        rw [hrun] at hdec₁ hc₁
        obtain ⟨-, rfl⟩ := Prod.mk.inj hc₁
        obtain ⟨t₂, r₂, hrest₂, hdec₂, -⟩ := (hwire e).runOn_eq _ hdec
        have hr₁ : r₁ = t₂ ++ r₂ := hrest₂
        refine ⟨t₁ ++ t₂, r₂, by rw [hrest₁, hr₁, List.append_assoc], ?_⟩
        exact Decides.append (fun more closed => by rw [runOn_tryCatch, hdec₁ more closed]) hdec₂
      · rw [hpass s hs, runOn_throw] at hdec
        exact absurd hdec hs
  stops c s h := by
    rw [runOn_tryCatch] at h
    rcases hrun : d.runOn c with ⟨r, c'⟩
    rw [hrun] at h
    cases r with
    | ok a => simp at h
    | error s' =>
      dsimp only at h
      by_cases hs : Decided (.error s' : Except ReadStop α)
      · obtain ⟨e, rfl⟩ := Decided.wire hs
        obtain ⟨t₁, r₁, -, -, hc₁⟩ := hd.runOn_eq c (by simp [hrun])
        rw [hrun] at hc₁
        rw [(Prod.mk.inj hc₁).2] at h
        exact (hwire e).stops ⟨r₁, c.offset + t₁.length, c.closed⟩ s h
      · rw [hpass s' hs, runOn_throw] at h
        simp only [Except.error.injEq] at h
        exact h ▸ hd.stops c s' (by simp [hrun])
  returns c a hok := by
    rw [runOn_tryCatch] at hok
    rcases hrun : d.runOn c with ⟨r, c'⟩
    rw [hrun] at hok
    cases r with
    | ok a' =>
      have ha' := hd.returns c a' (by simp [hrun])
      simp only [Except.ok.injEq] at hok
      exact hok ▸ ha'
    | error s =>
      dsimp only at hok
      by_cases hs : Decided (.error s : Except ReadStop α)
      · obtain ⟨e, rfl⟩ := Decided.wire hs
        exact (hwire e).returns c' a hok
      · rw [hpass s hs, runOn_throw] at hok
        simp at hok

end Steady

end Decode

end DepthRig.Wire

/-! ### The readers of the wire -/

namespace DepthRig.Wire

open Decode

theorem Decode.Steady.ite {P : α → Prop} {p : Prop} [Decidable p] {x y : Decode α}
    (hx : x.Steady P) (hy : y.Steady P) : (if p then x else y).Steady P := by
  split
  · exact hx
  · exact hy

theorem steady_u8 : (u8 readFull).Steady fun _ => True := by
  unfold u8
  exact (Steady.readFull 1).bind fun _ _ => Steady.pure trivial

theorem steady_i32 : (i32 readFull).Steady fun _ => True := by
  unfold i32
  exact (Steady.readFull 4).bind fun _ _ => Steady.pure trivial

/-- A list count read from a stream is one the reader accepts. -/
theorem steady_listCount : listCount.Steady fun n => n ≤ maxListEntries := by
  unfold listCount
  refine steady_i32.bind fun n _ => ?_
  split
  · exact Steady.fail _
  · rename_i hn
    refine Steady.pure ?_
    simp only [Bool.or_eq_true, decide_eq_true_eq, not_or, not_lt] at hn
    omega

theorem steady_readFramed (zstd : Bool) : (readFramed zstd).Steady fun _ => True := by
  unfold readFramed
  refine (Steady.readFull 8).bind fun hdr _ => ?_
  dsimp only
  refine Steady.ite (Steady.pure trivial) (Steady.ite (Steady.fail _) (Steady.ite ?_ ?_))
  · exact (Steady.discard _).bind fun _ _ => Steady.fail _
  refine (Steady.readFull _).bind fun payload _ => ?_
  -- the payload is expanded when the header says it is compressed, and then decoded
  refine Steady.ite (Steady.ite ((Steady.fail (P := fun _ => True) _).bind fun p _ => ?_) ?_)
    ((Steady.pure (P := fun _ => True) trivial).bind fun p _ => ?_)
  on_goal 2 =>
    split
    on_goal 1 => refine (Steady.pure (P := fun _ => True) trivial).bind fun p _ => ?_
    on_goal 2 => refine (Steady.fail (P := fun _ => True) _).bind fun p _ => ?_
  all_goals
    split
    · exact Steady.pure trivial
    · exact Steady.fail _

theorem steady_timestampListReader : TimestampList.reader.Steady fun _ => True := by
  unfold TimestampList.reader
  exact steady_listCount.bind fun _ _ => (Steady.readFull _).bind fun _ _ =>
    steady_listCount.bind fun _ _ => (Steady.readFull _).bind fun _ _ => Steady.pure trivial

end DepthRig.Wire
