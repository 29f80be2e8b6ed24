import Mathlib.Data.List.Nodup
import DepthRig.Notify.Hub

/-!
# A hub neither panics nor loses what it accepted

Every call keeps the hub's map in step with its channels: only open channels, each once, under
distinct ids. From that invariant each call has a closed form and no run panics; a publish
puts its value into exactly the held channels that could take it, each channel gives its
holder those values in order, and a closed hub reaches no one.
-/

namespace DepthRig.Notify

variable {α : Type}

theorem ok_bind {ε β γ : Type} (a : β) (f : β → Except ε γ) : (Except.ok a >>= f) = f a := rfl

namespace Chan

/-- The values a channel still owes its holder, oldest first: those handed to a receiver that
waited, then those buffered. -/
def queue (c : Chan α) : List α := c.handed ++ c.buffer

/-- Receivers wait only on a drained buffer. -/
def Ok (c : Chan α) : Prop := 0 < c.waiting → c.buffer = []

/-- What a receive took out of its channel. -/
def Received.taken : Received α → List α
  | .value v => [v]
  | _ => []

/-- A channel after a publish reaches it: it takes the value if it can at once. -/
def deliver (c : Chan α) (v : α) : Chan α := if c.hasRoom then c.offer v else c

theorem queue_offer {c : Chan α} (hc : c.Ok) (v : α) : (c.offer v).queue = c.queue ++ [v] := by
  unfold offer
  by_cases hw : 0 < c.waiting
  · rw [if_pos hw]
    simp [queue, hc hw]
  · rw [if_neg hw]
    simp [queue]

theorem ok_offer {c : Chan α} (hc : c.Ok) (v : α) : (c.offer v).Ok := by
  unfold offer
  by_cases hw : 0 < c.waiting
  · rw [if_pos hw]
    exact fun _ => hc hw
  · rw [if_neg hw]
    exact fun h => absurd h hw

@[simp] theorem closed_offer (c : Chan α) (v : α) : (c.offer v).closed = c.closed := by
  unfold offer
  split <;> rfl

@[simp] theorem closed_deliver (c : Chan α) (v : α) : (c.deliver v).closed = c.closed := by
  unfold deliver
  split
  · exact closed_offer c v
  · rfl

theorem ok_deliver {c : Chan α} (hc : c.Ok) (v : α) : (c.deliver v).Ok := by
  unfold deliver
  split
  · exact ok_offer hc v
  · exact hc

@[simp] theorem queue_shut (c : Chan α) : c.shut.queue = c.queue := rfl

@[simp] theorem closed_shut (c : Chan α) : c.shut.closed = true := rfl

theorem ok_shut (c : Chan α) : c.shut.Ok := fun h => absurd h (Nat.lt_irrefl 0)

/-- A receive takes the head of what the channel owes, if anything. -/
theorem queue_receive (c : Chan α) : c.queue = c.receive.1.taken ++ c.receive.2.queue := by
  obtain ⟨capacity, buffer, closed, waiting, handed⟩ := c
  cases handed with
  | cons v rest => rfl
  | nil =>
    cases buffer with
    | cons v rest => rfl
    | nil => cases closed <;> rfl

@[simp] theorem closed_receive (c : Chan α) : c.receive.2.closed = c.closed := by
  obtain ⟨capacity, buffer, closed, waiting, handed⟩ := c
  cases handed with
  | cons v rest => rfl
  | nil =>
    cases buffer with
    | cons v rest => rfl
    | nil => cases closed <;> rfl

theorem ok_receive {c : Chan α} (hc : c.Ok) : c.receive.2.Ok := by
  obtain ⟨capacity, buffer, closed, waiting, handed⟩ := c
  cases handed with
  | cons v rest => exact hc
  | nil =>
    cases buffer with
    | cons v rest =>
      -- a buffered value means no receiver waits, and a receive makes none wait
      intro hw
      exact absurd (hc hw) (List.cons_ne_nil v rest)
    | nil => cases closed <;> exact fun _ => rfl

/-- On a channel with a buffer, "could take a value at once" is "has a free slot": a receiver
waits only when the buffer is empty. -/
theorem hasRoom_of_capacity_pos {c : Chan α} (hc : c.Ok) (hcap : 0 < c.capacity) :
    c.hasRoom = decide (c.buffer.length < c.capacity) := by
  unfold hasRoom
  by_cases hw : 0 < c.waiting
  · simp [hw, hc hw, hcap]
  · simp [hw]

end Chan

namespace Call

/-- The subscriber id a call brings, if it subscribes. -/
def newIds : Call α → List String
  | .subscribe id => [id]
  | .subscribeBuffered id _ => [id]
  | _ => []

/-- Whether a call asks only for a channel of a size that can be made. -/
def capacityOk : Call α → Bool
  | .subscribeBuffered _ n => decide (0 ≤ n)
  | _ => true

end Call

/-- Where an appended channel list has a channel: in the old list, or last. -/
theorem getElem?_concat_eq_some {l : List (Chan α)} {x c : Chan α} {h : Nat}
    (hc : (l ++ [x])[h]? = some c) : l[h]? = some c ∨ (h = l.length ∧ c = x) := by
  rw [List.getElem?_append] at hc
  by_cases hlt : h < l.length
  · rw [if_pos hlt] at hc
    exact Or.inl hc
  · rw [if_neg hlt] at hc
    have hzero : h - l.length = 0 := by
      cases hk : h - l.length with
      | zero => rfl
      | succ k => simp [hk] at hc
    rw [hzero] at hc
    exact Or.inr ⟨by omega, (Option.some.inj hc).symm⟩

theorem mapSet_of_not_mem {m : List (String × Nat)} {k : String} (hk : k ∉ m.map (·.1))
    (v : Nat) : mapSet m k v = m ++ [(k, v)] := by
  unfold mapSet
  rw [if_neg]
  intro hany
  obtain ⟨p, hp, he⟩ := List.any_eq_true.mp hany
  exact hk (List.mem_map.mpr ⟨p, hp, by simpa using he⟩)

namespace World

/-- The subscriber ids the hub holds. -/
def ids (w : World α) : List String := w.hub.subscribers.map (·.1)

/-- The channel numbers the hub holds. -/
def handles (w : World α) : List Nat := w.hub.subscribers.map (·.2)

/-- Whether channel `h` exists and could take a value at once. -/
def roomAt (w : World α) (h : Nat) : Bool := (w.chans[h]?).any Chan.hasRoom

/-- Whether channel `h` exists and is closed. -/
def closedAt (w : World α) (h : Nat) : Bool := (w.chans[h]?).any (·.closed)

/-- The values channel `h` still owes its holder. -/
def queueAt (w : World α) (h : Nat) : List α := ((w.chans[h]?).map Chan.queue).getD []

/-- The subscribers a publish reaches: those whose channel could take the value at once. -/
def reached (w : World α) : List (String × Nat) := w.hub.subscribers.filter (w.roomAt ·.2)

/-- Apply `f` to the channels numbered in `hs`. -/
def update (w : World α) (hs : List Nat) (f : Chan α → Chan α) : World α :=
  { w with chans := w.chans.mapIdx fun h c => if h ∈ hs then f c else c }

/-- The world after a publish of `v`: each held channel that could take `v` at once has it. -/
def deliver (w : World α) (v : α) : World α := w.update w.handles (·.deliver v)

/-- The world after `Close`: the hub is closed and holds nothing, its channels shut. -/
def shutAll (w : World α) : World α :=
  { w.update w.handles Chan.shut with hub := { subscribers := [], closed := true } }

/-- The world a subscription with channel capacity `n` leaves: a closed hub hands out a closed
channel, an open one holds the new channel under the id. -/
def enrol (w : World α) (id : String) (n : Nat) : World α :=
  if w.hub.closed then { w with chans := w.chans ++ [Chan.shut { capacity := n }] }
  else { hub := { w.hub with subscribers := mapSet w.hub.subscribers id w.chans.length },
         chans := w.chans ++ [{ capacity := n }] }

/-- The world `Unsubscribe` leaves: a held id has its channel shut and is forgotten. -/
def drop (w : World α) (id : String) : World α :=
  match w.hub.subscribers.lookup id with
  | some h => { w.update [h] Chan.shut with
      hub := { w.hub with subscribers := w.hub.subscribers.filter (·.1 != id) } }
  | none => w

/-- Each call's world and answer, in closed form. -/
def perform (w : World α) : Call α → World α × Answer α
  | .subscribe id => (w.enrol id defaultBuffer.toNat, .subscribed w.chans.length)
  | .subscribeBuffered id n => (w.enrol id n.toNat, .subscribed w.chans.length)
  | .unsubscribe id => (w.drop id, .done)
  | .publish v => (w.deliver v, .delivered w.reached.length)
  | .len => (w, .length w.len)
  | .close => (w.shutAll, .done)
  | .receive h => ((w.receive h).1, .received (w.receive h).2)

/-- What keeps the hub's map in step with its channels. -/
structure Inv (w : World α) : Prop where
  ids_nodup : w.ids.Nodup
  handles_nodup : w.handles.Nodup
  held_open : ∀ h ∈ w.handles, ∃ c, w.chans[h]? = some c ∧ c.closed = false
  held_or_closed : ∀ (h : Nat) (c : Chan α), w.chans[h]? = some c → h ∈ w.handles ∨ c.closed = true
  closed_empty : w.hub.closed = true → w.hub.subscribers = []
  chans_ok : ∀ (h : Nat) (c : Chan α), w.chans[h]? = some c → c.Ok

theorem ext_chans {w w' : World α} (hh : w.hub = w'.hub) (hc : ∀ i : Nat, w.chans[i]? = w'.chans[i]?) :
    w = w' := by
  obtain ⟨hub, chans⟩ := w
  obtain ⟨hub', chans'⟩ := w'
  cases hh
  cases List.ext_getElem? hc
  rfl

theorem getElem?_update (w : World α) (hs : List Nat) (f : Chan α → Chan α) (i : Nat) :
    (w.update hs f).chans[i]? = (w.chans[i]?).map fun c => if i ∈ hs then f c else c := by
  simp [update, List.getElem?_mapIdx]

@[simp] theorem hub_update (w : World α) (hs : List Nat) (f : Chan α → Chan α) :
    (w.update hs f).hub = w.hub := rfl

theorem update_nil (w : World α) (f : Chan α → Chan α) : w.update [] f = w := by
  refine ext_chans ?_ fun i => ?_
  · rfl
  · simp [getElem?_update]

theorem setChan_self {w : World α} {h : Nat} {c : Chan α} (hc : w.chans[h]? = some c) :
    w.setChan h c = w := by
  refine ext_chans ?_ fun i => ?_
  · rfl
  by_cases hi : h = i
  · subst hi
    obtain ⟨hlt, rfl⟩ := List.getElem?_eq_some_iff.mp hc
    simp [setChan, hlt]
  · simp [setChan, hi]

/-- Changing one more channel extends an update by it. -/
theorem update_setChan {w : World α} {hs : List Nat} {f : Chan α → Chan α} {h : Nat}
    {c : Chan α} (hc : w.chans[h]? = some c) :
    (w.update hs f).setChan h (f c) = w.update (hs ++ [h]) f := by
  refine ext_chans ?_ fun i => ?_
  · rfl
  by_cases hi : h = i
  · subst hi
    obtain ⟨hlt, rfl⟩ := List.getElem?_eq_some_iff.mp hc
    simp [setChan, update, hlt]
  · simp [setChan, update, List.getElem?_mapIdx, hi, Ne.symm hi]

theorem make_eq (w : World α) {n : Int} (hn : 0 ≤ n) :
    w.make n = .ok ({ w with chans := w.chans ++ [{ capacity := n.toNat }] }, w.chans.length) := by
  simp [make, Int.not_lt.mpr hn]

theorem closeChan_eq {w : World α} {h : Nat} {c : Chan α} (hc : w.chans[h]? = some c)
    (ho : c.closed = false) : w.closeChan h = .ok (w.setChan h c.shut) := by
  simp [closeChan, hc, Chan.close, ho]

theorem publishTo_eq {v : α} {acc : World α × Nat} {p : String × Nat} {c : Chan α}
    (hc : acc.1.chans[p.2]? = some c) (ho : c.closed = false) :
    publishTo v acc p =
      .ok (acc.1.setChan p.2 (c.deliver v), if c.hasRoom then acc.2 + 1 else acc.2) := by
  by_cases hr : c.hasRoom = true
  · simp [publishTo, trySend, hc, Chan.trySend, ho, hr, Chan.deliver, ok_bind]
    rfl
  · simp [publishTo, trySend, hc, Chan.trySend, ho, hr, Chan.deliver, ok_bind, setChan_self hc]
    rfl

theorem setChan_eq_update {w : World α} {h : Nat} {c : Chan α} (f : Chan α → Chan α)
    (hc : w.chans[h]? = some c) : w.setChan h (f c) = w.update [h] f := by
  have e := @update_setChan _ w [] f h c hc
  rwa [update_nil] at e

/-- Freshness of the rest of a list of handles, once its head is done. -/
theorem fresh_cons {p : String × Nat} {ps : List (String × Nat)} {done : List Nat}
    (hfresh : ∀ q ∈ p :: ps, q.2 ∉ done) (hnd : ((p :: ps).map (·.2)).Nodup) :
    ∀ q ∈ ps, q.2 ∉ done ++ [p.2] := by
  intro q hq hmem
  rw [List.map_cons, List.nodup_cons] at hnd
  rcases List.mem_append.mp hmem with hd | hp
  · exact hfresh q (List.mem_cons_of_mem _ hq) hd
  · rw [List.mem_singleton] at hp
    exact hnd.1 (hp ▸ List.mem_map_of_mem hq)

/-- Closing the held channels one by one closes each of them. -/
theorem foldlM_closeChan (w : World α) :
    ∀ (ps : List (String × Nat)) (done : List Nat),
      (∀ p ∈ ps, ∃ c, w.chans[p.2]? = some c ∧ c.closed = false) →
      (∀ p ∈ ps, p.2 ∉ done) → (ps.map (·.2)).Nodup →
      ps.foldlM (fun w p => w.closeChan p.2) (w.update done Chan.shut) =
        .ok (w.update (done ++ ps.map (·.2)) Chan.shut)
  | [], done, _, _, _ => by
    rw [List.map_nil, List.append_nil]
    rfl
  | p :: ps, done, hopen, hfresh, hnd => by
    obtain ⟨c, hc, ho⟩ := hopen p List.mem_cons_self
    have hc' : (w.update done Chan.shut).chans[p.2]? = some c := by
      simp [getElem?_update, hc, hfresh p List.mem_cons_self]
    have hrest := foldlM_closeChan w ps (done ++ [p.2])
      (fun q hq => hopen q (List.mem_cons_of_mem _ hq)) (fresh_cons hfresh hnd)
      (List.nodup_cons.mp (by simpa using hnd)).2
    rw [List.foldlM_cons, closeChan_eq hc' ho, ok_bind, update_setChan hc, hrest]
    simp

/-- Publishing to the held channels one by one offers the value to each of them and counts
those that could take it. -/
theorem foldlM_publishTo (w : World α) (v : α) :
    ∀ (ps : List (String × Nat)) (done : List Nat) (k : Nat),
      (∀ p ∈ ps, ∃ c, w.chans[p.2]? = some c ∧ c.closed = false) →
      (∀ p ∈ ps, p.2 ∉ done) → (ps.map (·.2)).Nodup →
      ps.foldlM (publishTo v) (w.update done (·.deliver v), k) =
        .ok (w.update (done ++ ps.map (·.2)) (·.deliver v),
          k + (ps.filter (w.roomAt ·.2)).length)
  | [], done, k, _, _, _ => by
    rw [List.map_nil, List.append_nil, List.filter_nil, List.length_nil, Nat.add_zero]
    rfl
  | p :: ps, done, k, hopen, hfresh, hnd => by
    obtain ⟨c, hc, ho⟩ := hopen p List.mem_cons_self
    have hc' : (w.update done (·.deliver v)).chans[p.2]? = some c := by
      simp [getElem?_update, hc, hfresh p List.mem_cons_self]
    have hrest := foldlM_publishTo w v ps (done ++ [p.2]) (if c.hasRoom then k + 1 else k)
      (fun q hq => hopen q (List.mem_cons_of_mem _ hq)) (fresh_cons hfresh hnd)
      (List.nodup_cons.mp (by simpa using hnd)).2
    have hroom : w.roomAt p.2 = c.hasRoom := by simp [roomAt, hc]
    rw [List.foldlM_cons, publishTo_eq hc' ho, ok_bind, update_setChan hc, hrest]
    by_cases hr : c.hasRoom = true
    · simp [hroom, hr]
      omega
    · simp [hroom, hr]

theorem publish_eq {w : World α} (hw : w.Inv) (v : α) :
    w.publish v = .ok (w.deliver v, w.reached.length) := by
  have h := foldlM_publishTo w v w.hub.subscribers [] 0
    (fun p hp => hw.held_open p.2 (List.mem_map_of_mem hp)) (by simp) hw.handles_nodup
  rw [update_nil] at h
  simpa [publish, deliver, reached, handles] using h

theorem close_eq {w : World α} (hw : w.Inv) : w.close = .ok w.shutAll := by
  have h := foldlM_closeChan { w with hub := { w.hub with closed := true } } w.hub.subscribers []
    (fun p hp => hw.held_open p.2 (List.mem_map_of_mem hp)) (by simp) hw.handles_nodup
  rw [update_nil] at h
  simp only [close, h, ok_bind]
  rfl

theorem lookup_of_mem {m : List (String × Nat)} (hnd : (m.map (·.1)).Nodup) {k : String}
    {h : Nat} (hmem : (k, h) ∈ m) : m.lookup k = some h := by
  induction m with
  | nil => cases hmem
  | cons p m ih =>
    obtain ⟨k', h'⟩ := p
    rw [List.map_cons, List.nodup_cons] at hnd
    rcases List.mem_cons.mp hmem with he | hmem
    · cases he
      simp
    · have hk : k ∈ m.map (·.1) := List.mem_map.mpr ⟨(k, h), hmem, rfl⟩
      have hb : (k == k') = false := beq_false_of_ne fun he => hnd.1 (he ▸ hk)
      simp [List.lookup_cons, hb, ih hnd.2 hmem]

theorem lookup_of_not_mem {m : List (String × Nat)} {k : String} (hk : k ∉ m.map (·.1)) :
    m.lookup k = none :=
  List.lookup_eq_none_iff.mpr fun p hp => by
    simpa using fun he : k = p.1 => hk (he ▸ List.mem_map_of_mem hp)

theorem unsubscribe_eq {w : World α} (hw : w.Inv) (id : String) :
    w.unsubscribe id = .ok (w.drop id) := by
  cases hl : w.hub.subscribers.lookup id with
  | none =>
    simp only [unsubscribe, drop, hl]
    rfl
  | some h =>
    have hmem : (id, h) ∈ w.hub.subscribers := by
      obtain ⟨l₁, l₂, he, _⟩ := List.lookup_eq_some_iff.mp hl
      simp [he]
    obtain ⟨c, hc, ho⟩ := hw.held_open h (List.mem_map_of_mem hmem)
    simp only [unsubscribe, drop, hl, closeChan_eq hc ho, ok_bind, setChan_eq_update Chan.shut hc]
    rfl

theorem subscribeBuffered_eq (w : World α) (id : String) {n : Int} (hn : 0 ≤ n) :
    w.subscribeBuffered id n = .ok (w.enrol id n.toNat, w.chans.length) := by
  simp only [subscribeBuffered, make_eq w hn, ok_bind]
  by_cases hcl : w.hub.closed = true
  · have hc : ({ w with chans := w.chans ++ [{ capacity := n.toNat }] } : World α).chans[w.chans.length]?
        = some { capacity := n.toNat } := List.getElem?_concat_length
    simp only [hcl, if_true, closeChan_eq hc rfl, ok_bind]
    simp [setChan, enrol, hcl]
    rfl
  · simp only [hcl, enrol]
    rfl

/-- On a world that keeps the invariant, a call with a makeable capacity does not panic and
does what its closed form says. -/
theorem step_eq_perform {w : World α} (hw : w.Inv) {c : Call α} (hc : c.capacityOk = true) :
    step w c = .ok (w.perform c) := by
  cases c with
  | subscribe id =>
    simp only [step, subscribe, subscribeBuffered_eq w id (by decide : (0 : Int) ≤ defaultBuffer),
      ok_bind]
    rfl
  | subscribeBuffered id n =>
    have hn : 0 ≤ n := by simpa [Call.capacityOk] using hc
    simp only [step, subscribeBuffered_eq w id hn, ok_bind]
    rfl
  | unsubscribe id =>
    simp only [step, unsubscribe_eq hw id, ok_bind]
    rfl
  | publish v =>
    simp only [step, publish_eq hw v, ok_bind]
    rfl
  | len => rfl
  | close =>
    simp only [step, close_eq hw, ok_bind]
    rfl
  | receive h => rfl

end World

namespace World

theorem lt_length_of_held {w : World α} (hw : w.Inv) {h : Nat} (hh : h ∈ w.handles) :
    h < w.chans.length := by
  obtain ⟨c, hc, _⟩ := hw.held_open h hh
  exact (List.getElem?_eq_some_iff.mp hc).1

/-- On a closed hub the map is empty and every channel is closed. -/
theorem Inv.all_closed {w : World α} (hw : w.Inv) (hcl : w.hub.closed = true) :
    w.len = 0 ∧ ∀ (h : Nat) (c : Chan α), w.chans[h]? = some c → c.closed = true := by
  have hempty := hw.closed_empty hcl
  refine ⟨by simp [len, hempty], fun h c hc => ?_⟩
  rcases hw.held_or_closed h c hc with hh | hclosed
  · simp [handles, hempty] at hh
  · exact hclosed

/-- A change to the channels alone that keeps which of them are closed, and keeps them
well formed, keeps the invariant. -/
theorem Inv.of_chans {w w' : World α} (hw : w.Inv) (hh : w'.hub = w.hub)
    (hclosed : ∀ h : Nat, (w'.chans[h]?).map (·.closed) = (w.chans[h]?).map (·.closed))
    (hok : ∀ (h : Nat) (c : Chan α), w'.chans[h]? = some c → c.Ok) : w'.Inv where
  ids_nodup := by simpa [ids, hh] using hw.ids_nodup
  handles_nodup := by simpa [handles, hh] using hw.handles_nodup
  held_open h hmem := by
    obtain ⟨c, hc, ho⟩ := hw.held_open h (by simpa [handles, hh] using hmem)
    have e := hclosed h
    rw [hc, Option.map_some, ho] at e
    obtain ⟨c', hc', he⟩ := Option.map_eq_some_iff.mp e
    exact ⟨c', hc', he⟩
  held_or_closed h c' hc' := by
    have e := hclosed h
    rw [hc', Option.map_some] at e
    obtain ⟨c, hc, he⟩ := Option.map_eq_some_iff.mp e.symm
    rcases hw.held_or_closed h c hc with hmem | hcl
    · exact Or.inl (by simpa [handles, hh] using hmem)
    · exact Or.inr (he ▸ hcl)
  closed_empty hcl := by
    rw [hh] at hcl ⊢
    exact hw.closed_empty hcl
  chans_ok := hok

theorem getElem?_deliver (w : World α) (v : α) (h : Nat) :
    (w.deliver v).chans[h]? = (w.chans[h]?).map fun c => if h ∈ w.handles then c.deliver v else c :=
  getElem?_update w w.handles _ h

theorem Inv.deliver {w : World α} (hw : w.Inv) (v : α) : (w.deliver v).Inv := by
  refine hw.of_chans rfl (fun h => ?_) (fun h c hc => ?_)
  · rw [getElem?_deliver]
    cases w.chans[h]? with
    | none => rfl
    | some c => by_cases hh : h ∈ w.handles <;> simp [hh]
  · rw [getElem?_deliver] at hc
    obtain ⟨c₀, hc₀, rfl⟩ := Option.map_eq_some_iff.mp hc
    have hok := hw.chans_ok h c₀ hc₀
    split
    · exact Chan.ok_deliver hok v
    · exact hok

theorem Inv.receive {w : World α} (hw : w.Inv) (h : Nat) : (w.receive h).1.Inv := by
  unfold World.receive
  cases hc : w.chans[h]? with
  | none => exact hw
  | some c =>
    refine hw.of_chans rfl (fun i => ?_) (fun i c' hc' => ?_)
    · by_cases hi : h = i
      · subst hi
        obtain ⟨hlt, rfl⟩ := List.getElem?_eq_some_iff.mp hc
        simp [setChan, hlt]
      · simp [setChan, hi]
    · simp only [setChan, List.getElem?_set] at hc'
      by_cases hi : h = i
      · subst hi
        simp only [if_true, (List.getElem?_eq_some_iff.mp hc).1, Option.some.injEq] at hc'
        exact hc' ▸ Chan.ok_receive (hw.chans_ok h c hc)
      · rw [if_neg hi] at hc'
        exact hw.chans_ok i c' hc'

theorem Inv.enrol {w : World α} (hw : w.Inv) {id : String} (hid : id ∉ w.ids) (n : Nat) :
    (w.enrol id n).Inv := by
  unfold World.enrol
  by_cases hcl : w.hub.closed = true
  · -- a closed hub holds nothing, and the channel it hands out is closed
    rw [if_pos hcl]
    have hempty := hw.closed_empty hcl
    refine ⟨hw.ids_nodup, hw.handles_nodup, fun h hh => by simp [handles, hempty] at hh,
      fun h c hc => Or.inr ?_, hw.closed_empty, fun h c hc => ?_⟩
    · rcases getElem?_concat_eq_some hc with hc | ⟨_, rfl⟩
      · exact (hw.all_closed hcl).2 h c hc
      · rfl
    · rcases getElem?_concat_eq_some hc with hc | ⟨_, rfl⟩
      · exact hw.chans_ok h c hc
      · exact Chan.ok_shut _
  · -- an open hub holds the new channel under the fresh id
    rw [if_neg hcl]
    have hfresh : w.chans.length ∉ w.handles := fun hh =>
      Nat.lt_irrefl _ (lt_length_of_held hw hh)
    refine ⟨?_, ?_, fun h hh => ?_, fun h c hc => ?_, fun hcl' => absurd hcl' hcl,
      fun h c hc => ?_⟩
    · show ((mapSet w.hub.subscribers id w.chans.length).map (·.1)).Nodup
      rw [mapSet_of_not_mem hid, List.map_append, List.map_singleton, ← List.concat_eq_append]
      exact hw.ids_nodup.concat hid
    · show ((mapSet w.hub.subscribers id w.chans.length).map (·.2)).Nodup
      rw [mapSet_of_not_mem hid, List.map_append, List.map_singleton, ← List.concat_eq_append]
      exact hw.handles_nodup.concat hfresh
    · simp only [handles, mapSet_of_not_mem hid, List.map_append, List.map_cons, List.map_nil,
        List.mem_append, List.mem_singleton] at hh
      rcases hh with hh | rfl
      · obtain ⟨c, hc, ho⟩ := hw.held_open h hh
        exact ⟨c, List.getElem?_append_left (List.getElem?_eq_some_iff.mp hc).1 ▸ hc, ho⟩
      · exact ⟨_, List.getElem?_concat_length, rfl⟩
    · simp only [handles, mapSet_of_not_mem hid, List.map_append, List.map_cons, List.map_nil,
        List.mem_append, List.mem_singleton]
      rcases getElem?_concat_eq_some hc with hc | ⟨rfl, rfl⟩
      · rcases hw.held_or_closed h c hc with hh | hclosed
        · exact Or.inl (Or.inl hh)
        · exact Or.inr hclosed
      · exact Or.inl (Or.inr rfl)
    · rcases getElem?_concat_eq_some hc with hc | ⟨_, rfl⟩
      · exact hw.chans_ok h c hc
      · exact fun hw => absurd hw (Nat.lt_irrefl 0)

/-- Two entries of the map with one id are the same entry. -/
theorem Inv.eq_of_id {w : World α} (hw : w.Inv) {p q : String × Nat}
    (hp : p ∈ w.hub.subscribers) (hq : q ∈ w.hub.subscribers) (he : p.1 = q.1) : p = q :=
  List.inj_on_of_nodup_map hw.ids_nodup hp hq he

/-- Two entries of the map with one channel are the same entry. -/
theorem Inv.eq_of_handle {w : World α} (hw : w.Inv) {p q : String × Nat}
    (hp : p ∈ w.hub.subscribers) (hq : q ∈ w.hub.subscribers) (he : p.2 = q.2) : p = q :=
  List.inj_on_of_nodup_map hw.handles_nodup hp hq he

theorem Inv.drop {w : World α} (hw : w.Inv) (id : String) : (w.drop id).Inv := by
  unfold World.drop
  cases hl : w.hub.subscribers.lookup id with
  | none => exact hw
  | some h =>
    have hmem : (id, h) ∈ w.hub.subscribers := by
      obtain ⟨l₁, l₂, he, _⟩ := List.lookup_eq_some_iff.mp hl
      simp [he]
    have hsub : (w.hub.subscribers.filter (·.1 != id)).Sublist w.hub.subscribers :=
      List.filter_sublist
    -- the entries kept are those of other ids, so other channels too
    have hkept : ∀ p ∈ w.hub.subscribers.filter (·.1 != id), p.1 ≠ id ∧ p.2 ≠ h := by
      intro p hp
      obtain ⟨hp, hne⟩ := List.mem_filter.mp hp
      have hne : p.1 ≠ id := by simpa using hne
      exact ⟨hne, fun he => hne (congrArg Prod.fst (hw.eq_of_handle hp hmem he))⟩
    refine ⟨(hsub.map _).nodup hw.ids_nodup, (hsub.map _).nodup hw.handles_nodup,
      fun i hi => ?_, fun i c hc => ?_, fun hcl => ?_, fun i c hc => ?_⟩
    · obtain ⟨p, hp, rfl⟩ := List.mem_map.mp hi
      obtain ⟨c, hc, ho⟩ := hw.held_open p.2 (List.mem_map_of_mem (hsub.subset hp))
      refine ⟨c, ?_, ho⟩
      simp [getElem?_update, hc, (hkept p hp).2]
    · simp only [getElem?_update] at hc
      obtain ⟨c₀, hc₀, rfl⟩ := Option.map_eq_some_iff.mp hc
      by_cases hi : i = h
      · subst hi
        exact Or.inr (by simp)
      · simp only [List.mem_singleton, hi, if_false]
        rcases hw.held_or_closed i c₀ hc₀ with hh | hclosed
        · left
          obtain ⟨p, hp, rfl⟩ := List.mem_map.mp hh
          have hne : p.1 ≠ id := fun he =>
            hi (congrArg Prod.snd (hw.eq_of_id hp hmem he))
          exact List.mem_map_of_mem (List.mem_filter.mpr ⟨hp, by simpa using hne⟩)
        · exact Or.inr hclosed
    · simp [hw.closed_empty hcl]
    · simp only [getElem?_update] at hc
      obtain ⟨c₀, hc₀, rfl⟩ := Option.map_eq_some_iff.mp hc
      split
      · exact Chan.ok_shut c₀
      · exact hw.chans_ok i c₀ hc₀

theorem Inv.shutAll {w : World α} (hw : w.Inv) : w.shutAll.Inv := by
  refine ⟨List.nodup_nil, List.nodup_nil, fun h hh => by simp [handles, World.shutAll] at hh,
    fun h c hc => Or.inr ?_, fun _ => rfl, fun h c hc => ?_⟩
  · simp only [World.shutAll, getElem?_update] at hc
    obtain ⟨c₀, hc₀, rfl⟩ := Option.map_eq_some_iff.mp hc
    split
    · rfl
    · rename_i hh
      exact (hw.held_or_closed h c₀ hc₀).resolve_left hh
  · simp only [World.shutAll, getElem?_update] at hc
    obtain ⟨c₀, hc₀, rfl⟩ := Option.map_eq_some_iff.mp hc
    split
    · exact Chan.ok_shut c₀
    · exact hw.chans_ok h c₀ hc₀

/-- Every call keeps the invariant, given that a subscription brings a fresh id. -/
theorem Inv.perform {w : World α} (hw : w.Inv) {c : Call α}
    (hfresh : ∀ id ∈ c.newIds, id ∉ w.ids) : (w.perform c).1.Inv := by
  cases c with
  | subscribe id => exact hw.enrol (hfresh id (by simp [Call.newIds])) _
  | subscribeBuffered id n => exact hw.enrol (hfresh id (by simp [Call.newIds])) _
  | unsubscribe id => exact hw.drop id
  | publish v => exact hw.deliver v
  | len => exact hw
  | close => exact hw.shutAll
  | receive h => exact hw.receive h

theorem ids_enrol {w : World α} {i : String} (hi : i ∉ w.ids) (n : Nat) :
    (w.enrol i n).ids = if w.hub.closed then w.ids else w.ids ++ [i] := by
  unfold World.enrol
  split <;> simp [ids, mapSet_of_not_mem hi]

theorem ids_drop_subset (w : World α) (i : String) : (w.drop i).ids ⊆ w.ids := by
  unfold World.drop
  split
  · intro id hid
    obtain ⟨p, hp, rfl⟩ := List.mem_map.mp hid
    exact List.mem_map_of_mem (List.mem_filter.mp hp).1
  · exact List.Subset.refl _

@[simp] theorem hub_receive (w : World α) (h : Nat) : (w.receive h).1.hub = w.hub := by
  unfold World.receive
  split <;> rfl

/-- The ids the hub holds after a call are those it held and the one the call brought. -/
theorem ids_perform {w : World α} {c : Call α} (hfresh : ∀ id ∈ c.newIds, id ∉ w.ids)
    {id : String} (hid : id ∈ (w.perform c).1.ids) : id ∈ w.ids ∨ id ∈ c.newIds := by
  cases c with
  | subscribe i | subscribeBuffered i _ =>
    have hi := hfresh i (by simp [Call.newIds])
    simp only [perform, ids_enrol hi] at hid
    split at hid
    · exact Or.inl hid
    · simpa [Call.newIds] using hid
  | unsubscribe i => exact Or.inl (ids_drop_subset w i hid)
  | publish v => exact Or.inl hid
  | len => exact Or.inl hid
  | close => simp [perform, World.shutAll, ids] at hid
  | receive h =>
    simp only [perform, ids, hub_receive] at hid
    exact Or.inl hid

theorem closedAt_iff {w : World α} {h : Nat} :
    w.closedAt h = true ↔ ∃ c, w.chans[h]? = some c ∧ c.closed = true := by
  unfold closedAt
  cases w.chans[h]? <;> simp

theorem closedAt_update {w : World α} {hs : List Nat} {f : Chan α → Chan α}
    (hf : ∀ c : Chan α, c.closed = true → (f c).closed = true) {h : Nat}
    (hcl : w.closedAt h = true) : (w.update hs f).closedAt h = true := by
  obtain ⟨c, hc, hclosed⟩ := closedAt_iff.mp hcl
  refine closedAt_iff.mpr ⟨if h ∈ hs then f c else c, by simp [getElem?_update, hc], ?_⟩
  split
  · exact hf c hclosed
  · exact hclosed

theorem closedAt_append {w : World α} {xs : List (Chan α)} {h : Nat}
    (hcl : w.closedAt h = true) : ({ w with chans := w.chans ++ xs } : World α).closedAt h = true := by
  obtain ⟨c, hc, hclosed⟩ := closedAt_iff.mp hcl
  exact closedAt_iff.mpr ⟨c, by rw [List.getElem?_append_left (List.getElem?_eq_some_iff.mp hc).1]; exact hc, hclosed⟩

/-- No call reopens a channel. -/
theorem closedAt_perform (w : World α) (c : Call α) {h : Nat} (hcl : w.closedAt h = true) :
    (w.perform c).1.closedAt h = true := by
  have hshut : ∀ c : Chan α, c.closed = true → c.shut.closed = true := fun _ _ => rfl
  cases c with
  | subscribe i | subscribeBuffered i _ =>
    simp only [perform, World.enrol]
    split
    · exact closedAt_append hcl
    · exact closedAt_append (w := { w with hub := { w.hub with subscribers := _ } }) hcl
  | unsubscribe i =>
    simp only [perform, World.drop]
    split
    · exact closedAt_update hshut hcl
    · exact hcl
  | publish v => exact closedAt_update (fun c hc => (Chan.closed_deliver c v).trans hc) hcl
  | len => exact hcl
  | close => exact closedAt_update hshut hcl
  | receive i =>
    simp only [perform]
    unfold World.receive
    split
    · exact hcl
    · rename_i c' hc'
      obtain ⟨c, hc, hclosed⟩ := closedAt_iff.mp hcl
      refine closedAt_iff.mpr ?_
      by_cases hi : i = h
      · subst hi
        rw [hc'] at hc
        cases hc
        exact ⟨c'.receive.2, by simp [setChan, (List.getElem?_eq_some_iff.mp hc').1],
          (Chan.closed_receive c').trans hclosed⟩
      · exact ⟨c, by simp [setChan, hi, hc], hclosed⟩

theorem hub_closed_perform (w : World α) (c : Call α) (hcl : w.hub.closed = true) :
    (w.perform c).1.hub.closed = true := by
  cases c with
  | subscribe i | subscribeBuffered i _ =>
    simp only [perform, World.enrol]
    split <;> simpa
  | unsubscribe i =>
    simp only [perform, World.drop]
    split <;> simpa
  | receive i => simpa [perform]
  | publish v | len => exact hcl
  | close => rfl

theorem drop_held {w : World α} (hw : w.Inv) {id : String} {h : Nat}
    (hmem : (id, h) ∈ w.hub.subscribers) :
    w.closedAt h = false ∧ (w.drop id).closedAt h = true ∧ id ∉ (w.drop id).ids := by
  obtain ⟨c, hc, ho⟩ := hw.held_open h (List.mem_map_of_mem hmem)
  simp only [World.drop, lookup_of_mem hw.ids_nodup hmem]
  refine ⟨by simp [closedAt, hc, ho], by simp [closedAt, getElem?_update, hc], fun hid => ?_⟩
  obtain ⟨p, hp, he⟩ := List.mem_map.mp hid
  have hne := (List.mem_filter.mp hp).2
  simp [he] at hne

theorem drop_of_not_mem {w : World α} {id : String} (hid : id ∉ w.ids) : w.drop id = w := by
  simp only [World.drop, lookup_of_not_mem hid]

theorem deliver_of_closed {w : World α} (hw : w.Inv) (hcl : w.hub.closed = true) (v : α) :
    w.deliver v = w ∧ w.reached = [] := by
  have hempty := hw.closed_empty hcl
  refine ⟨?_, by simp [reached, hempty]⟩
  have hh : w.handles = [] := by simp [handles, hempty]
  rw [World.deliver, hh, update_nil]

end World

namespace Event

/-- What one call did, as the hub promises it. -/
structure Sound (e : Event α) : Prop where
  /-- A publish reaches exactly the held channels that could take its value at once, and
  counts them. -/
  publish : ∀ v, e.call = .publish v →
    e.answer = .delivered e.before.reached.length ∧ e.after = e.before.deliver v
  /-- `Unsubscribe` of a held id closes its channel, open until then, and forgets the id. -/
  unsubscribe_held : ∀ id h, e.call = .unsubscribe id → (id, h) ∈ e.before.hub.subscribers →
    e.before.closedAt h = false ∧ e.after.closedAt h = true ∧ id ∉ e.after.ids
  /-- `Unsubscribe` of an id the hub does not hold changes nothing. -/
  unsubscribe_unknown : ∀ id, e.call = .unsubscribe id → id ∉ e.before.ids → e.after = e.before
  /-- A closed channel stays closed. -/
  stays_closed : ∀ h, e.before.closedAt h = true → e.after.closedAt h = true
  /-- From `Close` on, the hub is closed and holds nothing, and every channel is closed. -/
  after_close : e.before.hub.closed = true ∨ e.call = .close →
    e.after.hub.closed = true ∧ e.after.len = 0 ∧ ∀ c ∈ e.after.chans, c.closed = true
  /-- A publish on a closed hub reaches no one and changes nothing. -/
  publish_closed : ∀ v, e.before.hub.closed = true → e.call = .publish v →
    e.answer = .delivered 0 ∧ e.after = e.before

/-- The value a publish put into channel `h`: its own, when the hub held `h` and `h` could
take it at once. -/
def sentTo (h : Nat) (e : Event α) : List α :=
  match e.call with
  | .publish v => if h ∈ e.before.handles ∧ e.before.roomAt h = true then [v] else []
  | _ => []

/-- The value a receive on channel `h` took. -/
def takenFrom (h : Nat) (e : Event α) : List α :=
  match e.call, e.answer with
  | .receive i, .received r => if i = h then r.taken else []
  | _, _ => []

end Event

namespace World

/-- Every call, on a world that keeps the invariant, does what the hub promises. -/
theorem sound_perform {w : World α} (hw : w.Inv) {c : Call α}
    (hfresh : ∀ id ∈ c.newIds, id ∉ w.ids) :
    (Event.mk w c (w.perform c).2 (w.perform c).1).Sound where
  publish := by
    rintro v rfl
    exact ⟨rfl, rfl⟩
  unsubscribe_held := by
    rintro id h rfl hmem
    exact drop_held hw hmem
  unsubscribe_unknown := by
    rintro id rfl hid
    exact drop_of_not_mem hid
  stays_closed _ hcl := closedAt_perform w c hcl
  after_close hc := by
    have hcl : (w.perform c).1.hub.closed = true := by
      rcases hc with hcl | rfl
      · exact hub_closed_perform w c hcl
      · rfl
    obtain ⟨hlen, hall⟩ := (hw.perform hfresh).all_closed hcl
    refine ⟨hcl, hlen, fun c' hc' => ?_⟩
    obtain ⟨i, hi⟩ := List.mem_iff_getElem?.mp hc'
    exact hall i c' hi
  publish_closed := by
    rintro v hcl rfl
    obtain ⟨hdeliver, hreached⟩ := deliver_of_closed hw hcl v
    exact ⟨by simp [perform, hreached], hdeliver⟩

theorem queueAt_update {w : World α} {hs : List Nat} {f : Chan α → Chan α}
    (hf : ∀ c : Chan α, (f c).queue = c.queue) (h : Nat) :
    (w.update hs f).queueAt h = w.queueAt h := by
  unfold queueAt
  rw [getElem?_update]
  cases w.chans[h]? with
  | none => rfl
  | some c => by_cases hh : h ∈ hs <;> simp [hh, hf]

/-- A channel made empty owes nothing to anyone. -/
theorem queueAt_concat {w w' : World α} {x : Chan α} (hc : w'.chans = w.chans ++ [x])
    (hx : x.queue = []) (h : Nat) : w'.queueAt h = w.queueAt h := by
  unfold queueAt
  rw [hc, List.getElem?_append]
  split
  · rfl
  · have hnone : w.chans[h]? = none := List.getElem?_eq_none (by omega)
    rw [hnone]
    cases hk : h - w.chans.length with
    | zero => simp [hx]
    | succ k => simp

theorem queueAt_enrol (w : World α) (id : String) (n h : Nat) :
    (w.enrol id n).queueAt h = w.queueAt h := by
  unfold World.enrol
  split
  · exact queueAt_concat rfl rfl h
  · exact queueAt_concat rfl rfl h

theorem queueAt_drop (w : World α) (id : String) (h : Nat) :
    (w.drop id).queueAt h = w.queueAt h := by
  unfold World.drop
  split
  · exact queueAt_update Chan.queue_shut h
  · rfl

theorem queueAt_shutAll (w : World α) (h : Nat) : w.shutAll.queueAt h = w.queueAt h :=
  queueAt_update Chan.queue_shut h

/-- A publish appends its value to what each held channel with room owes. -/
theorem queueAt_deliver {w : World α} (hw : w.Inv) (v : α) (h : Nat) :
    (w.deliver v).queueAt h =
      w.queueAt h ++ if h ∈ w.handles ∧ w.roomAt h = true then [v] else [] := by
  unfold queueAt
  rw [getElem?_deliver]
  cases hc : w.chans[h]? with
  | none => simp [roomAt, hc]
  | some c =>
    have hok := hw.chans_ok h c hc
    by_cases hh : h ∈ w.handles
    · by_cases hr : c.hasRoom = true
      · simp [hh, hr, roomAt, hc, Chan.deliver, Chan.queue_offer hok]
      · simp [hh, hr, roomAt, hc, Chan.deliver]
    · simp [hh, roomAt, hc]

/-- A receive takes from the head of what its channel owes, and from no other channel. -/
theorem queueAt_receive (w : World α) (i h : Nat) :
    w.queueAt h = (if i = h then (w.receive i).2.taken else []) ++ (w.receive i).1.queueAt h := by
  unfold World.receive
  cases hc : w.chans[i]? with
  | none => simp [Chan.Received.taken]
  | some c =>
    by_cases hi : i = h
    · subst hi
      obtain ⟨hlt, rfl⟩ := List.getElem?_eq_some_iff.mp hc
      simp [queueAt, setChan, hlt, Chan.queue_receive w.chans[i]]
    · simp [queueAt, setChan, hi]

/-- One call: what a channel owed, with what the call put into it, is what the call took out
of it followed by what it owes after. -/
theorem queueAt_perform {w : World α} (hw : w.Inv) (c : Call α) (h : Nat) :
    w.queueAt h ++ (Event.mk w c (w.perform c).2 (w.perform c).1).sentTo h =
      (Event.mk w c (w.perform c).2 (w.perform c).1).takenFrom h ++ (w.perform c).1.queueAt h := by
  cases c with
  | subscribe i | subscribeBuffered i _ =>
    simp [Event.sentTo, Event.takenFrom, perform, queueAt_enrol]
  | unsubscribe i => simp [Event.sentTo, Event.takenFrom, perform, queueAt_drop]
  | publish v => simp [Event.sentTo, Event.takenFrom, perform, queueAt_deliver hw]
  | len => simp [Event.sentTo, Event.takenFrom, perform]
  | close => simp [Event.sentTo, Event.takenFrom, perform, queueAt_shutAll]
  | receive i =>
    simp only [Event.sentTo, Event.takenFrom, perform, List.append_nil]
    exact queueAt_receive w i h

theorem inv_empty : (World.empty : World α).Inv where
  ids_nodup := List.nodup_nil
  handles_nodup := List.nodup_nil
  held_open _ hh := by simp [handles, World.empty] at hh
  held_or_closed _ _ hc := by simp [World.empty] at hc
  closed_empty _ := rfl
  chans_ok _ _ hc := by simp [World.empty] at hc

/-- A run of calls from a world that keeps the invariant, each subscription bringing an id not
seen before: it does not panic, it keeps the invariant, each call does what the hub promises,
and each channel gives out, in order, what it owed and what was put into it. -/
theorem trace_sound (w : World α) (hw : w.Inv) :
    ∀ cs : List (Call α), (∀ c ∈ cs, c.capacityOk = true) → (cs.flatMap Call.newIds).Nodup →
      (∀ id ∈ cs.flatMap Call.newIds, id ∉ w.ids) →
      ∃ evs last, trace w cs = .ok (evs, last) ∧ last.Inv ∧ (∀ e ∈ evs, e.Sound) ∧
        ∀ h, w.queueAt h ++ evs.flatMap (·.sentTo h) =
          evs.flatMap (·.takenFrom h) ++ last.queueAt h
  | [], _, _, _ => ⟨[], w, rfl, hw, by simp, by simp⟩
  | c :: cs, hcap, hnd, hfresh => by
    rw [List.flatMap_cons] at hnd hfresh
    obtain ⟨-, hnd, hsep⟩ := List.nodup_append.mp hnd
    have hfc : ∀ id ∈ c.newIds, id ∉ w.ids := fun id hid => hfresh id (List.mem_append_left _ hid)
    -- the rest of the run starts from the world this call leaves
    have hfresh' : ∀ id ∈ cs.flatMap Call.newIds, id ∉ (w.perform c).1.ids := by
      intro id hid hmem
      rcases ids_perform hfc hmem with hold | hnew
      · exact hfresh id (List.mem_append_right _ hid) hold
      · exact hsep id hnew id hid rfl
    obtain ⟨evs, last, htr, hlast, hsound, hfifo⟩ := trace_sound (w.perform c).1 (hw.perform hfc)
      cs (fun c' hc' => hcap c' (List.mem_cons_of_mem _ hc')) hnd hfresh'
    refine ⟨⟨w, c, (w.perform c).2, (w.perform c).1⟩ :: evs, last, ?_, hlast, ?_, fun h => ?_⟩
    · have hstep := step_eq_perform hw (hcap c List.mem_cons_self)
      simp only [trace, hstep, ok_bind, htr]
      rfl
    · intro e he
      rcases List.mem_cons.mp he with rfl | he
      · exact sound_perform hw hfc
      · exact hsound e he
    · rw [List.flatMap_cons, List.flatMap_cons, ← List.append_assoc, queueAt_perform hw c h,
        List.append_assoc, hfifo h, List.append_assoc]

end World

/-- A hub run from its start, each subscription bringing a fresh id and asking for a channel
that can be made, never panics and never waits: no channel is closed twice or sent to once
closed. Every call does what the hub promises: a publish reaches exactly the subscribers whose
channel could take the value at once and answers how many they were, `Unsubscribe` closes the
channel of a held id once and ignores an unknown id, and from `Close` on every channel handed
out, also later, is closed, `Len` is 0 and publishing reaches no one. Each channel gives its
holder, in publish order, exactly the values published while it was subscribed and could take
them, then still owes the rest. -/
theorem hub_fan_out_sound (cs : List (Call α)) (hcap : ∀ c ∈ cs, c.capacityOk = true)
    (hids : (cs.flatMap Call.newIds).Nodup) :
    ∃ evs last, trace World.empty cs = .ok (evs, last) ∧ (∀ e ∈ evs, e.Sound) ∧
      ∀ h, evs.flatMap (·.sentTo h) = evs.flatMap (·.takenFrom h) ++ last.queueAt h := by
  obtain ⟨evs, last, htr, -, hsound, hfifo⟩ :=
    World.trace_sound World.empty World.inv_empty cs hcap hids (by simp [World.empty, World.ids])
  refine ⟨evs, last, htr, hsound, fun h => ?_⟩
  simpa [World.empty, World.queueAt] using hfifo h

/-- Two subscribers, one of them unbuffered, a publish, a receive, an unsubscribe, the hub's
close and a subscription after it. -/
theorem hub_fan_out_sound_on_a_session :
    ∃ evs last, trace World.empty ([.subscribe "a", .subscribeBuffered "b" 0, .publish 1,
        .receive 0, .unsubscribe "b", .close, .subscribeBuffered "c" 4, .publish 2] :
        List (Call Nat)) = .ok (evs, last) ∧ (∀ e ∈ evs, e.Sound) ∧
      ∀ h, evs.flatMap (·.sentTo h) = evs.flatMap (·.takenFrom h) ++ last.queueAt h :=
  hub_fan_out_sound _ (by decide +kernel) (by decide +kernel)

end DepthRig.Notify
