import DepthRig.Fault

/-!
# Aligning sensors onto each other, round after round

One alignment registers a sensor's world-space cloud onto the others' and folds the correction
into its transform; a round aligns every sensor in turn, and the first failure or a noticed
cancellation ends the run. The loop is written over any points, transforms and corrections in
any monad, so it serves both the floating-point refinement and its exact counterpart.
-/

namespace DepthRig

/-- How points, transforms and corrections act on each other. -/
structure Motion (P W S : Type) where
  /-- A sensor-local point in world space. -/
  place : W → P → P
  /-- A world-space point moved by a correction. -/
  move : S → P → P
  /-- A correction folded into a transform. -/
  fold : W → S → W

/-- A sensor as a refinement works on it. -/
structure Fitting (P W S : Type) where
  /-- The sensor's points in world space, as moved so far. -/
  cloud : List P
  world : W
  /-- The last correction found for it. -/
  last : Option S := none

namespace Fitting

variable {P W S : Type}

/-- A sensor's starting point: its frame's vertices placed in world space. -/
def start (mo : Motion P W S) (world : W) (vertices : List P) : Fitting P W S :=
  ⟨vertices.map (mo.place world), world, none⟩

/-- The clouds of every sensor but the `i`-th, in sensor order. -/
def others (fs : List (Fitting P W S)) (i : Nat) : List P :=
  (fs.zipIdx.filter fun (_, j) => j != i).flatMap (·.1.cloud)

/-- A sensor moved by a correction. -/
def correct (mo : Motion P W S) (f : Fitting P W S) (s : S) : Fitting P W S :=
  ⟨f.cloud.map (mo.move s), mo.fold f.world s, some s⟩

end Fitting

section Loop

variable {m : Type → Type} [Monad m] {P W S : Type}
variable (mo : Motion P W S) (align : List P → List P → m (Except Fault S))
  (cancelled : m (Option Fault)) (name : Nat → String)

/-- Align the `i`-th sensor onto all the others, unless the run was cancelled. -/
def alignSensor (fs : List (Fitting P W S)) (i : Nat) : m (Except Fault (List (Fitting P W S))) := do
  match ← cancelled with
  | some e => return .error e
  | none =>
    match fs[i]? with
    | none => return .ok fs
    | some f =>
      match ← align (Fitting.others fs i) f.cloud with
      | .error e => return .error (e.wrap ("align " ++ name i))
      | .ok s => return .ok (fs.set i (f.correct mo s))

/-- Align the sensors at the given positions in turn; the first failure ends the pass. -/
def alignEach : List (Fitting P W S) → List Nat → m (Except Fault (List (Fitting P W S)))
  | fs, [] => return .ok fs
  | fs, i :: is => do
    match ← alignSensor mo align cancelled name fs i with
    | .error e => return .error e
    | .ok fs => alignEach fs is

/-- Run rounds over `n` sensors, each round aligning every sensor in order. -/
def alignRounds (n : Nat) : Nat → List (Fitting P W S) → m (Except Fault (List (Fitting P W S)))
  | 0, fs => return .ok fs
  | rounds + 1, fs => do
    match ← alignEach mo align cancelled name fs (List.range n) with
    | .error e => return .error e
    | .ok fs => alignRounds n rounds fs

end Loop

end DepthRig
