import DepthRig.Sync.Plan
import DepthRig.Wire.Frame
import DepthRig.Text.Path

/-!
# Residual charts

A plan is drawn as a chart of residuals: per sensor other than the main one, a line
through its residuals against the reference instant, labelled with its serial (or its
endpoint when it has none) and coloured from a palette of six that repeats. The chart is
ten inches by five at 96 dots per inch, and it is written as `sync_<stamp>.png` into a
directory that is created with its parents first.
-/

namespace DepthRig.Sync

/-- One line of a chart. -/
structure Series where
  label : String
  color : Color
  points : List (Nat × Double)
  deriving Inhabited, Repr

/-- A chart of a plan's residuals. -/
structure Chart where
  title : String
  xLabel : String
  yLabel : String
  series : List Series
  widthInches : Nat
  heightInches : Nat
  deriving Inhabited, Repr

/-- The line colours, in order; sensor `i` takes colour `i` modulo six. -/
def palette : List Color :=
  [⟨0x1f, 0x77, 0xb4⟩, ⟨0xff, 0x7f, 0x0e⟩, ⟨0x2c, 0xa0, 0x2c⟩, ⟨0xd6, 0x27, 0x28⟩,
    ⟨0x94, 0x67, 0xbd⟩, ⟨0x8c, 0x56, 0x4b⟩]

/-- Dots per inch of a written chart. -/
def chartDpi : Nat := 96

/-- A sensor's label: its serial, or its endpoint when it has none. -/
def DevicePlan.label (d : DevicePlan) : String := if d.serial.isEmpty then d.endpoint else d.serial

/-- The residual chart of a plan. -/
def Plan.chart (p : Plan) : Chart :=
  { title := "Timestamp residuals (tolerance " ++ p.tolerance.text ++ ")"
    xLabel := "Reference frame"
    yLabel := "Residual (µs)"
    series := p.devices.zipIdx.filterMap fun (d, i) =>
      if d.main then none
      else
        let pts := d.residuals p.reference
        if pts.isEmpty then none
        else some ⟨d.label, palette.getD (i % 6) default, pts⟩
    widthInches := 10
    heightInches := 5 }

/-- The pixel width and height of a written chart. -/
def Chart.pixels (c : Chart) : Nat × Nat := (c.widthInches * chartDpi, c.heightInches * chartDpi)

/-- Create a directory and its parents, where `files` are the plain files that exist: it
fails at the first of its ancestors, or itself, that is a plain file. -/
def makeDirectories (files : List String) (dir : String) : Except Fault Unit :=
  match (Path.prefixes (Path.clean dir)).find? files.contains with
  | some f => .error (.plain ("mkdir " ++ f ++ ": not a directory"))
  | none => .ok ()

/-- Where a chart with creation stamp `stamp` is written in `dir`. -/
def chartPath (dir stamp : String) : String := Path.join [dir, "sync_" ++ stamp ++ ".png"]

/-- Write a plan's chart into `dir`: the path written and the chart. -/
def saveChart (files : List String) (p : Plan) (dir stamp : String) : Except Fault (String × Chart) := do
  makeDirectories files dir
  pure (chartPath dir stamp, p.chart)

end DepthRig.Sync
