import DepthRig.Sync.Reconciler
import DepthRig.Sync.Plot
import DepthRig.Json.Write
import DepthRig.Json.Numbers

/-!
# The synchronization page

The page of the last reconciliation is a line chart of timestamp residuals, one series per
subordinate sensor and `"-"` for a hole, with the frame count, holes, tolerance and failure
in its subtitle. It is an HTML page that hands the chart library its options as compact,
HTML-safe JSON.
-/

namespace DepthRig.Control

open Sync

/-- A residual as a JSON number: positional from `1e-6` up to below `1e21`, else with an
exponent. -/
def residualJson (x : Double) : Json :=
  .number (BinaryFormat.double.shortestText FloatText.data x.bits.toNat)

/-- The chart's series: each subordinate sensor's residuals, holes as `"-"`. -/
def seriesJson (p : Plan) : Json :=
  let subs := p.devices.filter (!·.main)
  if subs.isEmpty then .null
  else .array (subs.map fun d =>
    let res := d.residuals p.reference
    let points := (List.range p.reference.length).map fun i =>
      match res.find? (·.1 == i) with
      | some (_, v) => Json.object [("value", residualJson v)]
      | none => Json.object [("value", .string "-")]
    .object [("name", .string d.label), ("type", .string "line"), ("data", .array points)])

/-- The subtitle: frames, holes, tolerance and the last failure. -/
def subtitle (p : Plan) (err : Option RunError) : String :=
  "frames=" ++ toString p.reference.length ++ " holes=" ++ toString p.holes ++ " tolerance="
    ++ p.tolerance.text ++ (err.map fun e => " error: " ++ e.message).getD ""

/-- The colors the chart library cycles through. -/
def chartColors : List String :=
  ["#5470c6", "#91cc75", "#fac858", "#ee6666", "#73c0de", "#3ba272", "#fc8452", "#9a60b4", "#ea7ccc"]

/-- The chart's options. -/
def chartOptions (p : Plan) (err : Option RunError) : Json :=
  .object [("color", .array (chartColors.map .string)),
    ("legend", .object [("show", .bool true)]),
    ("series", seriesJson p),
    ("title", .object [("text", .string "Timestamp residuals (µs)"), ("subtext", .string (subtitle p err))]),
    ("toolbox", .object []),
    ("tooltip", .object [("show", .bool true)]),
    ("xAxis", .array [.object [("name", .string "Reference frame"), ("nameLocation", .string "middle"),
      ("nameGap", .number "25"),
      ("data", .array ((List.range p.reference.length).map fun i => Json.number (toString i)))]]),
    ("yAxis", .array [.object []])]

/-- Where the chart library is loaded from. -/
def chartAssets : String := "https://go-echarts.github.io/go-echarts-assets/assets/"

/-- The page of a plan and the last failure, its chart element named `chartId`. -/
def syncPage (p : Plan) (err : Option RunError) (chartId : String) : String :=
  "\n<!DOCTYPE html>\n<html>\n<head>\n    <meta charset=\"utf-8\">\n    <title>Awesome go-echarts</title>\n"
  ++ "    <script src=\"" ++ chartAssets ++ "echarts.min.js\"></script>\n</head>\n\n<body>\n\n\n\n"
  ++ "    <style> .container \x7bdisplay: flex;justify-content: center;align-items: center;\x7d"
  ++ " .item \x7bmargin: auto;\x7d </style> <div class=\"container\">\n"
  ++ "    <div class=\"item\" id=\"" ++ chartId ++ "\" style=\"width:100%;height:600px;\"></div>\n"
  ++ "</div><script type=\"text/javascript\">\n    \"use strict\";\n"
  ++ "    let goecharts_" ++ chartId ++ " = echarts.init(document.getElementById(\x27" ++ chartId
  ++ "\x27), \"white\", \x7b renderer: \"canvas\" \x7d);\n"
  ++ "    let option_" ++ chartId ++ " = " ++ Json.render (chartOptions p err) ++ "\n\n"
  ++ "    goecharts_" ++ chartId ++ ".setOption(option_" ++ chartId ++ ");\n</script>\n\n\n\n\n\n\n"
  ++ "</body>\n</html>\n"

end DepthRig.Control
