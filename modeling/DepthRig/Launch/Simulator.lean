import DepthRig.Launch.Options
import DepthRig.Launch.Host
import DepthRig.Launch.Run

/-!
# Starting the sensor simulator

The command line names the server, the number of sensors, the scene they share, whether their
sync jacks are wired, the frame period, the jitter, the compression level and the redial
delay. Each sensor dials the server, serves the connection until it ends and dials again,
until a termination signal stops them all.
-/

namespace DepthRig.Launch

/-- The simulator's settings from its command line. -/
structure SimulatorSettings where
  server : String := "127.0.0.1:48001"
  count : Int := 3
  points : Int := 5000
  seed : Int := 1
  hardwareSync : Bool := false
  framePeriod : Duration := Duration.millis 33
  jitter : Nat := 200
  level : Int := 0
  retry : Duration := Duration.seconds 2
  deriving Inhabited, Repr

/-- The simulator's options. -/
def simulatorOptions : List (OptionSpec SimulatorSettings) :=
  let d : SimulatorSettings := {}
  [.ofText "server" "livescan sensor address" d.server fun v s => { s with server := v },
    .ofInteger "n" "Number of simulated sensors" d.count fun v s => { s with count := v },
    .ofInteger "points" "Points in the shared scene" d.points fun v s => { s with points := v },
    .ofInteger "seed" "Scene seed" d.seed fun v s => { s with seed := v },
    .ofSwitch "hardware-sync" "Wire the sync jacks: first sensor main, the rest subordinate"
      fun v s => { s with hardwareSync := v },
    .ofSpan "frame-period" "Free-running frame period in hardware sync" d.framePeriod
      fun v s => { s with framePeriod := v },
    .ofUnsigned "jitter" "Hardware timestamp jitter in microseconds" d.jitter fun v s => { s with jitter := v },
    .ofInteger "compress" "zstd level for frame payloads (0 disables)" d.level fun v s => { s with level := v },
    .ofSpan "retry" "Delay before reconnecting" d.retry fun v s => { s with retry := v }]

/-- The simulator's program name. -/
def simulatorProgram : String := "sensor-sim"

/-- The serial of the `i`-th simulated sensor: `100000 + i` in twelve digits. -/
def simulatedSerial (i : Nat) : String :=
  let digits := toString (100000 + i)
  String.ofList (List.replicate (12 - digits.length) '0') ++ digits

/-- What the `i`-th sensor notes in its first round: how its first connection ended, if it
ended at once. -/
def SimulatorSettings.firstRound (s : SimulatorSettings) (host : Host) (i : Nat) : List String :=
  match host.dial s.server with
  | .error e =>
    ["[" ++ simulatedSerial i ++ "] connection ended: dial " ++ s.server ++ ": " ++ e ++ "; retrying in "
      ++ s.retry.text]
  | .ok () => []

/-- The run of the simulator once its options are read. -/
def SimulatorSettings.start (s : SimulatorSettings) (host : Host) : Run :=
  if s.count < 1 then ({} : Run).note "at least one sensor is required" |>.exit 1
  else if s.points < 0 then
    { log := ["panic: runtime error: makeslice: len out of range"], ending := .exited 2 }
  else
    let r := ({} : Run).note (toString s.count ++ " simulated sensors dialing " ++ s.server)
    let r := ((List.range s.count.toNat).flatMap (s.firstRound host)).foldl Run.note r
    { r with ending := .serving ["Graceful shutdown complete"] }

/-- Run the simulator with these arguments on a host. -/
def launchSimulator (host : Host) (args : List String) : Run :=
  match readOptions simulatorOptions {} args with
  | .error e => { log := e.message.toList ++ helpLines simulatorProgram simulatorOptions, ending := .exited e.exitCode }
  | .ok (s, _) => s.start host

end DepthRig.Launch
