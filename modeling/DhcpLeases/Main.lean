import DhcpLeases.Command.Run
import Std.Time.Zoned.Database

namespace DhcpLeases

def FileFault.ofError : IO.Error → FileFault
  | .noFileOrDirectory _ _ _ => .notFound
  | .inappropriateType _ code _ => if code = 21 then .isDirectory else .notDirectory
  | e => .other (toString e)

def fileContents (path : String) : IO (Except FileFault (List UInt8)) := do
  if path.toList.contains '\x00' then
    return .error .nulInName
  try
    return .ok (← IO.FS.readBinFile path).toList
  catch e =>
    return .error (.ofError e)

def systemNow : IO Time.Instant := do
  let nanos := (← Std.Time.Timestamp.now).toNanosecondsSinceUnixEpoch.val
  return (Time.Instant.of? (nanos / Time.nanosPerSecond)
    (nanos % Time.nanosPerSecond).toNat).getD .epoch

/-- A service runs if its control group has processes. -/
def systemProbe (service : String) : IO Probe := do
  match ← fileContents ("/sys/fs/cgroup/system.slice/" ++ service ++ "/cgroup.procs") with
  | .ok processes => return .answered (!processes.isEmpty)
  | .error .notFound => return .answered false
  | .error fault => return .impossible fault.message

/-- The offset of the system's zone from UTC at the time of the run; without a known zone it is UTC. -/
def systemOffset : IO Int := do
  try
    let rules ← Std.Time.Database.defaultGetLocalZoneRules
    return (rules.timezoneAt (← Std.Time.Timestamp.now)).offset.second.val
  catch _ =>
    return 0

def systemHost : IO (Command.Host IO) := do
  let offset ← systemOffset
  return { contents := fileContents, now := systemNow, probe := systemProbe, offset }

end DhcpLeases

def main (args : List String) : IO UInt32 := do
  let out ← DhcpLeases.Command.program (← DhcpLeases.systemHost) args
  for line in out.log do
    IO.eprintln line
  IO.eprint out.stderr
  IO.print out.stdout
  return out.exitCode.toUInt32
