import ChunkCoordinator.CommandLine
import ChunkCoordinator.Host
import Std.Time.DateTime.Timestamp

/-!
# The command

Runs one command of an administrator on the coordinator whose state the environment names: reads
the settings and the saved state, makes the call, and saves the state if it has changed.
-/

namespace ChunkCoordinator.Main

/-- The time in seconds. -/
def currentTime : IO UInt64 := do
  return .ofNat (← Std.Time.Timestamp.now).toSecondsSinceUnixEpoch.val.toNat

/-- A random word. -/
def randomWord : IO UInt64 := return .ofNat (← IO.rand 0 (UInt64.size - 1))

/-- What is at a path. -/
def readDisk (path : String) : IO Disk := do
  match ← (IO.FS.readFile path).toBaseIO with
  | .ok text => return .file text
  | .error (.noFileOrDirectory ..) => return .empty
  | .error _ => return .blocked

/-- Writes a file and the directory that holds it. -/
def writeDisk (path text : String) : IO Unit := do
  let segments := path.splitOn "/"
  IO.FS.createDirAll ("/".intercalate segments.dropLast)
  IO.FS.writeFile path text

/-- Prints what a command has to say. The answer is its status. -/
def finish : CommandLine.Outcome → IO UInt32
  | .exited status output error => do
    IO.print output
    if let some error := error then IO.eprintln s!"Error: {error}"
    return .ofNat status
  | .abandoned => do
    IO.eprintln "Error: the coordinator gave up"
    return 1

/-- Runs a command on a host and saves the state if it has changed. -/
def runOn (host : Host) (now : UInt64) (args : List String) : IO UInt32 := do
  let (outcome, host) := CommandLine.run args (Host.transport now) host
  let host := host.persistIfDirty now
  match host.cluster.settings.snapshotPath, host.saved with
  | some path, some text => writeDisk path text
  | _, _ => pure ()
  finish outcome

/-- Starts the coordinator from the environment and runs the command on it. -/
def run (args : List String) : IO UInt32 := do
  let texts ← Settings.names.mapM fun name => return (name, ← IO.getEnv name)
  match Settings.read fun name => (texts.lookup name).join with
  | .error flaw =>
    flaw.chain.forM IO.eprintln
    return 1
  | .ok settings =>
    let disk ← settings.snapshotPath.elim (pure .empty) readDisk
    let now ← currentTime
    let ids := IdSupply.stepped (← randomWord) (← randomWord)
    let (start, host) := ({ Host.fresh settings ids with disk } : Host).reboot now
    match start.problem? with
    | some problem =>
      IO.eprintln s!"Error: {problem}"
      return 1
    | none => runOn host now args

end ChunkCoordinator.Main

/-- The command. -/
def main (args : List String) : IO UInt32 := ChunkCoordinator.Main.run args
