import ChunkCoordinator.Client

/-!
# The administrator's command line

`Invocation.parse?` reads the arguments of the command and `Invocation.run` makes the call that
they ask for; `CommandLine.run` does both. An `Outcome` is what the command prints and how it ends:
with 0 if all went well, with 1 and an explanation if the call failed, with 2 if the arguments make
no sense.
-/

namespace ChunkCoordinator.CommandLine

/-- What an administrator wants. -/
inductive Command where
  | health
  | status
  | nodes
  | files
  | file (id : FileId)
  | deleteFile (id : FileId)
  | rebalances
  | sweep
  | fail (node : NodeId)
  | restore (node : NodeId)
  | remove (node : NodeId) (force : Bool)
  | metrics
  deriving DecidableEq

/-- A command and the server that it is for. -/
structure Invocation where
  address : String
  command : Command
  deriving DecidableEq

/-! ## Arguments -/

/-- The arguments behind the name of a command: those that stand for themselves, and how often
force is asked for. -/
structure Arguments where
  plain : List String
  force : Nat
  deriving DecidableEq

/-- The argument may be an option. -/
def isDashed (arg : String) : Bool := arg.toList.head? = some '-' && arg ≠ "-"

/-- Sorts the arguments behind the name of a command. Behind `--` each stands for itself. -/
def Arguments.parse? : List String → Option Arguments
  | [] => some ⟨[], 0⟩
  | arg :: args =>
    if arg = "--" then some ⟨args, 0⟩
    else if arg = "--force" then (parse? args).map fun a => { a with force := a.force + 1 }
    else if isDashed arg then none
    else (parse? args).map fun a => { a with plain := arg :: a.plain }

/-- The command of a given name. -/
def Command.ofArguments? (name : String) (a : Arguments) : Option Command :=
  if name = "remove" then
    match a with
    | ⟨[node], 0⟩ => some (.remove node false)
    | ⟨[node], 1⟩ => some (.remove node true)
    | _ => none
  else if a.force ≠ 0 then none
  else
    match a.plain with
    | [] =>
      match name with
      | "health" => some .health
      | "status" => some .status
      | "nodes" => some .nodes
      | "files" => some .files
      | "rebalances" => some .rebalances
      | "sweep" => some .sweep
      | "metrics" => some .metrics
      | _ => none
    | [arg] =>
      match name with
      | "file" => (Uuid.parse? arg).map .file
      | "delete-file" => (Uuid.parse? arg).map .deleteFile
      | "fail" => some (.fail arg)
      | "restore" => some (.restore arg)
      | _ => none
    | _ => none

namespace Invocation

/-- Where a coordinator listens unless told otherwise. -/
def defaultAddress : String := "http://127.0.0.1:7070"

/-- The option that names the server. -/
def addressOption : String := "--master-url"

/-- The server that a single argument names, as `--master-url=…` does. -/
def joinedAddress? (arg : String) : Option String :=
  ((addressOption ++ "=").toList.isPrefixOf? arg.toList).map .ofList

/-- Reads the name of a command and what follows it. -/
def parseCommand? (address : String) : List String → Option Invocation
  | [] => none
  | name :: args => do
    return ⟨address, ← Command.ofArguments? name (← Arguments.parse? args)⟩

/-- Reads the arguments. The server may be named once, in front of the command. -/
def parse? (args : List String) : Option Invocation :=
  match args with
  | [] => none
  | arg :: args =>
    if arg = addressOption then
      match args with
      | address :: args => if isDashed address then none else parseCommand? address args
      | [] => none
    else
      match joinedAddress? arg with
      | some address => parseCommand? address args
      | none => parseCommand? defaultAddress (arg :: args)

end Invocation

/-! ## Output -/

/-- The text, filled up with spaces to a width. -/
def padRight (width : Nat) (s : String) : String :=
  s ++ .ofList (List.replicate (width - s.length) ' ')

/-- A node in a listing. -/
def nodeLine (n : Node) : String :=
  s!"{padRight 16 n.id} {padRight 10 n.health.word} {n.host}:{padRight 6 n.port.toNat.repr} " ++
    s!"free {n.free.toNat}/{n.capacity.toNat} bytes\n"

/-- A file in a listing. -/
def fileLine (f : FileSummary) : String :=
  s!"{f.file.toText} {padRight 24 f.name} {f.size.toNat} bytes, {f.totalChunks.toNat} chunks, " ++
    s!"{f.underReplicated} under-replicated\n"

/-- The lines of a listing, or a word in their place. -/
def listing (none : String) (lines : List String) : String :=
  if lines.isEmpty then none ++ "\n" else String.join lines

/-- What a sweep did, in a sentence. -/
def sweepLine (r : SweepReport) : String :=
  let sourceless := r.emitted.countP Instruction.isUnrecoverable
  s!"emitted {r.emitted.length} instruction(s) ({sourceless} without a source), " ++
    s!"completed {r.completed}, expired {r.expired}, " ++
    s!"{r.unrecoverable.length} unrecoverable chunk(s), {r.shortOfTargets} short of targets\n"

/-- A value as JSON, and the end of the line. -/
def jsonLines {α : Type} (codec : Codec α) (value : α) : String := codec.pretty value ++ "\n"

/-! ## Running a command -/

/-- How a command ended: with a status, what it printed, and why it failed if it did. It has no
outcome if the server gave up. -/
inductive Outcome where
  | exited (status : Nat) (output : String) (error : Option String)
  | abandoned
  deriving DecidableEq

/-- What a command prints once its call is answered. -/
def Outcome.ofResult {α : Type} (print : α → String) : Except Call.Failure α → Outcome
  | .ok value => exited 0 (print value) none
  | .error .abandoned => abandoned
  | .error failure => exited 1 "" (some failure.message)

namespace Command

/-- A call, and what to print once it is answered. -/
structure Errand where
  answer : Type
  call : Call answer
  print : answer → String

/-- The call that a command makes. -/
def errand : Command → Errand
  | health => ⟨_, .health, jsonLines HealthStatus.codec⟩
  | status => ⟨_, .clusterStatus, jsonLines ClusterStatus.codec⟩
  | nodes => ⟨_, .listNodes, fun ns => listing "no nodes registered" (ns.map nodeLine)⟩
  | files => ⟨_, .listFiles, fun fs => listing "no files" (fs.map fileLine)⟩
  | file id => ⟨_, .fileMetadata id, jsonLines FileMetadata.codec⟩
  | deleteFile id => ⟨_, .deleteFile id, fun _ => s!"deleted file {id.toText}\n"⟩
  | rebalances => ⟨_, .listRebalances, jsonLines RebalanceListing.codec⟩
  | sweep => ⟨_, .triggerSweep, sweepLine⟩
  | fail node => ⟨_, .failNode node, fun _ => s!"node {node} marked unhealthy\n"⟩
  | restore node => ⟨_, .restoreNode node, fun _ => s!"node {node} restored\n"⟩
  | remove node force => ⟨_, .removeNode node force, fun _ => s!"node {node} removed\n"⟩
  | metrics => ⟨_, .metricsText, id⟩

end Command

/-- Makes the call that a command asks for. -/
def Invocation.run {σ : Type} (i : Invocation) (transport : Transport σ) (s : σ) : Outcome × σ :=
  let errand := i.command.errand
  let (result, s) := errand.call.send transport i.address s
  (.ofResult errand.print result, s)

/-- Runs the command with given arguments. -/
def run {σ : Type} (args : List String) (transport : Transport σ) (s : σ) :
    Outcome × σ :=
  match Invocation.parse? args with
  | some invocation => invocation.run transport s
  | none => (.exited 2 "" none, s)

end ChunkCoordinator.CommandLine
