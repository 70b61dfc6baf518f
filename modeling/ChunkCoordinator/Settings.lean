import ChunkCoordinator.SocketAddress
import ChunkCoordinator.Text.Blank
import ChunkCoordinator.Text.Quoted
import ChunkCoordinator.Word

/-!
# Settings

`Settings.read` takes the settings from named texts, such as the variables of an environment. A
text that is absent leaves the default. The first malformed text in reading order is reported,
and only if there is none the first period or size that is zero.
-/

namespace ChunkCoordinator

/-- The settings of a coordinator. Periods are in seconds. -/
structure Settings where
  bindAddress : SocketAddress
  dataDir : Option String
  chunkSize : UInt64
  replication : UInt64
  heartbeatInterval : UInt64
  heartbeatTimeout : UInt64
  rebalanceInterval : UInt64
  instructionTtlSweeps : UInt64
  snapshotInterval : UInt64
  deriving DecidableEq

/-- Why a text is no number or no address. -/
inductive Settings.Malformation where
  | emptyNumber
  | badDigit
  | numberTooLarge
  | badAddress
  deriving DecidableEq

/-- The explanation of a malformation. -/
def Settings.Malformation.message : Malformation → String
  | emptyNumber => "cannot parse integer from empty string"
  | badDigit => "invalid digit found in string"
  | numberTooLarge => "number too large to fit in target type"
  | badAddress => "invalid socket address syntax"

/-- Why settings are refused. -/
inductive Settings.Flaw where
  | malformed (name raw : String) (cause : Malformation)
  | zero (name : String)
  | overflow
  deriving DecidableEq

namespace Settings

/-- The messages of a flaw, the most general one first; an overflow has none. -/
def Flaw.chain : Flaw → List String
  | malformed name raw cause =>
    [s!"invalid value for {name}: {Text.Quoted.encode raw}", cause.message]
  | zero name => [s!"{name} must be greater than zero"]
  | overflow => []

/-- The settings that apply when no text is given. -/
def default : Settings where
  bindAddress := .v4 [127, 0, 0, 1] 7070
  dataDir := none
  chunkSize := 4194304
  replication := 3
  heartbeatInterval := 5
  heartbeatTimeout := 15
  rebalanceInterval := 15
  instructionTtlSweeps := 2
  snapshotInterval := 30

/-! ## Reading -/

/-- Reads decimal digits on from the value of those before, left to right, up to the first
character that is no digit or that makes the number too large. -/
def readWord (value : Nat) : List Char → Except Malformation UInt64
  | [] => .ok (.ofNat value)
  | c :: cs =>
    if c.isDigit then
      let value := 10 * value + (c.toNat - '0'.toNat)
      if value < UInt64.size then readWord value cs else .error .numberTooLarge
    else .error .badDigit

/-- Reads a word, which may have a plus sign in front. -/
def parseWord (s : String) : Except Malformation UInt64 :=
  match s.toList with
  | [] => .error .emptyNumber
  | '+' :: c :: cs => readWord 0 (c :: cs)
  | cs => readWord 0 cs

/-- Reads an address. -/
def parseAddress (s : String) : Except Malformation SocketAddress :=
  match SocketAddress.parse? s with
  | some address => .ok address
  | none => .error .badAddress

/-- Reads a named text without the white space around it, or takes the default. -/
def readOr {α : Type} (lookup : String → Option String) (name : String) (fallback : α)
    (parse : String → Except Malformation α) : Except Flaw α :=
  match lookup name with
  | none => .ok fallback
  | some raw => (parse (Text.trim raw)).mapError (.malformed name raw)

/-- The names of the sizes and periods, each with the value that must not be zero. -/
def positives (s : Settings) : List (String × UInt64) :=
  [("CHUNKVAULT_CHUNK_SIZE", s.chunkSize),
   ("CHUNKVAULT_REPLICATION", s.replication),
   ("CHUNKVAULT_HEARTBEAT_INTERVAL_SECS", s.heartbeatInterval),
   ("CHUNKVAULT_HEARTBEAT_TIMEOUT_SECS", s.heartbeatTimeout),
   ("CHUNKVAULT_REBALANCE_INTERVAL_SECS", s.rebalanceInterval),
   ("CHUNKVAULT_INSTRUCTION_TTL_SWEEPS", s.instructionTtlSweeps),
   ("CHUNKVAULT_SNAPSHOT_INTERVAL_SECS", s.snapshotInterval)]

/-- The names of all texts, in reading order. -/
def names : List String :=
  ["CHUNKVAULT_MASTER_BIND", "CHUNKVAULT_DATA_DIR", "CHUNKVAULT_CHUNK_SIZE",
   "CHUNKVAULT_REPLICATION", "CHUNKVAULT_HEARTBEAT_INTERVAL_SECS",
   "CHUNKVAULT_HEARTBEAT_TIMEOUT_SECS", "CHUNKVAULT_REBALANCE_INTERVAL_SECS",
   "CHUNKVAULT_INSTRUCTION_TTL_SWEEPS", "CHUNKVAULT_SNAPSHOT_INTERVAL_SECS"]

/-- Settings without zeros, in which twice the heartbeat interval is a word. -/
def validate (s : Settings) : Except Flaw Settings :=
  match s.positives.find? fun p => p.2 = 0 with
  | some (name, _) => .error (.zero name)
  | none => if s.heartbeatInterval.double?.isSome then .ok s else .error .overflow

/-- Reads every text, in order. A blank data directory counts as absent. -/
def readAll (lookup : String → Option String) : Except Flaw Settings := do
  let bindAddress ← readOr lookup "CHUNKVAULT_MASTER_BIND" default.bindAddress parseAddress
  let dataDir := (lookup "CHUNKVAULT_DATA_DIR").filter fun dir => !Text.blank dir
  let word (name : String) (fallback : UInt64) := readOr lookup name fallback parseWord
  let chunkSize ← word "CHUNKVAULT_CHUNK_SIZE" default.chunkSize
  let replication ← word "CHUNKVAULT_REPLICATION" default.replication
  let heartbeatInterval ← word "CHUNKVAULT_HEARTBEAT_INTERVAL_SECS" default.heartbeatInterval
  let heartbeatTimeout ← word "CHUNKVAULT_HEARTBEAT_TIMEOUT_SECS" default.heartbeatTimeout
  let rebalanceInterval ← word "CHUNKVAULT_REBALANCE_INTERVAL_SECS" default.rebalanceInterval
  let instructionTtlSweeps ← word "CHUNKVAULT_INSTRUCTION_TTL_SWEEPS" default.instructionTtlSweeps
  let snapshotInterval ← word "CHUNKVAULT_SNAPSHOT_INTERVAL_SECS" default.snapshotInterval
  pure {
    bindAddress, dataDir, chunkSize, replication, heartbeatInterval, heartbeatTimeout,
    rebalanceInterval, instructionTtlSweeps, snapshotInterval }

/-- Reads settings and checks them. -/
def read (lookup : String → Option String) : Except Flaw Settings := do
  (← readAll lookup).validate

/-! ## Derived settings -/

/-- How long an instruction stays good. -/
def instructionTtl (s : Settings) : UInt64 := s.rebalanceInterval.satMul s.instructionTtlSweeps

/-- The period of timeout sweeps: two of them fall into the timeout. -/
def timeoutSweepInterval (s : Settings) : UInt64 := max (s.heartbeatTimeout / 2) 1

/-- The file that holds the saved state. -/
def snapshotPath (s : Settings) : Option String :=
  s.dataDir.map fun dir =>
    if dir.toList.getLast? = some '/' then dir ++ "state/master.json"
    else dir ++ "/state/master.json"

end Settings

end ChunkCoordinator
