import ChunkCoordinator.Wire

/-!
# Saved states

The state of a coordinator is saved in one file. `Snapshot.ofText` reads it and says why if it
cannot; `SavedState.init` refuses a path that names no file.
-/

namespace ChunkCoordinator

/-- Why a saved state cannot be used. -/
inductive SavedState.Flaw where
  | noParent (path : String)
  | invalid (path : String)
  | unsupported (version : UInt32) (path : String)
  deriving DecidableEq

/-- The explanation of a flaw. -/
def SavedState.Flaw.message : Flaw → String
  | noParent path => s!"snapshot path has no parent: {path}"
  | invalid path => s!"invalid master snapshot: {path}"
  | unsupported version path => s!"unsupported snapshot version {version.toNat} in {path}"

/-- Accepts a path to a file. One that names no directory to hold the file is refused. -/
def SavedState.init (path : String) : Except Flaw Unit :=
  if path.toList.all (· = '/') then .error (.noParent path) else .ok ()

namespace Snapshot

/-- The text of the file that holds a saved state. -/
def toText (s : Snapshot) : String := codec.pretty s

/-- Reads the text of a file at a path. The version is looked at last. -/
def ofText (path text : String) : Except SavedState.Flaw Snapshot :=
  match codec.parse? text with
  | none => .error (.invalid path)
  | some s =>
    if s.version = currentVersion then .ok s else .error (.unsupported s.version path)

end Snapshot

end ChunkCoordinator
