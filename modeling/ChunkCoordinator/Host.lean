import ChunkCoordinator.Client
import ChunkCoordinator.SavedState

/-!
# A coordinator with its file

A `Host` is a running coordinator together with the place of its file. It saves its state there
(`Host.persist`, `Host.persistIfDirty`), starts anew from it (`Host.reboot`) and does its periodic
work (`Host.runBackground`), of which each second is one step.
-/

namespace ChunkCoordinator

/-- The place of a file: nothing is there, or a file with some text, or something that is no file
and lets none be written. -/
inductive Disk where
  | empty
  | file (text : String)
  | blocked
  deriving DecidableEq

/-- A running coordinator and the place of its file. -/
structure Host where
  cluster : Cluster
  disk : Disk

namespace Host

/-- A new coordinator without a file. -/
def fresh (settings : Settings) (ids : IdSupply) : Host := ⟨.fresh settings ids, .empty⟩

/-! ## Saving -/

/-- Saves the state. The answer is the text of the file, if it could be written. -/
def persist (h : Host) (now : UInt64) : Option String × Host :=
  match h.disk with
  | .blocked => (none, h)
  | _ =>
    let text := (h.cluster.exportSnapshot now).toText
    (some text, { h with disk := .file text })

/-- Saves the state if it has changed since the last save. A state that could not be saved still
counts as changed. -/
def persistIfDirty (h : Host) (now : UInt64) : Host :=
  let (dirty, cluster) := h.cluster.takeDirty
  if dirty then
    match ({ h with cluster }).persist now with
    | (some _, h) => h
    | (none, h) => { h with cluster := h.cluster.markDirty }
  else { h with cluster }

/-- The text of the file, if there is one. -/
def saved (h : Host) : Option String :=
  match h.disk with
  | .file text => some text
  | _ => none

/-- Removes the file. The answer tells whether there was one. -/
def eraseSaved (h : Host) : Bool × Host :=
  match h.disk with
  | .file _ => (true, { h with disk := .empty })
  | _ => (false, h)

/-- Lets no file be written. A file that was there is gone. The answer tells whether files could
be written before. -/
def block (h : Host) : Bool × Host := (h.disk ≠ .blocked, { h with disk := .blocked })

/-- Lets files be written again. The answer tells whether none could be. -/
def unblock (h : Host) : Bool × Host :=
  match h.disk with
  | .blocked => (true, { h with disk := .empty })
  | _ => (false, h)

/-! ## Starting -/

/-- What came of a start: there was no file, or the state in it was taken over, or it could not
be read or not be restored. -/
inductive Start where
  | empty
  | restored
  | unreadable
  | flawed (flaw : SavedState.Flaw)
  | refused (fault : Fault)

/-- The explanation of a start that failed. -/
def Start.problem? : Start → Option String
  | empty | restored => none
  | unreadable => some "the saved state cannot be read"
  | flawed flaw => some flaw.message
  | refused (.refused why) => some why.message
  | refused .overflow => some "the totals of the saved state are too large"

/-- Starts anew with the same settings from the file. Nothing else is kept, but for the supply of
identifiers. -/
def reboot (h : Host) (now : UInt64) : Start × Host :=
  let settings := h.cluster.settings
  let cluster := Cluster.fresh settings h.cluster.ids
  match h.disk with
  | .empty => (.empty, { h with cluster })
  | .blocked => (.unreadable, { h with cluster })
  | .file text =>
    match Snapshot.ofText (settings.snapshotPath.getD "") text with
    | .error flaw => (.flawed flaw, { h with cluster })
    | .ok snapshot =>
      match cluster.restoreSnapshot snapshot now with
      | ⟨.ok _, cluster⟩ => (.restored, { h with cluster })
      | ⟨.error fault, cluster⟩ => (.refused fault, { h with cluster })

/-! ## Periodic work -/

/-- Makes nodes unhealthy that have not been heard of for too long. -/
def checkTimeouts (h : Host) (now : UInt64) : Host :=
  { h with cluster := (h.cluster.sweepTimeouts now).2 }

/-- Runs a replication sweep and saves the state. What goes wrong is passed over. -/
def replicate (h : Host) (now : UInt64) (persist : Bool) : Host :=
  let h := { h with cluster := (h.cluster.sweep now).cluster }
  if persist then h.persistIfDirty now else h

/-- The work that is due when a given number of seconds has passed since the beginning. In the
beginning, no replication sweep is due. -/
def tick (start : UInt64) (persist : Bool) (h : Host) (elapsed : Nat) : Host :=
  let now := start + .ofNat elapsed
  let due (period : UInt64) : Bool := elapsed % period.toNat = 0
  let settings := h.cluster.settings
  let h := if due settings.timeoutSweepInterval then h.checkTimeouts now else h
  let h := if 0 < elapsed && due settings.rebalanceInterval then h.replicate now persist else h
  if persist && due settings.snapshotInterval then h.persistIfDirty now else h

/-- Does the periodic work from a second up to and including the one that is `seconds` later. -/
def runBackground (h : Host) (start : UInt64) (seconds : Nat) (persist : Bool) : Host :=
  (List.range (seconds + 1)).foldl (tick start persist) h

/-! ## Serving -/

/-- The host as a server, at a given time. -/
def transport (now : UInt64) : Transport Host := fun request h =>
  let (delivery, cluster) := Transport.server now request h.cluster
  (delivery, { h with cluster })

end Host

end ChunkCoordinator
