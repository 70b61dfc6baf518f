import ChunkCoordinator.File

/-!
# Copy instructions

An `Instruction` asks one node to fetch a copy of one chunk. At most one is pending for a chunk
and a target, which form its `CopyKey`. A `SweepReport` says what a replication sweep did.
-/

namespace ChunkCoordinator

/-- What an instruction is about: which chunk is to be copied to which node. -/
structure CopyKey where
  chunk : ChunkId
  target : NodeId
  deriving DecidableEq

namespace CopyKey

instance : Ord CopyKey := ⟨compareLex (compareOn chunk) (compareOn target)⟩

instance : Std.TransOrd CopyKey :=
  inferInstanceAs (Std.TransCmp (compareLex (compareOn CopyKey.chunk) (compareOn CopyKey.target)))

instance : Std.LawfulEqOrd CopyKey where
  eq_of_compare {a b} h := by
    obtain ⟨h₁, h₂⟩ := compareLex_eq_eq.1 h
    have h₁ : a.chunk = b.chunk := Std.LawfulEqOrd.eq_of_compare h₁
    have h₂ : a.target = b.target := Std.LawfulEqOrd.eq_of_compare h₂
    cases a
    cases b
    simp_all

end CopyKey

/-- An order to copy a chunk to a target. It has no source if no healthy copy is left. -/
structure Instruction where
  chunk : ChunkId
  file : FileId
  chunkIndex : UInt64
  size : UInt64
  source : Option NodeId
  target : NodeId
  issuedAt : UInt64
  deriving DecidableEq

namespace Instruction

/-- What the instruction is about. -/
def key (i : Instruction) : CopyKey := ⟨i.chunk, i.target⟩

/-- There is no copy to copy from. -/
def isUnrecoverable (i : Instruction) : Bool := i.source.isNone

end Instruction

/-- What a replication sweep did. `emitted` are the new instructions and `unrecoverable` the
chunks without a healthy copy, both in the order in which chunks were visited; `completed` and
`expired` count instructions taken from the queue, `shortOfTargets` the chunks for which too few
nodes were found. -/
structure SweepReport where
  startedAt : UInt64
  emitted : List Instruction
  unrecoverable : List ChunkId
  completed : Nat
  expired : Nat
  shortOfTargets : Nat
  deriving DecidableEq

end ChunkCoordinator
