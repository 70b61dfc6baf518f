import ChunkCoordinator.Proofs.Chunking

/-!
# Chunks partition their file

In exact numbers a chunk begins at its index times the chunk size. It is full if the file goes on to
its end (`chunkLength_eq_chunkSize_iff`), and empty if the file does not reach its beginning
(`chunkLength_eq_zero_iff`). The chunks of a file are those that begin inside it, and the first one
in any case (`lt_chunkCount_iff`) : so no offset of a chunk leaves the words (`offset_lt`), and the
last chunk is that of the last byte (`toNat_lastIndex`). The chunk that a byte lies in is found by
division (`inChunk_iff`).

`Partitioned` says that the file is cut without gap or overlap, and `chunks_partition` that every
chunk size but zero does so, also for a file that is as long as a word can tell.
-/

namespace ChunkCoordinator

variable {size chunkSize index byte : UInt64}

/-! ## The last chunk -/

/-- The index of the last chunk. -/
def lastIndex (size chunkSize : UInt64) : UInt64 := chunkCount size chunkSize - 1

theorem toNat_lastIndex (size chunkSize : UInt64) :
    (lastIndex size chunkSize).toNat = (size.toNat - 1) / chunkSize.toNat := by
  have hcount := toNat_chunkCount size chunkSize
  have hone : (1 : UInt64) ≤ chunkCount size chunkSize := by
    rw [UInt64.le_iff_toNat_le, hcount]
    exact Nat.le_add_left _ _
  rw [lastIndex, UInt64.toNat_sub_of_le _ _ hone, hcount, UInt64.toNat_one, Nat.add_sub_cancel]

theorem toNat_chunkCount_eq_succ (size chunkSize : UInt64) :
    (chunkCount size chunkSize).toNat = (lastIndex size chunkSize).toNat + 1 := by
  rw [toNat_chunkCount, toNat_lastIndex]

theorem chunkCount_zero (chunkSize : UInt64) : chunkCount 0 chunkSize = 1 := if_pos (.inr rfl)

theorem lastIndex_zero (chunkSize : UInt64) : lastIndex 0 chunkSize = 0 := by
  rw [lastIndex, chunkCount_zero]
  rfl

/-! ## Full and empty chunks -/

theorem chunkLength_le (size chunkSize index : UInt64) :
    chunkLength size chunkSize index ≤ chunkSize := by
  rw [UInt64.le_iff_toNat_le, toNat_chunkLength]
  exact Nat.min_le_right _ _

section Cut

variable (h : chunkSize ≠ 0)
include h

theorem chunkLength_eq_chunkSize_iff : chunkLength size chunkSize index = chunkSize ↔
    (index.toNat + 1) * chunkSize.toNat ≤ size.toNat := by
  have hpos := UInt64.toNat_pos h
  rw [← UInt64.toNat_inj, toNat_chunkLength, Nat.succ_mul]
  omega

theorem chunkLength_eq_zero_iff : chunkLength size chunkSize index = 0 ↔
    size.toNat ≤ index.toNat * chunkSize.toNat := by
  have hpos := UInt64.toNat_pos h
  rw [← UInt64.toNat_inj, toNat_chunkLength, UInt64.toNat_zero]
  omega

/-- The chunks of a file begin inside it, but for the first one of an empty file. -/
theorem lt_chunkCount_iff : index < chunkCount size chunkSize ↔
    index = 0 ∨ index.toNat * chunkSize.toNat < size.toNat := by
  rw [UInt64.lt_iff_toNat_lt, toNat_chunkCount, Nat.lt_succ_iff,
    Nat.le_div_iff_mul_le (UInt64.toNat_pos h)]
  -- The byte before the end of an empty file is taken to be its end, which lets the first chunk pass.
  constructor
  · intro hle
    by_cases hindex : index = 0
    · exact .inl hindex
    · have hoffset := Nat.mul_pos (UInt64.toNat_pos hindex) (UInt64.toNat_pos h)
      exact .inr (by omega)
  · rintro (rfl | hlt)
    · simp
    · omega

/-- No offset of a chunk leaves the words. -/
theorem offset_lt (hindex : index < chunkCount size chunkSize) :
    index.toNat * chunkSize.toNat < UInt64.size := by
  rcases (lt_chunkCount_iff h).1 hindex with rfl | hlt
  · simp
  · exact Nat.lt_trans hlt size.toNat_lt

theorem chunkLength_of_lt_lastIndex (hindex : index < lastIndex size chunkSize) :
    chunkLength size chunkSize index = chunkSize := by
  rw [UInt64.lt_iff_toNat_lt, toNat_lastIndex, Nat.lt_iff_add_one_le,
    Nat.le_div_iff_mul_le (UInt64.toNat_pos h)] at hindex
  exact (chunkLength_eq_chunkSize_iff h).2 (Nat.le_trans hindex (Nat.sub_le _ _))

theorem chunkLength_lastIndex_eq_zero_iff :
    chunkLength size chunkSize (lastIndex size chunkSize) = 0 ↔ size = 0 := by
  have hoffset := Nat.div_mul_le_self (size.toNat - 1) chunkSize.toNat
  rw [chunkLength_eq_zero_iff h, toNat_lastIndex, ← UInt64.toNat_inj, UInt64.toNat_zero]
  omega

theorem chunkLength_of_chunkCount_le (hindex : chunkCount size chunkSize ≤ index) :
    chunkLength size chunkSize index = 0 := by
  rw [← UInt64.not_lt, lt_chunkCount_iff h, not_or, Nat.not_lt] at hindex
  exact (chunkLength_eq_zero_iff h).2 hindex.2

end Cut

/-! ## Bytes -/

/-- The byte lies behind the offset of the chunk and within its length. -/
structure InChunk (size chunkSize index byte : UInt64) : Prop where
  begins : index.toNat * chunkSize.toNat ≤ byte.toNat
  ends : byte.toNat < index.toNat * chunkSize.toNat + (chunkLength size chunkSize index).toNat

theorem inChunk_iff (h : chunkSize ≠ 0) :
    InChunk size chunkSize index byte ↔ byte < size ∧ index = byte / chunkSize := by
  have hpos := UInt64.toNat_pos h
  have hdiv : index = byte / chunkSize ↔ index.toNat * chunkSize.toNat ≤ byte.toNat ∧
      byte.toNat ≤ index.toNat * chunkSize.toNat + chunkSize.toNat - 1 := by
    rw [← UInt64.toNat_inj, UInt64.toNat_div, eq_comm, Nat.div_eq_iff hpos]
  have hlength := toNat_chunkLength size chunkSize index
  rw [hdiv, UInt64.lt_iff_toNat_lt]
  constructor
  · rintro ⟨hbegins, hends⟩
    omega
  · rintro ⟨hbyte, hbegins, hends⟩
    exact ⟨hbegins, by omega⟩

/-! ## The laws together -/

/-- The chunks take the file apart without gap or overlap. -/
structure Partitioned (size chunkSize : UInt64) : Prop where
  /-- There is a last chunk. -/
  count : (chunkCount size chunkSize).toNat = (lastIndex size chunkSize).toNat + 1
  /-- Together the chunks are as long as the file. -/
  total : ((chunkLengths size chunkSize).map UInt64.toNat).sum = size.toNat
  /-- Every chunk in front of the last one is full. -/
  full : ∀ i < lastIndex size chunkSize, chunkLength size chunkSize i = chunkSize
  /-- The last chunk of a file with bytes has one, and is no longer than the others. -/
  last : size ≠ 0 → 1 ≤ chunkLength size chunkSize (lastIndex size chunkSize) ∧
    chunkLength size chunkSize (lastIndex size chunkSize) ≤ chunkSize
  /-- A file without bytes is one chunk without bytes. -/
  empty : size = 0 → chunkCount size chunkSize = 1 ∧ chunkLength size chunkSize 0 = 0
  /-- The offset of a chunk is the exact product. -/
  offset : ∀ i < chunkCount size chunkSize, i.toNat * chunkSize.toNat < UInt64.size ∧
    (i.satMul chunkSize).toNat = i.toNat * chunkSize.toNat
  /-- Nothing follows the last chunk, whatever the index. -/
  beyond : ∀ i, chunkCount size chunkSize ≤ i → chunkLength size chunkSize i = 0
  /-- A byte lies in a chunk if it is one of the file, and in just one then. -/
  bytes : ∀ i byte, InChunk size chunkSize i byte ↔ byte < size ∧ i = byte / chunkSize

/-- Every chunk size but zero partitions every file. -/
theorem chunks_partition (h : chunkSize ≠ 0) : Partitioned size chunkSize where
  count := toNat_chunkCount_eq_succ size chunkSize
  total := sum_chunkLengths h
  full _ hi := chunkLength_of_lt_lastIndex h hi
  last hsize := by
    have hbyte := mt (chunkLength_lastIndex_eq_zero_iff h).1 hsize
    exact ⟨UInt64.le_iff_toNat_le.2 (UInt64.toNat_pos hbyte), chunkLength_le _ _ _⟩
  empty hsize := by
    subst hsize
    have hlast : chunkLength 0 chunkSize (lastIndex 0 chunkSize) = 0 :=
      (chunkLength_lastIndex_eq_zero_iff h).2 rfl
    rw [lastIndex_zero] at hlast
    exact ⟨chunkCount_zero chunkSize, hlast⟩
  offset i hi := by
    have hlt := offset_lt h hi
    refine ⟨hlt, ?_⟩
    rw [UInt64.toNat_satMul]
    exact Nat.min_eq_left (Nat.le_pred_of_lt hlt)
  beyond _ hi := chunkLength_of_chunkCount_le h hi
  bytes _ _ := inChunk_iff h

/-- The longest file in chunks of two bytes: the last of them holds one byte, and the offset of the
chunk behind it, which would be no word, stops at the end of the file. -/
theorem chunks_partition_longestFile :
    (2 : UInt64) ≠ 0 ∧ Partitioned .greatest 2 ∧
      lastIndex .greatest 2 = 0x7FFFFFFFFFFFFFFF ∧
      chunkLength .greatest 2 0x7FFFFFFFFFFFFFFF = 1 ∧
      UInt64.satMul 0x8000000000000000 2 = .greatest ∧
      chunkLength .greatest 2 0x8000000000000000 = 0 :=
  ⟨by decide, chunks_partition (by decide), by decide, by decide, by decide, by decide⟩

end ChunkCoordinator
