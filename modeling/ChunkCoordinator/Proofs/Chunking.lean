import ChunkCoordinator.File
import Mathlib.Algebra.GroupWithZero.Nat
import Mathlib.Data.List.Nodup

/-!
# Chunks cover their file

In exact numbers a chunk is what is left of the file behind its offset, up to the chunk size
(`toNat_chunkLength`) : an offset that stops at the greatest word does no harm, as no file goes on
behind it. There are as many chunks as it takes (`size_le_chunkCount`), so their lengths add up to
the size of the file (`sum_chunkLengths`). Chunks that are numbered through and cut like that are
those of a complete file (`FileRecord.Complete`).
-/

namespace ChunkCoordinator

theorem toNat_chunkLength (size chunkSize index : UInt64) :
    (chunkLength size chunkSize index).toNat =
      min (size.toNat - index.toNat * chunkSize.toNat) chunkSize.toNat := by
  have hsize : size.toNat < UInt64.size := size.toNat_lt
  rw [chunkLength, UInt64.toNat_min, UInt64.toNat_satSub, UInt64.toNat_satMul]
  congr 1
  omega

/-- The first chunk, and one more for each chunk size that fits in front of the last byte. This is
so in the case that is set apart as well, as the quotient is zero there. -/
theorem toNat_chunkCount (size chunkSize : UInt64) :
    (chunkCount size chunkSize).toNat = (size.toNat - 1) / chunkSize.toNat + 1 := by
  unfold chunkCount
  split
  · next h => rcases h with rfl | rfl <;> simp
  · next h =>
    have hpos : 0 < size.toNat := UInt64.toNat_pos fun hzero => h (.inr hzero)
    have hpred : (size - 1).toNat = size.toNat - 1 :=
      UInt64.toNat_sub_of_le _ _ (UInt64.le_iff_toNat_le.2 hpos)
    have hle : (size.toNat - 1) / chunkSize.toNat ≤ size.toNat - 1 := Nat.div_le_self _ _
    have hlt := size.toNat_lt
    rw [UInt64.toNat_add, UInt64.toNat_div, hpred]
    exact Nat.mod_eq_of_lt (by simp only [UInt64.toNat_one]; omega)

/-- That many chunks are as long as the file. -/
theorem size_le_chunkCount {size chunkSize : UInt64} (h : chunkSize ≠ 0) :
    size.toNat ≤ (chunkCount size chunkSize).toNat * chunkSize.toNat := by
  have hlt := Nat.lt_mul_div_succ (size.toNat - 1) (UInt64.toNat_pos h)
  rw [toNat_chunkCount, Nat.mul_comm]
  omega

@[simp] theorem length_chunkLengths (size chunkSize : UInt64) :
    (chunkLengths size chunkSize).length = (chunkCount size chunkSize).toNat := by
  simp [chunkLengths]

/-- The first chunks cover the file up to their common length. -/
theorem sum_range_min (size chunkSize : Nat) : ∀ count : Nat,
    ((List.range count).map fun i => min (size - i * chunkSize) chunkSize).sum =
      min size (count * chunkSize)
  | 0 => by simp
  | count + 1 => by
    rw [List.range_succ, List.map_append, List.sum_append, sum_range_min size chunkSize count,
      List.map_singleton, List.sum_singleton, Nat.succ_mul]
    omega

theorem sum_chunkLengths {size chunkSize : UInt64} (h : chunkSize ≠ 0) :
    ((chunkLengths size chunkSize).map UInt64.toNat).sum = size.toNat := by
  have hindex : ∀ i ∈ List.range (chunkCount size chunkSize).toNat,
      (chunkLength size chunkSize (.ofNat i)).toNat =
        min (size.toNat - i * chunkSize.toNat) chunkSize.toNat := by
    intro i hi
    have hlt := Nat.lt_trans (List.mem_range.1 hi) (chunkCount size chunkSize).toNat_lt
    rw [toNat_chunkLength, UInt64.toNat_ofNat_of_lt' hlt]
  have hcover : size.toNat ≤ (chunkCount size chunkSize).toNat * chunkSize.toNat :=
    size_le_chunkCount h
  rw [chunkLengths, List.map_map]
  refine Eq.trans (congrArg List.sum (List.map_congr_left hindex)) ?_
  rw [sum_range_min]
  exact Nat.min_eq_left hcover

/-! ## Complete files -/

/-- These are all chunks of the file, in their order. -/
structure FileRecord.Complete (file : FileRecord) (chunks : List ChunkRecord) : Prop where
  indices : chunks.map (fun r => r.index.toNat) = List.range file.totalChunks.toNat
  in_file : ∀ r ∈ chunks, r.file = file.id
  desired : ∀ r ∈ chunks, r.desired = file.replication
  size : ∀ r ∈ chunks, r.size = chunkLength file.size file.chunkSize r.index
  total : (chunks.map fun r => r.size.toNat).sum = file.size.toNat

namespace FileRecord.Complete

variable {file : FileRecord} {chunks : List ChunkRecord}

/-- Chunks that are numbered through and as long as they should be. -/
theorem of_lengths (hsize : file.chunkSize ≠ 0)
    (htotal : file.totalChunks = chunkCount file.size file.chunkSize)
    (hindex : chunks.map ChunkRecord.index = (List.range file.totalChunks.toNat).map UInt64.ofNat)
    (hlengths : chunks.map ChunkRecord.size = chunkLengths file.size file.chunkSize)
    (hfile : ∀ r ∈ chunks, r.file = file.id)
    (hdesired : ∀ r ∈ chunks, r.desired = file.replication) : file.Complete chunks where
  indices := by
    have hword : ∀ i ∈ List.range file.totalChunks.toNat, (UInt64.ofNat i).toNat = i := fun i hi =>
      UInt64.toNat_ofNat_of_lt' (Nat.lt_trans (List.mem_range.1 hi) file.totalChunks.toNat_lt)
    calc chunks.map (fun r => r.index.toNat)
      _ = (chunks.map ChunkRecord.index).map UInt64.toNat := by rw [List.map_map]; rfl
      _ = (List.range file.totalChunks.toNat).map (fun i => (UInt64.ofNat i).toNat) := by
          rw [hindex, List.map_map]; rfl
      _ = _ := (List.map_congr_left hword).trans (List.map_id _)
  in_file := hfile
  desired := hdesired
  size := by
    refine List.map_inj_left.1 ?_
    calc chunks.map ChunkRecord.size
      _ = (chunks.map ChunkRecord.index).map (chunkLength file.size file.chunkSize) := by
          rw [hlengths, hindex, htotal, List.map_map]; rfl
      _ = _ := List.map_map
  total := by
    rw [← sum_chunkLengths hsize, ← hlengths, List.map_map]
    rfl

/-- They are in the order of their indices. -/
theorem sorted (h : file.Complete chunks) :
    chunks.Pairwise fun a b => ChunkRecord.leByIndex a b := by
  have hindices : (chunks.map fun r => r.index.toNat).Pairwise (· < ·) := by
    rw [h.indices]
    exact List.pairwise_lt_range
  refine (List.pairwise_map.1 hindices).imp fun hlt => ?_
  exact decide_eq_true (UInt64.le_iff_toNat_le.2 (Nat.le_of_lt hlt))

theorem index_lt (h : file.Complete chunks) {r : ChunkRecord} (hr : r ∈ chunks) :
    r.index < file.totalChunks := by
  have hindex : r.index.toNat ∈ chunks.map fun r => r.index.toNat := List.mem_map_of_mem hr
  rw [h.indices, List.mem_range] at hindex
  exact UInt64.lt_iff_toNat_lt.2 hindex

end FileRecord.Complete

end ChunkCoordinator
