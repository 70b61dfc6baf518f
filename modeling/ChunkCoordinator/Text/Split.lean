/-!
# Splitting text

`splitOn sep` cuts a text at every separator, one part at a time (`splitOn_append`), and
`splitAtFirst sep` only at the first one.
-/

namespace ChunkCoordinator.Text

/-- The parts of a text between separators; there is one more than there are separators. -/
def splitOn (sep : Char → Bool) : List Char → List (List Char)
  | [] => [[]]
  | c :: cs =>
    if sep c then [] :: splitOn sep cs
    else
      match splitOn sep cs with
      | [] => [[c]]
      | part :: parts => (c :: part) :: parts

/-- What stands before the first separator, and what stands behind it if there is one. -/
def splitAtFirst (sep : Char) : List Char → List Char × Option (List Char)
  | [] => ([], none)
  | c :: cs => if c = sep then ([], some cs) else (splitAtFirst sep cs).map (c :: ·) id

theorem splitOn_ne_nil (sep : Char → Bool) (cs : List Char) : splitOn sep cs ≠ [] := by
  cases cs with
  | nil => simp [splitOn]
  | cons c cs =>
    rw [splitOn]
    split
    · simp
    · split <;> simp

/-- A text without separators has one part. -/
theorem splitOn_of_not_sep {sep : Char → Bool} {cs : List Char} (h : ∀ c ∈ cs, sep c = false) :
    splitOn sep cs = [cs] := by
  induction cs with
  | nil => rfl
  | cons c cs ih =>
    rw [splitOn, if_neg (by simp [h c]), ih fun d hd => h d (List.mem_cons_of_mem c hd)]

/-- Splitting goes on behind a separator. -/
theorem splitOn_append {sep : Char → Bool} {cs : List Char} {s : Char} (rest : List Char)
    (h : ∀ c ∈ cs, sep c = false) (hs : sep s) :
    splitOn sep (cs ++ s :: rest) = cs :: splitOn sep rest := by
  induction cs with
  | nil => simp [splitOn, hs]
  | cons c cs ih =>
    rw [List.cons_append, splitOn, if_neg (by simp [h c]),
      ih fun d hd => h d (List.mem_cons_of_mem c hd)]

end ChunkCoordinator.Text
