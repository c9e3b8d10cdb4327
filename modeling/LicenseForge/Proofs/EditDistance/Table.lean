import LicenseForge.EditDistance
import LicenseForge.Proofs.EditDistance.Script
import Mathlib.Data.List.Basic
import Mathlib.Data.List.Induction

/-!
# What the table of an edit distance holds

A row for one character more of the second text starts with the row without it.  So each cell is
the distance of two texts, and the distances of three pairs of shorter texts give the next one.

* `Text.lastRow_concat` : a row for one character more has one cell more.
* `Text.distance_concat` : the distance of two texts with one character more each.
* `Text.distance_le_cost`, `Text.exists_cost_eq_distance` : the distance is the least cost of an
  alignment.
* `Text.isLeast_distance` : the distance is the least length of a script.
-/

namespace LicenseForge.Text

variable {a b : Text} {x y : Char} {row : List Nat}

/-! ### Rows -/

/-- What the cell below `above` and to the right of `left` holds. -/
def cell (x y : Char) (above left diagonal : Nat) : Nat :=
  min (min (above + 1) (left + 1)) (diagonal + if x = y then 0 else 1)

theorem cellsAfter_concat (left above : Nat) (h : row.length = b.length + 1) :
    cellsAfter x left (b ++ [y]) (row ++ [above]) = cellsAfter x left b row
      ++ [cell x y above ((left :: cellsAfter x left b row).getLastD 0) (row.getLastD 0)] := by
  induction b generalizing left row with
  | nil =>
    obtain ⟨diagonal, rfl⟩ := List.length_eq_one_iff.1 h
    rfl
  | cons z b ih =>
    obtain ⟨diagonal, row, rfl⟩ := List.exists_cons_of_length_eq_add_one h
    obtain ⟨up, row, rfl⟩ := List.exists_cons_of_length_eq_add_one (Nat.succ.inj h)
    -- all other cells are to the right of the one for `z`
    have hlength : (up :: row).length = b.length + 1 := Nat.succ.inj h
    have hrest := ih (cell x z up left diagonal) hlength
    simp only [List.cons_append] at hrest ⊢
    rw [cellsAfter, cellsAfter]
    exact congrArg _ hrest

theorem nextRow_concat (above : Nat) (h : row.length = b.length + 1) :
    nextRow (b ++ [y]) (row ++ [above]) x = nextRow b row x
      ++ [cell x y above ((nextRow b row x).getLastD 0) (row.getLastD 0)] := by
  have hhead : (row ++ [above]).headD 0 = row.headD 0 := by
    obtain ⟨_, _, rfl⟩ := List.exists_cons_of_length_eq_add_one h
    rfl
  rw [nextRow, nextRow, hhead, cellsAfter_concat _ _ h]
  rfl

theorem length_nextRow (h : row.length = b.length + 1) :
    (nextRow b row x).length = b.length + 1 := by
  induction b using List.reverseRecOn generalizing row with
  | nil => rfl
  | append_singleton b y ih =>
    obtain ⟨row, above, rfl⟩ : ∃ front last, row = front ++ [last] :=
      (List.eq_nil_or_concat' row).resolve_left fun hn => by simp [hn] at h
    have hrow : row.length = b.length + 1 := by simpa using h
    rw [nextRow_concat above hrow]
    simp [ih hrow]

theorem lastRow_append_singleton (a b : Text) (x : Char) :
    lastRow (a ++ [x]) b = nextRow b (lastRow a b) x := by
  simp [lastRow]

theorem length_lastRow (a b : Text) : (lastRow a b).length = b.length + 1 := by
  induction a using List.reverseRecOn with
  | nil => simp [lastRow, firstRow]
  | append_singleton a x ih => rw [lastRow_append_singleton, length_nextRow ih]

/-- A row for one character more has one cell more. -/
theorem lastRow_concat (a b : Text) (y : Char) :
    lastRow a (b ++ [y]) = lastRow a b ++ [distance a (b ++ [y])] := by
  have hmore : ∃ n, lastRow a (b ++ [y]) = lastRow a b ++ [n] := by
    induction a using List.reverseRecOn with
    | nil => exact ⟨b.length + 1, by simp [lastRow, firstRow, List.range_succ]⟩
    | append_singleton a x ih =>
      obtain ⟨n, hn⟩ := ih
      rw [lastRow_append_singleton, lastRow_append_singleton, hn,
        nextRow_concat n (length_lastRow a b)]
      exact ⟨_, rfl⟩
  obtain ⟨n, hn⟩ := hmore
  rw [distance, hn, List.getLastD_concat]

/-! ### Distances of longer texts -/

theorem distance_nil_left (b : Text) : distance [] b = b.length := by
  simp [distance, lastRow, firstRow, List.range_succ]

theorem distance_nil_right (a : Text) : distance a [] = a.length := by
  have hrow : lastRow a [] = [a.length] := by
    induction a using List.reverseRecOn with
    | nil => rfl
    | append_singleton a x ih =>
      rw [lastRow_append_singleton, ih]
      simp [nextRow, cellsAfter]
  rw [distance, hrow]
  rfl

/-- The distance of two texts with one character more each, from the distances without one of the
characters, or without both. -/
theorem distance_concat (a b : Text) (x y : Char) :
    distance (a ++ [x]) (b ++ [y])
      = cell x y (distance a (b ++ [y])) (distance (a ++ [x]) b) (distance a b) := by
  have hrow : lastRow (a ++ [x]) (b ++ [y]) = lastRow (a ++ [x]) b
      ++ [cell x y (distance a (b ++ [y])) (distance (a ++ [x]) b) (distance a b)] := by
    rw [lastRow_append_singleton, lastRow_concat, nextRow_concat _ (length_lastRow a b),
      ← lastRow_append_singleton]
    rfl
  rw [distance, hrow, List.getLastD_concat]

theorem distance_concat_left_le (a b : Text) (x : Char) :
    distance (a ++ [x]) b ≤ distance a b + 1 := by
  rcases b.eq_nil_or_concat' with rfl | ⟨b, y, rfl⟩
  · simp [distance_nil_right]
  · rw [distance_concat, cell]
    omega

theorem distance_concat_right_le (a b : Text) (y : Char) :
    distance a (b ++ [y]) ≤ distance a b + 1 := by
  rcases a.eq_nil_or_concat' with rfl | ⟨a, x, rfl⟩
  · simp [distance_nil_left]
  · rw [distance_concat, cell]
    omega

theorem distance_concat_le (a b : Text) (x y : Char) :
    distance (a ++ [x]) (b ++ [y]) ≤ distance a b + if x = y then 0 else 1 := by
  rw [distance_concat, cell]
  omega

/-! ### Distances and scripts -/

open LicenseForge.Text.Alignment

/-- No alignment costs less than the distance. -/
theorem distance_le_cost (al : Alignment) : distance al.source al.target ≤ al.cost := by
  induction al using List.reverseRecOn with
  | nil => exact Nat.le_refl 0
  | append_singleton al col ih =>
    match col with
    | (none, none) => simpa using ih
    | (none, some y) =>
      calc distance (source (al ++ [(none, some y)])) (target (al ++ [(none, some y)]))
          = distance (source al) (target al ++ [y]) := by simp
        _ ≤ distance (source al) (target al) + 1 := distance_concat_right_le _ _ y
        _ ≤ cost al + 1 := Nat.add_le_add_right ih 1
        _ = cost (al ++ [(none, some y)]) := by simp
    | (some x, none) =>
      calc distance (source (al ++ [(some x, none)])) (target (al ++ [(some x, none)]))
          = distance (source al ++ [x]) (target al) := by simp
        _ ≤ distance (source al) (target al) + 1 := distance_concat_left_le _ _ x
        _ ≤ cost al + 1 := Nat.add_le_add_right ih 1
        _ = cost (al ++ [(some x, none)]) := by simp
    | (some x, some y) =>
      calc distance (source (al ++ [(some x, some y)])) (target (al ++ [(some x, some y)]))
          = distance (source al ++ [x]) (target al ++ [y]) := by simp
        _ ≤ distance (source al) (target al) + if x = y then 0 else 1 := distance_concat_le _ _ x y
        _ ≤ cost al + if x = y then 0 else 1 := Nat.add_le_add_right ih _
        _ = cost (al ++ [(some x, some y)]) := by simp

/-- Some alignment costs as much as the distance: it ends with a column that gave the last cell. -/
theorem exists_cost_eq_distance (a b : Text) :
    ∃ al : Alignment, al.source = a ∧ al.target = b ∧ al.cost = distance a b := by
  induction a using List.reverseRecOn generalizing b with
  | nil => exact ⟨inserting b, by simp, by simp, by simp [distance_nil_left]⟩
  | append_singleton a x iha =>
    induction b using List.reverseRecOn with
    | nil => exact ⟨deleting (a ++ [x]), by simp, by simp, by simp [distance_nil_right]⟩
    | append_singleton b y ihb =>
      have hcell : distance (a ++ [x]) (b ++ [y]) = distance a (b ++ [y]) + 1 ∨
          distance (a ++ [x]) (b ++ [y]) = distance (a ++ [x]) b + 1 ∨
          distance (a ++ [x]) (b ++ [y]) = distance a b + if x = y then 0 else 1 := by
        rw [distance_concat, cell]
        omega
      rcases hcell with h | h | h
      · obtain ⟨al, hs, ht, hc⟩ := iha (b ++ [y])
        exact ⟨al ++ [(some x, none)], by simp [hs], by simp [ht], by simp [hc, h]⟩
      · obtain ⟨al, hs, ht, hc⟩ := ihb
        exact ⟨al ++ [(none, some y)], by simp [hs], by simp [ht], by simp [hc, h]⟩
      · obtain ⟨al, hs, ht, hc⟩ := iha b
        exact ⟨al ++ [(some x, some y)], by simp [hs], by simp [ht], by simp [hc, h]⟩

/-- **The distance of two texts is the least number of edits** that turn one into the other. -/
theorem isLeast_distance (a b : Text) : IsLeast (Edit.lengths a b) (distance a b) := by
  refine isLeast_lengths (exists_cost_eq_distance a b) ?_
  rintro al rfl rfl
  exact distance_le_cost al

end LicenseForge.Text
