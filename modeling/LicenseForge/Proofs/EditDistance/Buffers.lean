import LicenseForge.Proofs.EditDistance.Table

/-!
# A table of which two rows are kept

To fill the table it takes two rows only: the one that is finished, and the one in which the cells
are written from left to right, over those of the row before.  Here the characters and the cells
are found by their indices, and an index that is out of bounds ends the filling without a result.

* `Text.tableDistance?` : the distance, by means of two rows.
* `Text.Filled` : a row of which the first cells are written, and the others are left over.
* `Text.distance_counts_edits` : the distance is the least number of edits, and all indices are
  within bounds.
-/

namespace LicenseForge.Text

/-! ### Filling with checked indices -/

/-- The row with a cell written over, if it has the cell. -/
def write? (row : List Nat) (k n : Nat) : Option (List Nat) :=
  if k < row.length then some (row.set k n) else none

/-- The row below with the cell written that belongs to the characters `i` and `j`. -/
def fillCell? (a b : Text) (i : Nat) (above below : List Nat) (j : Nat) : Option (List Nat) := do
  let x ← a[i]?
  let y ← b[j]?
  let up ← above[j + 1]?
  let left ← below[j]?
  let diagonal ← above[j]?
  write? below (j + 1) (cell x y up left diagonal)

/-- The two rows that are kept. -/
structure Rows where
  /-- The row that is finished. -/
  above : List Nat
  /-- The row that is written next. It still holds an older row. -/
  below : List Nat

/-- The rows once the row for the character `i` is written. It becomes the upper one, and the row
above it gives its place to the next. -/
def fillRow? (a b : Text) (rows : Rows) (i : Nat) : Option Rows := do
  let below ← write? rows.below 0 (i + 1)
  let below ← (List.range b.length).foldlM (fillCell? a b i rows.above) below
  return ⟨below, rows.above⟩

/-- The distance of two texts, by means of two rows. -/
def tableDistance? (a b : Text) : Option Nat :=
  if a.isEmpty then some b.length
  else if b.isEmpty then some a.length
  else do
    let rows ← (List.range a.length).foldlM (fillRow? a b)
      ⟨List.range (b.length + 1), List.replicate (b.length + 1) 0⟩
    rows.above[b.length]?

/-! ### What the rows hold -/

/-- A loop whose steps succeed and keep an invariant. -/
theorem exists_foldlM_range {σ : Type} {f : σ → Nat → Option σ} {s : σ} {n : Nat}
    (inv : Nat → σ → Prop) (hstart : inv 0 s)
    (hstep : ∀ k < n, ∀ s, inv k s → ∃ s', f s k = some s' ∧ inv (k + 1) s') :
    ∃ s', (List.range n).foldlM f s = some s' ∧ inv n s' := by
  induction n with
  | zero => exact ⟨s, rfl, hstart⟩
  | succ n ih =>
    obtain ⟨s', hs', hinv⟩ := ih fun k hk => hstep k (Nat.lt_succ_of_lt hk)
    obtain ⟨s'', hs'', hinv'⟩ := hstep n (Nat.lt_succ_self n) s' hinv
    exact ⟨s'', by simp [List.range_succ, List.foldlM_append, hs', hs''], hinv'⟩

/-- The cells of the row for the first `i` characters are written up to the cell `k`. What is to
the right of it does not matter. -/
structure Filled (a b : Text) (i k : Nat) (row : List Nat) : Prop where
  /-- There is a cell for each start of the second text. -/
  length : row.length = b.length + 1
  /-- The cells hold distances. -/
  holds : ∀ n ≤ k, row[n]? = some (distance (a.take i) (b.take n))

variable {a b : Text} {i j : Nat} {above below : List Nat}

theorem filled_firstRow (a b : Text) : Filled a b 0 b.length (List.range (b.length + 1)) where
  length := by simp
  holds := by
    intro n hn
    rw [List.getElem?_range (by omega), List.take_zero, distance_nil_left, List.length_take]
    congr
    omega

theorem Filled.write {row : List Nat} {k : Nat} (h : Filled a b i k row) (hk : k < b.length) :
    Filled a b i (k + 1) (row.set (k + 1) (distance (a.take i) (b.take (k + 1)))) where
  length := by simp [h.length]
  holds := by
    intro n hn
    by_cases he : n = k + 1
    · rw [he, List.getElem?_set_self (by rw [h.length]; omega)]
    · rw [List.getElem?_set_ne (Ne.symm he), h.holds n (by omega)]

theorem exists_fillCell? (hi : i < a.length) (hj : j < b.length)
    (ha : Filled a b i b.length above) (hb : Filled a b (i + 1) j below) :
    ∃ row, fillCell? a b i above below j = some row ∧ Filled a b (i + 1) (j + 1) row := by
  refine ⟨_, ?_, hb.write hj⟩
  have hcell : distance (a.take (i + 1)) (b.take (j + 1))
      = cell a[i] b[j] (distance (a.take i) (b.take (j + 1))) (distance (a.take (i + 1)) (b.take j))
        (distance (a.take i) (b.take j)) := by
    rw [List.take_succ_eq_append_getElem hi, List.take_succ_eq_append_getElem hj, distance_concat]
  have hwrite (n : Nat) : write? below (j + 1) n = some (below.set (j + 1) n) := by
    rw [write?, if_pos (by rw [hb.length]; omega)]
  rw [fillCell?, List.getElem?_eq_getElem hi, List.getElem?_eq_getElem hj,
    ha.holds (j + 1) hj, hb.holds j (Nat.le_refl j), ha.holds j (Nat.le_of_lt hj), hcell]
  exact hwrite _

theorem exists_fillRow? {rows : Rows} (hi : i < a.length) (ha : Filled a b i b.length rows.above)
    (hb : rows.below.length = b.length + 1) :
    ∃ rows', fillRow? a b rows i = some rows' ∧ Filled a b (i + 1) b.length rows'.above ∧
      rows'.below.length = b.length + 1 := by
  have hfirst : Filled a b (i + 1) 0 (rows.below.set 0 (i + 1)) := by
    refine ⟨by simp [hb], ?_⟩
    intro n hn
    obtain rfl : n = 0 := by omega
    rw [List.getElem?_set_self (by omega), List.take_zero, distance_nil_right, List.length_take]
    congr
    omega
  obtain ⟨row, hrow, hfilled⟩ := exists_foldlM_range (f := fillCell? a b i rows.above)
    (Filled a b (i + 1)) hfirst fun j hj below hbelow => exists_fillCell? hi hj ha hbelow
  refine ⟨⟨row, rows.above⟩, ?_, hfilled, ha.length⟩
  rw [fillRow?, write?, if_pos (by omega)]
  simp [hrow]

theorem tableDistance?_eq (a b : Text) : tableDistance? a b = some (distance a b) := by
  rw [tableDistance?]
  split
  next ha => rw [List.isEmpty_iff.1 ha, distance_nil_left]
  next ha =>
    split
    next hb => rw [List.isEmpty_iff.1 hb, distance_nil_right]
    next hb =>
      obtain ⟨rows, hrows, hfilled, -⟩ := exists_foldlM_range (n := a.length) (f := fillRow? a b)
        (s := ⟨List.range (b.length + 1), List.replicate (b.length + 1) 0⟩)
        (fun i rows => Filled a b i b.length rows.above ∧ rows.below.length = b.length + 1)
        ⟨filled_firstRow a b, by simp⟩
        fun i hi rows h => exists_fillRow? hi h.1 h.2
      have hlast := hfilled.holds b.length (Nat.le_refl _)
      rw [List.take_length, List.take_length] at hlast
      rw [hrows]
      exact hlast

/-- **The distance of two texts is the least number of edits** that turn one into the other: there
is a script of that length, and there is none that is shorter.  The table that is filled for it in
two rows gives the distance, and no index is out of bounds. -/
theorem distance_counts_edits (a b : Text) :
    IsLeast (Edit.lengths a b) (distance a b) ∧ tableDistance? a b = some (distance a b) :=
  ⟨isLeast_distance a b, tableDistance?_eq a b⟩

end LicenseForge.Text
