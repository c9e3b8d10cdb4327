import LicenseForge.Text.Basic
import Mathlib.Order.Bounds.Defs

/-!
# Edit scripts

An edit inserts, deletes or substitutes one character, wherever it stands, and a script is a
sequence of edits, of which a later one may undo what an earlier one did.  An alignment writes two
texts one below the other, so that it edits every character once.  Scripts and alignments come to
the same.

* `Text.Edit`, `Text.Edit.run` : edits, and what a script makes of a text.
* `Text.Edit.lengths` : the lengths of the scripts that turn one text into another.
* `Text.Alignment` : two texts in columns, with the number of columns that differ.
* `Text.Alignment.run_script` : an alignment gives a script with as many edits as it costs.
* `Text.Alignment.exists_of_run` : a script gives an alignment that costs no more than its edits.
-/

namespace LicenseForge.Text

/-! ### Scripts -/

/-- An edit of one character. -/
inductive Edit where
  /-- A character is put in front of the one at the position, or behind all of them. -/
  | insert (position : Nat) (c : Char)
  /-- The character at the position is taken away. -/
  | delete (position : Nat)
  /-- A character takes the place of the one at the position. -/
  | substitute (position : Nat) (c : Char)
  deriving DecidableEq, Repr

namespace Edit

/-- What an edit makes of a text that has the position. -/
def change? (t : Text) : Edit → Option Text
  | insert n c => if n ≤ t.length then some (t.take n ++ c :: t.drop n) else none
  | delete n => if n < t.length then some (t.take n ++ t.drop (n + 1)) else none
  | substitute n c => if n < t.length then some (t.take n ++ c :: t.drop (n + 1)) else none

/-- What the edits of a script make of a text, one after the other. -/
def run : List Edit → Text → Option Text
  | [], t => some t
  | e :: script, t => (e.change? t).bind (run script)

/-- The lengths of the scripts that turn one text into another. -/
def lengths (a b : Text) : Set Nat := {n | ∃ script, run script a = some b ∧ script.length = n}

variable {a b t u front back : Text}

theorem zero_mem_lengths_iff : 0 ∈ lengths a b ↔ a = b := by
  constructor
  · rintro ⟨script, hrun, hlen⟩
    rw [List.length_eq_zero_iff.1 hlen] at hrun
    exact Option.some.inj hrun
  · rintro rfl
    exact ⟨[], rfl, rfl⟩

@[simp] theorem change?_insert (c : Char) :
    (insert front.length c).change? (front ++ back) = some (front ++ c :: back) := by
  simp [change?]

@[simp] theorem change?_delete (c : Char) :
    (delete front.length).change? (front ++ c :: back) = some (front ++ back) := by
  simp [change?, List.drop_append]

@[simp] theorem change?_substitute (c d : Char) :
    (substitute front.length d).change? (front ++ c :: back) = some (front ++ d :: back) := by
  simp [change?, List.drop_append]

/-- An edit replaces at most one character by at most one. -/
theorem exists_of_change? {e : Edit} (h : e.change? t = some u) :
    ∃ front old new back, t = front ++ (old ++ back) ∧ u = front ++ (new ++ back) ∧
      old.length ≤ 1 ∧ new.length ≤ 1 := by
  cases e with
  | insert n c =>
    simp only [change?, Option.ite_none_right_eq_some, Option.some.injEq] at h
    exact ⟨t.take n, [], [c], t.drop n, by simp, h.2.symm, by simp, by simp⟩
  | delete n =>
    simp only [change?, Option.ite_none_right_eq_some, Option.some.injEq] at h
    obtain ⟨hn, hu⟩ := h
    exact ⟨t.take n, [t[n]], [], t.drop (n + 1), by simp, hu.symm, by simp, by simp⟩
  | substitute n c =>
    simp only [change?, Option.ite_none_right_eq_some, Option.some.injEq] at h
    obtain ⟨hn, hu⟩ := h
    exact ⟨t.take n, [t[n]], [c], t.drop (n + 1), by simp, hu.symm, by simp, by simp⟩

end Edit

/-! ### Alignments -/

/-- Two texts one below the other. A column holds a character of each, or of only one of them. -/
abbrev Alignment := List (Option Char × Option Char)

namespace Alignment

/-- The upper text. -/
def source (al : Alignment) : Text := al.filterMap Prod.fst

/-- The lower text. -/
def target (al : Alignment) : Text := al.filterMap Prod.snd

/-- The number of columns that differ. -/
def cost (al : Alignment) : Nat := al.countP fun col => col.1 ≠ col.2

/-- The edits that turn the upper text into the lower one, from left to right. The first column
stands at the position. -/
def script (position : Nat) : Alignment → List Edit
  | [] => []
  | (none, none) :: al => script position al
  | (none, some d) :: al => .insert position d :: script (position + 1) al
  | (some _, none) :: al => .delete position :: script position al
  | (some c, some d) :: al =>
    if c = d then script (position + 1) al else .substitute position d :: script (position + 1) al

/-- The text is written above nothing. -/
def deleting (a : Text) : Alignment := a.map fun c => (some c, none)

/-- The text is written below nothing. -/
def inserting (b : Text) : Alignment := b.map fun d => (none, some d)

variable {al al' : Alignment} {a b : Text}

@[simp] theorem source_append : source (al ++ al') = source al ++ source al' :=
  List.filterMap_append

@[simp] theorem target_append : target (al ++ al') = target al ++ target al' :=
  List.filterMap_append

@[simp] theorem cost_append : cost (al ++ al') = cost al + cost al' := List.countP_append

@[simp] theorem source_cons (col : Option Char × Option Char) :
    source (col :: al) = col.1.toList ++ source al := by
  obtain ⟨_ | c, d⟩ := col <;> rfl

@[simp] theorem target_cons (col : Option Char × Option Char) :
    target (col :: al) = col.2.toList ++ target al := by
  obtain ⟨c, _ | d⟩ := col <;> rfl

@[simp] theorem cost_cons (col : Option Char × Option Char) :
    cost (col :: al) = (if col.1 = col.2 then 0 else 1) + cost al := by
  by_cases h : col.1 = col.2 <;> simp [cost, h, Nat.add_comm]

@[simp] theorem source_nil : source [] = [] := rfl

@[simp] theorem target_nil : target [] = [] := rfl

@[simp] theorem cost_nil : cost [] = 0 := rfl

@[simp] theorem source_deleting : source (deleting a) = a := by
  simp only [source, deleting, List.filterMap_map, Function.comp_def, List.filterMap_some]

@[simp] theorem target_deleting : target (deleting a) = [] := by simp [target, deleting]

@[simp] theorem cost_deleting : cost (deleting a) = a.length := by simp [cost, deleting]

@[simp] theorem source_inserting : source (inserting b) = [] := by simp [source, inserting]

@[simp] theorem target_inserting : target (inserting b) = b := by
  simp only [target, inserting, List.filterMap_map, Function.comp_def, List.filterMap_some]

@[simp] theorem cost_inserting : cost (inserting b) = b.length := by simp [cost, inserting]

/-! ### From alignments to scripts -/

theorem run_script_behind (front : Text) (al : Alignment) :
    Edit.run (al.script front.length) (front ++ al.source) = some (front ++ al.target) := by
  induction al generalizing front with
  | nil => simp [script, Edit.run]
  | cons col al ih =>
    -- a character of the lower text is done once its column is
    have hstep (d : Char) : Edit.run (script (front.length + 1) al) (front ++ d :: source al)
        = some (front ++ d :: target al) := by
      simpa using ih (front ++ [d])
    match col with
    | (none, none) => simpa [script] using ih front
    | (none, some d) => simpa [script, Edit.run] using hstep d
    | (some c, none) => simpa [script, Edit.run] using ih front
    | (some c, some d) =>
      by_cases h : c = d
      · simpa [script, h] using hstep d
      · simpa [script, Edit.run, h] using hstep d

/-- **An alignment gives a script** that turns the upper text into the lower one. -/
theorem run_script (al : Alignment) : Edit.run (al.script 0) al.source = some al.target :=
  run_script_behind [] al

theorem length_script (al : Alignment) (position : Nat) :
    (al.script position).length = al.cost := by
  induction al generalizing position with
  | nil => rfl
  | cons col al ih =>
    match col with
    | (none, none) => simp [script, ih]
    | (none, some d) => simp [script, ih, Nat.add_comm]
    | (some c, none) => simp [script, ih, Nat.add_comm]
    | (some c, some d) =>
      by_cases h : c = d <;> simp [script, ih, h, Nat.add_comm]

/-! ### From scripts to alignments -/

/-- Two texts can be aligned at the cost of the longer one. -/
theorem exists_cost_le_max (a b : Text) :
    ∃ al : Alignment, al.source = a ∧ al.target = b ∧ al.cost ≤ max a.length b.length := by
  induction a generalizing b with
  | nil => exact ⟨inserting b, by simp, by simp, by simp⟩
  | cons c a ih =>
    cases b with
    | nil => exact ⟨deleting (c :: a), by simp, by simp, by simp⟩
    | cons d b =>
      obtain ⟨al, rfl, rfl, hc⟩ := ih b
      refine ⟨(some c, some d) :: al, by simp, by simp, ?_⟩
      simp only [cost_cons, List.length_cons]
      split <;> omega

theorem length_source_le (al : Alignment) : al.source.length ≤ al.target.length + al.cost := by
  induction al with
  | nil => simp
  | cons col al ih =>
    have hcol : col.1.toList.length ≤ col.2.toList.length + if col.1 = col.2 then 0 else 1 := by
      match col with
      | (none, _) => simp
      | (some _, none) => simp
      | (some _, some _) => simp
    simp only [source_cons, target_cons, cost_cons, List.length_append]
    omega

/-- An alignment can be cut where its lower text is cut. -/
theorem exists_append_of_target_eq (h : al.target = a ++ b) :
    ∃ al₁ al₂ : Alignment, al = al₁ ++ al₂ ∧ al₁.target = a ∧ al₂.target = b := by
  obtain ⟨al₁, al₂, rfl, h₁, h₂⟩ := List.filterMap_eq_append_iff.1 h
  exact ⟨al₁, al₂, rfl, h₁, h₂⟩

/-- One more edit of the lower text costs at most one more. -/
theorem exists_of_change? {e : Edit} (h : e.change? al.target = some b) :
    ∃ al' : Alignment, al'.source = al.source ∧ al'.target = b ∧ al'.cost ≤ al.cost + 1 := by
  obtain ⟨front, old, new, back, ht, rfl, hold, hnew⟩ := Edit.exists_of_change? h
  obtain ⟨al₁, al', rfl, rfl, ht'⟩ := exists_append_of_target_eq ht
  obtain ⟨al₂, al₃, rfl, rfl, rfl⟩ := exists_append_of_target_eq ht'
  -- what was above the old character is aligned with the new one
  obtain ⟨al₂', hs, rfl, hc⟩ := exists_cost_le_max al₂.source new
  have hl := al₂.length_source_le
  refine ⟨al₁ ++ (al₂' ++ al₃), by simp [hs], by simp, ?_⟩
  simp only [cost_append]
  omega

/-- **A script gives an alignment** that costs no more than the script has edits. -/
theorem exists_of_run {script : List Edit} (h : Edit.run script al.target = some b) :
    ∃ al' : Alignment, al'.source = al.source ∧ al'.target = b ∧
      al'.cost ≤ al.cost + script.length := by
  induction script generalizing al with
  | nil => exact ⟨al, rfl, Option.some.inj h, Nat.le_add_right _ _⟩
  | cons e script ih =>
    obtain ⟨t, he, hrun⟩ := Option.bind_eq_some_iff.1 h
    obtain ⟨al₁, hs₁, rfl, hc₁⟩ := exists_of_change? he
    obtain ⟨al₂, hs₂, ht₂, hc₂⟩ := ih hrun
    refine ⟨al₂, hs₂.trans hs₁, ht₂, ?_⟩
    simp only [List.length_cons]
    omega

/-- Every text is aligned with itself. -/
theorem exists_cost_eq_zero (a : Text) :
    ∃ al : Alignment, al.source = a ∧ al.target = a ∧ al.cost = 0 := by
  refine ⟨a.map fun c => (some c, some c), ?_, ?_, ?_⟩
  · simp only [source, List.filterMap_map, Function.comp_def, List.filterMap_some]
  · simp only [target, List.filterMap_map, Function.comp_def, List.filterMap_some]
  · simp [cost]

/-- The lengths of scripts and the costs of alignments have the same least value. -/
theorem isLeast_lengths {n : Nat}
    (hex : ∃ al : Alignment, al.source = a ∧ al.target = b ∧ al.cost = n)
    (hle : ∀ al : Alignment, al.source = a → al.target = b → n ≤ al.cost) :
    IsLeast (Edit.lengths a b) n := by
  constructor
  · obtain ⟨al, rfl, rfl, rfl⟩ := hex
    exact ⟨al.script 0, al.run_script, al.length_script 0⟩
  · rintro _ ⟨script, hrun, rfl⟩
    obtain ⟨al₀, hs₀, ht₀, hc₀⟩ := exists_cost_eq_zero a
    obtain ⟨al, hs, ht, hc⟩ := exists_of_run (ht₀.symm ▸ hrun)
    have hn := hle al (hs.trans hs₀) ht
    omega

end Alignment

end LicenseForge.Text
