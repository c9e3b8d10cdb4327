import LicenseForge.Text.Basic

/-!
# Lines

`Text.lines` cuts a text behind each line feed. Every line keeps its terminator, so the lines of
a text put together are the text.
-/

namespace LicenseForge.Text

/-- The lines of a text, each with the line feed that ends it. -/
def lines : Text → List Text
  | [] => []
  | c :: t =>
    if c = '\n' then [c] :: lines t
    else match lines t with
      | [] => [[c]]
      | l :: ls => (c :: l) :: ls

@[simp] theorem flatten_lines (t : Text) : (lines t).flatten = t := by
  induction t with
  | nil => rfl
  | cons c t ih =>
    rw [lines]
    split
    · simp [ih]
    · split
      next h => rw [h] at ih; simp at ih; simp [← ih]
      next l ls h => rw [h] at ih; simp at ih; simp [← ih]

end LicenseForge.Text
