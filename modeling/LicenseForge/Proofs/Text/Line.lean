import LicenseForge.Proofs.Text.Trim
import LicenseForge.Text.Line

/-!
# Texts and their lines

* `Text.IsLine` : a line with its terminator.
* `Text.lines_append` : lines put in front of a text are the first of its lines.
* `Text.lines_induction` : induction over the lines of a text.
-/

namespace LicenseForge.Text

/-- A line with the line feed that ends it. -/
def IsLine (l : Text) : Prop := ∃ u, l = u ++ ['\n'] ∧ '\n' ∉ u

@[simp] theorem lines_nil : lines [] = [] := rfl

theorem lines_line {u : Text} (h : '\n' ∉ u) (t : Text) :
    lines (u ++ '\n' :: t) = (u ++ ['\n']) :: lines t := by
  induction u with
  | nil => simp [lines]
  | cons c u ih =>
    simp only [List.mem_cons, not_or] at h
    rw [List.cons_append, lines, if_neg (Ne.symm h.1), ih h.2]
    rfl

theorem lines_tail {u : Text} (h : '\n' ∉ u) (hu : u ≠ []) : lines u = [u] := by
  induction u with
  | nil => exact absurd rfl hu
  | cons c u ih =>
    simp only [List.mem_cons, not_or] at h
    rw [lines, if_neg (Ne.symm h.1)]
    cases u with
    | nil => rfl
    | cons d u => rw [ih h.2 (List.cons_ne_nil _ _)]

/-- Induction over the lines of a text. The last one may have no terminator. -/
theorem lines_induction {motive : Text → Prop} (nil : motive [])
    (tail : ∀ u : Text, '\n' ∉ u → u ≠ [] → motive u)
    (line : ∀ u t : Text, '\n' ∉ u → motive t → motive (u ++ '\n' :: t)) (t : Text) :
    motive t := by
  induction hn : t.length using Nat.strongRecOn generalizing t with
  | _ n ih =>
    subst hn
    cases h : t.cut '\n' with
    | none =>
      cases t with
      | nil => exact nil
      | cons c t => exact tail _ (cut_eq_none_iff.1 h) (List.cons_ne_nil _ _)
    | some p =>
      obtain ⟨rfl, hp⟩ := cut_eq_some_iff.1 (show t.cut '\n' = some (p.1, p.2) from h)
      refine line p.1 p.2 hp (ih _ ?_ _ rfl)
      simp only [List.length_append, List.length_cons]
      omega

theorem lines_append {ls : List Text} (h : ∀ l ∈ ls, IsLine l) (t : Text) :
    lines (ls.flatten ++ t) = ls ++ lines t := by
  induction ls with
  | nil => rfl
  | cons l ls ih =>
    obtain ⟨u, rfl, hu⟩ := h l List.mem_cons_self
    have := ih fun l hl => h l (List.mem_cons_of_mem _ hl)
    simp only [List.flatten_cons, List.append_assoc, List.cons_append, List.nil_append] at this ⊢
    rw [lines_line hu, this]

theorem lines_flatten {ls : List Text} (h : ∀ l ∈ ls, IsLine l) : lines ls.flatten = ls := by
  have hl := lines_append h []
  rwa [List.append_nil, lines_nil, List.append_nil] at hl

/-- The lines behind the first ones are the lines of the text that they make up. -/
theorem lines_flatten_of_lines_eq_append {t : Text} {ls ls' : List Text}
    (h : lines t = ls ++ ls') : lines ls'.flatten = ls' := by
  induction t using lines_induction generalizing ls with
  | nil =>
    have := List.append_eq_nil_iff.1 h.symm
    simp [this.2]
  | tail u hu hne =>
    cases ls with
    | nil => rw [← List.nil_append ls', ← h, flatten_lines]
    | cons l ls =>
      rw [lines_tail hu hne] at h
      simp only [List.cons_append, List.cons.injEq, List.nil_eq, List.append_eq_nil_iff] at h
      simp [h.2.2]
  | line u t hu ih =>
    cases ls with
    | nil => rw [← List.nil_append ls', ← h, flatten_lines]
    | cons l ls =>
      rw [lines_line hu] at h
      exact ih (List.cons.inj h).2

theorem eq_of_mem_lines {t l : Text} (h : l ∈ lines t) :
    ∃ u, '\n' ∉ u ∧ (l = u ++ ['\n'] ∨ l = u) := by
  induction t using lines_induction with
  | nil => simp at h
  | tail u hu hne =>
    rw [lines_tail hu hne, List.mem_singleton] at h
    exact ⟨u, hu, .inr h⟩
  | line u t hu ih =>
    rw [lines_line hu] at h
    rcases List.mem_cons.1 h with rfl | h
    · exact ⟨u, hu, .inl rfl⟩
    · exact ih h

theorem newline_not_mem_trim_of_mem_lines {t l : Text} (h : l ∈ lines t) : '\n' ∉ l.trim := by
  obtain ⟨u, hu, rfl | rfl⟩ := eq_of_mem_lines h
  · rw [trim_append_of_allBlank (by simp [AllBlank]; decide)]
    exact fun hm => hu (mem_of_mem_trim hm)
  · exact fun hm => hu (mem_of_mem_trim hm)

end LicenseForge.Text
