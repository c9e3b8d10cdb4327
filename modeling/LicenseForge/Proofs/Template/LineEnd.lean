import LicenseForge.Proofs.License.Filling
import LicenseForge.Proofs.Template.Reading

/-!
# Line ends

A line ends with a line feed, which may have a carriage return in front of it. Here it is shown that
templates with the one and with the other kind of line ends say the same.

* `Text.crlf` : the text with a carriage return in front of every line feed.
* `Text.lines_crlf`, `Text.trim_crlf`, `Text.replace_crlf` : cutting into lines, trimming and
  replacing do not depend on the kind of line ends.
* `License.parse_crlf` : neither does the license that a template describes.
-/

namespace LicenseForge

namespace Text

/-- The text with a carriage return in front of every line feed. -/
def crlf (t : Text) : Text := t.flatMap fun c => if c = '\n' then ['\r', '\n'] else [c]

variable {c : Char} {s t u : Text}

@[simp] theorem crlf_nil : crlf [] = [] := rfl

@[simp] theorem crlf_newline_cons (t : Text) : crlf ('\n' :: t) = '\r' :: '\n' :: crlf t := rfl

theorem crlf_cons_of_ne (h : c ≠ '\n') (t : Text) : crlf (c :: t) = c :: crlf t := by
  simp [crlf, h]

@[simp] theorem crlf_append (s t : Text) : crlf (s ++ t) = crlf s ++ crlf t := by
  simp [crlf]

theorem crlf_flatten (ts : List Text) : crlf ts.flatten = (ts.map crlf).flatten := by
  induction ts with
  | nil => rfl
  | cons t ts ih => simp [ih]

theorem crlf_eq_self (h : '\n' ∉ t) : crlf t = t := by
  induction t with
  | nil => rfl
  | cons c t ih =>
    simp only [List.mem_cons, not_or] at h
    rw [crlf_cons_of_ne (Ne.symm h.1), ih h.2]

theorem newline_mem_crlf : '\n' ∈ crlf t ↔ '\n' ∈ t := by
  constructor
  · intro h
    by_contra hn
    rw [crlf_eq_self hn] at h
    exact hn h
  · intro h
    exact List.mem_flatMap.2 ⟨'\n', h, by simp⟩

/-- Only a text on one line becomes a text on one line. -/
theorem crlf_eq_iff (h : '\n' ∉ u) : crlf t = u ↔ t = u := by
  constructor
  · rintro rfl
    exact (crlf_eq_self (mt newline_mem_crlf.2 h)).symm
  · rintro rfl
    exact crlf_eq_self h

/-! ### Lines and their ends -/

theorem lines_crlf (t : Text) : lines (crlf t) = (lines t).map crlf := by
  induction t using lines_induction with
  | nil => rfl
  | tail u hu hne => rw [crlf_eq_self hu, lines_tail hu hne, List.map_singleton, crlf_eq_self hu]
  | line u t hu ih =>
    have hr : '\n' ∉ u ++ ['\r'] := by simp [hu]
    have hline : crlf (u ++ '\n' :: t) = (u ++ ['\r']) ++ '\n' :: crlf t := by
      simp [crlf_eq_self hu]
    rw [hline, lines_line hr, ih, lines_line hu, List.map_cons]
    simp [crlf_eq_self hu]

section

variable {p : Char → Bool}

theorem all_crlf (hr : p '\r') (hn : p '\n') : (∀ d ∈ crlf t, p d) ↔ ∀ d ∈ t, p d := by
  simp only [crlf, List.mem_flatMap, forall_exists_index, and_imp]
  constructor
  · intro h d hd
    by_cases hd' : d = '\n'
    · exact hd' ▸ hn
    · exact h d d hd (by simp [hd'])
  · intro h d c hc hd
    split at hd
    · rcases List.mem_pair.1 hd with rfl | rfl <;> assumption
    · exact List.mem_singleton.1 hd ▸ h c hc

theorem dropWhile_crlf (hr : p '\r') (hn : p '\n') (t : Text) :
    (crlf t).dropWhile p = crlf (t.dropWhile p) := by
  induction t with
  | nil => rfl
  | cons c t ih =>
    by_cases hc : c = '\n'
    · subst hc
      simp [hr, hn, ih]
    · rw [crlf_cons_of_ne hc]
      by_cases hp : p c
      · simp [hp, ih]
      · simp [hp, crlf_cons_of_ne hc]

theorem dropEndWhile_crlf (hr : p '\r') (hn : p '\n') (t : Text) :
    dropEndWhile p (crlf t) = crlf (dropEndWhile p t) := by
  obtain ⟨v, ht, hv, hu⟩ := dropEndWhile_eq_iff.1 (rfl : dropEndWhile p t = dropEndWhile p t)
  refine dropEndWhile_eq_iff.2 ⟨crlf v, ?_, (all_crlf hr hn).2 hv, ?_⟩
  · rw [← crlf_append, ← ht]
  · -- what is left ends in no line end, so it ends as it did
    intro c hc
    rcases (dropEndWhile p t).eq_nil_or_concat with hnil | ⟨w, d, hw⟩
    · rw [hnil] at hc
      cases hc
    · rw [hw] at hu hc
      have hd : ¬p d := hu d (by simp)
      have hne : d ≠ '\n' := by
        rintro rfl
        exact hd hn
      rw [List.concat_eq_append, crlf_append, crlf_cons_of_ne hne, crlf_nil,
        List.getLast?_concat] at hc
      exact Option.some.inj hc ▸ hd

end

theorem trimEnd_crlf (t : Text) : trimEnd (crlf t) = crlf (trimEnd t) :=
  dropEndWhile_crlf (by decide) (by decide) t

theorem trim_crlf (t : Text) : trim (crlf t) = crlf (trim t) := by
  rw [trim, trimStart, dropWhile_crlf (by decide) (by decide), trimEnd_crlf]
  rfl

/-- Trimming a line removes its end, of either kind. -/
theorem trim_crlf_of_mem_lines (h : u ∈ lines t) : trim (crlf u) = trim u := by
  rw [trim_crlf, crlf_eq_self (newline_not_mem_trim_of_mem_lines h)]

theorem allBlank_crlf : AllBlank (crlf t) ↔ AllBlank t := all_crlf (by decide) (by decide)

/-! ### Patterns without line ends -/

/-- The pattern is not empty and holds no part of a line end. -/
structure IsMidLine (pattern : Text) : Prop where
  ne_nil : pattern ≠ []
  newline : '\n' ∉ pattern
  carriage : '\r' ∉ pattern

variable {pattern : Text}

theorem isPrefixOf_crlf (hn : '\n' ∉ pattern) (hr : '\r' ∉ pattern) (t : Text) :
    pattern.isPrefixOf (crlf t) = pattern.isPrefixOf t := by
  induction pattern generalizing t with
  | nil => simp
  | cons d w ih =>
    simp only [List.mem_cons, not_or] at hn hr
    cases t with
    | nil => rfl
    | cons c t =>
      by_cases hc : c = '\n'
      · subst hc
        simp [List.isPrefixOf, beq_false_of_ne (Ne.symm hn.1), beq_false_of_ne (Ne.symm hr.1)]
      · simp [crlf_cons_of_ne hc, List.isPrefixOf, ih hn.2 hr.2]

theorem IsMidLine.not_isPrefixOf_cons (h : IsMidLine pattern) (hc : c ∉ pattern) (t : Text) :
    ¬pattern.isPrefixOf (c :: t) := by
  obtain ⟨d, w, rfl⟩ := List.exists_cons_of_ne_nil h.ne_nil
  simp only [List.mem_cons, not_or] at hc
  simp [List.isPrefixOf, Ne.symm hc.1]

theorem occurs_crlf (h : IsMidLine pattern) (t : Text) :
    occurs pattern (crlf t) = occurs pattern t := by
  induction t with
  | nil => rfl
  | cons c t ih =>
    have hmark := isPrefixOf_crlf h.newline h.carriage (c :: t)
    by_cases hc : c = '\n'
    · subst hc
      have hr := h.not_isPrefixOf_cons h.carriage ('\n' :: crlf t)
      have hn (t : Text) := h.not_isPrefixOf_cons h.newline t
      simp [occurs, ih, hr, hn]
    · rw [crlf_cons_of_ne hc] at hmark ⊢
      rw [occurs, occurs, ih, hmark]

/-- No occurrence of the pattern begins or ends within a line end. -/
theorem replace_crlf (h : IsMidLine pattern) (value t : Text) :
    replace pattern (crlf value) (crlf t) = crlf (replace pattern value t) := by
  induction hk : t.length using Nat.strongRecOn generalizing t with
  | _ k ih =>
    subst hk
    have hmark := isPrefixOf_crlf h.newline h.carriage t
    by_cases hp : pattern.isPrefixOf t
    · obtain ⟨rest, rfl⟩ := List.isPrefixOf_iff_prefix.1 hp
      have hlt : rest.length < (pattern ++ rest).length := by
        have hpos := List.length_pos_iff.2 h.ne_nil
        rw [List.length_append]
        omega
      rw [crlf_append, crlf_eq_self h.newline, replace_append_self h.ne_nil,
        replace_append_self h.ne_nil, ih _ hlt rest rfl, crlf_append]
    · cases t with
      | nil => rfl
      | cons c t =>
        have hrest : replace pattern (crlf value) (crlf t) = crlf (replace pattern value t) :=
          ih t.length (by simp) t rfl
        rw [replace_cons hp]
        by_cases hc : c = '\n'
        · subst hc
          rw [crlf_newline_cons, crlf_newline_cons,
            replace_cons (h.not_isPrefixOf_cons h.carriage _),
            replace_cons (h.not_isPrefixOf_cons h.newline _), hrest]
        · rw [crlf_cons_of_ne hc] at hmark ⊢
          rw [replace_cons (hmark ▸ hp), hrest, crlf_cons_of_ne hc]

end Text

theorem Placeholder.isMidLine_mark (p : Placeholder) : p.mark.IsMidLine := by
  cases p <;> exact ⟨by decide, by decide, by decide⟩

/-! ### Templates -/

open Text

theorem HeaderLine.ofText_congr {line line' : Text} (h : line.trim = line'.trim) :
    ofText line = ofText line' := by
  rw [ofText, ofText, h]

namespace Template

variable {lines : List Text}

theorem isSeparator_crlf (line : Text) : isSeparator line.crlf = isSeparator line := by
  have hsep : '\n' ∉ separator := by decide
  rw [Bool.eq_iff_iff, isSeparator, isSeparator, beq_iff_eq, beq_iff_eq,
    dropEndWhile_crlf (by decide) (by decide), crlf_eq_iff hsep]

theorem split?_crlf (lines : List Text) : split? (lines.map crlf) =
    (split? lines).map fun p => (p.1.map crlf, p.2.map crlf) := by
  induction lines with
  | nil => rfl
  | cons line lines ih =>
    rw [List.map_cons, split?, split?, isSeparator_crlf, ih]
    split
    · rfl
    · cases split? lines <;> rfl

theorem body_crlf (lines : List Text) : body (lines.map crlf) = crlf (body lines) := by
  have hblank (line : Text) : line.crlf.all isBlank = line.all isBlank := by
    have hiff : line.crlf.AllBlank ↔ line.AllBlank := allBlank_crlf
    rw [Bool.eq_iff_iff, List.all_eq_true, List.all_eq_true]
    exact hiff
  rw [body, body, List.dropWhile_map]
  simp only [Function.comp_def, hblank]
  rw [← crlf_flatten, trimEnd_crlf]

end Template

/-- The license with carriage returns in its text. All else about a license is on one line. -/
def License.crlf (l : License) : License := { l with text := l.text.crlf }

/-- A filling whose values are on one line. -/
def Filling.OnOneLine (f : Filling) : Prop :=
  (∀ h ∈ f.holder, '\n' ∉ h) ∧ ∀ y ∈ f.year, '\n' ∉ y

namespace License

theorem parse_crlf_eq (source : Text) :
    parse source.crlf = (parse source).map License.crlf := by
  rw [parse, parse, Text.lines_crlf, Template.split?_crlf]
  cases hsplit : Template.split? source.lines with
  | none => rfl
  | some p =>
    obtain ⟨header, rest⟩ := p
    obtain ⟨sep, hlines, -⟩ := Template.split?_eq_some_iff.1 hsplit
    have hheader : (header.map Text.crlf).map HeaderLine.ofText = header.map .ofText := by
      rw [List.map_map]
      refine List.map_congr_left fun line hl => HeaderLine.ofText_congr ?_
      exact Text.trim_crlf_of_mem_lines (hlines ▸ List.mem_append_left _ hl)
    simp only [Option.map_some, Draft.readAll_eq_ofHeader, Draft.finish_ofHeader, hheader,
      Template.body_crlf]
    split <;> rfl

theorem needs_crlf (l : License) (p : Placeholder) : l.crlf.needs p = l.needs p :=
  Text.occurs_crlf p.isMidLine_mark l.text

/-- Filling in a text and changing its line ends can be done in either order. -/
theorem fill_crlf (l : License) {f : Filling} (hf : f.OnOneLine) (now : Int) :
    l.crlf.fill f now = (l.fill f now).crlf := by
  have hholder : '\n' ∉ f.holder.getD Filling.unnamed := by
    cases hh : f.holder with
    | none => decide
    | some h => exact hf.1 h hh
  have hyear : '\n' ∉ f.year.getD (Year.format now) := by
    cases hy : f.year with
    | none =>
      intro h
      rcases (Year.isNumeral_format now).2 _ h with hd | he
      · exact absurd hd (by decide)
      · exact absurd he (by decide)
    | some y => exact hf.2 y hy
  rw [fill, fill, ← Text.replace_crlf (Placeholder.isMidLine_mark _),
    ← Text.replace_crlf (Placeholder.isMidLine_mark _), Text.crlf_eq_self hholder,
    Text.crlf_eq_self hyear]
  rfl

/-- **The kind of line ends does not matter.** A template with carriage returns leads to the same
error, or to the same license with carriage returns in its text. The text leaves the same open, and
values on one line can be filled in before or after its line ends are changed. -/
theorem parse_crlf (source : Text) :
    parse source.crlf = (parse source).map License.crlf ∧
      ∀ l : License, (∀ p, l.crlf.needs p = l.needs p) ∧
        ∀ (f : Filling) (now : Int), f.OnOneLine →
          l.crlf.fill f now = (l.fill f now).crlf :=
  ⟨parse_crlf_eq source, fun l => ⟨l.needs_crlf, fun _ now hf => l.fill_crlf hf now⟩⟩

/-- Blank lines around the text, a second separator, and a placeholder on both sides of a line
end. -/
theorem parse_crlf_two_separators :
    let source : Text :=
      "ID: a\n\n limitations:\n - b: c\n---\n \n\n".toList ++
        " (c) \x7b\x7byear\x7d\x7d\n\x7b\x7bname\x7d\x7d\n---\n".toList
    let f : Filling := { holder := some "A\tB".toList }
    ∃ l, f.OnOneLine ∧ parse source.crlf = .ok l ∧ l.limitations = ["b: c".toList] ∧
      l.fill f 2024 = " (c) 2024\r\nA\tB\r\n---".toList := by
  intro source f
  have hf : f.OnOneLine := by
    refine ⟨fun h hh => ?_, fun y hy => by cases hy⟩
    obtain rfl : "A\tB".toList = h := Option.some.inj hh
    decide
  have hparse : ∃ l, parse source = .ok l ∧ l.limitations = ["b: c".toList] ∧
      l.fill f 2024 = " (c) 2024\nA\tB\n---".toList := ⟨_, rfl, rfl, by decide +kernel⟩
  obtain ⟨l, hl, hlimits, hfill⟩ := hparse
  obtain ⟨hcrlf, hlicense⟩ := parse_crlf source
  refine ⟨l.crlf, hf, by rw [hcrlf, hl]; rfl, hlimits, ?_⟩
  rw [(hlicense l).2 f 2024 hf, hfill]
  decide

end License

end LicenseForge
