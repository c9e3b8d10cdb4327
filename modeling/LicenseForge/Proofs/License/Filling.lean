import LicenseForge.License.Filling
import LicenseForge.Proofs.Year
import Mathlib.Algebra.Order.BigOperators.Group.List
import Mathlib.Algebra.Order.Group.Nat
import Mathlib.Data.List.Basic

/-!
# Filling in is one pass over the text

The placeholders are replaced one kind after the other: first the years, then the holders. Here it
is shown that this is the same as one pass over the text that never looks at what it has put in.

* `Piece`, `Text.pieces` : a text cut into placeholders and other characters, in one pass from left
  to right.
* `License.substitute` : the text with every piece in the place of what it stands for.
* `Text.isPrefixOf_of_isPrefixOf_replace` : putting a year in makes no placeholder.
* `License.exists_fill_put_ne_iff` : the filled-in text depends on the value of a placeholder if and
  only if the text has it.
* `License.fill_one_pass` : filling in is substitution, and depends on a value if and only if the
  text has a placeholder for it.

A holder may hold anything, since holders are put in last. A year may not: one with a brace could
complete a placeholder with the text around it.
-/

namespace LicenseForge

/-! ### Replacing -/

namespace Text

variable {pattern value : Text}

theorem replaceAfter_eq_replace_drop (skip : Nat) (t : Text) :
    replaceAfter pattern value skip t = replace pattern value (t.drop skip) := by
  induction t generalizing skip with
  | nil => simp [replace, replaceAfter]
  | cons c t ih =>
    cases skip with
    | zero => rfl
    | succ k => simpa [replaceAfter] using ih k

@[simp] theorem replace_nil : replace pattern value [] = [] := rfl

theorem replace_append_self (h : pattern ≠ []) (t : Text) :
    replace pattern value (pattern ++ t) = value ++ replace pattern value t := by
  obtain ⟨a, w, rfl⟩ := List.exists_cons_of_ne_nil h
  have hp : (a :: w).isPrefixOf (a :: (w ++ t)) :=
    List.isPrefixOf_iff_prefix.2 (List.prefix_append (a :: w) t)
  rw [List.cons_append, replace, replaceAfter, if_pos hp, replaceAfter_eq_replace_drop]
  simp

theorem replace_cons {c : Char} {t : Text} (h : ¬pattern.isPrefixOf (c :: t)) :
    replace pattern value (c :: t) = c :: replace pattern value t := by
  rw [replace, replaceAfter, if_neg h, replace]

theorem replace_append_of_not_mem {a : Char} {w s : Text} (h : a ∉ s) (t : Text) :
    replace (a :: w) value (s ++ t) = s ++ replace (a :: w) value t := by
  induction s with
  | nil => rfl
  | cons c s ih =>
    simp only [List.mem_cons, not_or] at h
    rw [List.cons_append, replace_cons (by simp [List.isPrefixOf, h.1]), ih h.2, List.cons_append]

/-- What stands at the start of a text after a replacement stood there before, if the value that is
put in begins with a character that does not belong to it. -/
theorem isPrefixOf_of_isPrefixOf_replace {a : Char} {v w t : Text} (ha : a ∉ w)
    (h : w.isPrefixOf (replace pattern (a :: v) t)) : w.isPrefixOf t := by
  induction w generalizing t with
  | nil => rfl
  | cons d w ih =>
    simp only [List.mem_cons, not_or] at ha
    cases t with
    | nil => simp at h
    | cons c t =>
      by_cases hp : pattern.isPrefixOf (c :: t)
      · rw [replace, replaceAfter, if_pos hp] at h
        simp [List.isPrefixOf, Ne.symm ha.1] at h
      · rw [replace_cons hp] at h
        simp only [List.isPrefixOf, Bool.and_eq_true, beq_iff_eq] at h ⊢
        exact ⟨h.1, ih ha.2 h.2⟩

theorem occurs_iff_infix {t : Text} : occurs pattern t ↔ pattern <:+: t := by
  induction t with
  | nil => simp [occurs]
  | cons c t ih => simp [occurs, ih, List.infix_cons_iff]

end Text

/-! ### Pieces -/

/-- A piece of a license text. -/
inductive Piece where
  /-- A character that belongs to no placeholder. -/
  | letter (c : Char)
  /-- A placeholder. -/
  | mark (p : Placeholder)
  deriving DecidableEq, Repr

/-- The placeholder that stands at the start of a text. -/
def Placeholder.at? (t : Text) : Option Placeholder :=
  [year, holder].find? (·.mark.isPrefixOf t)

/-- The pieces of a text behind its first `skip` characters, which belong to a placeholder. -/
def Text.piecesAfter (skip : Nat) : Text → List Piece
  | [] => []
  | c :: t =>
    match skip with
    | k + 1 => piecesAfter k t
    | 0 =>
      match Placeholder.at? (c :: t) with
      | some p => .mark p :: piecesAfter (p.mark.length - 1) t
      | none => .letter c :: piecesAfter 0 t

/-- The pieces of a text, found in one pass from left to right. -/
def Text.pieces (t : Text) : List Piece := piecesAfter 0 t

/-- What a piece stands for. The year `now` stands for a missing year. -/
def Piece.value (f : Filling) (now : Int) : Piece → Text
  | letter c => [c]
  | mark .holder => f.holder.getD Filling.unnamed
  | mark .year => f.year.getD (Year.format now)

/-- The text of the license with every piece in the place of what it stands for. -/
def License.substitute (l : License) (f : Filling) (now : Int) : Text :=
  l.text.pieces.flatMap (Piece.value f now)

namespace Placeholder

theorem mark_holder :
    holder.mark = ['\x7b', '\x7b', 'n', 'a', 'm', 'e', '\x7d', '\x7d'] := rfl

theorem mark_year :
    year.mark = ['\x7b', '\x7b', 'y', 'e', 'a', 'r', '\x7d', '\x7d'] := rfl

theorem mark_ne_nil (p : Placeholder) : p.mark ≠ [] := by cases p <;> decide

theorem at?_mark (p : Placeholder) (t : Text) : at? (p.mark ++ t) = some p := by
  cases p <;> simp [at?, mark_holder, mark_year, List.isPrefixOf]

theorem at?_eq_none_iff {t : Text} : at? t = none ↔ ∀ p : Placeholder, ¬p.mark.isPrefixOf t := by
  constructor
  · intro h p
    have := List.find?_eq_none.1 h p (by cases p <;> simp)
    simpa using this
  · intro h
    simp [at?, h]

theorem eq_mark_append_of_at?_eq_some {t : Text} {p : Placeholder} (h : at? t = some p) :
    t = p.mark ++ t.drop p.mark.length := by
  have hp : p.mark.isPrefixOf t := by simpa using List.find?_some h
  exact (List.prefix_iff_eq_append.1 (List.isPrefixOf_iff_prefix.1 hp)).symm

end Placeholder

namespace Text

open Placeholder

theorem piecesAfter_eq_pieces_drop (skip : Nat) (t : Text) :
    piecesAfter skip t = pieces (t.drop skip) := by
  induction t generalizing skip with
  | nil => simp [pieces, piecesAfter]
  | cons c t ih =>
    cases skip with
    | zero => rfl
    | succ k => simpa [piecesAfter] using ih k

theorem pieces_mark (p : Placeholder) (t : Text) :
    pieces (p.mark ++ t) = .mark p :: pieces t := by
  obtain ⟨a, w, hw⟩ := List.exists_cons_of_ne_nil p.mark_ne_nil
  have hp := p.at?_mark t
  rw [hw, List.cons_append] at hp ⊢
  rw [pieces, piecesAfter, hp]
  simp [hw, piecesAfter_eq_pieces_drop]

theorem pieces_letter {c : Char} {t : Text} (h : at? (c :: t) = none) :
    pieces (c :: t) = .letter c :: pieces t := by
  rw [pieces, piecesAfter, h, pieces]

/-- Induction along the pass that cuts a text into pieces. -/
theorem pieces_induction {motive : Text → Prop} (nil : motive [])
    (mark : ∀ (p : Placeholder) (t : Text), motive t → motive (p.mark ++ t))
    (letter : ∀ (c : Char) (t : Text), at? (c :: t) = none → motive t → motive (c :: t))
    (t : Text) : motive t := by
  induction hn : t.length using Nat.strongRecOn generalizing t with
  | _ n ih =>
    subst hn
    cases t with
    | nil => exact nil
    | cons c t =>
      cases h : at? (c :: t) with
      | none => exact letter c t h (ih t.length (by simp) t rfl)
      | some p =>
        rw [eq_mark_append_of_at?_eq_some h]
        refine mark p _ (ih _ ?_ _ rfl)
        have := List.length_pos_iff.2 p.mark_ne_nil
        simp only [List.length_drop, List.length_cons]
        omega

/-- The first pass finds every placeholder, since no two of them overlap. -/
theorem mem_pieces_iff {p : Placeholder} {t : Text} : .mark p ∈ pieces t ↔ occurs p.mark t := by
  induction t using pieces_induction with
  | nil => cases p <;> decide
  | mark q t ih =>
    rw [pieces_mark, List.mem_cons, ih]
    cases p <;> cases q <;> simp [occurs, mark_holder, mark_year, List.isPrefixOf]
  | letter c t h ih =>
    rw [pieces_letter h, List.mem_cons, ih, occurs]
    simp [at?_eq_none_iff.1 h p]

/-! ### A year makes no placeholder -/

theorem brace_not_mem_numeral {y : Text} (hy : Year.IsNumeral y) : '\x7b' ∉ y := by
  intro h
  rcases hy.2 _ h with hd | he
  · exact absurd hd (by decide)
  · exact absurd he (by decide)

theorem not_mem_mark_of_mem_numeral {y : Text} (hy : Year.IsNumeral y) {c : Char} (hc : c ∈ y)
    (p : Placeholder) : c ∉ p.mark := by
  have hm : p.mark.all (fun d => !(d.isDigit || d == '-')) := by cases p <;> decide
  intro h
  have hn : ¬(c.isDigit ∨ c = '-') := by simpa using List.all_eq_true.1 hm c h
  exact hn (hy.2 c hc)

theorem replace_year_mark_holder (y t : Text) :
    replace Placeholder.year.mark y (Placeholder.holder.mark ++ t)
      = Placeholder.holder.mark ++ replace Placeholder.year.mark y t := by
  simp [mark_holder, mark_year, replace, replaceAfter, List.isPrefixOf]

/-- A character that begins no placeholder begins none after the years have been put in. -/
theorem replace_holder_cons {y : Text} (hy : Year.IsNumeral y) (h : Text) {c : Char} {t : Text}
    (hn : at? (c :: t) = none) :
    replace Placeholder.holder.mark h (c :: replace Placeholder.year.mark y t)
      = c :: replace Placeholder.holder.mark h (replace Placeholder.year.mark y t) := by
  apply replace_cons
  intro hp
  -- a placeholder that begins here would have been there before the years were put in
  apply at?_eq_none_iff.1 hn .holder
  obtain ⟨a, v, rfl⟩ := List.exists_cons_of_ne_nil hy.1
  have ha : a ∉ ['\x7b', 'n', 'a', 'm', 'e', '\x7d', '\x7d'] := fun hm =>
    not_mem_mark_of_mem_numeral hy List.mem_cons_self .holder (List.mem_cons_of_mem _ hm)
  rw [mark_holder, List.isPrefixOf, Bool.and_eq_true] at hp ⊢
  exact ⟨hp.1, isPrefixOf_of_isPrefixOf_replace ha hp.2⟩

/-- **The two replacements do not meet.** -/
theorem replace_replace_eq_flatMap_pieces {f : Filling} {now : Int}
    (hy : Year.IsNumeral (f.year.getD (Year.format now))) (t : Text) :
    replace Placeholder.holder.mark (f.holder.getD Filling.unnamed)
        (replace Placeholder.year.mark (f.year.getD (Year.format now)) t)
      = t.pieces.flatMap (Piece.value f now) := by
  induction t using pieces_induction with
  | nil => rfl
  | mark p t ih =>
    rw [pieces_mark, List.flatMap_cons, ← ih]
    cases p with
    | holder =>
      rw [replace_year_mark_holder, replace_append_self (mark_ne_nil _)]
      rfl
    | year =>
      rw [replace_append_self (mark_ne_nil _), mark_holder,
        replace_append_of_not_mem (brace_not_mem_numeral hy)]
      rfl
  | letter c t h ih =>
    rw [pieces_letter h, List.flatMap_cons, ← ih, replace_cons (at?_eq_none_iff.1 h .year),
      replace_holder_cons hy _ h]
    rfl

end Text

/-! ### Filling in -/

/-- The year of a filling is missing or a text of digits and hyphens. -/
def Filling.HasNumeral (f : Filling) : Prop := ∀ y ∈ f.year, Year.IsNumeral y

/-- The filling with a value for a placeholder, or with none. -/
def Filling.put (f : Filling) (p : Placeholder) (v : Option Text) : Filling :=
  match p with
  | .holder => { f with holder := v }
  | .year => { f with year := v }

theorem Filling.HasNumeral.put {f : Filling} (h : f.HasNumeral) (p : Placeholder) {v : Text}
    (hv : Year.IsNumeral v) : (f.put p (some v)).HasNumeral := by
  cases p with
  | holder => exact h
  | year => exact fun y hy => Option.some.inj hy ▸ hv

namespace Piece

variable {f : Filling} {p : Placeholder} {now : Int}

@[simp] theorem value_put (v : Text) : value (f.put p (some v)) now (.mark p) = v := by
  cases p <;> rfl

theorem value_put_of_ne {x : Piece} (h : x ≠ .mark p) (v : Option Text) :
    x.value (f.put p v) now = x.value f now := by
  cases x with
  | letter c => rfl
  | mark q => cases p <;> cases q <;> first | rfl | exact absurd rfl h

end Piece

namespace License

variable {l : License} {f g : Filling} {now : Int}

theorem isNumeral_getD_format (hf : f.HasNumeral) (now : Int) :
    Year.IsNumeral (f.year.getD (Year.format now)) := by
  cases hy : f.year with
  | none => exact Year.isNumeral_format now
  | some y => exact hf y hy

theorem fill_eq_substitute (hf : f.HasNumeral) : l.fill f now = l.substitute f now :=
  Text.replace_replace_eq_flatMap_pieces (isNumeral_getD_format hf now) l.text

/-- Fillings that agree on what the text needs give the same text. -/
theorem substitute_congr
    (h : ∀ p, l.needs p → Piece.value f now (.mark p) = Piece.value g now (.mark p)) :
    l.substitute f now = l.substitute g now := by
  refine List.flatMap_congr fun x hx => ?_
  cases x with
  | letter c => rfl
  | mark p => exact h p (Text.mem_pieces_iff.1 hx)

/-- A longer value for a placeholder that the text has gives a longer text. -/
theorem length_substitute_lt {p : Placeholder} (h : l.needs p) {v v' : Text}
    (hv : v.length < v'.length) (f : Filling) (now : Int) :
    (l.substitute (f.put p (some v)) now).length <
      (l.substitute (f.put p (some v')) now).length := by
  have hle (x : Piece) : (x.value (f.put p (some v)) now).length ≤
      (x.value (f.put p (some v')) now).length := by
    by_cases hx : x = .mark p
    · rw [hx, Piece.value_put, Piece.value_put]
      exact hv.le
    · rw [Piece.value_put_of_ne hx, Piece.value_put_of_ne hx]
  rw [substitute, substitute, List.length_flatMap, List.length_flatMap]
  refine List.sum_lt_sum _ _ (fun x _ => hle x) ⟨.mark p, Text.mem_pieces_iff.2 h, ?_⟩
  rw [Piece.value_put, Piece.value_put]
  exact hv

/-- The text depends on the value of a placeholder if and only if it has the placeholder. -/
theorem exists_fill_put_ne_iff (hf : f.HasNumeral) (p : Placeholder) :
    (∃ v v', (f.put p v).HasNumeral ∧ (f.put p v').HasNumeral ∧
      l.fill (f.put p v) now ≠ l.fill (f.put p v') now) ↔ l.needs p := by
  constructor
  · rintro ⟨v, v', hv, hv', hne⟩
    by_contra hn
    rw [fill_eq_substitute hv, fill_eq_substitute hv'] at hne
    refine hne (substitute_congr fun q hq => ?_)
    have hpq : (Piece.mark q) ≠ .mark p := fun h => hn (Piece.mark.inj h ▸ hq)
    rw [Piece.value_put_of_ne hpq, Piece.value_put_of_ne hpq]
  · intro h
    have hone : (f.put p (some ['1'])).HasNumeral := hf.put p (by decide)
    have htwo : (f.put p (some ['1', '2'])).HasNumeral := hf.put p (by decide)
    refine ⟨_, _, hone, htwo, fun he => ?_⟩
    rw [fill_eq_substitute hone, fill_eq_substitute htwo] at he
    exact (length_substitute_lt h (by decide) f now).ne (congrArg List.length he)

/-- **Filling in is one pass over the text**, whatever the holder, for every year of digits and
hyphens: the years that are accepted and written are such years. The text that is filled in depends
on the holder, or on the year, if and only if it has a placeholder for it. -/
theorem fill_one_pass (l : License) (now : Int) :
    (∀ t y, Year.validate t = .ok y → Year.IsNumeral y) ∧ Year.IsNumeral (Year.format now) ∧
    (∀ f : Filling, f.HasNumeral → l.fill f now = l.substitute f now) ∧
    (∀ year : Option Text, (∀ y ∈ year, Year.IsNumeral y) →
      ((∃ h h', l.fill ⟨h, year⟩ now ≠ l.fill ⟨h', year⟩ now) ↔ l.needs .holder)) ∧
    ∀ holder : Option Text,
      (∃ y y', Filling.HasNumeral ⟨holder, y⟩ ∧ Filling.HasNumeral ⟨holder, y'⟩ ∧
        l.fill ⟨holder, y⟩ now ≠ l.fill ⟨holder, y'⟩ now) ↔ l.needs .year := by
  refine ⟨fun _ _ => Year.isNumeral_of_validate, Year.isNumeral_format now,
    fun _ => fill_eq_substitute, fun year hy => ?_, fun holder => ?_⟩
  · have hf (h : Option Text) : Filling.HasNumeral ⟨h, year⟩ := hy
    rw [← exists_fill_put_ne_iff (hf none) .holder]
    exact ⟨fun ⟨h, h', hne⟩ => ⟨h, h', hf h, hf h', hne⟩, fun ⟨h, h', _, _, hne⟩ => ⟨h, h', hne⟩⟩
  · have hf : Filling.HasNumeral ⟨holder, none⟩ := by simp [Filling.HasNumeral]
    exact exists_fill_put_ne_iff hf .year

/-- A placeholder around a year, and a holder that is written like one. -/
theorem fill_one_pass_nested :
    let l : License :=
      { text := "\x7b\x7bna\x7b\x7byear\x7d\x7dme\x7d\x7d \x7b\x7bname\x7d\x7d".toList }
    let f : Filling := ⟨some "\x7b\x7byear\x7d\x7d".toList, some "2019-2024".toList⟩
    f.HasNumeral ∧
      l.fill f 2000 = "\x7b\x7bna2019-2024me\x7d\x7d \x7b\x7byear\x7d\x7d".toList := by
  intro l f
  have hf : f.HasNumeral := by
    intro y hy
    obtain rfl : "2019-2024".toList = y := Option.some.inj hy
    decide
  exact ⟨hf, ((fill_one_pass l 2000).2.2.1 f hf).trans (by decide)⟩

end License

end LicenseForge
