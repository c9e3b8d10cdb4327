import LicenseForge.Stream.Basic

/-!
# A stream is read line by line

* `Bytes.lines` : the lines of a sequence of bytes.
* `Bytes.reads` : what is met line by line: the lines, and the end behind them as an empty line.
* `Bytes.IsNextLine` : the line at the start of a sequence of bytes.
* `Received` : what reading a line gives.
* `Input.readLine_eq` : reading takes the next line and nothing else.
-/

namespace LicenseForge

/-! ### Lines -/

namespace Bytes

/-- The lines of a sequence of bytes, each with the line feed that ends it. -/
def lines : Bytes → List Bytes
  | [] => []
  | b :: bytes =>
    if b = lineFeed then [b] :: lines bytes
    else match lines bytes with
      | [] => [[b]]
      | l :: ls => (b :: l) :: ls

/-- What is met when the bytes are read line by line: the lines, and the end as an empty line. -/
def reads (bytes : Bytes) : List Bytes := lines bytes ++ [[]]

variable {bytes line : Bytes} {rest : List Bytes}

theorem lines_eq_cons (h : bytes ≠ []) :
    lines bytes = (splitLine bytes).1 :: lines (splitLine bytes).2 := by
  induction bytes with
  | nil => exact absurd rfl h
  | cons b bytes ih =>
    by_cases hb : b = lineFeed
    · rw [lines, splitLine, if_pos hb, if_pos hb]
    · rw [lines, splitLine, if_neg hb, if_neg hb]
      cases bytes with
      | nil => rfl
      | cons c bytes => rw [ih (List.cons_ne_nil _ _)]

@[simp] theorem flatten_lines (bytes : Bytes) : (lines bytes).flatten = bytes := by
  induction bytes with
  | nil => rfl
  | cons b bytes ih =>
    by_cases hb : b = lineFeed
    · rw [lines, if_pos hb, List.flatten_cons, ih, List.singleton_append]
    · rw [lines, if_neg hb]
      cases h : lines bytes with
      | nil => rw [h] at ih; simp [← ih]
      | cons l ls => rw [h] at ih; simp [← ih]

theorem lines_line {u : Bytes} (h : lineFeed ∉ u) (rest : Bytes) :
    lines (u ++ lineFeed :: rest) = (u ++ [lineFeed]) :: lines rest := by
  induction u with
  | nil => simp [lines]
  | cons b u ih =>
    simp only [List.mem_cons, not_or] at h
    rw [List.cons_append, lines, if_neg (Ne.symm h.1), ih h.2]
    rfl

theorem lines_tail {u : Bytes} (h : lineFeed ∉ u) (hu : u ≠ []) : lines u = [u] := by
  induction u with
  | nil => exact absurd rfl hu
  | cons b u ih =>
    simp only [List.mem_cons, not_or] at h
    rw [lines, if_neg (Ne.symm h.1)]
    cases u with
    | nil => rfl
    | cons c u => rw [ih h.2 (List.cons_ne_nil _ _)]

/-- What is met first is a line, behind which the rest is met, or the end. -/
theorem reads_eq_cons (h : reads bytes = line :: rest) :
    (bytes = [] ∧ line = [] ∧ rest = []) ∨
      (line ≠ [] ∧ splitLine bytes = (line, rest.flatten) ∧ reads rest.flatten = rest) := by
  by_cases hb : bytes = []
  · subst hb
    obtain ⟨rfl, rfl⟩ : [] = line ∧ [] = rest := by simpa [reads, lines] using h
    exact .inl ⟨rfl, rfl, rfl⟩
  · rw [reads, lines_eq_cons hb, List.cons_append, List.cons.injEq] at h
    obtain ⟨rfl, rfl⟩ := h
    have hf : (lines (splitLine bytes).2 ++ [[]]).flatten = (splitLine bytes).2 := by simp
    exact .inr ⟨mt splitLine_fst_eq_nil.1 hb, by rw [hf], by rw [hf, reads]⟩

theorem splitLine_of_reads (h : reads bytes = line :: rest) :
    splitLine bytes = (line, rest.flatten) := by
  rcases reads_eq_cons h with ⟨rfl, rfl, rfl⟩ | ⟨-, hs, -⟩
  · rfl
  · exact hs

theorem flatten_of_reads (h : reads bytes = line :: rest) : bytes = line ++ rest.flatten := by
  rw [← splitLine_append bytes, splitLine_of_reads h]

/-- What is met first, if anything is met behind it, is a line. -/
theorem ne_nil_of_reads (h : reads bytes = line :: rest) (hne : rest ≠ []) : line ≠ [] := by
  rcases reads_eq_cons h with ⟨-, -, hr⟩ | ⟨hl, -, -⟩
  · exact absurd hr hne
  · exact hl

theorem reads_flatten_of_reads (h : reads bytes = line :: rest) (hne : rest ≠ []) :
    reads rest.flatten = rest := by
  rcases reads_eq_cons h with ⟨-, -, hr⟩ | ⟨-, -, hr⟩
  · exact absurd hr hne
  · exact hr

/-- The line at the start of the bytes: all through the first line feed, or all if there is none. -/
def IsNextLine (line bytes : Bytes) : Prop :=
  ∃ rest, bytes = line ++ rest ∧
    ((∃ u, line = u ++ [lineFeed] ∧ lineFeed ∉ u) ∨ (lineFeed ∉ line ∧ rest = []))

theorem isNextLine_splitLine (bytes : Bytes) : IsNextLine (splitLine bytes).1 bytes := by
  refine ⟨(splitLine bytes).2, (splitLine_append bytes).symm, ?_⟩
  induction bytes with
  | nil => exact .inr ⟨by simp [splitLine], rfl⟩
  | cons b bytes ih =>
    rw [splitLine]
    split
    next hb => exact .inl ⟨[], by rw [hb, List.nil_append], by simp⟩
    next hb =>
      rcases ih with ⟨u, hu, hn⟩ | ⟨hn, hr⟩
      · exact .inl ⟨b :: u, by rw [hu, List.cons_append], by simp [hn, Ne.symm hb]⟩
      · exact .inr ⟨by simp [hn, Ne.symm hb], hr⟩

theorem isNextLine_of_reads (h : reads bytes = line :: rest) : IsNextLine line bytes := by
  have hl := isNextLine_splitLine bytes
  rwa [splitLine_of_reads h] at hl

/-- Behind what is met first nothing new is met: behind the end it is the end again. -/
theorem mem_reads_of_mem_reads_flatten {l : Bytes} (h : reads bytes = line :: rest)
    (hl : l ∈ reads rest.flatten) : l ∈ reads bytes := by
  rcases reads_eq_cons h with ⟨rfl, -, rfl⟩ | ⟨-, -, hr⟩
  · exact hl
  · rw [h]
    exact List.mem_cons_of_mem _ (hr ▸ hl)

end Bytes

/-! ### Reading -/

/-- The stream breaks before the line ends. -/
def CutOff (broken : Bool) (line : Bytes) : Prop := broken ∧ line.getLast? ≠ some lineFeed

/-- What reading a line gives. -/
inductive Received (broken : Bool) (line : Bytes) : Except StreamError Text → Prop
  /-- The line is UTF-8. -/
  | text {t : Text} (h : ¬CutOff broken line) (ht : line = t.encode) : Received broken line (.ok t)
  /-- The line is not UTF-8. -/
  | notUtf8 (h : ¬CutOff broken line) (ht : ∀ t : Text, line ≠ t.encode) :
    Received broken line (.error .notUtf8)
  /-- The line does not end. -/
  | closed (h : CutOff broken line) : Received broken line (.error .closed)

theorem exists_received (broken : Bool) (line : Bytes) : ∃ a, Received broken line a := by
  by_cases h : CutOff broken line
  · exact ⟨_, .closed h⟩
  by_cases ht : ∃ t : Text, line = t.encode
  · exact ⟨_, .text h ht.choose_spec⟩
  · exact ⟨_, .notUtf8 h fun t he => ht ⟨t, he⟩⟩

theorem Received.unique {broken : Bool} {line : Bytes} {a b : Except StreamError Text}
    (ha : Received broken line a) (hb : Received broken line b) : a = b := by
  cases ha with
  | text h ht =>
    cases hb with
    | text _ hu => rw [Text.encode_injective (ht.symm.trans hu)]
    | notUtf8 _ hu => exact absurd ht (hu _)
    | closed h' => exact absurd h' h
  | notUtf8 h ht =>
    cases hb with
    | text _ hu => exact absurd hu (ht _)
    | notUtf8 => rfl
    | closed h' => exact absurd h' h
  | closed h =>
    cases hb with
    | text h' => exact absurd h h'
    | notUtf8 h' => exact absurd h h'
    | closed => rfl

section

variable {broken : Bool} {line : Bytes} {a : Except StreamError Text}

theorem Received.eq_ok_iff (h : Received broken line a) (t : Text) :
    a = .ok t ↔ ¬CutOff broken line ∧ line = t.encode := by
  constructor
  · rintro rfl
    cases h with
    | text hc ht => exact ⟨hc, ht⟩
  · rintro ⟨hc, ht⟩
    exact h.unique (.text hc ht)

theorem Received.eq_closed_iff (h : Received broken line a) :
    a = .error .closed ↔ CutOff broken line := by
  constructor
  · rintro rfl
    cases h with
    | closed hc => exact hc
  · exact fun hc => h.unique (.closed hc)

theorem Received.ne_full (h : Received broken line a) : a ≠ .error .full := by
  rintro rfl
  cases h

end

/-- Reading takes the next line, and leaves the bytes behind it unread. -/
theorem Input.readLine_eq {i : Input} {line : Bytes} {rest : List Bytes}
    {a : Except StreamError Text} (hl : i.unread.reads = line :: rest)
    (ha : Received i.broken line a) : i.readLine = (a, { i with unread := rest.flatten }) := by
  have hc : (i.broken && line.getLast? != some lineFeed) = true ↔ CutOff i.broken line := by
    simp [CutOff]
  rw [readLine, Bytes.splitLine_of_reads hl]
  dsimp only
  cases ha with
  | text h ht => rw [if_neg (mt hc.1 h), ht, Text.decode?_encode]
  | notUtf8 h ht =>
    have hd : Text.decode? line = none :=
      Option.eq_none_iff_forall_ne_some.2 fun t he => ht t (Text.decode?_eq_some_iff.1 he)
    rw [if_neg (mt hc.1 h), hd]
  | closed h => rw [if_pos (hc.2 h)]

end LicenseForge
