import LicenseForge.Text.Basic
import Mathlib.Data.List.Infix

/-!
# How a shell splits a line into words

Spaces outside double quotes separate the words. The quotes are removed, and between them a
backslash in front of some characters; everything else stands for itself.

* `Shell.read` : what each character of a line is a sign of.
* `Shell.words?` : the words of a line, if its quotes are closed.
* `Shell.words?_append_space` : a line is split at a space outside quotes.
* `Shell.Quotable` and `Shell.words?_quoted` : the texts that stand for themselves between quotes.
* `Shell.quote_notMem_kept` : without a backslash that is removed no word has a double quote.
-/

namespace LicenseForge.Shell

/-- What a character of a line is a sign of. -/
inductive Sign where
  /-- The character belongs to a word. -/
  | char (c : Char)
  /-- A space between words. -/
  | gap
  /-- A double quote that is removed. -/
  | quote
  /-- A backslash that is removed. -/
  | escape
  deriving DecidableEq, Repr

namespace Sign

/-- The character of the line. -/
def source : Sign → Char
  | char c => c
  | gap => ' '
  | quote => '"'
  | escape => '\\'

/-- What the words keep of it. -/
def kept : Sign → Text
  | char c => [c]
  | _ => []

end Sign

/-- Where a line is read. -/
inductive State where
  /-- Outside double quotes. -/
  | outside
  /-- Between double quotes. -/
  | inside
  /-- Between double quotes, behind a backslash. -/
  | escaping
  deriving DecidableEq, Repr

/-- The characters that lose a backslash in front of them. -/
def escapable : Text := "\"\\$\x60".toList

/-- Reads one character. A backslash waits for the character behind it. -/
def State.step : State → Char → State × List Sign
  | outside, c =>
    if c = ' ' then (outside, [.gap])
    else if c = '"' then (inside, [.quote])
    else (outside, [.char c])
  | inside, c =>
    if c = '"' then (outside, [.quote])
    else if c = '\\' then (escaping, [])
    else (inside, [.char c])
  | escaping, c =>
    if c ∈ escapable then (inside, [.escape, .char c]) else (inside, [.char '\\', .char c])

/-- Reads a text. -/
def read (s : State) : Text → State × List Sign
  | [] => (s, [])
  | c :: t =>
    let next := s.step c
    let others := read next.1 t
    (others.1, next.2 ++ others.2)

/-- The words that signs make up, with the word that has been begun. -/
def collect (word : Option Text) : List Sign → List Text
  | [] => word.toList
  | .gap :: es => word.toList ++ collect none es
  | e :: es => collect (some (word.getD [] ++ e.kept)) es

/-- The words of a line, if its quotes are closed. -/
def words? (line : Text) : Option (List Text) :=
  match read .outside line with
  | (.outside, es) => some (collect none es)
  | _ => none

variable {s : State} {t u p line : Text} {es rest : List Sign} {word : Option Text} {ws : List Text}

/-! ### Reading -/

theorem read_append (s : State) (t u : Text) :
    read s (t ++ u) = ((read (read s t).1 u).1, (read s t).2 ++ (read (read s t).1 u).2) := by
  induction t generalizing s with
  | nil => rfl
  | cons c t ih => simp [read, ih]

/-- Outside quotes a text without a quote stays outside. -/
theorem read_unquoted (h : '"' ∉ t) :
    read .outside t = (.outside, t.map fun c => if c = ' ' then .gap else .char c) := by
  induction t with
  | nil => rfl
  | cons c t ih =>
    simp only [List.mem_cons, not_or] at h
    by_cases hc : c = ' '
    · simp [read, State.step, ih h.2, hc]
    · simp [read, State.step, ih h.2, hc, Ne.symm h.1]

theorem words?_eq_some_iff :
    words? line = some ws ↔ (read .outside line).1 = .outside ∧
      collect none (read .outside line).2 = ws := by
  unfold words?
  split
  next h => simp [h]
  next h =>
    have hne : (read .outside line).1 ≠ .outside := fun he => h _ (Prod.ext he rfl)
    simp [hne]

/-! ### Splitting at a space -/

theorem collect_append_gap (word : Option Text) (es rest : List Sign) :
    collect word (es ++ .gap :: rest) = collect word es ++ collect none rest := by
  induction es generalizing word with
  | nil => rfl
  | cons e es ih => cases e <;> simp [collect, ih]

/-- Outside quotes a line is split at a space. -/
theorem words?_append_space (h : words? p = some ws) (t : Text) :
    words? (p ++ ' ' :: t) = (words? t).map (ws ++ ·) := by
  obtain ⟨hout, rfl⟩ := words?_eq_some_iff.1 h
  have hread : read .outside (p ++ ' ' :: t) =
      ((read .outside t).1, (read .outside p).2 ++ .gap :: (read .outside t).2) := by
    rw [read_append, hout]
    rfl
  unfold words?
  rw [hread]
  cases read .outside t with
  | mk s es => cases s <;> simp [collect_append_gap]

/-- Texts with a space in front of each. -/
def spaced (ps : List Text) : Text := ps.flatMap (' ' :: ·)

/-- A line that is put together from parts with closed quotes has the words of the parts. -/
theorem words?_spaced {ps : List Text} {wss : List (List Text)} (hp : words? p = some ws)
    (h : List.Forall₂ (fun p ws => words? p = some ws) ps wss) :
    words? (p ++ spaced ps) = some (ws ++ wss.flatten) := by
  induction h generalizing p ws with
  | nil => simpa [spaced] using hp
  | @cons q qs ps wss hq _ ih =>
    have hline : p ++ spaced (q :: ps) = p ++ ' ' :: (q ++ spaced ps) := rfl
    rw [hline, words?_append_space hp, ih hq]
    simp

/-! ### Parts of a line -/

theorem collect_chars (word t : Text) (es : List Sign) :
    collect (some word) (t.map .char ++ es) = collect (some (word ++ t)) es := by
  induction t generalizing word with
  | nil => simp
  | cons c t ih => simp [collect, Sign.kept, ih]

/-- A text without spaces and quotes is a word. -/
theorem words?_bare (hs : ' ' ∉ t) (hq : '"' ∉ t) (hne : t ≠ []) : words? t = some [t] := by
  have hsigns : (t.map fun c => if c = ' ' then Sign.gap else .char c) = t.map .char :=
    List.map_congr_left fun c hc => if_neg fun (he : c = ' ') => hs (he ▸ hc)
  rw [words?_eq_some_iff, read_unquoted hq, hsigns]
  refine ⟨rfl, ?_⟩
  cases t with
  | nil => exact absurd rfl hne
  | cons c t => simpa [collect, Sign.kept] using collect_chars [c] t []

theorem flatten_collect (word : Option Text) (es : List Sign) :
    (collect word es).flatten = word.getD [] ++ es.flatMap Sign.kept := by
  induction es generalizing word with
  | nil => cases word <;> simp [collect]
  | cons e es ih => cases e <;> cases word <;> simp [collect, Sign.kept, ih]

/-- A text without quotes has words without spaces. -/
theorem exists_words?_unquoted (hq : '"' ∉ t) : ∃ ws, words? t = some ws ∧ ' ' ∉ ws.flatten := by
  refine ⟨_, words?_eq_some_iff.2 ⟨by rw [read_unquoted hq], rfl⟩, ?_⟩
  rw [flatten_collect, read_unquoted hq]
  simp only [Option.getD_none, List.nil_append, List.mem_flatMap, List.mem_map]
  rintro ⟨_, ⟨c, -, rfl⟩, hc⟩
  split at hc
  · simp [Sign.kept] at hc
  next hne => exact hne (List.mem_singleton.1 hc).symm

/-! ### Quoted parts -/

/-- No backslash stands in front of a character that would lose it. -/
def Unescaped (t : Text) : Prop := ∀ c ∈ escapable, ¬['\\', c] <:+: t

/-- The text stands for itself between double quotes: no quote of its own closes it, and no
backslash is removed from it or keeps it open. -/
def Quotable (t : Text) : Prop := '"' ∉ t ∧ Unescaped (t ++ ['"'])

instance (t : Text) : Decidable (Unescaped t) := List.decidableBAll _ escapable

instance (t : Text) : Decidable (Quotable t) := inferInstanceAs (Decidable (_ ∧ _))

theorem unescaped_cons {c : Char} :
    Unescaped (c :: t) ↔ (c = '\\' → ∀ d ∈ t.head?, d ∉ escapable) ∧ Unescaped t := by
  simp only [Unescaped, List.infix_cons_iff, not_or, forall_and]
  refine and_congr_left fun _ => ⟨fun h hc d hd he => ?_, fun h d he hp => ?_⟩
  · obtain ⟨u, rfl⟩ : ∃ u, t = d :: u := ⟨t.tail, (List.cons_head?_tail hd).symm⟩
    exact h d he ⟨u, by rw [hc]; rfl⟩
  · obtain ⟨u, hu⟩ := hp
    obtain ⟨rfl, rfl⟩ : '\\' = c ∧ d :: u = t := List.cons.inj hu
    exact h rfl d rfl he

theorem quote_mem_escapable : '"' ∈ escapable := by decide

theorem backslash_mem_escapable : '\\' ∈ escapable := by decide

/-- Between quotes a quotable text is read as it stands, up to the quote that closes it. Behind a
backslash that has been read the same holds of the text with it. -/
theorem read_quotable (hq : '"' ∉ t) (u : Text) :
    (Unescaped (t ++ ['"']) → read .inside (t ++ '"' :: u) =
      ((read .outside u).1, t.map .char ++ .quote :: (read .outside u).2)) ∧
    (Unescaped ('\\' :: t ++ ['"']) → read .escaping (t ++ '"' :: u) =
      ((read .outside u).1, .char '\\' :: t.map .char ++ .quote :: (read .outside u).2)) := by
  induction t with
  | nil =>
    refine ⟨fun _ => rfl, fun h => ?_⟩
    exact absurd quote_mem_escapable ((unescaped_cons.1 h).1 rfl _ rfl)
  | cons c t ih =>
    simp only [List.mem_cons, not_or] at hq
    obtain ⟨hin, hesc⟩ := ih hq.2
    refine ⟨fun h => ?_, fun h => ?_⟩
    · by_cases hc : c = '\\'
      · subst hc
        rw [List.cons_append, read]
        simp only [State.step, if_neg (Ne.symm hq.1), if_true]
        rw [hesc h]
        rfl
      · rw [List.cons_append, read]
        simp only [State.step, if_neg (Ne.symm hq.1), if_neg hc]
        rw [hin (unescaped_cons.1 h).2]
        rfl
    · have hc : c ∉ escapable := (unescaped_cons.1 h).1 rfl c rfl
      rw [List.cons_append, read]
      simp only [State.step, if_neg hc]
      rw [hin (unescaped_cons.1 (unescaped_cons.1 h).2).2]
      rfl

/-- A quotable text between quotes is a word. -/
theorem words?_quoted (h : Quotable t) : words? ('"' :: t ++ ['"']) = some [t] := by
  have hread : read .outside ('"' :: t ++ ['"']) =
      (.outside, .quote :: t.map .char ++ [.quote]) := by
    rw [List.cons_append, read]
    simp only [State.step]
    simp [(read_quotable h.1 []).1 h.2, read]
  rw [words?_eq_some_iff, hread]
  exact ⟨rfl, by simpa [collect, Sign.kept] using collect_chars [] t [.quote]⟩

/-! ### What is lost -/

/-- A backslash of a line stays in a word or is removed. -/
theorem count_backslash (es : List Sign) : (es.map Sign.source).count '\\' =
    es.count .escape + (es.flatMap Sign.kept).count '\\' := by
  induction es with
  | nil => rfl
  | cons e es ih => cases e <;> simp [List.count_cons, Sign.source, Sign.kept, ih] <;> omega

/-- The character that has been read and is not yet a sign. -/
def State.held : State → Text
  | escaping => ['\\']
  | _ => []

theorem source_read (s : State) (t : Text) :
    (read s t).2.map Sign.source ++ (read s t).1.held = s.held ++ t := by
  induction t generalizing s with
  | nil => simp [read]
  | cons c t ih =>
    have hstep : (s.step c).2.map Sign.source ++ (s.step c).1.held = s.held ++ [c] := by
      cases s <;> simp only [State.step] <;> split_ifs <;> simp_all [State.held, Sign.source]
    rw [read]
    simp only [List.map_append, List.append_assoc, ih]
    rw [← List.append_assoc, hstep]
    simp

/-- Without a backslash that is removed no word has a double quote. -/
theorem quote_notMem_kept (h : .escape ∉ (read s t).2) :
    '"' ∉ (read s t).2.flatMap Sign.kept := by
  induction t generalizing s with
  | nil => simp [read]
  | cons c t ih =>
    simp only [read, List.mem_append, not_or, List.flatMap_append] at h ⊢
    refine ⟨?_, ih h.2⟩
    have hesc := h.1
    cases s with
    | outside => simp only [State.step]; split_ifs <;> simp_all [Sign.kept, eq_comm]
    | inside => simp only [State.step]; split_ifs <;> simp_all [Sign.kept, eq_comm]
    | escaping =>
      by_cases hc : c ∈ escapable
      · simp [State.step, hc] at hesc
      · have hne : c ≠ '"' := fun he => hc (he ▸ quote_mem_escapable)
        simp [State.step, hc, Sign.kept, hne.symm]

/-- Where no backslash is removed from what stands between quotes, none could be. -/
theorem unescaped_of_read (hq : '"' ∉ t) (u : Text) :
    (.escape ∉ (read .inside (t ++ '"' :: u)).2 → Unescaped (t ++ ['"'])) ∧
    (.escape ∉ (read .escaping (t ++ '"' :: u)).2 → Unescaped ('\\' :: t ++ ['"'])) := by
  induction t with
  | nil =>
    refine ⟨fun _ => ?_, fun h => ?_⟩
    · rw [List.nil_append, unescaped_cons]
      exact ⟨fun hc => absurd hc (by decide), fun c _ hi => by simpa using hi.length_le⟩
    · simp [read, State.step, quote_mem_escapable] at h
  | cons c t ih =>
    simp only [List.mem_cons, not_or] at hq
    obtain ⟨hin, hesc⟩ := ih hq.2
    refine ⟨fun h => ?_, fun h => ?_⟩
    · by_cases hc : c = '\\'
      · subst hc
        exact hesc (by simpa [read, State.step] using h)
      · rw [List.cons_append, unescaped_cons]
        refine ⟨fun he => absurd he hc, hin ?_⟩
        simpa [read, State.step, hc, Ne.symm hq.1] using h
    · by_cases hc : c ∈ escapable
      · simp [read, State.step, hc] at h
      · have hne : c ≠ '\\' := fun he => hc (he ▸ backslash_mem_escapable)
        rw [List.cons_append, List.cons_append, unescaped_cons, unescaped_cons]
        refine ⟨fun _ d hd => ?_, fun he => absurd he hne, hin ?_⟩
        · obtain rfl : c = d := by simpa using hd
          exact hc
        · simpa [read, State.step, hc] using h

theorem source_of_words? (h : words? line = some ws) :
    (read .outside line).2.map Sign.source = line := by
  have hsource := source_read .outside line
  rw [(words?_eq_some_iff.1 h).1] at hsource
  simpa [State.held] using hsource

theorem kept_of_words? (h : words? line = some ws) :
    (read .outside line).2.flatMap Sign.kept = ws.flatten := by
  rw [← (words?_eq_some_iff.1 h).2, flatten_collect]
  rfl

/-- A line that has as many backslashes as its words loses none. -/
theorem escape_notMem (h : words? line = some ws)
    (hc : line.count '\\' ≤ ws.flatten.count '\\') : .escape ∉ (read .outside line).2 := by
  have hcount := count_backslash (read .outside line).2
  rw [source_of_words? h, kept_of_words? h] at hcount
  exact List.count_eq_zero.1 (by omega)

/-- Without a backslash that is removed, what stands between quotes is quotable. -/
theorem quotable_of_read (hp : '"' ∉ p) (hq : '"' ∉ t)
    (h : .escape ∉ (read .outside (p ++ '"' :: (t ++ '"' :: u))).2) : Quotable t := by
  refine ⟨hq, (unescaped_of_read hq u).1 fun he => h ?_⟩
  rw [read_append, read_unquoted hp]
  simp [read, State.step, he]

end LicenseForge.Shell
