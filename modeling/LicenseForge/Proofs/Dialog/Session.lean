import LicenseForge.Proofs.Dialog.Question
import LicenseForge.Proofs.Text.Utf8

/-!
# A session of questions

Questions are asked one after the other, whatever became of those before.

* `Query` and `Dialog.pose` : a question of a session, and asking it.
* `Turn` : a question with the dialog before and after it, and so with what it showed and what it
  consumed.
* `Turn.Regular` : what a question does. It shows itself as far as there is room; if there is room
  for all of it, it takes the next line, else nothing.
* `Dialog.session_regular` : every question of a session does this, so that the input is what was
  consumed and what is still unread; and behind a question that could not be shown nothing more is
  shown or consumed.
-/

namespace LicenseForge

/-! ### Questions -/

/-- A question of a session. -/
inductive Query where
  /-- Asks for a text. A blank line stands for the default, if there is one. -/
  | text (question : Text) (default : Option Text)
  /-- Asks for a year once. A blank line stands for the year `now`. -/
  | year (now : Int)
  deriving DecidableEq, Repr

namespace Query

/-- What the question is called. -/
def question : Query → Text
  | text question _ => question
  | year _ => Dialog.yearQuestion

/-- What a blank line stands for. -/
def ifBlank : Query → Option Text
  | text _ default => default
  | year now => some (Year.format now)

/-- The answer that a line gives: the line without the blanks around it, or what stands for it. -/
def reply (q : Query) (line : Text) : Text :=
  match q.ifBlank with
  | some default => if line.trim = [] then default else line.trim
  | none => line.trim

end Query

namespace Dialog

/-- Asks a question of a session. -/
def pose (d : Dialog) : Query → Except StreamError Text × Dialog
  | .text question default => d.ask question default
  | .year now => d.askYearOnce now

/-- All that a question shows if there is room for it: itself, and a new line where the input is
found to have ended. -/
def display (d : Dialog) (q : Query) : Bytes :=
  (prompt d.palette q.question q.ifBlank).encode ++
    if d.input.unread = [] ∧ d.input.broken = false then Text.encode ['\n'] else []

/-- There is room for all that the question shows. -/
def Fits (d : Dialog) (q : Query) : Prop := ∀ n ∈ d.room, (d.display q).length ≤ n

end Dialog

/-- A question of a session. -/
structure Turn where
  /-- The dialog before the question. -/
  before : Dialog
  /-- The question. -/
  query : Query
  /-- The answer. -/
  answer : Except StreamError Text
  /-- The dialog after the question. -/
  after : Dialog

namespace Turn

/-- The bytes at the start of the input that are no longer there after the question. -/
def consumed (t : Turn) : Bytes :=
  t.before.input.unread.take (t.before.input.unread.length - t.after.input.unread.length)

/-- The bytes that were shown since the question began. -/
def shown (t : Turn) : Bytes := t.after.shown.drop t.before.shown.length

/-- There was room for all that the question shows. -/
def Fits (t : Turn) : Prop := t.before.Fits t.query

/-- What a question does. -/
structure Regular (t : Turn) : Prop where
  /-- What it consumed stood in front of what is unread. -/
  unread : t.before.input.unread = t.consumed ++ t.after.input.unread
  /-- Without room or at the end of the input it consumes nothing. -/
  consumed_eq_nil : ¬t.Fits ∨ t.before.input.unread = [] → t.consumed = []
  /-- Else it consumes the next line. -/
  consumed_isNextLine : t.Fits → t.before.input.unread ≠ [] →
    t.consumed ≠ [] ∧ t.consumed.IsNextLine t.before.input.unread
  /-- It shows what there is room for. -/
  shown_eq : t.shown = match t.before.room with
    | some n => (t.before.display t.query).take n
    | none => t.before.display t.query
  /-- What it shows comes behind what was shown. -/
  shown_append : t.after.shown = t.before.shown ++ t.shown
  /-- What it shows takes up room. -/
  room_eq : t.after.room = t.before.room.map (· - t.shown.length)
  /-- It succeeds if there was room, reading did not fail and the line is UTF-8. -/
  answer_eq_ok : ∀ a, t.answer = .ok a ↔ t.Fits ∧ ¬CutOff t.before.input.broken t.consumed ∧
    ∃ line : Text, t.consumed = line.encode ∧ a = t.query.reply line
  /-- Without room it fails for this reason. -/
  answer_eq_full : t.answer = .error .full ↔ ¬t.Fits
  /-- If there was room and the stream breaks before the line ends, it fails for this reason. -/
  answer_eq_closed : t.answer = .error .closed ↔
    t.Fits ∧ CutOff t.before.input.broken t.consumed

end Turn

namespace Dialog

/-- Asks questions one after the other. -/
def session (d : Dialog) : List Query → List Turn × Dialog
  | [] => ([], d)
  | q :: qs =>
    let next := d.pose q
    let others := next.2.session qs
    (⟨d, q, next.1, next.2⟩ :: others.1, others.2)

/-! ### One question -/

variable {d : Dialog} {q : Query} {es : List Entry} {rest line : Bytes} {t : Text} {n : Nat}

theorem pose_eq_ask (d : Dialog) (q : Query) : d.pose q = d.ask q.question q.ifBlank := by
  cases q <;> rfl

theorem reply_eq_answer (q : Query) (line : Text) : q.reply line = answer line q.ifBlank := by
  unfold Query.reply answer
  cases q.ifBlank <;> simp

theorem shown_eq_flatMap (d : Dialog) : d.shown = d.record.flatMap Entry.bytes := by
  refine List.flatMap_congr fun e _ => ?_
  cases e <;> rfl

@[simp] theorem shown_follow : (d.follow es rest).shown = d.shown ++ es.flatMap Entry.bytes := by
  simp [shown_eq_flatMap]

theorem display_ne_nil (d : Dialog) (q : Query) : d.display q ≠ [] := by
  have hp : prompt d.palette q.question q.ifBlank ≠ [] := by
    unfold prompt
    split <;> simp
  exact fun h => Text.encode_ne_nil hp (List.append_eq_nil_iff.1 h).1

theorem say_full (hr : d.room = some n) (hn : n < t.encode.length) :
    d.say t = (.error .full, d.follow [.shown (t.encode.take n)] d.input.unread) := by
  have hmin : min n t.encode.length = n := Nat.min_eq_left (Nat.le_of_lt hn)
  simp [say, follow, Output.put, hr, Nat.not_le.2 hn, Entry.bytes, hmin]

/-- At the end of the input a line is read that is empty, and else none is. -/
theorem received_nil_iff {others : List Bytes} {a : Except StreamError Text}
    (hl : d.input.unread.reads = line :: others) (ha : Received d.input.broken line a) :
    a = .ok [] ↔ d.input.unread = [] ∧ d.input.broken = false := by
  constructor
  · rintro rfl
    cases ha with
    | text hc ht =>
      subst ht
      rcases Bytes.reads_eq_cons hl with ⟨hu, -, -⟩ | ⟨hne, -, -⟩
      · exact ⟨hu, by simpa [CutOff] using hc⟩
      · exact absurd rfl hne
  · rintro ⟨hu, hb⟩
    rw [hu] at hl
    obtain ⟨rfl, -⟩ : [] = line ∧ [] = others := by simpa [Bytes.reads, Bytes.lines] using hl
    exact ha.unique (.text (by simp [CutOff, hb]) rfl)

theorem bytes_asking {others : List Bytes} {a : Except StreamError Text}
    (hl : d.input.unread.reads = line :: others) (ha : Received d.input.broken line a) :
    (asking d.palette q.question q.ifBlank a).flatMap Entry.bytes = d.display q := by
  have hend := received_nil_iff hl ha
  unfold asking display
  split
  next => simp [Entry.bytes, if_pos (hend.1 rfl)]
  next hne => simp [Entry.bytes, if_neg (mt hend.2 hne)]

theorem exists_room_of_not_fits (h : ¬d.Fits q) :
    ∃ n, d.room = some n ∧ n < (d.display q).length := by
  simpa [Fits] using h

/-- With room for all that it shows, a question takes the next line. -/
theorem exists_pose_of_fits (h : d.Fits q) : ∃ line others a es,
    d.input.unread.reads = line :: others ∧ Received d.input.broken line a ∧
      es.flatMap Entry.bytes = d.display q ∧
      d.pose q = (a.map q.reply, d.follow es others.flatten) := by
  cases hl : d.input.unread.reads with
  | nil => simp [Bytes.reads] at hl
  | cons line others =>
    obtain ⟨a, ha⟩ := exists_received d.input.broken line
    have hb := bytes_asking (q := q) hl ha
    have hr : d.HasRoom (asking d.palette q.question q.ifBlank a) := fun n hn => hb ▸ h n hn
    refine ⟨line, others, a, _, rfl, ha, hb, ?_⟩
    rw [pose_eq_ask, ask_eq hl ha hr, funext (reply_eq_answer q)]

/-- Without room for all that it shows, a question shows what there is room for and takes nothing
from the input. -/
theorem exists_pose_of_not_fits (hr : d.room = some n) (hn : n < (d.display q).length) :
    ∃ es, es.flatMap Entry.bytes = (d.display q).take n ∧
      d.pose q = (.error .full, d.follow es d.input.unread) := by
  rw [pose_eq_ask]
  by_cases hp : n < (prompt d.palette q.question q.ifBlank).encode.length
  · refine ⟨[.shown ((prompt d.palette q.question q.ifBlank).encode.take n)], ?_, ?_⟩
    · simp [Entry.bytes, display, List.take_append_of_le_length (Nat.le_of_lt hp)]
    · rw [ask, say_full hr hp]
  · -- The question itself has room, so it is the new line at the end of the input that has none.
    have hend : d.input.unread = [] ∧ d.input.broken = false := by
      by_contra h
      rw [display, if_neg h, List.append_nil] at hn
      exact hp hn
    have hlen : n = (prompt d.palette q.question q.ifBlank).encode.length := by
      rw [display, if_pos hend, List.length_append] at hn
      have hnl : (Text.encode ['\n']).length = 1 := by decide
      omega
    have hread : d.input.readLine = (.ok [], d.input) := by
      have ha : Received d.input.broken [] (.ok []) := .text (by simp [CutOff, hend.2]) rfl
      have hl : d.input.unread.reads = [] :: [] := by rw [hend.1]; rfl
      rw [Input.readLine_eq hl ha, List.flatten_nil, ← hend.1]
    have hsay := say_eq (d := d) (t := prompt d.palette q.question q.ifBlank)
      (by simp [HasRoom, hr, Entry.bytes, hlen])
    refine ⟨[.shown (prompt d.palette q.question q.ifBlank).encode, .shown []], ?_, ?_⟩
    · simp [Entry.bytes, display, hlen]
    · rw [ask, hsay]
      simp only [follow_input, hread]
      rw [say_full (n := 0) (by simp [hr, Entry.bytes, hlen]) (by decide)]
      exact congrArg (Prod.mk _) follow_follow

/-- What a question shows comes behind what happened so far. -/
theorem exists_pose_eq_follow (d : Dialog) (q : Query) :
    ∃ a es rest, d.pose q = (a, d.follow es rest) := by
  by_cases h : d.Fits q
  · obtain ⟨line, others, a, es, -, -, -, hp⟩ := exists_pose_of_fits h
    exact ⟨_, es, _, hp⟩
  · obtain ⟨n, hr, hn⟩ := exists_room_of_not_fits h
    obtain ⟨es, -, hp⟩ := exists_pose_of_not_fits hr hn
    exact ⟨_, es, _, hp⟩

/-- A question of a session, as it is asked in a dialog. -/
def turn (d : Dialog) (q : Query) : Turn := ⟨d, q, (d.pose q).1, (d.pose q).2⟩

section

variable {a : Except StreamError Text}

theorem turn_answer (h : d.pose q = (a, d.follow es rest)) : (d.turn q).answer = a :=
  congrArg Prod.fst h

theorem turn_after (h : d.pose q = (a, d.follow es rest)) : (d.turn q).after = d.follow es rest :=
  congrArg Prod.snd h

theorem turn_consumed (h : d.pose q = (a, d.follow es rest)) (hu : d.input.unread = line ++ rest) :
    (d.turn q).consumed = line := by
  rw [Turn.consumed, turn_after h]
  simp [turn, hu]

theorem turn_shown (h : d.pose q = (a, d.follow es rest)) :
    (d.turn q).shown = es.flatMap Entry.bytes := by
  rw [Turn.shown, turn_after h, shown_follow]
  exact List.drop_left

theorem shown_after_turn (h : d.pose q = (a, d.follow es rest)) :
    (d.turn q).after.shown = d.shown ++ (d.turn q).shown := by
  rw [turn_shown h, turn_after h, shown_follow]

theorem room_after_turn (h : d.pose q = (a, d.follow es rest)) :
    (d.turn q).after.room = d.room.map (· - (d.turn q).shown.length) := by
  rw [turn_shown h, turn_after h, follow_room]

end

theorem map_reply_eq_ok_iff {a : Except StreamError Text} (ha : Received d.input.broken line a)
    (b : Text) : a.map q.reply = .ok b ↔
      ¬CutOff d.input.broken line ∧ ∃ t : Text, line = t.encode ∧ b = q.reply t := by
  match a with
  | .error e =>
    refine ⟨(by intro h; cases h), fun ⟨hc, t, ht, _⟩ => ?_⟩
    cases (ha.eq_ok_iff t).2 ⟨hc, ht⟩
  | .ok t =>
    obtain ⟨hc, rfl⟩ := (ha.eq_ok_iff t).1 rfl
    constructor
    · intro h
      exact ⟨hc, t, rfl, (Except.ok.inj h).symm⟩
    · rintro ⟨-, u, hu, rfl⟩
      rw [Text.encode_injective hu]
      rfl

theorem map_reply_eq_error_iff {a : Except StreamError Text} {e : StreamError} :
    a.map q.reply = .error e ↔ a = .error e := by
  cases a <;> simp [Except.map]

/-- With room for all that it shows, a question takes the next line. -/
theorem regular_of_fits (h : d.Fits q) : (d.turn q).Regular := by
  obtain ⟨line, others, a, es, hl, ha, hb, hp⟩ := exists_pose_of_fits h
  have hu : d.input.unread = line ++ others.flatten := Bytes.flatten_of_reads hl
  have hfits : (d.turn q).Fits := h
  exact
    { unread := by rw [turn_consumed hp hu, turn_after hp]; exact hu
      consumed_eq_nil := by
        rintro (hn | hn)
        · exact absurd hfits hn
        · rw [turn_consumed hp hu]
          exact (List.append_eq_nil_iff.1 (hu.symm.trans hn)).1
      consumed_isNextLine := fun _ hne => by
        rw [turn_consumed hp hu]
        rcases Bytes.reads_eq_cons hl with ⟨hnil, -, -⟩ | ⟨hline, -, -⟩
        · exact absurd hnil hne
        · exact ⟨hline, Bytes.isNextLine_of_reads hl⟩
      shown_eq := by
        rw [turn_shown hp, hb]
        split
        next n hn => exact (List.take_of_length_le (h n hn)).symm
        next => rfl
      shown_append := shown_after_turn hp
      room_eq := room_after_turn hp
      answer_eq_ok := fun b => by
        rw [turn_answer hp, turn_consumed hp hu, map_reply_eq_ok_iff ha, and_iff_right hfits]
        rfl
      answer_eq_full := by
        rw [turn_answer hp, map_reply_eq_error_iff]
        exact ⟨fun he => absurd he ha.ne_full, fun hn => absurd hfits hn⟩
      answer_eq_closed := by
        rw [turn_answer hp, turn_consumed hp hu, map_reply_eq_error_iff, ha.eq_closed_iff,
          and_iff_right hfits]
        rfl }

/-- Without room for all that it shows, a question takes nothing. -/
theorem regular_of_not_fits (h : ¬d.Fits q) : (d.turn q).Regular := by
  obtain ⟨n, hr, hn⟩ := exists_room_of_not_fits h
  obtain ⟨es, hb, hp⟩ := exists_pose_of_not_fits hr hn
  have hfits : ¬(d.turn q).Fits := h
  exact
    { unread := by rw [turn_consumed hp (List.nil_append _).symm, turn_after hp]; rfl
      consumed_eq_nil := fun _ => turn_consumed hp (List.nil_append _).symm
      consumed_isNextLine := fun hf => absurd hf hfits
      shown_eq := by rw [turn_shown hp, hb, show (d.turn q).before.room = some n from hr]; rfl
      shown_append := shown_after_turn hp
      room_eq := room_after_turn hp
      answer_eq_ok := fun b => by
        rw [turn_answer hp]
        exact ⟨(by intro he; cases he), fun hf => absurd hf.1 hfits⟩
      answer_eq_full := by
        rw [turn_answer hp]
        exact ⟨fun _ => hfits, fun _ => rfl⟩
      answer_eq_closed := by
        rw [turn_answer hp]
        exact ⟨(by intro he; cases he), fun hf => absurd hf.1 hfits⟩ }

theorem turn_regular (d : Dialog) (q : Query) : (d.turn q).Regular := by
  by_cases h : d.Fits q
  · exact regular_of_fits h
  · exact regular_of_not_fits h

end Dialog

/-! ### What follows for the next question -/

namespace Turn

variable {t : Turn}

theorem Regular.length_shown_le (h : t.Regular) {n : Nat} (hn : t.before.room = some n) :
    t.shown.length ≤ n := by
  rw [h.shown_eq, hn]
  exact List.length_take_le n _

/-- A question that could not be shown leaves no room. -/
theorem Regular.room_of_not_fits (h : t.Regular) (hf : ¬t.Fits) : t.after.room = some 0 := by
  obtain ⟨n, hr, hn⟩ := Dialog.exists_room_of_not_fits hf
  rw [h.room_eq, h.shown_eq, hr]
  simp [Nat.le_of_lt hn]

/-- Without room a question shows nothing and takes nothing. -/
theorem Regular.idle (h : t.Regular) (hr : t.before.room = some 0) :
    t.answer = .error .full ∧ t.shown = [] ∧ t.consumed = [] := by
  have hf : ¬t.Fits := fun hf =>
    t.before.display_ne_nil t.query (List.length_eq_zero_iff.1 (Nat.le_zero.1 (hf 0 hr)))
  refine ⟨h.answer_eq_full.2 hf, ?_, h.consumed_eq_nil (.inl hf)⟩
  rw [h.shown_eq, hr]
  exact List.take_zero

end Turn

/-! ### All questions -/

namespace Dialog

variable {d : Dialog}

theorem session_cons (d : Dialog) (q : Query) (qs : List Query) :
    d.session (q :: qs) =
      (d.turn q :: ((d.turn q).after.session qs).1, ((d.turn q).after.session qs).2) := rfl

theorem map_query_session (d : Dialog) (qs : List Query) :
    (d.session qs).1.map Turn.query = qs := by
  induction qs generalizing d with
  | nil => rfl
  | cons q qs ih => rw [session_cons, List.map_cons, ih]; rfl

theorem regular_of_mem_session {qs : List Query} {t : Turn} (h : t ∈ (d.session qs).1) :
    t.Regular := by
  induction qs generalizing d with
  | nil => cases h
  | cons q qs ih =>
    rcases List.mem_cons.1 h with rfl | h
    · exact d.turn_regular q
    · exact ih h

theorem unread_session (d : Dialog) (qs : List Query) :
    d.input.unread =
      (d.session qs).1.flatMap Turn.consumed ++ (d.session qs).2.input.unread := by
  induction qs generalizing d with
  | nil => rfl
  | cons q qs ih =>
    rw [session_cons, List.flatMap_cons, List.append_assoc, ← ih]
    exact (d.turn_regular q).unread

theorem shown_session (d : Dialog) (qs : List Query) :
    (d.session qs).2.shown = d.shown ++ (d.session qs).1.flatMap Turn.shown := by
  induction qs generalizing d with
  | nil => exact (List.append_nil _).symm
  | cons q qs ih =>
    rw [session_cons, List.flatMap_cons, ← List.append_assoc, ih]
    exact congrArg (· ++ _) (d.turn_regular q).shown_append

theorem length_shown_session_le {qs : List Query} {n : Nat} (hn : d.room = some n) :
    ((d.session qs).1.flatMap Turn.shown).length ≤ n := by
  induction qs generalizing d n with
  | nil => exact Nat.zero_le n
  | cons q qs ih =>
    have ht := d.turn_regular q
    have hle := ht.length_shown_le hn
    have hroom : (d.turn q).after.room = some (n - (d.turn q).shown.length) := by
      rw [ht.room_eq, show (d.turn q).before.room = some n from hn]
      rfl
    have hrest := ih hroom
    rw [session_cons, List.flatMap_cons, List.length_append]
    omega

theorem idle_of_mem_session {qs : List Query} {t : Turn} (hr : d.room = some 0)
    (h : t ∈ (d.session qs).1) : t.answer = .error .full ∧ t.shown = [] ∧ t.consumed = [] := by
  induction qs generalizing d with
  | nil => cases h
  | cons q qs ih =>
    have ht := d.turn_regular q
    rcases List.mem_cons.1 h with rfl | h
    · exact ht.idle hr
    · have hroom : (d.turn q).after.room = some 0 := by
        rw [ht.room_eq, show (d.turn q).before.room = some 0 from hr]
        simp
      exact ih hroom h

/-- **A session keeps account of its input and its room.** Every question takes the next line or
nothing and shows itself as far as there is room, so the input is what the questions consumed, one
after the other, and what is unread, and together they show no more than there was room for. Once a
question could not be shown, those behind it fail, show nothing and consume nothing. -/
theorem session_regular (d : Dialog) (qs : List Query) :
    (d.session qs).1.map Turn.query = qs ∧
    (∀ t ∈ (d.session qs).1, t.Regular) ∧
    d.input.unread =
      (d.session qs).1.flatMap Turn.consumed ++ (d.session qs).2.input.unread ∧
    (d.session qs).2.shown = d.shown ++ (d.session qs).1.flatMap Turn.shown ∧
    (∀ n ∈ d.room, ((d.session qs).1.flatMap Turn.shown).length ≤ n) ∧
    (d.session qs).1.Pairwise fun t u =>
      ¬t.Fits → u.answer = .error .full ∧ u.shown = [] ∧ u.consumed = [] := by
  refine ⟨map_query_session d qs, fun t => regular_of_mem_session, unread_session d qs,
    shown_session d qs, fun n => length_shown_session_le, ?_⟩
  induction qs generalizing d with
  | nil => exact .nil
  | cons q qs ih =>
    refine .cons (fun u hu hf => ?_) (ih _)
    exact idle_of_mem_session ((d.turn_regular q).room_of_not_fits hf) hu

end Dialog

end LicenseForge
