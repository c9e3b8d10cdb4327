import LicenseForge.Dialog.Basic
import LicenseForge.Proofs.Stream.Line
import LicenseForge.Proofs.Text.Trim

/-!
# One question

* `Dialog.follow` : the dialog after some entries, with the input read up to some place.
* `Dialog.HasRoom` : the output takes all that some entries show.
* `Dialog.asking` : what happens when a question is asked.
* `Dialog.ask_eq` : a question shows itself and takes one line; the end of the input is a line too.
-/

namespace LicenseForge

/-- The bytes that an entry shows. -/
def Entry.bytes : Entry → Bytes
  | shown bytes => bytes
  | _ => []

namespace Dialog

variable {d : Dialog} {es es' : List Entry} {rest rest' : Bytes} {t : Text}

/-! ### How a dialog goes on -/

/-- The dialog after some entries, with the input read up to `rest`. -/
def follow (d : Dialog) (es : List Entry) (rest : Bytes) : Dialog :=
  { d with
    input := { d.input with unread := rest }
    room := d.room.map (· - (es.flatMap Entry.bytes).length)
    record := d.record ++ es }

/-- The output takes all that the entries show. -/
def HasRoom (d : Dialog) (es : List Entry) : Prop :=
  ∀ n ∈ d.room, (es.flatMap Entry.bytes).length ≤ n

instance (d : Dialog) (es : List Entry) : Decidable (d.HasRoom es) :=
  match h : d.room with
  | none => isTrue fun n hn => by simp [h] at hn
  | some n => decidable_of_iff ((es.flatMap Entry.bytes).length ≤ n) (by simp [HasRoom, h])

@[simp] theorem follow_palette : (d.follow es rest).palette = d.palette := rfl

@[simp] theorem follow_input : (d.follow es rest).input = { d.input with unread := rest } := rfl

@[simp] theorem follow_room :
    (d.follow es rest).room = d.room.map (· - (es.flatMap Entry.bytes).length) := rfl

@[simp] theorem follow_record : (d.follow es rest).record = d.record ++ es := rfl

@[simp] theorem follow_follow :
    (d.follow es rest).follow es' rest' = d.follow (es ++ es') rest' := by
  simp [follow, Function.comp_def, Nat.sub_sub]

/-- Reading goes on behind what happened. -/
theorem follow_read : ({ d.follow es rest with
    input := { unread := rest', broken := d.input.broken } } : Dialog) = d.follow es rest' := rfl

@[simp] theorem follow_nil : d.follow [] d.input.unread = d := by simp [follow]

theorem hasRoom_of_room_eq_none (h : d.room = none) : d.HasRoom es := by simp [HasRoom, h]

theorem hasRoom_append (rest : Bytes) :
    d.HasRoom (es ++ es') ↔ d.HasRoom es ∧ (d.follow es rest).HasRoom es' := by
  cases h : d.room with
  | none => simp [HasRoom, h]
  | some n =>
    simp only [HasRoom, follow_room, h, Option.map_some, Option.mem_some_iff, forall_eq',
      List.flatMap_append, List.length_append]
    omega

theorem hasRoom_cons {e : Entry} (rest : Bytes) :
    d.HasRoom (e :: es) ↔ d.HasRoom [e] ∧ (d.follow [e] rest).HasRoom es :=
  show d.HasRoom ([e] ++ es) ↔ _ from hasRoom_append rest

theorem say_eq (h : d.HasRoom [.shown t.encode]) :
    d.say t = (.ok (), d.follow [.shown t.encode] d.input.unread) := by
  cases hr : d.room with
  | none => simp [say, follow, Output.put, hr]
  | some n =>
    have hn : t.encode.length ≤ n := by simpa [Entry.bytes] using h n hr
    simp [say, follow, Output.put, hr, hn, Entry.bytes]

theorem report_eq (e : Event) : d.report e = d.follow [.reported e] d.input.unread := by
  simp [report, follow, Entry.bytes]

theorem refuse_eq (message : Text) :
    d.refuse message = d.follow [.complaint message] d.input.unread := by
  simp [refuse, follow, Entry.bytes]

/-! ### Answers -/

@[simp] theorem answer_none (line : Text) : answer line none = line.trim := by
  simp [answer]

theorem answer_of_allBlank {line : Text} (h : line.AllBlank) (default : Text) :
    answer line (some default) = default := by
  simp [answer, Text.trim_eq_nil_iff.2 h]

theorem answer_of_not_allBlank {line : Text} (h : ¬line.AllBlank) (default : Text) :
    answer line (some default) = line.trim := by
  simp [answer, mt Text.trim_eq_nil_iff.1 h]

/-! ### Asking -/

/-- What happens when a question is asked and reading the answer gives `a`. The end of the input is
shown by a new line. -/
def asking (p : Palette) (question : Text) (default : Option Text) :
    Except StreamError Text → List Entry
  | .ok [] =>
    [.shown (prompt p question default).encode, .shown (Text.encode ['\n']),
      .reported (.endOfInput question)]
  | _ => [.shown (prompt p question default).encode]

theorem ask_eq {question : Text} {default : Option Text} {line : Bytes} {lines : List Bytes}
    {a : Except StreamError Text} (hl : d.input.unread.reads = line :: lines)
    (ha : Received d.input.broken line a) (hr : d.HasRoom (asking d.palette question default a)) :
    d.ask question default =
      (a.map (answer · default), d.follow (asking d.palette question default a) lines.flatten) := by
  have hread := Input.readLine_eq hl ha
  match a with
  | .error e =>
    rw [ask, say_eq hr]
    simp only [follow_input, hread]
    rfl
  | .ok (c :: t) =>
    rw [ask, say_eq hr]
    simp only [follow_input, hread]
    rfl
  | .ok [] =>
    obtain ⟨hq, hr⟩ := (hasRoom_cons lines.flatten).1 hr
    obtain ⟨hn, -⟩ := (hasRoom_cons lines.flatten).1 hr
    rw [ask, say_eq hq]
    simp only [follow_input, hread, follow_read, say_eq hn, List.isEmpty_nil, if_true, report_eq,
      follow_follow]
    rfl

end Dialog

end LicenseForge
