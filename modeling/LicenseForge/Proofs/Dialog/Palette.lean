import LicenseForge.Proofs.Dialog.Filling
import LicenseForge.Proofs.Dialog.Session
import LicenseForge.Proofs.Palette.Erase

/-!
# Questions in colour

Two dialogs with the same input, whose questions differ in escape sequences only, go on in the same
way.

* `Dialog.Alike` : two such dialogs.
* `Dialog.Alike.ask`, `Dialog.Alike.askYear`, `Dialog.Alike.complete` : they stay alike, with the
  same answers.
* `Turn.Alike` and `Dialog.Alike.session` : so do they through a session of questions.
-/

namespace LicenseForge

/-- The entries differ in the escape sequences of what is shown only. -/
inductive Entry.Alike : Entry → Entry → Prop
  | shown {x y : Bytes} (h : Ansi.Alike x y) : Alike (.shown x) (.shown y)
  | complaint (message : Text) : Alike (.complaint message) (.complaint message)
  | reported (e : Event) : Alike (.reported e) (.reported e)

theorem Entry.Alike.bytes {e e' : Entry} (h : e.Alike e') : Ansi.Alike e.bytes e'.bytes := by
  cases h with
  | shown h => exact h
  | complaint => exact .refl Ansi.sealed_nil
  | reported => exact .refl Ansi.sealed_nil

namespace Dialog

/-- The dialogs have the same input and room for everything, and what happened so far differs in
escape sequences only. -/
structure Alike (d d' : Dialog) : Prop where
  input : d.input = d'.input
  room : d.room = none
  room' : d'.room = none
  marks : d.palette.Marks
  marks' : d'.palette.Marks
  record : List.Forall₂ Entry.Alike d.record d'.record

variable {d d' : Dialog} {es es' : List Entry} {p p' : Palette} {l : License} {now : Int}
  {given : Filling} {asks : Bool} {q : Query}

namespace Alike

/-- Without anything that has happened, dialogs with the same input are alike. -/
theorem start (i : Input) (hp : p.Marks) (hp' : p'.Marks) :
    Alike { input := i, palette := p } { input := i, palette := p' } :=
  ⟨rfl, rfl, rfl, hp, hp', .nil⟩

theorem follow (h : d.Alike d') (hes : List.Forall₂ Entry.Alike es es') (rest : Bytes) :
    (d.follow es rest).Alike (d'.follow es' rest) where
  input := by rw [follow_input, follow_input, h.input]
  room := by rw [follow_room, h.room]; rfl
  room' := by rw [follow_room, h.room']; rfl
  marks := h.marks
  marks' := h.marks'
  record := List.rel_append h.record hes

theorem shown (h : d.Alike d') : Ansi.Alike d.shown d'.shown := by
  rw [shown_eq_flatMap, shown_eq_flatMap]
  exact .flatMap h.record fun _ _ => Entry.Alike.bytes

theorem supply_eq (h : d.Alike d') : d.supply = d'.supply := by
  rw [supply, supply, h.input, h.room, h.room']

theorem refuse (h : d.Alike d') (message : Text) : (d.refuse message).Alike (d'.refuse message) := by
  rw [refuse_eq, refuse_eq, ← h.input]
  exact h.follow (.cons (.complaint message) .nil) _

end Alike

/-! ### One question -/

/-- A question differs in escape sequences only: each of them stands around a text, in front of a
blank, a colon or a bracket. -/
theorem alike_prompt (hp : p.Marks) (hp' : p'.Marks) (question : Text) (default : Option Text) :
    Ansi.Alike (prompt p question default).encode (prompt p' question default).encode := by
  cases default with
  | none =>
    have hquestion := Palette.alike_decorated (a := []) (b := question) (c := ": ".toList) hp hp'
      Palette.bold (by simp [Palette.sequences]) (by decide) (by decide) (by decide) (by decide)
    simpa [prompt] using hquestion
  | some default =>
    have hquestion := Palette.alike_decorated (a := []) (b := question) (c := [' ']) hp hp'
      Palette.bold (by simp [Palette.sequences]) (by decide) (by decide) (by decide) (by decide)
    have hdefault := Palette.alike_decorated (a := []) (b := '[' :: default ++ [']'])
      (c := ": ".toList) hp hp' Palette.dim (by simp [Palette.sequences]) (by decide) (by decide)
      (by decide) (by decide)
    simpa [prompt] using hquestion.append hdefault

theorem alike_asking (hp : p.Marks) (hp' : p'.Marks) (question : Text) (default : Option Text)
    (a : Except StreamError Text) :
    List.Forall₂ Entry.Alike (asking p question default a) (asking p' question default a) := by
  have hprompt := Entry.Alike.shown (alike_prompt hp hp' question default)
  unfold asking
  split
  · exact .cons hprompt (.cons (.shown (.refl (by decide))) (.cons (.reported _) .nil))
  · exact .cons hprompt .nil

/-- Both dialogs ask in the same way. -/
theorem Alike.exists_ask (h : d.Alike d') (question : Text) (default : Option Text) :
    ∃ r es es' rest, List.Forall₂ Entry.Alike es es' ∧
      d.ask question default = (r, d.follow es rest) ∧
      d'.ask question default = (r, d'.follow es' rest) := by
  cases hl : d.input.unread.reads with
  | nil => simp [Bytes.reads] at hl
  | cons line others =>
    obtain ⟨a, ha⟩ := exists_received d.input.broken line
    refine ⟨_, _, _, _, alike_asking h.marks h.marks' question default a,
      ask_eq hl ha (hasRoom_of_room_eq_none h.room),
      ask_eq (h.input ▸ hl) (h.input ▸ ha) (hasRoom_of_room_eq_none h.room')⟩

/-- Two ends of a dialog with the same result, in alike dialogs. -/
def SameEnd {α : Type} (x y : α × Dialog) : Prop := x.1 = y.1 ∧ x.2.Alike y.2

theorem SameEnd.exists_eq {α : Type} {x y : α × Dialog} (h : SameEnd x y) :
    ∃ r next next', x = (r, next) ∧ y = (r, next') ∧ next.Alike next' :=
  ⟨x.1, x.2, y.2, rfl, Prod.ext h.1.symm rfl, h.2⟩

theorem Alike.ask (h : d.Alike d') (question : Text) (default : Option Text) :
    SameEnd (d.ask question default) (d'.ask question default) := by
  obtain ⟨r, es, es', rest, hes, ha, ha'⟩ := h.exists_ask question default
  rw [ha, ha']
  exact ⟨rfl, h.follow hes rest⟩

/-! ### Asking for what is missing -/

theorem Alike.askYear (h : d.Alike d') (now : Int) : SameEnd (d.askYear now) (d'.askYear now) := by
  -- a refused answer is followed by more questions only if it has used something up
  induction hk : d.supply using Nat.strongRecOn generalizing d d' with
  | _ k ih =>
    subst hk
    have hask : SameEnd (d.askYearOnce now) (d'.askYearOnce now) := h.ask _ _
    obtain ⟨r, next, next', ha, ha', hnext⟩ := hask.exists_eq
    rw [Dialog.askYear, Dialog.askYear, ha, ha']
    cases r with
    | error e => exact ⟨rfl, hnext⟩
    | ok text =>
      dsimp only
      cases Year.validate text with
      | ok year => exact ⟨rfl, hnext⟩
      | error e =>
        have hrefuse := hnext.refuse e.message
        dsimp only
        rw [← hrefuse.supply_eq, ← h.supply_eq]
        split
        next hlt => exact ih _ hlt hrefuse rfl
        next => exact ⟨rfl, hrefuse⟩

theorem Alike.findHolder (h : d.Alike d') (l : License) (given : Option Text) (asks : Bool) :
    SameEnd (d.findHolder l given asks) (d'.findHolder l given asks) := by
  unfold Dialog.findHolder
  cases given with
  | some holder => exact ⟨rfl, h⟩
  | none =>
    dsimp only
    split
    next =>
      obtain ⟨r, next, next', ha, ha', hnext⟩ := (h.ask holderQuestion none).exists_eq
      rw [ha, ha']
      cases r <;> exact ⟨rfl, hnext⟩
    next => exact ⟨rfl, h⟩

theorem Alike.findYear (h : d.Alike d') (l : License) (given : Option Text) (asks : Bool)
    (now : Int) : SameEnd (d.findYear l given asks now) (d'.findYear l given asks now) := by
  unfold Dialog.findYear
  cases given with
  | some year => exact ⟨rfl, h⟩
  | none =>
    dsimp only
    split
    next =>
      obtain ⟨r, next, next', ha, ha', hnext⟩ := (h.askYear now).exists_eq
      rw [ha, ha']
      cases r <;> exact ⟨rfl, hnext⟩
    next => exact ⟨rfl, h⟩

theorem Alike.noteHolder (h : d.Alike d') (l : License) (holder : Option Text) :
    (d.noteHolder l holder).Alike (d'.noteHolder l holder) := by
  have hnote : List.Forall₂ Entry.Alike (holderNote l holder) (holderNote l holder) := by
    unfold holderNote
    split
    · exact .nil
    · split
      · exact .cons (.reported _) .nil
      · exact .nil
  rw [noteHolder_eq, noteHolder_eq, ← h.input]
  exact h.follow hnote _

/-- What a license leaves open is found in the same way. -/
theorem Alike.complete (h : d.Alike d') (l : License) (given : Filling) (asks : Bool) (now : Int) :
    SameEnd (d.complete l given asks now) (d'.complete l given asks now) := by
  unfold Dialog.complete
  obtain ⟨r, next, next', ha, ha', hnext⟩ := (h.findHolder l given.holder asks).exists_eq
  rw [ha, ha']
  cases r with
  | error e => exact ⟨rfl, hnext⟩
  | ok holder =>
    dsimp only
    have hnote := hnext.noteHolder l (holder.filter (!·.isEmpty))
    obtain ⟨y, last, last', hy, hy', hlast⟩ := (hnote.findYear l given.year asks now).exists_eq
    rw [hy, hy']
    cases y <;> exact ⟨rfl, hlast⟩

end Dialog

/-! ### Sessions -/

/-- The questions are the same and so are their answers and what they consumed, and what they show
differs in escape sequences only. -/
structure Turn.Alike (t t' : Turn) : Prop where
  query : t.query = t'.query
  answer : t.answer = t'.answer
  consumed : t.consumed = t'.consumed
  shown : Ansi.Alike t.shown t'.shown

namespace Dialog

variable {d d' : Dialog}

theorem Alike.turn (h : d.Alike d') (q : Query) :
    (d.turn q).Alike (d'.turn q) ∧ (d.turn q).after.Alike (d'.turn q).after := by
  obtain ⟨r, es, es', rest, hes, ha, ha'⟩ := h.exists_ask q.question q.ifBlank
  rw [← pose_eq_ask] at ha ha'
  have hafter : (d.turn q).after.Alike (d'.turn q).after := by
    rw [turn_after ha, turn_after ha']
    exact h.follow hes rest
  refine ⟨⟨rfl, by rw [turn_answer ha, turn_answer ha'], ?_, ?_⟩, hafter⟩
  · have hbefore : (d.turn q).before.input = (d'.turn q).before.input := h.input
    rw [Turn.consumed, Turn.consumed, hbefore, hafter.input]
  · rw [turn_shown ha, turn_shown ha']
    exact .flatMap hes fun _ _ => Entry.Alike.bytes

/-- A session goes on in the same way. -/
theorem Alike.session (h : d.Alike d') (qs : List Query) :
    List.Forall₂ Turn.Alike (d.session qs).1 (d'.session qs).1 ∧
      (d.session qs).2.Alike (d'.session qs).2 := by
  induction qs generalizing d d' with
  | nil => exact ⟨.nil, h⟩
  | cons q qs ih =>
    obtain ⟨hturn, hafter⟩ := h.turn q
    obtain ⟨hturns, hend⟩ := ih hafter
    rw [session_cons, session_cons]
    exact ⟨.cons hturn hturns, hend⟩

end Dialog

end LicenseForge
