import LicenseForge.Stream.Basic

/-!
# Writing in pieces

A text is written in pieces, any of which may be the one that there is not enough room for.

* `Output.put_append` : two writes are one write of both.
* `Writing` : writes that follow one another up to the first that fails.
* `Writing.Emits` : the writes leave every stream as if their text were written at once.
* `Writing.BreaksOff` : what a stream with room for some bytes has taken, and when the writes fail.
* `Writing.Emits.breaksOff` : writes that emit a text break off where the room ends.
-/

namespace LicenseForge

/-! ### One write after the other -/

namespace Output

/-- A stream takes the bytes that there is room for, and fails if there are more. -/
theorem put_room (before bytes : Bytes) (n : Nat) :
    ({ written := before, room := some n } : Output).put bytes =
      (if bytes.length ≤ n then .ok () else .error .full,
        { written := before ++ bytes.take n, room := some (n - bytes.length) }) := by
  by_cases h : bytes.length ≤ n
  · simp only [put, if_pos h, List.take_of_length_le h]
  · have hroom : n - bytes.length = 0 := by omega
    simp only [put, if_neg h, hroom]

@[simp] theorem put_nil (o : Output) : o.put [] = (.ok (), o) := by
  obtain ⟨written, _ | n⟩ := o <;> simp [put]

/-- What stands behind is written if there was room for what stands in front. -/
theorem put_append (o : Output) (a b : Bytes) :
    o.put (a ++ b) = match o.put a with
      | (.ok _, o) => o.put b
      | (.error e, o) => (.error e, o) := by
  obtain ⟨written, _ | n⟩ := o
  · simp [put]
  · rw [put_room, put_room, List.length_append, List.take_append]
    by_cases ha : a.length ≤ n
    · have hab : a.length + b.length ≤ n ↔ b.length ≤ n - a.length := by omega
      simp only [if_pos ha, put_room, hab, List.append_assoc, Nat.sub_sub]
    · -- there is no room for the first byte of what stands behind
      have hab : ¬a.length + b.length ≤ n := by omega
      have hroom : n - a.length = 0 ∧ n - (a.length + b.length) = 0 := by omega
      simp only [if_neg ha, if_neg hab, hroom.1, hroom.2, List.take_zero, List.append_nil]

/-- Texts that are written one after the other are one text. -/
theorem putAll_eq_put (o : Output) (ts : List Text) :
    o.putAll ts = o.put (Text.encode ts.flatten) := by
  induction ts generalizing o with
  | nil => rw [List.flatten_nil, Text.encode_nil, put_nil, putAll]
  | cons t ts ih =>
    rw [putAll, List.flatten_cons, Text.encode_append, put_append]
    obtain ⟨_ | _, o⟩ := o.put t.encode
    · rfl
    · exact ih o

/-- A stream without a bound takes all texts. -/
theorem putAll_unbounded (ts : List Text) :
    ({} : Output).putAll ts = (.ok (), { written := Text.encode ts.flatten }) :=
  putAll_eq_put {} ts

end Output

/-! ### Sequences of writes -/

/-- Writes that follow one another. The first one that fails is the last one. -/
abbrev Writing := ExceptT StreamError (StateM Output) Unit

namespace Writing

/-- What the writes return, and how they leave the stream. -/
def on (w : Writing) (o : Output) : Except StreamError Unit × Output :=
  StateT.run (ExceptT.run w) o

/-- One write. -/
def write (t : Text) : Writing := ExceptT.mk fun o => o.put t.encode

/-- The writes leave every stream as if the text were written at once. -/
def Emits (w : Writing) (t : Text) : Prop := ∀ o, w.on o = o.put t.encode

variable {w w' : Writing} {s t : Text}

theorem on_bind (w w' : Writing) (o : Output) :
    on (do w; w') o = match w.on o with
      | (.ok _, o) => w'.on o
      | (.error e, o) => (.error e, o) := by
  change (match w.on o with
    | (r, o) => (ExceptT.bindCont (fun _ => w') r).run o) = _
  obtain ⟨_ | _, o⟩ := w.on o <;> rfl

theorem emits_write (t : Text) : Emits (write t) t := fun _ => rfl

theorem emits_nothing : Emits (pure ()) [] := fun o => (Output.put_nil o).symm

theorem Emits.of_eq (h : Emits w s) (ht : s = t) : Emits w t := ht ▸ h

/-- What follows a write is written behind it. -/
theorem Emits.bind (h : Emits w s) (h' : Emits w' t) : Emits (do w; w') (s ++ t) := by
  intro o
  rw [on_bind, Text.encode_append, Output.put_append, h o]
  split
  · exact h' _
  · rfl

/-- A loop of writes puts their texts one behind the other. -/
theorem Emits.forM {α : Type} {f : α → Writing} {g : α → Text} (h : ∀ x, Emits (f x) (g x))
    (xs : List α) : Emits (xs.forM f) (xs.flatMap g) := by
  induction xs with
  | nil => exact emits_nothing
  | cons x xs ih => exact (h x).bind ih

/-- The pieces of a line, and the line feed behind them. -/
def line (pieces : List Text) : Writing := do
  pieces.forM write
  write ['\n']

theorem emits_line (pieces : List Text) : Emits (line pieces) (pieces.flatten ++ ['\n']) := by
  have h := Emits.forM emits_write pieces
  rw [List.flatMap_id'] at h
  exact h.bind (emits_write _)

/-! ### Where the room ends -/

/-- What becomes of writes on a new stream. The text that they write is given in parts. -/
structure BreaksOff (w : Writing) (parts : List Text) : Prop where
  /-- Any other pieces of the same text would leave any stream in the same way. -/
  pieces : ∀ pieces : List Text, pieces.flatten = parts.flatten → ∀ o, o.putAll pieces = w.on o
  /-- Without a bound the whole text is written. -/
  whole : w.on {} = (.ok (), { written := Text.encode parts.flatten })
  /-- Otherwise as many bytes of it are written as there is room for. -/
  written (n : Nat) : (w.on { room := some n }).2.written =
    (Text.encode parts.flatten).take (min n (Text.encode parts.flatten).length)
  /-- The error of the stream is returned if and only if these are not all. -/
  error_iff (n : Nat) :
    (w.on { room := some n }).1 = .error .full ↔ n < (Text.encode parts.flatten).length
  /-- If they are all, no error is returned. -/
  ok_iff (n : Nat) :
    (w.on { room := some n }).1 = .ok () ↔ (Text.encode parts.flatten).length ≤ n

theorem Emits.breaksOff {parts : List Text} (h : Emits w parts.flatten) : w.BreaksOff parts where
  pieces pieces hp o := by rw [Output.putAll_eq_put, hp, h o]
  whole := h {}
  written n := by rw [h, Output.put_room, List.nil_append, List.take_eq_take_min]
  error_iff n := by
    rw [h, Output.put_room, ← Nat.not_le]
    split <;> simp_all
  ok_iff n := by
    rw [h, Output.put_room]
    split <;> simp_all

end Writing

end LicenseForge
