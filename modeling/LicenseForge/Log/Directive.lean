import LicenseForge.Log.Event
import LicenseForge.Log.Pattern
import LicenseForge.Text.Alphanumeric
import LicenseForge.Text.Blank
import LicenseForge.Text.Lowercase
import LicenseForge.Year

/-!
# Log directives

A directive is written `source[span{detail=value}]=level`, where all parts but one may be missing.

* `LogDirective` : the events that a directive is for, and up to which level they are logged.
* `LogDirective.Parts` : a directive as it is written.
* `LogDirective.parse?` : reads a directive.
* `LogDirective.concerns` : a directive is for an event.
-/

namespace LicenseForge

/-- What is logged of some events. -/
structure LogDirective where
  /-- The start of the sources; an empty one stands for all. -/
  source : Text := []
  /-- The span in which the events happen. -/
  span : Option Text := none
  /-- The name of a detail that the events have. -/
  detail : Option Text := none
  /-- A pattern for the value of a detail, in the span in which the events happen. -/
  value : Option Text := none
  /-- The rank up to which events are logged; none are at `0`. -/
  limit : Nat := Level.trace.rank
  deriving DecidableEq, Repr

namespace LogDirective

/-! ### Levels -/

/-- The rank that a number or the name of a level stands for. -/
def limit? (t : Text) : Option Nat :=
  let digits := if t.head? == some '+' then t.drop 1 else t
  if !digits.isEmpty && digits.all Char.isDigit then
    if Year.value digits ≤ 5 then some (Year.value digits) else none
  else
    let word := t.lowercaseAscii
    if word == "off".toList then some 0
    else (Level.all.find? (·.name.lowercaseAscii == word)).map (·.rank)

/-- The rank behind an equals sign. None at all stands for the greatest. -/
def limitBehind? (t : Text) : Option Nat :=
  if t.isEmpty then some Level.trace.rank else limit? t

/-! ### Parts -/

/-- The parts of a directive. -/
structure Parts where
  /-- What stands in front of an opening bracket or an equals sign. -/
  source : Text := []
  /-- What stands behind the opening bracket. -/
  span : Option Text := none
  /-- What stands in braces. -/
  detail : Option Text := none
  /-- What stands behind the equals sign. -/
  level : Option Text := none
  deriving DecidableEq, Repr

namespace Parts

/-- The parts of a text with a bracket or an equals sign. -/
def ofText? (t : Text) : Option Parts :=
  let source := t.takeWhile fun c => c ≠ '=' && c ≠ '['
  match t.dropWhile fun c => c ≠ '=' && c ≠ '[' with
  | '=' :: level => some { source, level := some level }
  | '[' :: scope =>
    let span := scope.takeWhile fun c => c ≠ ']' && c ≠ '\x7b'
    match scope.dropWhile fun c => c ≠ ']' && c ≠ '\x7b' with
    | [']'] => some { source, span := some span }
    | ']' :: '=' :: level => some { source, span := some span, level := some level }
    | '\x7b' :: rest =>
      let span := Text.nonempty? span
      match Text.cut '\x7d' rest with
      | some (detail, [']']) => some { source, span, detail := some detail }
      | some (detail, ']' :: '=' :: level) =>
        some { source, span, detail := some detail, level := some level }
      | _ => none
    | _ => none
  | _ => none

/-- A number of bytes of a text behind others, where no character is broken up. -/
def piece (t : Text) (start length : Nat) : Text :=
  (Text.decode? ((t.encode.drop start).take length)).getD []

/-- What stands in a text where its parts stand once it is trimmed, counted in bytes. A level goes
on to the end. -/
def within (p : Parts) (t : Text) : Parts :=
  let size (s : Text) := s.encode.length
  let spanStart := size p.source + 1
  let detailStart := spanStart + size (p.span.getD []) + 1
  { source := piece t 0 (size p.source)
    span := p.span.map fun s => piece t spanStart (size s)
    detail := p.detail.map fun d => piece t detailStart (size d)
    level := p.level.map fun l => piece t (size t.trim - size l) (size t) }

/-- The name of a detail, and the pattern behind an equals sign. -/
def detail? (t : Text) : Option (Text × Option Text) :=
  match t.cut '=' with
  | none => if t.isEmpty then none else some (t, none)
  | some (name, rest) =>
    let value := rest.takeWhile (· ≠ '=')
    if Pattern.isReadable value then some (name, some value) else none

/-- The directive with the parts. -/
def directive? (p : Parts) : Option LogDirective := do
  let limit ← (p.level.map limitBehind?).getD (some Level.trace.rank)
  match p.detail with
  | none => return { source := p.source, span := p.span, limit }
  | some t =>
    let (detail, value) ← detail? t
    return { source := p.source, span := p.span, detail := some detail, value, limit }

end Parts

/-! ### Directives -/

/-- A character with which a source can start. -/
def startsSource (c : Char) : Bool := c == '-' || c == ':' || c == '_' || Text.isAlphanumeric c

/-- Reads a directive. Its parts are sought without the blanks around it and taken from the text
with them, so that blanks spoil a level, and blanks in front of a source make it one that no event
has. -/
def parse? (t : Text) : Option LogDirective :=
  if t.trim.head?.all fun c => c ≠ '[' && !startsSource c then none
  else if t.all fun c => c ≠ '=' && c ≠ '[' then
    match limit? t with
    | some limit => some { limit }
    | none => some { source := t }
  else (Parts.ofText? t.trim).bind fun p => (p.within t).directive?

/-! ### Events -/

/-- The directive is for the event. The program has no spans. -/
def concerns (d : LogDirective) (e : Event) : Bool :=
  d.span.isNone && d.value.isNone && d.source.isPrefixOf e.source && d.detail.all e.hasDetail

/-- Of two directives the one that decides about an event: the one with the longer source, else the
one with a detail, else the one with the later detail, else the second one. -/
def moreSpecific (a b : LogDirective) : LogDirective :=
  if a.source.length ≠ b.source.length then
    if a.source.length < b.source.length then b else a
  else match a.detail, b.detail with
    | some m, some n => if n.Precedes m then a else b
    | some _, none => a
    | none, _ => b

end LogDirective

end LicenseForge
