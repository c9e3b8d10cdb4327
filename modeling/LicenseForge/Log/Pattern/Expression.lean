import LicenseForge.Log.Pattern.Set
import LicenseForge.Text.Alphanumeric

/-!
# Regular expressions

* `Pattern.body?` : reads alternatives up to the end of their group.
* `Pattern.isExpression` : a text is a regular expression.

Counted repetitions are not known, since their braces would end the directive.
-/

namespace LicenseForge.Pattern

/-! ### The start of a group -/

/-- What a parenthesis opens. -/
inductive Opening where
  /-- Nothing: from here on there are other modes. -/
  | change (m : Modes)
  /-- A group with modes of its own. -/
  | group (m : Modes)
  /-- A group with a name. -/
  | named (name : Text)
  deriving DecidableEq, Repr

/-- Flags, each at most once, of which a hyphen switches off some. -/
def isFlags (t : Text) : Bool :=
  t.all "imsRUux-".toList.contains && decide t.Nodup && t.getLast? != some '-'

/-- The name of a group. -/
def isName : Text → Bool
  | [] => false
  | c :: t =>
    (c = '_' || Text.isAlphabetic c)
      && t.all fun c => "_.[]".toList.contains c || Text.isAlphanumeric c

/-- Reads what stands behind an opening parenthesis up to the contents of the group. -/
def opening? (m : Modes) (t : Text) : Option (Opening × Text) :=
  match m.skip t with
  | '?' :: '<' :: t | '?' :: 'P' :: '<' :: t =>
    match Text.cut '>' t with
    | some (name, t) => if isName name then some (.named name, t) else none
    | none => none
  | '?' :: t =>
    let flags := t.takeWhile fun c => c ≠ ':' && c ≠ ')'
    if isFlags flags then
      match t.drop flags.length with
      | ':' :: t => some (.group (m.change flags), t)
      | ')' :: t => if flags.isEmpty then none else some (.change (m.change flags), t)
      | _ => none
    else none
  | t => some (.group m, t)

/-! ### Parts -/

/-- A part of an alternative. -/
inductive Part where
  /-- Flags, which cannot be repeated. -/
  | flags
  /-- A part with its height. -/
  | node (height : Nat)
  deriving DecidableEq, Repr

/-- The height of a part. -/
def Part.height : Part → Nat
  | flags => 0
  | node h => h

/-- The height of alternatives with the heights, and a last one with the parts. -/
def heightOf (alternatives : List Nat) (parts : List Part) : Nat :=
  height (height (parts.map Part.height) :: alternatives)

/-- Reads a part that is no set, no group and no repetition. Gives the text behind it. -/
def atom? (m : Modes) : Text → Option Text
  | '\\' :: t =>
    match symbol? m t with
    | some (.character c byte, t) => if m.allowsCharacter c byte then some t else none
    | some (.lettered negated, t) => if m.allowsLettered negated then some t else none
    | some (.anchor, t) => some t
    | some (.wordEdge, t) => if m.unicode then none else some t
    | none => none
  | '.' :: t => if m.unicode then some t else none
  | '^' :: t | '$' :: t => some t
  | '\x7b' :: _ => none
  | c :: t => if m.allowsCharacter c false then some t else none
  | [] => none

/-! ### Alternatives -/

/-- A repeated part. -/
def Part.repeated? : List Part → Option (List Part)
  | .node h :: parts => some (.node (h + 1) :: parts)
  | _ => none

/-- Reads alternatives up to a closing parenthesis or the end, in at most `fuel` steps. The names of
groups in front of it are `names`, the heights of the alternatives that have been read
`alternatives`, and the parts of the next one, from the last to the first, `parts`. Gives the names,
the height, and what has not been read. -/
def body? : Nat → Modes → List Text → List Nat → List Part → Text →
    Option (List Text × Nat × Text)
  | 0, _, _, _, _, _ => none
  | fuel + 1, m, names, alternatives, parts, t =>
    match m.skip t with
    | [] => some (names, heightOf alternatives parts, [])
    | ')' :: t => some (names, heightOf alternatives parts, ')' :: t)
    | '|' :: t => body? fuel m names (height (parts.map Part.height) :: alternatives) [] t
    | '[' :: t =>
      match set? m t with
      | some (h, t) => body? fuel m names alternatives (.node h :: parts) t
      | none => none
    | '?' :: t | '*' :: t | '+' :: t =>
      match Part.repeated? parts with
      | some parts =>
        body? fuel m names alternatives parts (if t.head? = some '?' then t.drop 1 else t)
      | none => none
    | '(' :: t =>
      match opening? m t with
      | none => none
      | some (.change m, t) => body? fuel m names alternatives (.flags :: parts) t
      | some (.group inner, t) =>
        match body? fuel inner names [] [] t with
        | some (names, h, ')' :: t) => body? fuel m names alternatives (.node (h + 1) :: parts) t
        | _ => none
      | some (.named name, t) =>
        if names.contains name then none
        else match body? fuel m (name :: names) [] [] t with
          | some (names, h, ')' :: t) => body? fuel m names alternatives (.node (h + 1) :: parts) t
          | _ => none
    | t =>
      match atom? m t with
      | some t => body? fuel m names alternatives (.node 0 :: parts) t
      | none => none

/-- The height up to which expressions can be nested. -/
def maxHeight : Nat := 250

/-- The text is a regular expression. -/
def isExpression (t : Text) : Bool :=
  match body? (t.length + 1) {} [] [] [] t with
  | some (_, h, []) => h ≤ maxHeight
  | _ => false

end LicenseForge.Pattern
