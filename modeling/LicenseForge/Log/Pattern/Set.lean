import LicenseForge.Log.Pattern.Symbol

/-!
# Sets of characters

* `Pattern.set?` : reads a set in brackets, such as `[^a-z&&[:alpha:]]`.
-/

namespace LicenseForge.Pattern

/-! ### Members -/

/-- The classes of characters that have a name. -/
def classNames : List Text :=
  ["alnum", "alpha", "ascii", "blank", "cntrl", "digit", "graph", "lower", "print", "punct",
    "space", "upper", "word", "xdigit"].map String.toList

/-- Reads the name of a class between colons, behind a bracket. Gives whether all others are meant,
and the text behind it. -/
def named? : Text → Option (Bool × Text)
  | ':' :: t =>
    let name := if t.head? = some '^' then t.drop 1 else t
    match name.dropWhile (· ≠ ':') with
    | ':' :: ']' :: rest =>
      if classNames.contains (name.takeWhile (· ≠ ':')) then some (t.head? = some '^', rest)
      else none
    | _ => none
  | _ => none

/-- Reads a member of a set: a character, or `none` for a class of them. -/
def member? (m : Modes) : Text → Option (Option Char × Text)
  | '\\' :: t =>
    match symbol? m t with
    | some (.character c _, t) => if m.allowsMember c then some (some c, t) else none
    | some (.lettered negated, t) => if m.allowsLettered negated then some (none, t) else none
    | _ => none
  | c :: t => if m.allowsMember c then some (some c, t) else none
  | [] => none

/-- Reads a member of a set or a range of characters. A hyphen in front of a closing bracket or of
another hyphen makes no range. -/
def range? (m : Modes) (t : Text) : Option Text := do
  let (low, t) ← member? m t
  match m.skip t with
  | '-' :: rest =>
    if m.peek rest = some ']' || m.peek rest = some '-' then some ('-' :: rest)
    else
      let (high, rest) ← member? m (m.skip rest)
      match low, high with
      | some l, some h => if l ≤ h then some rest else none
      | _, _ => none
  | t => some t

/-! ### Sets -/

/-- Whether a set is negated, and the text of its members. -/
def openSet (m : Modes) (t : Text) : Bool × Text :=
  match m.skip t with
  | '^' :: t => (true, t)
  | t => (false, t)

/-- Reads members of a set up to its end, in at most `fuel` steps. Behind an operator, `left` is the
height of what stands in front of it; `row` are the heights of the members that have been read. At
the start a hyphen and, as the first one, a closing bracket stand for themselves. Gives the height
of the set, and the text behind it. -/
def members? : Nat → Modes → Bool → Option Nat → List Nat → Text → Option (Nat × Text)
  | 0, _, _, _, _, _ => none
  | fuel + 1, m, start, left, row, t =>
    match m.skip t with
    | [] => none
    | c :: t =>
      if start && (c = '-' || c = ']' && row.isEmpty) then
        if m.allowsMember c then members? fuel m (c = '-') left (0 :: row) t else none
      else if c = ']' then some (height (left.toList ++ [height row]) + 1, t)
      else if (c = '&' || c = '-' || c = '~') && t.head? = some c then
        members? fuel m false (some (height (left.toList ++ [height row]))) [] (t.drop 1)
      else if c = '[' then
        match named? t with
        | some (negated, t) =>
          if m.allowsNamed negated then members? fuel m false left (0 :: row) t else none
        | none =>
          let (negated, t) := openSet m t
          if m.allowsSet negated then
            match members? fuel m true none [] t with
            | some (h, t) => members? fuel m false left (h :: row) t
            | none => none
          else none
      else
        match range? m (c :: t) with
        | some t => members? fuel m false left (0 :: row) t
        | none => none

/-- Reads a set behind its opening bracket. Gives its height, and the text behind it. -/
def set? (m : Modes) (t : Text) : Option (Nat × Text) :=
  let (negated, members) := openSet m t
  if m.allowsSet negated then members? (members.length + 1) m true none [] members else none

end LicenseForge.Pattern
