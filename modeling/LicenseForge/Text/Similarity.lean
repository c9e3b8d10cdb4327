import LicenseForge.Text.Basic

/-!
# Similar words

`Text.resembles` : two words are similar if their Jaro similarity is high. It is counted from the
characters that the words share at nearly the same place, and from those of them that stand in
another order.
-/

namespace LicenseForge.Text

/-- Marks the first unmarked character `x` at a place from `low` to `high`, where `place` is the
place of the first character in the list. -/
def markShared (x : Char) (low high place : Nat) :
    List (Char × Bool) → Option (List (Char × Bool))
  | [] => none
  | (c, marked) :: rest =>
    if low ≤ place && place ≤ high && c == x && !marked then some ((c, true) :: rest)
    else (markShared x low high (place + 1) rest).map ((c, marked) :: ·)

/-- The characters of the first word that have a partner in the second one, and the second word
with the partners marked. Partners are at most `range` places apart. -/
def shared (range place : Nat) : Text → List (Char × Bool) → Text × List (Char × Bool)
  | [], b => ([], b)
  | x :: a, b =>
    match markShared x (place - range) (place + range) 0 b with
    | some b => let rest := shared range (place + 1) a b; (x :: rest.1, rest.2)
    | none => shared range (place + 1) a b

/-- The number of places at which two words of the same length differ. -/
def mismatches (a b : Text) : Nat := (a.zip b).countP fun p => p.1 != p.2

/-- The Jaro similarity of two words is at least seven tenths. -/
def resembles (a b : Text) : Bool :=
  let range := max a.length b.length / 2 - 1
  let pairs := shared range 0 a (b.map (·, false))
  let partners := (pairs.2.filter (·.2)).map (·.1)
  let m := pairs.1.length
  let t := mismatches pairs.1 partners / 2
  m != 0 && 21 * (a.length * b.length * m) ≤
    10 * (m * m * b.length + m * m * a.length + (m - t) * (a.length * b.length))

end LicenseForge.Text
