import LicenseForge.Log.Pattern.Expression

/-!
# Patterns

A directive can ask for the value of a detail by a number or by a regular expression.

* `Pattern.isNumber` : a text is an unsigned number.
* `Pattern.isReadable` : a text is a number or a regular expression.
-/

namespace LicenseForge.Pattern

/-- An unsigned number, in digits with or without a fraction and an exponent, or by name. -/
def isNumber (t : Text) : Bool :=
  let whole := t.takeWhile Char.isDigit
  let (fraction, rest) := match t.dropWhile Char.isDigit with
    | '.' :: t => (t.takeWhile Char.isDigit, t.dropWhile Char.isDigit)
    | t => ([], t)
  let exponent := match rest with
    | [] => true
    | e :: '+' :: t | e :: '-' :: t | e :: t =>
      (e = 'e' || e = 'E') && !t.isEmpty && t.all Char.isDigit
  ["inf", "infinity", "nan"].any (·.toList = t.map Char.toLower)
    || !(whole ++ fraction).isEmpty && exponent

/-- A number or a regular expression. A number may have a plus sign, which no regular expression
begins with. -/
def isReadable (t : Text) : Bool :=
  (match t with
    | '+' :: t => isNumber t
    | _ => false)
  || isExpression t

end LicenseForge.Pattern
