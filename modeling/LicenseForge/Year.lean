import LicenseForge.Text.Blank

/-!
# Copyright years

* `Year.format` : a calendar year as text, in at least four characters.
* `Year.validate` : accepts one year of four digits or an ascending range of two.
* `Year.isDate` : the days of the proleptic Gregorian calendar, for callers that hold a whole date.
-/

namespace LicenseForge.Year

/-! ### Writing a year -/

/-- A year in decimal, filled with zeros to four characters, of which a sign is one. -/
def format (year : Int) : Text :=
  match year with
  | .ofNat n => (Nat.toDigits 10 n).leftpad 4 '0'
  | .negSucc n => '-' :: (Nat.toDigits 10 (n + 1)).leftpad 3 '0'

/-! ### Reading a year -/

/-- Why a text is no copyright year. -/
inductive Invalid where
  /-- The part is not a year of four digits. -/
  | notFourDigits (part : Text)
  /-- The part does not denote a number of 16 bits. -/
  | unreadable (part : Text)
  /-- The second year of the range lies before the first. -/
  | descending (range : Text)
  deriving DecidableEq, Repr

/-- The wording of the error. -/
def Invalid.message : Invalid → Text
  | notFourDigits part => "invalid year '".toList ++ part ++ "': expected four digits".toList
  | unreadable part => "invalid year '".toList ++ part ++ ['\'']
  | descending range => "year range '".toList ++ range ++ "' ends before it starts".toList

/-- The byte of a decimal digit of ASCII. -/
def isDigitByte (b : UInt8) : Bool := 0x30 ≤ b && b ≤ 0x39

/-- Four bytes, each of which is a decimal digit of ASCII. -/
def isFourDigits (t : Text) : Bool := t.encode.length == 4 && t.encode.all isDigitByte

/-- The number that a text of decimal digits denotes. -/
def value (t : Text) : Nat := t.foldl (fun n c => 10 * n + (c.toNat - '0'.toNat)) 0

/-- The number of 16 bits that a text denotes: one or more decimal digits, in front of which a plus
sign may stand. -/
def parse? (t : Text) : Option UInt16 :=
  let digits := if t.head? == some '+' then t.drop 1 else t
  if !digits.isEmpty && digits.all Char.isDigit && value digits < UInt16.size then
    some (UInt16.ofNat (value digits))
  else none

/-- The year that a text of four digits denotes. -/
def read (t : Text) : Except Invalid UInt16 :=
  if isFourDigits t then
    match parse? t with
    | some n => .ok n
    | none => .error (.unreadable t)
  else .error (.notFourDigits t)

/-- The text without the blanks around it, if that is a year of four digits or an ascending range
of two such years. -/
def validate (t : Text) : Except Invalid Text := do
  let t := t.trim
  match t.cut '-' with
  | none =>
    let _ ← read t
    return t
  | some (first, last) =>
    let start ← read first
    let finish ← read last
    if start > finish then throw (.descending t)
    return t

/-! ### The calendar

A clock gives a year, and nothing else in the library looks at a month or a day. A caller that
holds a whole date can tell here whether there is such a day before its year is written. -/

/-- A leap year of the proleptic Gregorian calendar. -/
def isLeap (year : Int) : Bool := year % 4 == 0 && (year % 100 != 0 || year % 400 == 0)

/-- The number of days of a month. -/
def daysIn (year month : Int) : Int :=
  if month = 2 then (if isLeap year then 29 else 28)
  else if month = 4 || month = 6 || month = 9 || month = 11 then 30
  else 31

/-- The first year that a date can have. -/
def firstYear : Int := -262143

/-- The last year that a date can have. -/
def lastYear : Int := 262142

/-- A day of the calendar. -/
def isDate (year month day : Int) : Bool :=
  firstYear ≤ year && year ≤ lastYear && 1 ≤ month && month ≤ 12 && 1 ≤ day && day ≤ daysIn year month

end LicenseForge.Year
