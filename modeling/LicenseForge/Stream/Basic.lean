import LicenseForge.Text.Basic

/-!
# Streams

* `Input` : bytes that wait to be read, behind which the stream has ended or is broken.
* `Input.readLine` : reads through the next line feed.
* `Output` : bytes that are written, and how many more there is room for.
* `Output.put` : writes what there is room for, and fails if that is not all.
-/

namespace LicenseForge

/-- Why a stream refuses to be read or written. -/
inductive StreamError where
  /-- There is no room for all bytes. -/
  | full
  /-- The stream broke. -/
  | closed
  /-- The bytes that were read are not UTF-8. -/
  | notUtf8
  deriving DecidableEq, Repr

/-- The wording of the error. -/
def StreamError.message : StreamError → Text
  | full => "sink is full".toList
  | closed => "stream closed".toList
  | notUtf8 => "stream did not contain valid UTF-8".toList

/-! ### Input -/

/-- A stream to read from. -/
structure Input where
  /-- The bytes that wait to be read. -/
  unread : Bytes
  /-- Behind these bytes the stream does not end but break. -/
  broken : Bool := false
  deriving DecidableEq, Repr

/-- The byte that ends a line. -/
def lineFeed : UInt8 := 10

/-- The bytes through the first line feed, and those behind it. -/
def splitLine : Bytes → Bytes × Bytes
  | [] => ([], [])
  | b :: bytes =>
    if b = lineFeed then ([b], bytes)
    else (b :: (splitLine bytes).1, (splitLine bytes).2)

theorem splitLine_append (bytes : Bytes) : (splitLine bytes).1 ++ (splitLine bytes).2 = bytes := by
  induction bytes with
  | nil => rfl
  | cons b bytes ih =>
    rw [splitLine]
    split <;> simp [ih]

theorem splitLine_fst_eq_nil {bytes : Bytes} : (splitLine bytes).1 = [] ↔ bytes = [] := by
  cases bytes with
  | nil => simp [splitLine]
  | cons b bytes => rw [splitLine]; split <;> simp

/-- Reads through the next line feed, or to the end. A line that is not UTF-8 has been read, and so
have the bytes in front of a break. -/
def Input.readLine (i : Input) : Except StreamError Text × Input :=
  let line := (splitLine i.unread).1
  let rest := { i with unread := (splitLine i.unread).2 }
  if i.broken && line.getLast? != some lineFeed then (.error .closed, rest)
  else match Text.decode? line with
    | some t => (.ok t, rest)
    | none => (.error .notUtf8, rest)

/-! ### Output -/

/-- A stream to write to. -/
structure Output where
  /-- The bytes that are written. -/
  written : Bytes := []
  /-- The number of bytes that there is room for; `none` is no bound. -/
  room : Option Nat := none
  deriving DecidableEq, Repr

namespace Output

/-- Writes the bytes, or those that there is room for. -/
def put (o : Output) (bytes : Bytes) : Except StreamError Unit × Output :=
  match o.room with
  | none => (.ok (), { o with written := o.written ++ bytes })
  | some n =>
    if bytes.length ≤ n then
      (.ok (), { written := o.written ++ bytes, room := some (n - bytes.length) })
    else (.error .full, { written := o.written ++ bytes.take n, room := some 0 })

/-- Writes texts one after the other, up to the first that there is not enough room for. -/
def putAll (o : Output) : List Text → Except StreamError Unit × Output
  | [] => (.ok (), o)
  | t :: ts =>
    match o.put t.encode with
    | (.ok _, o) => o.putAll ts
    | (.error e, o) => (.error e, o)

end Output

end LicenseForge
