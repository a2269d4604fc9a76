import DhcpLeases.Time.Stamp

namespace DhcpLeases.Time.Rfc3339

open DhcpLeases.Text

/-- The shortest of three, six or nine digits that hold a fraction of a second. -/
def fractionText (nanos : Nat) : List Char :=
  if nanos = 0 then []
  else if nanos % 1000000 = 0 then '.' :: Decimal.padded 3 (nanos / 1000000)
  else if nanos % 1000 = 0 then '.' :: Decimal.padded 6 (nanos / 1000)
  else '.' :: Decimal.padded 9 nanos

def write (t : Instant) : String :=
  let r := t.reading
  String.ofList <|
    yearText r.date.year ++ '-' :: Decimal.padded 2 r.date.month ++
      '-' :: Decimal.padded 2 r.date.day ++ 'T' :: Decimal.padded 2 r.hour ++
      ':' :: Decimal.padded 2 r.minute ++ ':' :: Decimal.padded 2 r.second ++
      fractionText (t.nanos % nanosPerSecond) ++ ['Z']

def mark? (c : Char) (cs : List Char) : Option (List Char) :=
  after? c (skipBlanks cs)

/-- The nanoseconds of an optional fraction; digits beyond the ninth are passed over. -/
def fraction? : List Char → Option (Nat × List Char)
  | '.' :: cs =>
    match Decimal.spanUpTo 9 cs with
    | ([], _) => none
    | (ds, rest) =>
      some (Decimal.value ds * Nat.pow 10 (9 - ds.length), rest.dropWhile Decimal.isDigit)
  | cs => some (0, cs)

def twoDigits? : List Char → Option (Nat × List Char)
  | a :: b :: cs => do
    let a ← Decimal.digit? a
    let b ← Decimal.digit? b
    some (a * 10 + b, cs)
  | _ => none

def hoursAndMinutes? (cs : List Char) : Option (Nat × List Char) := do
  let (hours, cs) ← twoDigits? cs
  let (minutes, cs) ← twoDigits? (cs.dropWhile fun c => c = ':' || isBlank c)
  if minutes < 60 then some (hours * 3600 + minutes * 60, cs) else none

/-- Seconds east of UTC: `Z`, the letters `UTC`, or a sign with hours and minutes. -/
def offset? (cs : List Char) : Option (Int × List Char) :=
  match cs with
  | u :: t :: c :: rest =>
    if u.toUpper = 'U' ∧ t.toUpper = 'T' ∧ c.toUpper = 'C' then some (0, rest) else signed cs
  | _ => signed cs
where
  signed : List Char → Option (Int × List Char)
    | 'Z' :: rest => some (0, rest)
    | 'z' :: rest => some (0, rest)
    | '+' :: rest => (hoursAndMinutes? rest).map fun (n, rest) => ((n : Int), rest)
    | '-' :: rest => (hoursAndMinutes? rest).map fun (n, rest) => (-(n : Int), rest)
    | '\u2212' :: rest => (hoursAndMinutes? rest).map fun (n, rest) => (-(n : Int), rest)
    | _ => none

/-- A local reading taken back to UTC; a leap second stays one. -/
def toUtc? (t : Instant) (offset : Int) : Option Instant :=
  if offset.natAbs < secondsPerDay then Instant.of? (t.seconds - offset) t.nanos else none

def read? (cs : List Char) : Option Instant := do
  let (year, cs) ← yearField? cs
  let cs ← mark? '-' cs
  let (month, cs) ← numberField? 2 cs
  let cs ← mark? '-' cs
  let (day, cs) ← numberField? 2 cs
  let cs ← match cs with
    | 't' :: cs | 'T' :: cs | ' ' :: cs => some cs
    | _ => none
  let (hour, cs) ← numberField? 2 cs
  let cs ← mark? ':' cs
  let (minute, cs) ← numberField? 2 cs
  let cs ← mark? ':' cs
  let (second, cs) ← numberField? 2 cs
  let (nanos, cs) ← fraction? cs
  let (offset, cs) ← offset? (skipBlanks cs)
  if skipBlanks cs = [] then
    (Instant.ofReading? ⟨⟨year, month, day⟩, hour, minute, second⟩ nanos).bind (toUtc? · offset)
  else none

end DhcpLeases.Time.Rfc3339
