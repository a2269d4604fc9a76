import DhcpLeases.Text.Basic
import DhcpLeases.Time.Instant

namespace DhcpLeases.Time

open DhcpLeases.Text

/-- A year in at least four digits, with a sign if four digits do not hold it. -/
def yearText (y : Int) : List Char :=
  if 0 ≤ y ∧ y ≤ 9999 then Decimal.padded 4 y.toNat
  else (if y < 0 then '-' else '+') :: Decimal.padded 4 y.natAbs

def numberField? (limit : Nat) (cs : List Char) : Option (Nat × List Char) :=
  match Decimal.spanUpTo limit (skipBlanks cs) with
  | ([], _) => none
  | (ds, rest) => some (Decimal.value ds, rest)

/-- A year behind any white space: up to four digits, or a sign and any number of digits. -/
def yearField? (cs : List Char) : Option (Int × List Char) :=
  let long (rest : List Char) : Option (Nat × List Char) :=
    match Decimal.span rest with
    | ([], _) => none
    | (ds, rest) => some (Decimal.value ds, rest)
  match skipBlanks cs with
  | '-' :: rest => (long rest).map fun (n, rest) => (-(n : Int), rest)
  | '+' :: rest => (long rest).map fun (n, rest) => ((n : Int), rest)
  | rest => (numberField? 4 rest).map fun (n, rest) => ((n : Int), rest)

/-- What follows a character, if the text begins with it. -/
def after? (c : Char) : List Char → Option (List Char)
  | [] => none
  | d :: rest => if d = c then some rest else none

namespace Stamp

def write (r : Reading) : String :=
  String.ofList <|
    yearText r.date.year ++ '/' :: Decimal.padded 2 r.date.month ++
      '/' :: Decimal.padded 2 r.date.day ++ ' ' :: Decimal.padded 2 r.hour ++
      ':' :: Decimal.padded 2 r.minute ++ ':' :: Decimal.padded 2 r.second

def read? (cs : List Char) : Option Instant := do
  let (year, cs) ← yearField? cs
  let cs ← after? '/' cs
  let (month, cs) ← numberField? 2 cs
  let cs ← after? '/' cs
  let (day, cs) ← numberField? 2 cs
  let (hour, cs) ← numberField? 2 cs
  let cs ← after? ':' cs
  let (minute, cs) ← numberField? 2 cs
  let cs ← after? ':' cs
  let (second, cs) ← numberField? 2 cs
  if cs = [] then
    Instant.ofReading? ⟨⟨year, month, day⟩, hour, minute, second⟩ 0
  else none

end Stamp

end DhcpLeases.Time
