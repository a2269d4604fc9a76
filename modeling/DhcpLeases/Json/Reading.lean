import DhcpLeases.Address
import DhcpLeases.Number
import DhcpLeases.Text.Utf8

namespace DhcpLeases.Json

inductive Fault where
  | malformed
  | truncated
  | unfit
  deriving Repr, DecidableEq

def Fault.message : Fault → String
  | malformed => "malformed text"
  | truncated => "unexpected end of text"
  | unfit => "unexpected value"

open Text

/-- Reads a value from the front of a text. -/
abbrev Reader (α : Type) := List Char → Except Fault (α × List Char)

def isSpace (c : Char) : Bool :=
  c = ' ' || c = '\n' || c = '\t' || c = '\r'

def skipSpace (cs : List Char) : List Char :=
  cs.dropWhile isSpace

def literal : (expected : List Char) → List Char → Except Fault (List Char)
  | [], cs => .ok cs
  | _ :: _, [] => .error .truncated
  | e :: es, c :: cs => if c = e then literal es cs else .error .malformed

/-- The value of four hexadecimal digits. Fewer than four bytes of text are too few; anything else in
their place is malformed. -/
def fourHexDigits : Reader Nat
  | a :: b :: c :: d :: rest =>
    match Address.hexDigit? a, Address.hexDigit? b, Address.hexDigit? c, Address.hexDigit? d with
    | some a, some b, some c, some d => .ok (((a * 16 + b) * 16 + c) * 16 + d, rest)
    | _, _, _, _ => .error .malformed
  | cs => if (Utf8.encode cs).length < 4 then .error .truncated else .error .malformed

def isLeadingSurrogate (n : Nat) : Bool :=
  0xD800 ≤ n && n ≤ 0xDBFF

def isTrailingSurrogate (n : Nat) : Bool :=
  0xDC00 ≤ n && n ≤ 0xDFFF

def unicodeEscape : Reader Char := fun cs => do
  let (n, cs) ← fourHexDigits cs
  if isTrailingSurrogate n then .error .malformed
  else if isLeadingSurrogate n then
    let cs ← literal ['\\', 'u'] cs
    let (m, cs) ← fourHexDigits cs
    if isTrailingSurrogate m then
      .ok (Char.ofNat (0x10000 + (n - 0xD800) * 0x400 + (m - 0xDC00)), cs)
    else .error .malformed
  else .ok (Char.ofNat n, cs)

def shortEscape? (c : Char) : Option Char :=
  if c = '"' ∨ c = '\\' ∨ c = '/' then some c
  else if c = 'b' then some '\x08'
  else if c = 'f' then some '\x0c'
  else if c = 'n' then some '\n'
  else if c = 'r' then some '\r'
  else if c = 't' then some '\t'
  else none

def stringItem : Reader (Option Char)
  | [] => .error .truncated
  | c :: cs =>
    if c = '"' then .ok (none, cs)
    else if c = '\\' then
      match cs with
      | [] => .error .truncated
      | e :: cs =>
        if e = 'u' then (unicodeEscape cs).map fun (c, cs) => (some c, cs)
        else match shortEscape? e with
          | some c => .ok (some c, cs)
          | none => .error .malformed
    else if c.toNat < 0x20 then .error .malformed
    else .ok (some c, cs)

/-- The characters of a string up to its closing quote. Every step takes at least one character of the
text, so its length is fuel enough. -/
def stringTail : (fuel : Nat) → List Char → Reader String
  | 0, _, _ => .error .truncated
  | fuel + 1, read, cs => do
    let (item, cs) ← stringItem cs
    match item with
    | none => .ok (String.ofList read.reverse, cs)
    | some c => stringTail fuel (c :: read) cs

def stringBody : Reader String := fun cs =>
  stringTail (cs.length + 1) [] cs

/-- Adds digits to a significand as long as it stays below 2^64; gives it with the number of digits that
found no room. -/
def significand (start : Nat) (ds : List Char) : Nat × Nat :=
  ds.foldl
    (fun (n, dropped) c =>
      let next := n * 10 + (Decimal.digit? c).getD 0
      if dropped = 0 ∧ next ≤ Number.max64 then (next, 0) else (n, dropped + 1))
    (start, 0)

/-- Checks that `n * 10 ^ exponent` is not too large for a double. -/
def representable (n : Nat) (exponent : Int) : Except Fault Unit :=
  if n = 0 ∨ exponent ≤ 0 then .ok ()
  else if 308 < exponent then .error .malformed
  else if Number.Binary64.mulOverflows n (Nat.pow 10 exponent.toNat) then .error .malformed
  else .ok ()

/-- The exponent behind the letter `e`, of a number with significand `n` and exponent `start`. -/
def exponentPart (n : Nat) (start : Int) (cs : List Char) : Except Fault (List Char) :=
  let (negative, cs) : Bool × List Char := match cs with
    | '+' :: cs => (false, cs)
    | '-' :: cs => (true, cs)
    | cs => (false, cs)
  match Decimal.span cs with
  | ([], []) => .error .truncated
  | ([], _ :: _) => .error .malformed
  | (ds, rest) =>
    let e := Decimal.value ds
    if 0x80000000 ≤ e then
      if n ≠ 0 ∧ !negative then .error .malformed else .ok rest
    else
      (representable n (if negative then start - e else start + e)).map fun _ => rest

def exponent (n : Nat) (start : Int) (cs : List Char) : Except Fault (List Char) :=
  match cs with
  | 'e' :: cs | 'E' :: cs => exponentPart n start cs
  | cs => (representable n start).map fun _ => cs

def fractionPart (n : Nat) (start : Int) (cs : List Char) : Except Fault (List Char) :=
  match Decimal.span cs with
  | ([], []) => .error .truncated
  | ([], _ :: _) => .error .malformed
  | (ds, rest) =>
    let (m, dropped) := significand n ds
    exponent m (start - (ds.length - dropped : Nat)) rest

/-- A number without its sign: its value if it is a whole number below 2^64 in plain digits. -/
def unsignedNumber : Reader (Option Nat) := fun cs =>
  match Decimal.span cs with
  | ([], []) => .error .truncated
  | ([], _ :: _) => .error .malformed
  | ('0' :: _ :: _, _) => .error .malformed
  | (ds, rest) =>
    let (n, dropped) := significand 0 ds
    match rest with
    | '.' :: rest => (fractionPart n dropped rest).map (none, ·)
    | 'e' :: _ | 'E' :: _ => (exponent n dropped rest).map (none, ·)
    | rest =>
      if dropped = 0 then .ok (some n, rest)
      else (representable n dropped).map fun _ => (none, rest)

/-- A whole number of any size in plain digits. What follows it is left to what comes next. -/
def plainDigits : Reader Nat := fun cs =>
  match Decimal.span cs with
  | ([], _) => .error .malformed
  | ('0' :: _ :: _, _) => .error .malformed
  | (ds, rest) => .ok (Decimal.value ds, rest)

/-- The fault of a value of another kind than the one asked for: of what is wrong with it as JSON, or
else that it does not fit. -/
def misfit (cs : List Char) : Fault :=
  let check {α : Type} (r : Except Fault α) : Fault := match r with
    | .ok _ => .unfit
    | .error fault => fault
  match cs with
  | [] => .truncated
  | 'n' :: rest => check (literal ['u', 'l', 'l'] rest)
  | 't' :: rest => check (literal ['r', 'u', 'e'] rest)
  | 'f' :: rest => check (literal ['a', 'l', 's', 'e'] rest)
  | '"' :: rest => check (stringBody rest)
  | '-' :: rest => check (unsignedNumber rest)
  | '[' :: _ => .unfit
  | '{' :: _ => .unfit
  | c :: _ => if Decimal.isDigit c then check (unsignedNumber cs) else .malformed

def string : Reader String := fun cs =>
  match skipSpace cs with
  | '"' :: rest => stringBody rest
  | cs => .error (misfit cs)

def denoted {α : Type} (ofText? : List Char → Option α) : Reader α := fun cs => do
  let (s, cs) ← string cs
  match ofText? s.toList with
  | some a => .ok (a, cs)
  | none => .error .unfit

def natural64 : Reader Nat := fun cs =>
  match skipSpace cs with
  | '-' :: rest =>
    match unsignedNumber rest with
    | .ok _ => .error .unfit
    | .error fault => .error fault
  | c :: rest =>
    if Decimal.isDigit c then
      match unsignedNumber (c :: rest) with
      | .ok (some n, rest) => .ok (n, rest)
      | .ok (none, _) => .error .unfit
      | .error fault => .error fault
    else .error (misfit (c :: rest))
  | [] => .error .truncated

def natural128 : Reader Nat := fun cs =>
  match skipSpace cs with
  | [] => .error .truncated
  | cs => do
    let (n, rest) ← plainDigits cs
    if n ≤ Number.max128 then .ok (n, rest) else .error .malformed

def integer128 : Reader Int := fun cs =>
  match skipSpace cs with
  | [] => .error .truncated
  | '-' :: cs => do
    let (n, rest) ← plainDigits cs
    if n ≤ Number.maxSigned128 + 1 then .ok (-(n : Int), rest) else .error .malformed
  | cs => do
    let (n, rest) ← plainDigits cs
    if n ≤ Number.maxSigned128 then .ok ((n : Int), rest) else .error .malformed

def optional {α : Type} (read : Reader α) : Reader (Option α) := fun cs =>
  match skipSpace cs with
  | 'n' :: rest => (literal ['u', 'l', 'l'] rest).map (none, ·)
  | cs => (read cs).map fun (a, rest) => (some a, rest)

end DhcpLeases.Json
