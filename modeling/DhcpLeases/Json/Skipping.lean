import DhcpLeases.Json.Reading

namespace DhcpLeases.Json

open Text

inductive Bracket where
  | square
  | curly
  deriving Repr, DecidableEq

def Bracket.closing : Bracket → Char
  | square => ']'
  | curly => '}'

def skipString : List Char → Except Fault (List Char)
  | [] => .error .truncated
  | c :: cs =>
    if c = '"' then .ok cs
    else if c = '\\' then
      match cs with
      | [] => .error .truncated
      | e :: cs =>
        if e = 'u' then
          match cs with
          | a :: b :: c :: d :: rest =>
            if [a, b, c, d].all fun x => (Address.hexDigit? x).isSome then skipString rest
            else .error .malformed
          | cs => if (Utf8.encode cs).length < 4 then .error .truncated else .error .malformed
        else if (shortEscape? e).isSome then skipString cs
        else .error .malformed
    else if c.toNat < 0x20 then .error .malformed
    else skipString cs

def skipDigits (cs : List Char) : Except Fault (List Char) :=
  match Decimal.span cs with
  | ([], _) => .error .malformed
  | (_, rest) => .ok rest

def skipExponent (cs : List Char) : Except Fault (List Char) :=
  match cs with
  | 'e' :: '+' :: cs | 'E' :: '+' :: cs => skipDigits cs
  | 'e' :: '-' :: cs | 'E' :: '-' :: cs => skipDigits cs
  | 'e' :: cs | 'E' :: cs => skipDigits cs
  | cs => .ok cs

def skipNumber (cs : List Char) : Except Fault (List Char) :=
  match Decimal.span cs with
  | ([], _) => .error .malformed
  | ('0' :: _ :: _, _) => .error .malformed
  | (_, '.' :: rest) => (skipDigits rest).bind skipExponent
  | (_, rest) => skipExponent rest

def skipName (cs : List Char) : Except Fault (List Char) :=
  match skipSpace cs with
  | [] => .error .truncated
  | '"' :: cs => do
    let cs ← skipString cs
    match skipSpace cs with
    | [] => .error .truncated
    | ':' :: cs => .ok cs
    | _ => .error .malformed
  | _ => .error .malformed

def skipOpening (cs : List Char) : Except Fault (Option Bracket × List Char) :=
  match skipSpace cs with
  | [] => .error .truncated
  | 'n' :: rest => (literal ['u', 'l', 'l'] rest).map (none, ·)
  | 't' :: rest => (literal ['r', 'u', 'e'] rest).map (none, ·)
  | 'f' :: rest => (literal ['a', 'l', 's', 'e'] rest).map (none, ·)
  | '"' :: rest => (skipString rest).map (none, ·)
  | '-' :: rest => (skipNumber rest).map (none, ·)
  | '[' :: rest => .ok (some .square, rest)
  | '{' :: rest => .ok (some .curly, rest)
  | c :: rest =>
    if Decimal.isDigit c then (skipNumber (c :: rest)).map (none, ·) else .error .malformed

/-- What stands between two elements, or closes brackets. Gives the brackets that are still open, with
the text at the next element; `complete` tells that an element has just ended. -/
def skipBetween : (fuel : Nat) → (complete : Bool) → List Bracket → List Char →
    Except Fault (List Bracket × List Char)
  | _, _, [], cs => .ok ([], cs)
  | 0, _, _ :: _, _ => .error .truncated
  | fuel + 1, complete, bracket :: outer, cs =>
    match skipSpace cs with
    | [] => .error .truncated
    | c :: rest =>
      if c = bracket.closing then skipBetween fuel true outer rest
      else if complete then
        if c = ',' then .ok (bracket :: outer, rest) else .error .malformed
      else .ok (bracket :: outer, c :: rest)

/-- Passes over a value within open brackets and everything up to the last of them. -/
def skipNested : (fuel : Nat) → List Bracket → List Char → Except Fault (List Char)
  | 0, _, _ => .error .truncated
  | fuel + 1, brackets, cs => do
    let (opened, cs) ← skipOpening cs
    let (brackets, cs) ← match opened with
      | none => skipBetween (cs.length + 1) true brackets cs
      | some bracket => skipBetween (cs.length + 1) false (bracket :: brackets) cs
    match brackets with
    | [] => .ok cs
    | .square :: _ => skipNested fuel brackets cs
    | .curly :: _ => do
      let cs ← skipName cs
      skipNested fuel brackets cs

def skipValue (cs : List Char) : Except Fault (List Char) :=
  skipNested (cs.length + 1) [] cs

end DhcpLeases.Json
