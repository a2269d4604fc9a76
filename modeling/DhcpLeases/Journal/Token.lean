import DhcpLeases.Text.Basic
import DhcpLeases.Text.Utf8

namespace DhcpLeases.Journal

open Text

inductive Token where
  | word (text : String)
  | openBrace
  | closeBrace
  | semicolon
  deriving Repr, DecidableEq

/-- Where the scanner stands; characters and bytes of a word are kept newest first. -/
inductive Scanner where
  | between
  | comment
  | bare (chars : List Char)
  | quoted (bytes : List UInt8)
  | escaped (bytes : List UInt8)
  /-- Behind a backslash and `count` octal digits, one or two. -/
  | octal (bytes : List UInt8) (value count : Nat)
  deriving Repr, DecidableEq

def isMark (c : Char) : Bool :=
  c = '{' || c = '}' || c = ';' || c = '"' || c = '#'

def octalDigit? (c : Char) : Option Nat :=
  if '0' ≤ c ∧ c ≤ '7' then some (c.toNat - '0'.toNat) else none

namespace Scanner

def bareWord (chars : List Char) : Token :=
  .word (String.ofList chars.reverse)

def quotedWord (bytes : List UInt8) : Token :=
  .word (String.ofList (Utf8.decode bytes.reverse))

def fresh (c : Char) : Scanner × List Token :=
  if c = '{' then (between, [.openBrace])
  else if c = '}' then (between, [.closeBrace])
  else if c = ';' then (between, [.semicolon])
  else if c = '"' then (quoted [], [])
  else if c = '#' then (comment, [])
  else if isBlank c then (between, [])
  else (bare [c], [])

def literal (bytes : List UInt8) (c : Char) : Scanner × List Token :=
  (quoted ((Utf8.encodeChar c).reverseAux bytes), [])

def inside (bytes : List UInt8) (c : Char) : Scanner × List Token :=
  if c = '"' then (between, [quotedWord bytes])
  else if c = '\\' then (escaped bytes, [])
  else literal bytes c

def step : Scanner → Char → Scanner × List Token
  | between, c => fresh c
  | comment, c => (if c = '\n' then between else comment, [])
  | bare chars, c =>
    if isBlank c || isMark c then ((fresh c).1, bareWord chars :: (fresh c).2)
    else (bare (c :: chars), [])
  | quoted bytes, c => inside bytes c
  | escaped bytes, c =>
    match octalDigit? c with
    | some d => (octal bytes d 1, [])
    | none => literal bytes c
  | octal bytes value count, c =>
    match octalDigit? c with
    | some d =>
      if count = 2 then (quoted (.ofNat (value * 8 + d) :: bytes), [])
      else (octal bytes (value * 8 + d) (count + 1), [])
    | none => inside (.ofNat value :: bytes) c

/-- What the end of the text completes: a bare word does not need an end of its own. -/
def finish : Scanner → List Token
  | bare chars => [bareWord chars]
  | _ => []

end Scanner

def tokens (cs : List Char) : List Token :=
  let p := Transducer.run Scanner.step .between cs
  p.2 ++ p.1.finish

end DhcpLeases.Journal
