import DhcpLeases.Transducer

namespace DhcpLeases.Text.Utf8

def encodeChar (c : Char) : List UInt8 :=
  let n := c.toNat
  if n < 0x80 then [.ofNat n]
  else if n < 0x800 then [.ofNat (0xC0 + n / 64), .ofNat (0x80 + n % 64)]
  else if n < 0x10000 then
    [.ofNat (0xE0 + n / 4096), .ofNat (0x80 + n / 64 % 64), .ofNat (0x80 + n % 64)]
  else
    [.ofNat (0xF0 + n / 262144), .ofNat (0x80 + n / 4096 % 64), .ofNat (0x80 + n / 64 % 64),
      .ofNat (0x80 + n % 64)]

def encode (cs : List Char) : List UInt8 :=
  cs.flatMap encodeChar

def replacement : Char := '\uFFFD'

/-- A character whose first bytes have been read: the next byte lies between `low` and `high`,
`owed` bytes are still to come, and `value` is the code point read so far. -/
structure Unfinished where
  low : Nat
  high : Nat
  owed : Nat
  value : Nat
  deriving Repr, DecidableEq

abbrev State := Option Unfinished

/-- The first byte of a character fixes its length and the bounds of its second byte, which exclude
overlong forms, surrogates and values above U+10FFFF. -/
def lead (b : UInt8) : State × List Char :=
  let n := b.toNat
  if n < 0x80 then (none, [Char.ofNat n])
  else if n < 0xC2 then (none, [replacement])
  else if n < 0xE0 then (some ⟨0x80, 0xBF, 1, n - 0xC0⟩, [])
  else if n = 0xE0 then (some ⟨0xA0, 0xBF, 2, 0⟩, [])
  else if n = 0xED then (some ⟨0x80, 0x9F, 2, 0xD⟩, [])
  else if n < 0xF0 then (some ⟨0x80, 0xBF, 2, n - 0xE0⟩, [])
  else if n = 0xF0 then (some ⟨0x90, 0xBF, 3, 0⟩, [])
  else if n < 0xF4 then (some ⟨0x80, 0xBF, 3, n - 0xF0⟩, [])
  else if n = 0xF4 then (some ⟨0x80, 0x8F, 3, 4⟩, [])
  else (none, [replacement])

/-- Reads one byte. A byte that cannot continue the unfinished character ends it as a replacement and
begins anew. -/
def step : State → UInt8 → State × List Char
  | none, b => lead b
  | some u, b =>
    if u.low ≤ b.toNat ∧ b.toNat ≤ u.high then
      let value := u.value * 64 + (b.toNat - 0x80)
      if u.owed ≤ 1 then (none, [Char.ofNat value])
      else (some ⟨0x80, 0xBF, u.owed - 1, value⟩, [])
    else
      ((lead b).1, replacement :: (lead b).2)

def flush : State → List Char
  | none => []
  | some _ => [replacement]

def decode (bs : List UInt8) : List Char :=
  let p := Transducer.run step none bs
  p.2 ++ flush p.1

/-- The text of bytes that are text: exactly those that `encode` can produce. -/
def decode? (bs : List UInt8) : Option (List Char) :=
  if encode (decode bs) = bs then some (decode bs) else none

end DhcpLeases.Text.Utf8
