import DhcpLeases.Text.Basic

namespace DhcpLeases

inductive Address where
  | v4 (bits : BitVec 32)
  | v6 (bits : BitVec 128)
  deriving Repr, DecidableEq

namespace Address

def number : Address → Nat
  | v4 bits => bits.toNat
  | v6 bits => bits.toNat

/-- The place of an address among those of both families. -/
def rank : Address → Nat
  | v4 bits => bits.toNat
  | v6 bits => 0x100000000 + bits.toNat

instance : Ord Address :=
  ⟨compareOn rank⟩

instance : Std.TransOrd Address :=
  inferInstanceAs (Std.TransCmp (compareOn rank))

theorem rank_injective {a b : Address} (h : a.rank = b.rank) : a = b := by
  cases a <;> cases b <;> simp only [rank] at h
  · rw [BitVec.eq_of_toNat_eq h]
  · omega
  · omega
  · rw [BitVec.eq_of_toNat_eq (Nat.add_left_cancel h)]

instance : Std.LawfulEqOrd Address where
  eq_of_compare h := rank_injective (Std.LawfulEqOrd.eq_of_compare h)

def SameFamily : Address → Address → Prop
  | v4 _, v4 _ => True
  | v6 _, v6 _ => True
  | _, _ => False

instance (a b : Address) : Decidable (a.SameFamily b) := by
  cases a <;> cases b <;> unfold SameFamily <;> infer_instance

/-- The last `count` digits of a number to base `base`, most significant first. -/
def toDigits (base : Nat) : (count n : Nat) → List Nat
  | 0, _ => []
  | count + 1, n => toDigits base count (n / base) ++ [n % base]

def octets (bits : BitVec 32) : List Nat :=
  toDigits 256 4 bits.toNat

def groups (bits : BitVec 128) : List Nat :=
  toDigits 65536 8 bits.toNat

def ofDigits (base : Nat) (ds : List Nat) : Nat :=
  ds.foldl (fun n d => n * base + d) 0

def ofOctets (os : List Nat) : Address :=
  v4 (.ofNat 32 (ofDigits 256 os))

def ofGroups (gs : List Nat) : Address :=
  v6 (.ofNat 128 (ofDigits 65536 gs))

open Text

def hexDigits (n : Nat) : List Char :=
  Nat.toDigits 16 n

def quadText (os : List Nat) : List Char :=
  ['.'].intercalate (os.map Decimal.digits)

def groupsText (gs : List Nat) : List Char :=
  [':'].intercalate (gs.map hexDigits)

structure Stretch where
  start : Nat
  length : Nat
  deriving Repr, DecidableEq

/-- The first longest stretch of zeros in a list that continues at position `i` behind the stretch
`current`. -/
def longestZeros (longest current : Stretch) (i : Nat) : List Nat → Stretch
  | [] => longest
  | g :: gs =>
    if g = 0 then
      let current : Stretch :=
        if current.length = 0 then ⟨i, 1⟩ else ⟨current.start, current.length + 1⟩
      let longest := if longest.length < current.length then current else longest
      longestZeros longest current (i + 1) gs
    else longestZeros longest ⟨0, 0⟩ (i + 1) gs

def compressedText (gs : List Nat) : List Char :=
  let zeros := longestZeros ⟨0, 0⟩ ⟨0, 0⟩ 0 gs
  if 1 < zeros.length then
    groupsText (gs.take zeros.start) ++ ':' :: ':' ::
      groupsText (gs.drop (zeros.start + zeros.length))
  else groupsText gs

/-- The IPv4 address within an IPv4-mapped one, `::ffff:0:0/96`. -/
def mapped? (bits : BitVec 128) : Option (BitVec 32) :=
  if bits.toNat / 0x100000000 = 0xFFFF then some (.ofNat 32 bits.toNat) else none

def chars : Address → List Char
  | v4 bits => quadText (octets bits)
  | v6 bits =>
    match mapped? bits with
    | some low => "::ffff:".toList ++ quadText (octets low)
    | none => compressedText (groups bits)

def text (a : Address) : String :=
  String.ofList a.chars

instance : ToString Address := ⟨text⟩

def hexDigit? (c : Char) : Option Nat :=
  if '0' ≤ c ∧ c ≤ '9' then some (c.toNat - '0'.toNat)
  else if 'a' ≤ c ∧ c ≤ 'f' then some (c.toNat - 'a'.toNat + 10)
  else if 'A' ≤ c ∧ c ≤ 'F' then some (c.toNat - 'A'.toNat + 10)
  else none

def hexValue (ds : List Char) : Nat :=
  ds.foldl (fun n c => n * 16 + (hexDigit? c).getD 0) 0

def octet? (cs : List Char) : Option (Nat × List Char) :=
  match Decimal.span cs with
  | ([], _) => none
  | (ds, rest) =>
    if ds.length ≤ 3 ∧ (ds.head? = some '0' → ds.length = 1) ∧ Decimal.value ds < 256 then
      some (Decimal.value ds, rest)
    else none

def group? (cs : List Char) : Option (Nat × List Char) :=
  match cs.span fun c => (hexDigit? c).isSome with
  | ([], _) => none
  | (ds, rest) => if ds.length ≤ 4 then some (hexValue ds, rest) else none

def separated? (separator : Char) (part? : List Char → Option (Nat × List Char)) :
    (count : Nat) → List Char → Option (List Nat × List Char)
  | 0, cs => some ([], cs)
  | _ + 1, [] => none
  | count + 1, c :: cs =>
    if c = separator then do
      let (n, rest) ← part? cs
      let (ns, rest) ← separated? separator part? count rest
      some (n :: ns, rest)
    else none

def quad? (cs : List Char) : Option (List Nat × List Char) := do
  let (first, rest) ← octet? cs
  let (more, rest) ← separated? '.' octet? 3 rest
  some (first :: more, rest)

def behindColon? (first : Bool) (cs : List Char) : Option (List Char) :=
  if first then some cs
  else match cs with
    | ':' :: rest => some rest
    | _ => none

/-- As many groups as can be read, at most `room`; a dotted quad takes the place of two groups and ends
them. Gives the groups, whether they end in a quad, and what follows. -/
def groupRun (first : Bool) : (room : Nat) → List Char → List Nat × Bool × List Char
  | 0, cs => ([], false, cs)
  | room + 1, cs =>
    let quad := if room = 0 then none else (behindColon? first cs).bind quad?
    match quad with
    | some (os, rest) =>
      ([ofDigits 256 (os.take 2), ofDigits 256 (os.drop 2)], true, rest)
    | none =>
      match (behindColon? first cs).bind group? with
      | some (g, rest) =>
        let (gs, quad, rest) := groupRun false room rest
        (g :: gs, quad, rest)
      | none => ([], false, cs)

/-- Eight groups, or fewer around one `::`. -/
def sixteenBytes? (cs : List Char) : Option (List Nat × List Char) :=
  match groupRun true 8 cs with
  | (head, quad, rest) =>
    if head.length = 8 then some (head, rest)
    else if quad then none
    else match rest with
      | ':' :: ':' :: rest =>
        match groupRun true (7 - head.length) rest with
        | (tail, _, rest) =>
          some (head ++ List.replicate (8 - head.length - tail.length) 0 ++ tail, rest)
      | _ => none

def read? (cs : List Char) : Option Address :=
  match quad? cs with
  | some (os, rest) => if rest = [] then some (ofOctets os) else none
  | none =>
    match sixteenBytes? cs with
    | some (gs, []) => some (ofGroups gs)
    | _ => none

def ofText? (s : String) : Option Address :=
  read? s.toList

end Address

end DhcpLeases
