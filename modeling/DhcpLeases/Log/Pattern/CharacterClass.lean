import DhcpLeases.Address
import DhcpLeases.Text.Alphanumeric

namespace DhcpLeases.Pattern

open Text

structure Mode where
  caseless : Bool
  unicode : Bool
  spaced : Bool
  deriving Repr, DecidableEq

namespace Mode

def initial : Mode :=
  ⟨false, true, false⟩

def letters : List Char := ['i', 'm', 's', 'U', 'u', 'R', 'x']

def switch (m : Mode) (letter : Char) (on : Bool) : Mode :=
  if letter = 'i' then { m with caseless := on }
  else if letter = 'u' then { m with unicode := on }
  else if letter = 'x' then { m with spaced := on }
  else m

def skipComments : (comment : Bool) → List Char → List Char
  | _, [] => []
  | true, c :: cs => skipComments (c ≠ '\n') cs
  | false, c :: cs =>
    if isBlank c then skipComments false cs
    else if c = '#' then skipComments true cs
    else c :: cs

def skip (m : Mode) (cs : List Char) : List Char :=
  if m.spaced then skipComments false cs else cs

/-- Characters that match in both cases need the table of cases, also where only bytes of one case fit. -/
def foldsLetters (m : Mode) : Bool :=
  m.caseless && m.unicode

end Mode

inductive Atom where
  | character (c : Char) (byte : Bool)
  | shorthand (negated : Bool)
  | wordEdge
  | textEdge
  deriving Repr, DecidableEq

/-- Whether an atom can be used in a mode: bytes above 0x7F are no characters, and the tables for the
shorthands are missing. -/
def Atom.fits (m : Mode) : Atom → Bool
  | character c byte => !m.foldsLetters && (m.unicode || !byte || c.toNat ≤ 0x7F)
  | shorthand negated => !m.unicode && !negated
  | wordEdge | textEdge => true

/-- Whether an atom can be used within a class of characters; a class of bytes has ASCII only. -/
def Atom.fitsClass (m : Mode) : Atom → Bool
  | character c _ => !m.foldsLetters && (m.unicode || c.toNat ≤ 0x7F)
  | shorthand negated => !m.unicode && !negated
  | wordEdge | textEdge => false

def hexNumber (m : Mode) : (digits : Nat) → (n : Nat) → List Char → Option (Nat × List Char)
  | 0, n, cs => some (n, cs)
  | digits + 1, n, cs =>
    match m.skip cs with
    | [] => none
    | c :: cs =>
      match Address.hexDigit? c with
      | some d => hexNumber m digits (n * 16 + d) cs
      | none => none

def hexCharacter (m : Mode) (digits : Nat) (cs : List Char) : Option (Atom × List Char) :=
  match hexNumber m digits 0 cs with
  | some (n, cs) =>
    if n.isValidChar then some (.character (Char.ofNat n) (digits = 2), cs) else none
  | none => none

def controls : List (Char × Nat) :=
  [('a', 7), ('f', 12), ('t', 9), ('n', 10), ('r', 13), ('v', 11)]

def isEscapable (c : Char) : Bool :=
  c.toNat < 0x80 && !c.isAlphanum && c ≠ '<' && c ≠ '>'

/-- The atom behind a backslash. Classes by property need tables, so they are not among the atoms. -/
def escape (m : Mode) : List Char → Option (Atom × List Char)
  | [] => none
  | c :: cs =>
    if c = 'x' then hexCharacter m 2 cs
    else if c = 'u' then hexCharacter m 4 cs
    else if c = 'U' then hexCharacter m 8 cs
    else if c = 'd' ∨ c = 's' ∨ c = 'w' then some (.shorthand false, cs)
    else if c = 'D' ∨ c = 'S' ∨ c = 'W' then some (.shorthand true, cs)
    else if c = 'b' ∨ c = 'B' ∨ c = '<' ∨ c = '>' then some (.wordEdge, cs)
    else if c = 'A' ∨ c = 'z' then some (.textEdge, cs)
    else match controls.lookup c with
      | some n => some (.character (Char.ofNat n) false, cs)
      | none => if isEscapable c then some (.character c false, cs) else none

/-- The height of parts that stand side by side: one above the tallest if there are several. -/
def heightOf : List Nat → Nat
  | [] => 0
  | [h] => h
  | hs => hs.foldl max 0 + 1

structure OpenClass where
  items : List Nat
  operands : Option Nat
  deriving Repr, DecidableEq

namespace OpenClass

def push (k : OpenClass) (height : Nat) : OpenClass :=
  { k with items := height :: k.items }

def height (k : OpenClass) : Nat :=
  match k.operands with
  | none => heightOf k.items
  | some h => max h (heightOf k.items) + 1

def operate (k : OpenClass) : OpenClass :=
  ⟨[], some k.height⟩

end OpenClass

def leadingHyphens (m : Mode) : (fuel : Nat) → OpenClass → List Char → OpenClass × List Char
  | 0, k, cs => (k, cs)
  | fuel + 1, k, cs =>
    match cs with
    | '-' :: cs => leadingHyphens m fuel (k.push 0) (m.skip cs)
    | cs => (k, cs)

/-- Opens a class behind its bracket. Hyphens, and a closing bracket in the first place, stand for
themselves. What a class of bytes does not have goes beyond ASCII, so it cannot be negated. -/
def openClass (m : Mode) (cs : List Char) : Option (OpenClass × List Char) :=
  let (negated, cs) : Bool × List Char := match m.skip cs with
    | '^' :: cs => (true, m.skip cs)
    | cs => (false, cs)
  let (k, cs) := leadingHyphens m cs.length ⟨[], none⟩ cs
  let (k, cs) : OpenClass × List Char := match cs with
    | ']' :: rest => if k.items = [] then (k.push 0, m.skip rest) else (k, cs)
    | cs => (k, cs)
  if negated ∧ !m.unicode ∨ k.items ≠ [] ∧ m.foldsLetters ∨ cs = [] then none else some (k, cs)

def asciiClassNames : List String :=
  ["alnum", "alpha", "ascii", "blank", "cntrl", "digit", "graph", "lower", "print", "punct", "space",
   "upper", "word", "xdigit"]

def asciiClass? : List Char → Option (Bool × List Char)
  | ':' :: cs =>
    let (negated, cs) : Bool × List Char := match cs with
      | '^' :: cs => (true, cs)
      | cs => (false, cs)
    match cs.dropWhile (· ≠ ':') with
    | ':' :: ']' :: rest =>
      if String.ofList (cs.takeWhile (· ≠ ':')) ∈ asciiClassNames then some (negated, rest) else none
    | _ => none
  | _ => none

def classAtom (m : Mode) : List Char → Option (Atom × List Char)
  | [] => none
  | '\\' :: cs => escape m cs
  | c :: cs => some (.character c false, cs)

/-- The first character of a text, or the one that follows blanks and the sign of a comment. -/
def peekClass (m : Mode) (cs : List Char) : Option Char :=
  let blanks (cs : List Char) := cs.dropWhile isBlank
  if !m.spaced then cs.head?
  else match blanks cs with
    | '#' :: rest => (blanks rest).head?.or cs.head?
    | rest => rest.head?.or cs.head?

/-- A character, an escape or a range of a class; a range has characters at its ends, in order. -/
def classItem (m : Mode) (cs : List Char) : Option (List Char) :=
  match classAtom m cs with
  | none => none
  | some (low, cs) =>
    let cs := m.skip cs
    if !low.fitsClass m then none
    else match cs with
      | [] => none
      | '-' :: rest =>
        let next := peekClass m rest
        if next = some ']' ∨ next = some '-' then some cs
        else match low, classAtom m (m.skip rest) with
          | .character a _, some (.character b byte, rest) =>
            if (Atom.character b byte).fitsClass m ∧ a ≤ b then some rest else none
          | _, _ => none
      | cs => some cs

/-- Reads what is left of a class, which may lie in other open classes: its height, and the text behind
its bracket. Every step takes at least one character. -/
def classRest (m : Mode) : (fuel : Nat) → OpenClass → List OpenClass → List Char →
    Option (Nat × List Char)
  | 0, _, _, _ => none
  | fuel + 1, k, outer, cs =>
    match m.skip cs with
    | [] => none
    | '[' :: cs =>
      match asciiClass? cs with
      | some (negated, cs) =>
        if m.foldsLetters ∨ negated ∧ !m.unicode then none
        else classRest m fuel (k.push 0) outer cs
      | none =>
        match openClass m cs with
        | some (inner, cs) => classRest m fuel inner (k :: outer) cs
        | none => none
    | ']' :: cs =>
      match outer with
      | [] => some (k.height + 1, cs)
      | parent :: outer => classRest m fuel (parent.push (k.height + 1)) outer cs
    | '&' :: '&' :: cs => classRest m fuel k.operate outer cs
    | '-' :: '-' :: cs => classRest m fuel k.operate outer cs
    | '~' :: '~' :: cs => classRest m fuel k.operate outer cs
    | cs =>
      match classItem m cs with
      | some cs => classRest m fuel (k.push 0) outer cs
      | none => none

def characterClass (m : Mode) (cs : List Char) : Option (Nat × List Char) :=
  match openClass m cs with
  | some (k, rest) => classRest m (rest.length + 1) k [] rest
  | none => none

end DhcpLeases.Pattern
