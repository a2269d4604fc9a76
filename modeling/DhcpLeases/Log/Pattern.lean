import DhcpLeases.Log.Pattern.CharacterClass

namespace DhcpLeases

inductive PatternFault where
  | unreadable
  | wordEdges
  deriving Repr, DecidableEq

def PatternFault.message : PatternFault → String
  | unreadable => "error building NFA"
  | wordEdges =>
    "unsupported regex feature for DFAs: cannot build DFAs for regexes with Unicode word " ++
      "boundaries; switch to ASCII word boundaries, or heuristically enable Unicode word " ++
      "boundaries or use a different regex engine"

namespace Pattern

open Text

inductive Opening where
  | setting (mode : Mode)
  | group (mode : Mode) (name : Option String)

/-- Switches up to the colon or parenthesis behind them, none of them twice; those behind a hyphen are
switched off. -/
def switches (seen : List Char) (m : Mode) : List Char → Option (Opening × List Char)
  | [] => none
  | ':' :: cs => if seen.head? = some '-' then none else some (.group m none, cs)
  | ')' :: cs => if seen = [] ∨ seen.head? = some '-' then none else some (.setting m, cs)
  | c :: cs =>
    if c ∈ seen then none
    else if c = '-' then switches (c :: seen) m cs
    else if c ∈ Mode.letters then switches (c :: seen) (m.switch c ('-' ∉ seen)) cs
    else none

def isNameStart (c : Char) : Bool :=
  c = '_' || isAlphabetic c

def isNameRest (c : Char) : Bool :=
  c = '_' || c = '.' || c = '[' || c = ']' || isAlphanumeric c

def groupName (cs : List Char) : Option (String × List Char) :=
  match cs.takeWhile (· ≠ '>'), cs.dropWhile (· ≠ '>') with
  | c :: name, '>' :: rest =>
    if isNameStart c && name.all isNameRest then some (String.ofList (c :: name), rest) else none
  | _, _ => none

def opening (m : Mode) (cs : List Char) : Option (Opening × List Char) :=
  let named (cs : List Char) : Option (Opening × List Char) :=
    (groupName cs).map fun (name, rest) => (.group m (some name), rest)
  match m.skip cs with
  | '?' :: 'P' :: '<' :: cs => named cs
  | '?' :: '<' :: cs => named cs
  | '?' :: cs => switches [] m cs
  | cs => some (.group m none, cs)

/-- A part of a sequence: its height, and whether it may be repeated. -/
structure Part where
  height : Nat
  repeatable : Bool
  deriving Repr, DecidableEq

/-- A group that is still open, or the pattern itself. -/
structure Level where
  mode : Mode
  parts : List Part
  alternatives : List Nat
  deriving Repr, DecidableEq

namespace Level

def start (mode : Mode) : Level :=
  ⟨mode, [], []⟩

def push (l : Level) (height : Nat) : Level :=
  { l with parts := ⟨height, true⟩ :: l.parts }

def alternative (l : Level) : Nat :=
  heightOf (l.parts.map Part.height)

def split (l : Level) : Level :=
  ⟨l.mode, [], l.alternative :: l.alternatives⟩

def height (l : Level) : Nat :=
  heightOf (l.alternative :: l.alternatives)

end Level

structure Scan where
  level : Level
  outer : List Level
  names : List String
  wordEdges : Bool
  deriving Repr, DecidableEq

namespace Scan

def start : Scan :=
  ⟨.start .initial, [], [], false⟩

def push (s : Scan) (height : Nat) : Scan :=
  { s with level := s.level.push height }

def atom (s : Scan) (a : Atom) : Option Scan :=
  if !a.fits s.level.mode then none
  else some
    { s.push 0 with wordEdges := s.wordEdges || a = .wordEdge && s.level.mode.unicode }

def opened (s : Scan) : Opening → Option Scan
  | .setting mode => some
    { s with level := { s.level with mode, parts := ⟨0, false⟩ :: s.level.parts } }
  | .group mode none => some { s with level := .start mode, outer := s.level :: s.outer }
  | .group mode (some name) =>
    if name ∈ s.names then none
    else some
      { s with level := .start mode, outer := s.level :: s.outer, names := name :: s.names }

def closed (s : Scan) : Option Scan :=
  match s.outer with
  | [] => none
  | parent :: outer => some { s with level := parent.push (s.level.height + 1), outer }

def repeated (s : Scan) : Option Scan :=
  match s.level.parts with
  | ⟨height, true⟩ :: parts =>
    some { s with level := { s.level with parts := ⟨height + 1, true⟩ :: parts } }
  | _ => none

/-- Reads the part that a character begins. A brace would begin a count, which nothing can end. -/
def step (s : Scan) (c : Char) (cs : List Char) : Option (Scan × List Char) :=
  match c with
  | '(' => do
    let (o, cs) ← opening s.level.mode cs
    return (← s.opened o, cs)
  | ')' => do return (← s.closed, cs)
  | '|' => some ({ s with level := s.level.split }, cs)
  | '[' => do
    let (height, cs) ← characterClass s.level.mode cs
    return (s.push height, cs)
  | '?' | '*' | '+' => do
    let s ← s.repeated
    match cs with
    | '?' :: cs => return (s, cs)
    | cs => return (s, cs)
  | '{' => none
  | '\\' => do
    let (a, cs) ← escape s.level.mode cs
    return (← s.atom a, cs)
  | '.' => if s.level.mode.unicode then some (s.push 0, cs) else none
  | '^' | '$' => some (s.push 0, cs)
  | c => do return (← s.atom (.character c false), cs)

/-- Reads a whole pattern. Every step takes at least one character. -/
def run : (fuel : Nat) → Scan → List Char → Option Scan
  | 0, _, _ => none
  | fuel + 1, s, cs =>
    match s.level.mode.skip cs with
    | [] => if s.outer = [] then some s else none
    | c :: cs =>
      match s.step c cs with
      | some (s, cs) => run fuel s cs
      | none => none

end Scan

def heightLimit : Nat := 250

def isUnsignedNumber (cs : List Char) : Bool :=
  let exponent : List Char → Bool
    | [] => true
    | e :: cs =>
      (e = 'e' || e = 'E') && match cs with
        | '+' :: ds | '-' :: ds => !ds.isEmpty && ds.all Decimal.isDigit
        | ds => !ds.isEmpty && ds.all Decimal.isDigit
  let (whole, rest) := Decimal.span cs
  let (fraction, rest) : List Char × List Char := match rest with
    | '.' :: rest => Decimal.span rest
    | rest => ([], rest)
  String.ofList (cs.map Char.toLower) ∈ ["inf", "infinity", "nan"] ||
    (whole ++ fraction) ≠ [] && exponent rest

def isNumber : List Char → Bool
  | '+' :: cs | '-' :: cs => isUnsignedNumber cs
  | cs => isUnsignedNumber cs

end Pattern

def PatternFault.of? (cs : List Char) : Option PatternFault :=
  if Pattern.isNumber cs then none
  else match Pattern.Scan.run (cs.length + 1) .start cs with
    | none => some .unreadable
    | some s =>
      if Pattern.heightLimit < s.level.height then some .unreadable
      else if s.wordEdges then some .wordEdges
      else none

end DhcpLeases
