import DhcpLeases.Text.Basic

namespace DhcpLeases.Json

open Text

inductive Layout where
  | compact
  | indented
  deriving Repr, DecidableEq

/-- The text of a value in a layout at a depth of nesting. -/
abbrev Printed := Layout → (depth : Nat) → List Char

def hexDigit (n : Nat) : Char :=
  if n < 10 then Char.ofNat ('0'.toNat + n) else Char.ofNat ('a'.toNat + (n - 10))

/-- A character within a string: quotes, backslashes and controls are escaped, all else is not. -/
def escape (c : Char) : List Char :=
  if c = '"' then ['\\', '"']
  else if c = '\\' then ['\\', '\\']
  else if c = '\x08' then ['\\', 'b']
  else if c = '\x0c' then ['\\', 'f']
  else if c = '\n' then ['\\', 'n']
  else if c = '\r' then ['\\', 'r']
  else if c = '\t' then ['\\', 't']
  else if c.toNat < 0x20 then
    ['\\', 'u', '0', '0', hexDigit (c.toNat / 16), hexDigit (c.toNat % 16)]
  else [c]

def quotedText (cs : List Char) : List Char :=
  '"' :: (cs.flatMap escape ++ ['"'])

namespace Printed

def string (s : String) : Printed :=
  fun _ _ => quotedText s.toList

def natural (n : Nat) : Printed :=
  fun _ _ => Decimal.digits n

def integer (n : Int) : Printed :=
  fun _ _ => Decimal.signed n

def null : Printed :=
  fun _ _ => ['n', 'u', 'l', 'l']

def option {α : Type} (print : α → Printed) : Option α → Printed
  | none => null
  | some a => print a

/-- What stands before an element at a depth. -/
def lineBreak : Layout → (depth : Nat) → List Char
  | .compact, _ => []
  | .indented, depth => '\n' :: List.replicate (2 * depth) ' '

def further (layout : Layout) (depth : Nat) : List Printed → List Char
  | [] => []
  | p :: ps => ',' :: lineBreak layout depth ++ p layout depth ++ further layout depth ps

def enclosed (opening closing : Char) : List Printed → Printed
  | [], _, _ => [opening, closing]
  | p :: ps, layout, depth =>
    opening :: lineBreak layout (depth + 1) ++ p layout (depth + 1) ++
      further layout (depth + 1) ps ++ lineBreak layout depth ++ [closing]

def array (ps : List Printed) : Printed :=
  enclosed '[' ']' ps

def member (m : String × Printed) : Printed :=
  fun layout depth =>
    quotedText m.1.toList ++
      (match layout with
        | .compact => [':']
        | .indented => [':', ' ']) ++
      m.2 layout depth

def object (ms : List (String × Printed)) : Printed :=
  enclosed '{' '}' (ms.map member)

def compactText (p : Printed) : String :=
  String.ofList (p .compact 0)

def indentedText (p : Printed) : String :=
  String.ofList (p .indented 0)

end Printed

end DhcpLeases.Json
