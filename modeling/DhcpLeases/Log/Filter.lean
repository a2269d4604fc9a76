import DhcpLeases.Log
import DhcpLeases.Log.Pattern

namespace DhcpLeases

open Text

inductive DirectiveFault where
  | malformed
  | unknownLevel
  | badPattern (fault : PatternFault)
  deriving Repr, DecidableEq

def DirectiveFault.message : DirectiveFault → String
  | malformed => "invalid filter directive"
  | unknownLevel =>
    "error parsing level filter: expected one of \"off\", \"error\", \"warn\", \"info\", " ++
      "\"debug\", \"trace\", or a number 0-5"
  | badPattern fault => "invalid field filter: " ++ fault.message

structure Directive where
  /-- How the names of the parts begin that it is about; it is about all of them if there is none. -/
  target : Option String
  field : Option String
  /-- Whether it holds only inside spans. -/
  spanned : Bool
  detail : Nat
  deriving Repr, DecidableEq

namespace Directive

def finest : Nat := 5

def detail? (cs : List Char) : Option Nat :=
  match Decimal.integer? cs with
  | some n => if cs.head? ≠ some '-' ∧ n ≤ finest then some n.toNat else none
  | none =>
    ["off", "error", "warn", "info", "debug", "trace"].findIdx?
      (·.toList = cs.map Char.toLower)

def isNameStart (c : Char) : Bool :=
  isAlphanumeric c || c = '-' || c = ':' || c = '_'

def trim (cs : List Char) : List Char :=
  (skipBlanks (skipBlanks cs).reverse).reverse

def readField (cs : List Char) : Except DirectiveFault (String × Bool) :=
  let name := String.ofList (cs.takeWhile (· ≠ '='))
  if cs = [] then .error .malformed
  else match cs.dropWhile (· ≠ '=') with
    | [] => .ok (name, false)
    | _ :: value =>
      match PatternFault.of? (value.takeWhile (· ≠ '=')) with
      | none => .ok (name, true)
      | some fault => .error (.badPattern fault)

def leveled (d : Directive) (cs : List Char) : Except DirectiveFault Directive :=
  if cs = [] then .ok d
  else match detail? cs with
    | some n => .ok { d with detail := n }
    | none => .error .unknownLevel

/-- A directive behind the bracket of a span, of which `cut` gives the pieces: the text from one place to
another, each given by what follows it. Behind the name of the span may stand a field. -/
def readSpan (cut : List Char → List Char → List Char) (target : Option String) (cs : List Char) :
    Except DirectiveFault Directive := do
  let isNamed := cs.head? ≠ some '{'
  let (d, rest) : Directive × List Char ←
    match cs.dropWhile (fun c => c ≠ ']' ∧ c ≠ '{') with
    | ']' :: rest => .ok (⟨target, none, true, finest⟩, rest)
    | '{' :: inner =>
      match inner.dropWhile (· ≠ '}') with
      | [] => .error .malformed
      | '}' :: ']' :: rest => do
        let (name, hasPattern) ← readField (cut inner ('}' :: ']' :: rest))
        .ok (⟨target, some name, isNamed || hasPattern, finest⟩, rest)
      | rest => do
        let _ ← readField (cut inner rest)
        .error .malformed
    | _ => .error .malformed
  match rest with
  | [] => .ok d
  | '=' :: rest => leveled d (cut rest [])
  | _ => .error .malformed

/-- Reads a directive. White space around it is passed over when its marks are looked for, but counts
where the pieces are cut out: they stand as far from the start of the whole text as the marks do from
the start of the trimmed one. -/
def read (text : String) : Except DirectiveFault Directive :=
  let whole := text.toList
  let trimmed := trim whole
  let cut (start stop : List Char) : List Char :=
    let pieces := whole.drop (trimmed.length - start.length)
    if stop = [] then pieces else pieces.take (start.length - stop.length)
  let name := trimmed.takeWhile fun c => c ≠ '=' ∧ c ≠ '['
  let target := String.ofList (whole.take name.length)
  match trimmed, trimmed.drop name.length with
  | [], _ => .error .malformed
  | '[' :: rest, _ => readSpan cut none rest
  | c :: _, rest =>
    if !isNameStart c then .error .malformed
    else match rest with
      | '=' :: rest => leveled ⟨some target, none, false, finest⟩ (cut rest [])
      | '[' :: rest => readSpan cut (some target) rest
      | _ =>
        match detail? whole with
        | some n => .ok ⟨none, none, false, n⟩
        | none => .ok ⟨some text, none, false, finest⟩

def concerns (d : Directive) (part : String) : Bool :=
  let target := match d.target with
    | none => true
    | some target => target.toList.isPrefixOf part.toList
  !d.spanned && target && (d.field = none || d.field = some "message")

/-- How precise a directive is: a longer target counts most, a field after that. -/
def precision (d : Directive) : Nat :=
  let target := match d.target with
    | none => 0
    | some target => target.utf8ByteSize + 1
  2 * target + if d.field.isSome then 1 else 0

end Directive

structure LogFilter where
  directives : List Directive
  faults : List (String × DirectiveFault)

namespace LogFilter

/-- The filter that a text describes; errors alone are shown if it describes nothing. -/
def read (text : String) : LogFilter :=
  let parts := (text.splitOn ",").filter (· ≠ "")
  let directives := parts.filterMap fun part => (Directive.read part).toOption
  { directives := if directives = [] then [⟨none, none, false, 1⟩] else directives
    faults := parts.filterMap fun part =>
      match Directive.read part with
      | .ok _ => none
      | .error fault => some (part, fault) }

def complaints (f : LogFilter) : List String :=
  f.faults.map fun (part, fault) => "ignoring `" ++ part ++ "`: " ++ fault.message

/-- The most precise directive for a part of the program; of equals the last. -/
def governing? (f : LogFilter) (part : String) : Option Directive :=
  f.directives.foldl
    (fun best d =>
      if !d.concerns part then best
      else match best with
        | some b => if d.precision < b.precision then best else some d
        | none => some d)
    none

def shows (f : LogFilter) (e : Event) : Bool :=
  match f.governing? e.part with
  | some d => e.level.detail ≤ d.detail
  | none => false

def lines (f : LogFilter) (events : List Event) : List String :=
  (events.filter f.shows).map Event.line

end LogFilter

end DhcpLeases
