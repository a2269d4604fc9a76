import DhcpLeases.Json.Skipping

namespace DhcpLeases.Json

/-- The text at the next element, or the text behind the closing bracket if there is none. -/
inductive Next where
  | element (rest : List Char)
  | closed (rest : List Char)

/-- Finds the next element; all but the first stand behind a comma. -/
def next (closing : Char) (first : Bool) (cs : List Char) : Except Fault Next :=
  match skipSpace cs with
  | [] => .error .truncated
  | c :: rest =>
    if c = closing then .ok (.closed rest)
    else if first then .ok (.element (c :: rest))
    else if c = ',' then
      match skipSpace rest with
      | [] => .error .truncated
      | d :: rest => if d = closing then .error .malformed else .ok (.element (d :: rest))
    else .error .malformed

def elements {α : Type} (read : Reader α) : (fuel : Nat) → (first : Bool) → Reader (List α)
  | 0, _, _ => .error .truncated
  | fuel + 1, first, cs => do
    match ← next ']' first cs with
    | .closed rest => .ok ([], rest)
    | .element cs =>
      let (a, cs) ← read cs
      let (as, cs) ← elements read fuel false cs
      .ok (a :: as, cs)

def list {α : Type} (read : Reader α) : Reader (List α) := fun cs =>
  match skipSpace cs with
  | '[' :: rest => elements read (rest.length + 1) true rest
  | cs => .error (misfit cs)

def memberName : Reader String
  | '"' :: rest => stringBody rest
  | _ => .error .malformed

def afterColon (cs : List Char) : Except Fault (List Char) :=
  match skipSpace cs with
  | [] => .error .truncated
  | c :: rest => if c = ':' then .ok rest else .error .malformed

def pairs {α : Type} (read : Reader α) : (fuel : Nat) → (first : Bool) → Reader (List (String × α))
  | 0, _, _ => .error .truncated
  | fuel + 1, first, cs => do
    match ← next '}' first cs with
    | .closed rest => .ok ([], rest)
    | .element cs =>
      let (name, cs) ← memberName cs
      let cs ← afterColon cs
      let (a, cs) ← read cs
      let (as, cs) ← pairs read fuel false cs
      .ok ((name, a) :: as, cs)

def dictionary {α : Type} (read : Reader α) : Reader (List (String × α)) := fun cs =>
  match skipSpace cs with
  | '{' :: rest => pairs read (rest.length + 1) true rest
  | cs => .error (misfit cs)

/-- What stands for a value that is left out of an object, and of an array. -/
structure Absent (α : Type) where
  inObject : Option α
  inArray : Option α

namespace Absent

def required {α : Type} : Absent α := ⟨none, none⟩

def isNone {α : Type} : Absent (Option α) := ⟨some none, none⟩

def isDefault {α : Type} (a : α) : Absent α := ⟨some a, some a⟩

end Absent

/-- The members that an object can have, with the values that have been read. The type is that of all
values, as nested pairs. -/
inductive Form : Type → Type 1 where
  | done : Form Unit
  | slot {α β : Type} (name : String) (read : Reader α) (absent : Absent α) (value : Option α)
    (rest : Form β) : Form (α × β)

namespace Form

def member {α β : Type} (name : String) (read : Reader α) (absent : Absent α) (rest : Form β) :
    Form (α × β) :=
  slot name read absent none rest

/-- Reads the value of a member that the form has; a second value does not fit. -/
def put? (key : String) (cs : List Char) : {α : Type} → Form α →
    Option (Except Fault (Form α × List Char))
  | _, done => none
  | _, slot name read absent value rest =>
    if key = name then
      some <| match value with
        | some _ => .error .unfit
        | none =>
          match (afterColon cs).bind read with
          | .error fault => .error fault
          | .ok (a, cs) => .ok (slot name read absent (some a) rest, cs)
    else
      match put? key cs rest with
      | none => none
      | some (.error fault) => some (.error fault)
      | some (.ok (rest, cs)) => some (.ok (slot name read absent value rest, cs))

def values? : {α : Type} → Form α → Option α
  | _, done => some ()
  | _, slot _ _ absent value rest =>
    match value.or absent.inObject, rest.values? with
    | some a, some b => some (a, b)
    | _, _ => none

/-- Members up to a closing brace. -/
def members {α : Type} : (fuel : Nat) → (first : Bool) → Form α → List Char →
    Except Fault (α × List Char)
  | 0, _, _, _ => .error .truncated
  | fuel + 1, first, form, cs =>
    match next '}' first cs with
    | .error fault => .error fault
    | .ok (.closed rest) =>
      match form.values? with
      | some a => .ok (a, rest)
      | none => .error .unfit
    | .ok (.element cs) =>
      match memberName cs with
      | .error fault => .error fault
      | .ok (key, cs) =>
        match form.put? key cs with
        | some (.error fault) => .error fault
        | some (.ok (form, cs)) => members fuel false form cs
        | none =>
          match (afterColon cs).bind skipValue with
          | .error fault => .error fault
          | .ok cs => members fuel false form cs

/-- The values in order, up to but without the closing bracket. -/
def inOrder : {α : Type} → (first : Bool) → Form α → List Char → Except Fault (α × List Char)
  | _, _, done, cs => .ok ((), cs)
  | _, first, slot _ read absent _ rest, cs =>
    match next ']' first cs with
    | .error fault => .error fault
    | .ok (.closed _) =>
      match absent.inArray, inOrder first rest cs with
      | none, _ => .error .unfit
      | some _, .error fault => .error fault
      | some a, .ok (b, cs) => .ok ((a, b), cs)
    | .ok (.element cs) =>
      match read cs with
      | .error fault => .error fault
      | .ok (a, cs) =>
        match inOrder false rest cs with
        | .error fault => .error fault
        | .ok (b, cs) => .ok ((a, b), cs)

def read {α : Type} (form : Form α) : Reader α := fun cs =>
  match skipSpace cs with
  | '{' :: rest => members (rest.length + 1) true form rest
  | '[' :: rest =>
    match inOrder true form rest with
    | .error fault => .error fault
    | .ok (a, rest) =>
      match skipSpace rest with
      | [] => .error .truncated
      | c :: rest => if c = ']' then .ok (a, rest) else .error .malformed
  | cs => .error (misfit cs)

end Form

def mapped {α β : Type} (f : α → β) (read : Reader α) : Reader β := fun cs =>
  match read cs with
  | .ok (a, rest) => .ok (f a, rest)
  | .error fault => .error fault

def readText {α : Type} (read : Reader α) (cs : List Char) : Except Fault α :=
  match read cs with
  | .error fault => .error fault
  | .ok (a, rest) => if skipSpace rest = [] then .ok a else .error .malformed

end DhcpLeases.Json
