import DhcpLeases.Journal.Token
import DhcpLeases.Log

namespace DhcpLeases.Journal

inductive Statement where
  | line (words : List String)
  | block (header : List String) (body : List Statement)
  deriving Repr

namespace Statement

def words : Statement → List String
  | line ws => ws
  | block header _ => header

end Statement

/-- An open block: its header and what it holds so far, newest first. -/
structure Frame where
  header : List String
  body : List Statement
  deriving Repr

/-- Words that nothing has ended, newest first, and the open blocks, innermost first. -/
structure Builder where
  words : List String
  frames : List Frame
  deriving Repr

inductive Piece where
  | statement (s : Statement)
  | remark (e : Event)

namespace Builder

def empty : Builder :=
  ⟨[], []⟩

/-- Puts a complete statement into the innermost open block, or hands it out. -/
def complete (s : Statement) : List Frame → List Frame × List Piece
  | [] => ([], [.statement s])
  | frame :: frames => (⟨frame.header, s :: frame.body⟩ :: frames, [])

def close : List Frame → List Frame × List Piece
  | [] => ([], [.remark .unbalancedBrace])
  | frame :: frames => complete (.block frame.header frame.body.reverse) frames

def step (b : Builder) : Token → Builder × List Piece
  | .word w => (⟨w :: b.words, b.frames⟩, [])
  | .semicolon =>
    if b.words = [] then (b, [])
    else
      let p := complete (.line b.words.reverse) b.frames
      (⟨[], p.1⟩, p.2)
  | .openBrace => (⟨[], ⟨b.words.reverse, []⟩ :: b.frames⟩, [])
  | .closeBrace =>
    let discarded : List Piece :=
      if b.words = [] then [] else [.remark (.discardedWords b.words.reverse)]
    let p := close b.frames
    (⟨[], p.1⟩, discarded ++ p.2)

def finish (b : Builder) : List Piece :=
  match b.frames.getLast? with
  | some outermost => [.remark (.truncatedBlock outermost.header)]
  | none => if b.words = [] then [] else [.remark (.truncatedWords b.words.reverse)]

end Builder

/-- The statements that tokens make up, and what there is to say of the rest, in order. -/
def pieces (ts : List Token) : List Piece :=
  let p := Transducer.run Builder.step .empty ts
  p.2 ++ p.1.finish

def statements (ts : List Token) : List Statement :=
  (pieces ts).filterMap fun
    | .statement s => some s
    | .remark _ => none

def remarks (ts : List Token) : List Event :=
  (pieces ts).filterMap fun
    | .statement _ => none
    | .remark e => some e

end DhcpLeases.Journal
