import DhcpLeases.Failure
import DhcpLeases.Journal.Clause
import DhcpLeases.Journal.Statement

namespace DhcpLeases.Journal

def headerAddress? (header : List String) : Option Address :=
  header[1]?.bind Address.ofText?

/-- What the statements of a block add to a draft. Headers of nested blocks are read like lines. -/
def described (d : Draft) (body : List Statement) : Draft :=
  body.foldl (fun d s => d.read s.words) d

def leaseOutcome (header : List String) (body : List Statement) : Except Event LeaseRecord :=
  match headerAddress? header with
  | none => .error (.badLeaseAddress header)
  | some address => (described .empty body).toRecord address

def transactionTime? (body : List Statement) : Option (List String) :=
  body.findSome? fun
    | .line (keyword :: rest) => if keyword = "cltt" then some rest else none
    | _ => none

/-- What an association says of each of its addresses: a binding began with the last transaction. -/
def associationDraft (body : List Statement) : Draft :=
  match transactionTime? body with
  | some words => { Draft.empty with start := moment? words, cltt := joined words }
  | none => .empty

def associationOutcomes (body : List Statement) : List (Except Event LeaseRecord) :=
  body.filterMap fun
    | .line _ => none
    | .block header inner =>
      if header.head? = some "iaaddr" then
        match headerAddress? header with
        | none => some (.error (.badAssociatedAddress header))
        | some address => some ((described (associationDraft body) inner).toRecord address)
      else none

def outcomes : Statement → List (Except Event LeaseRecord)
  | .line _ => []
  | .block [] _ => [.error .headlessBlock]
  | .block (keyword :: rest) body =>
    if keyword = "lease" then [leaseOutcome (keyword :: rest) body]
    else if keyword = "ia-na" ∨ keyword = "ia-ta" then associationOutcomes body
    else [.error (.foreignBlock keyword)]

/-- A journal that has been read: its records, and what there was to remark. -/
structure Contents where
  records : List LeaseRecord
  events : List Event
  deriving DecidableEq

def read (text : List Char) : Contents :=
  let ts := tokens text
  let results := (statements ts).flatMap outcomes
  { records := results.filterMap fun
      | .ok record => some record
      | .error _ => none
    events := remarks ts ++ results.filterMap fun
      | .ok _ => none
      | .error event => some event }

def records (text : List Char) : List LeaseRecord :=
  (read text).records

def readBytes (bytes : List UInt8) : Contents :=
  read (Text.Utf8.decode bytes)

/-- The journal in a file, if it can be read. Bytes that are no text become replacement characters. -/
def ofFile (path : String) (contents : Except FileFault (List UInt8)) : Except Failure Contents :=
  match contents with
  | .error fault => .error (.file fault)
  | .ok bytes =>
    let c := readBytes bytes
    .ok { c with events := c.events ++ [.journalRead c.records.length path] }

end DhcpLeases.Journal
