import DhcpLeases.Lease.Record
import DhcpLeases.Log

namespace DhcpLeases.Journal

open Text Time

/-- The time that words say; none for `never` and for words that say no time. -/
def moment? : List String → Option Instant
  | [] => none
  | [_] => none
  | first :: second :: rest =>
    if first = "epoch" then
      (Decimal.integer? second.toList).bind (Instant.of? · 0)
    else match rest with
      | [third] => Stamp.read? (second.toList ++ ' ' :: third.toList)
      | _ => none

inductive Clause where
  | starts (time : Option Time.Instant)
  | ends (time : Option Time.Instant)
  | tstp (text : String)
  | tsfp (text : String)
  | atsfp (text : String)
  | cltt (text : String)
  | binding (state : String)
  | hardware (address : Option String)
  | hostname (name : Option String)
  | tag (name value : String)
  deriving DecidableEq

def joined (words : List String) : String :=
  " ".intercalate words

def Clause.of? (keyword : String) (rest : List String) : Option Clause :=
  if keyword = "starts" then some (starts (moment? rest))
  else if keyword = "ends" then some (ends (moment? rest))
  else if keyword = "tstp" then some (tstp (joined rest))
  else if keyword = "tsfp" then some (tsfp (joined rest))
  else if keyword = "atsfp" then some (atsfp (joined rest))
  else if keyword = "cltt" then some (cltt (joined rest))
  else if keyword = "binding" then
    match rest with
    | [what, state] => if what = "state" then some (binding state) else none
    | _ => none
  else if keyword = "hardware" then some (hardware rest[1]?)
  else if keyword = "client-hostname" then some (hostname rest.head?)
  else if keyword = "set" then
    match rest with
    | [name, equals, value] => if equals = "=" then some (tag name value) else none
    | _ => none
  else none

def Clause.ofWords? : List String → Option Clause
  | [] => none
  | keyword :: rest => Clause.of? keyword rest

structure Draft where
  hardwareAddress : Option String
  hostname : Option String
  state : Option String
  start : Option Time.Instant
  stop : Option Time.Instant
  attributes : Attributes
  tstp : String
  tsfp : String
  atsfp : String
  cltt : String
  deriving DecidableEq

namespace Draft

def empty : Draft :=
  { hardwareAddress := none, hostname := none, state := none, start := none, stop := none,
    attributes := .empty, tstp := "", tsfp := "", atsfp := "", cltt := "" }

def add (d : Draft) : Clause → Draft
  | .starts time => { d with start := time }
  | .ends time => { d with stop := time }
  | .tstp text => { d with tstp := text }
  | .tsfp text => { d with tsfp := text }
  | .atsfp text => { d with atsfp := text }
  | .cltt text => { d with cltt := text }
  | .binding state => { d with state := some state }
  | .hardware address => { d with hardwareAddress := address }
  | .hostname name => { d with hostname := name }
  | .tag name value => { d with attributes := d.attributes.insert name value }

/-- Reads one statement's words; words that are no clause say nothing. -/
def read (d : Draft) (words : List String) : Draft :=
  match Clause.ofWords? words with
  | some clause => d.add clause
  | none => d

/-- The record of an address, unless its state is missing or unknown. -/
def toRecord (d : Draft) (address : Address) : Except Event LeaseRecord :=
  match d.state with
  | none => .error (.missingState address)
  | some name =>
    match BindingState.ofName? name with
    | none => .error (.unknownState address name)
    | some state =>
      .ok { address, state, hardwareAddress := d.hardwareAddress, hostname := d.hostname,
            start := d.start, stop := d.stop, attributes := d.attributes, tstp := d.tstp,
            tsfp := d.tsfp, atsfp := d.atsfp, cltt := d.cltt }

end Draft

end DhcpLeases.Journal
