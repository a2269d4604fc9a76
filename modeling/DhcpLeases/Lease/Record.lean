import DhcpLeases.Address
import DhcpLeases.Time.Instant
import Std.Data.TreeMap

namespace DhcpLeases

def insertPair (name value : String) : List (String × String) → List (String × String)
  | [] => [(name, value)]
  | p :: ps =>
    match compare name p.1 with
    | .lt => (name, value) :: p :: ps
    | .eq => (name, value) :: ps
    | .gt => p :: insertPair name value ps

def Ascending (ps : List (String × String)) : Prop :=
  ps.Pairwise fun p q => compare p.1 q.1 = .lt

theorem mem_insertPair {name value : String} {p : String × String} {ps : List (String × String)}
    (h : p ∈ insertPair name value ps) : p = (name, value) ∨ p ∈ ps := by
  induction ps with
  | nil => simpa [insertPair] using h
  | cons q ps ih =>
    unfold insertPair at h
    split at h
    · simpa using h
    · rcases List.mem_cons.1 h with h | h
      · exact .inl h
      · exact .inr (List.mem_cons_of_mem _ h)
    · rcases List.mem_cons.1 h with h | h
      · exact .inr (h ▸ List.mem_cons_self)
      · exact (ih h).imp_right (List.mem_cons_of_mem _)

theorem Ascending.insertPair {ps : List (String × String)} (h : Ascending ps) (name value : String) :
    Ascending (insertPair name value ps) := by
  induction ps with
  | nil => exact List.pairwise_singleton _ _
  | cons q ps ih =>
    obtain ⟨hq, hps⟩ := List.pairwise_cons.1 h
    unfold DhcpLeases.insertPair
    split
    · next hlt =>
      refine List.pairwise_cons.2 ⟨fun r hr => ?_, h⟩
      rcases List.mem_cons.1 hr with rfl | hr
      · exact hlt
      · exact Std.TransCmp.lt_trans hlt (hq r hr)
    · next heq =>
      refine List.pairwise_cons.2 ⟨fun r hr => ?_, hps⟩
      exact Std.TransCmp.lt_of_eq_of_lt heq (hq r hr)
    · next hgt =>
      refine List.pairwise_cons.2 ⟨fun r hr => ?_, ih hps⟩
      rcases mem_insertPair hr with rfl | hr
      · exact Std.OrientedCmp.lt_of_gt hgt
      · exact hq r hr

structure Attributes where
  pairs : List (String × String)
  ascending : Ascending pairs
  deriving DecidableEq

namespace Attributes

def empty : Attributes :=
  ⟨[], List.Pairwise.nil⟩

instance : Inhabited Attributes := ⟨empty⟩

/-- The attributes with `name` set to `value`, whatever it was before. -/
def insert (as : Attributes) (name value : String) : Attributes :=
  ⟨insertPair name value as.pairs, as.ascending.insertPair name value⟩

def get? (as : Attributes) (name : String) : Option String :=
  (as.pairs.find? fun p => p.1 = name).map Prod.snd

/-- The attributes that a list of pairs sets, one after the other. -/
def ofList (ps : List (String × String)) : Attributes :=
  ps.foldl (fun as p => as.insert p.1 p.2) empty

theorem ext {as bs : Attributes} (h : as.pairs = bs.pairs) : as = bs := by
  cases as
  cases bs
  cases h
  rfl

end Attributes

inductive BindingState where
  | active
  | free
  | expired
  | released
  | abandoned
  | reset
  | backup
  deriving Repr, DecidableEq

namespace BindingState

def all : List BindingState :=
  [active, free, expired, released, abandoned, reset, backup]

def name : BindingState → String
  | active => "active"
  | free => "free"
  | expired => "expired"
  | released => "released"
  | abandoned => "abandoned"
  | reset => "reset"
  | backup => "backup"

def ofName? (s : String) : Option BindingState :=
  all.find? fun state => state.name = s

theorem mem_all (state : BindingState) : state ∈ all := by
  cases state <;> decide

theorem ofName?_name (state : BindingState) : ofName? state.name = some state := by
  cases state <;> decide

end BindingState

structure LeaseRecord where
  address : Address
  hardwareAddress : Option String
  hostname : Option String
  state : BindingState
  start : Option Time.Instant
  /-- When the lease ends; `none` also if it never does. -/
  stop : Option Time.Instant
  attributes : Attributes
  tstp : String
  tsfp : String
  atsfp : String
  cltt : String
  deriving DecidableEq

/-- A record that says nothing but the state of an address. -/
def LeaseRecord.bare (address : Address) (state : BindingState) : LeaseRecord :=
  { address, state, hardwareAddress := none, hostname := none, start := none, stop := none,
    attributes := .empty, tstp := "", tsfp := "", atsfp := "", cltt := "" }

/-- Whether a later record of an address takes the place of an earlier one. -/
def LeaseRecord.supersedes (later earlier : LeaseRecord) : Bool :=
  (compare later.start earlier.start).isGE

abbrev Standing := Std.TreeMap Address LeaseRecord

def Standing.enter (m : Standing) (r : LeaseRecord) : Standing :=
  match m[r.address]? with
  | none => m.insert r.address r
  | some earlier => if r.supersedes earlier then m.insert r.address r else m

/-- One record for each address, in the order of addresses. -/
def latest (records : List LeaseRecord) : List LeaseRecord :=
  (records.foldl Standing.enter (∅ : Standing)).values

end DhcpLeases
