import DhcpLeases.Pool.Capacity
import DhcpLeases.Report

namespace DhcpLeases

inductive StateFilter where
  | all
  /-- Only the given states, listed in the order of `BindingState.all`. -/
  | only (states : List BindingState)
  deriving Repr, DecidableEq

namespace StateFilter

def ofStates (states : List BindingState) : StateFilter :=
  only (BindingState.all.filter (states.contains ·))

def default : StateFilter :=
  ofStates [.active]

/-- Adds what names mean to the states named so far and to whether `every` state was asked for, up to the
first name that means nothing. -/
def readNames (every : Bool) (states : List BindingState) :
    List String → Except Failure (Bool × List BindingState)
  | [] => .ok (every, states)
  | name :: names =>
    if name = "all" then readNames true states names
    else match BindingState.ofName? name with
      | none => .error (.unknownState name)
      | some state => readNames every (state :: states) names

/-- The filter that names ask for; no name at all asks for active leases. -/
def ofNames (names : List String) : Except Failure StateFilter :=
  (readNames false [] names).map fun (every, states) =>
    if every then all
    else if states = [] then default
    else ofStates states

def admits : StateFilter → BindingState → Bool
  | all, _ => true
  | only states, state => states.contains state

end StateFilter

structure LeaseQuery where
  states : StateFilter
  pool : Option String
  order : SortKey
  deriving Repr, DecidableEq

namespace LeaseQuery

def ofTexts (states : List String) (pool : Option String) (order : String) :
    Except Failure LeaseQuery :=
  match SortKey.ofName? order with
  | none => .error (.unknownSortKey order)
  | some key => (StateFilter.ofNames states).map fun filter => ⟨filter, pool, key⟩

def activeIn (pool : String) : LeaseQuery :=
  ⟨.default, some pool, .ip⟩

def selects (q : LeaseQuery) (lease : ListedLease) : Bool :=
  q.states.admits lease.state && q.pool.all (lease.pool = ·)

/-- Whether the query asks for a pool that there is not. -/
def missingPool? (q : LeaseQuery) (c : Catalog) : Option String :=
  q.pool.filter fun pool => !c.hasPool pool

def run (q : LeaseQuery) (leases : List ListedLease) (c : Catalog) :
    Logged (Report ListedLease) :=
  match q.missingPool? c with
  | some pool => ⟨.explained (.noSuchPool pool), []⟩
  | none =>
    let rows := q.order.sort (leases.filter q.selects)
    ⟨.ofRows rows, [.leasesListed rows.length q.order.name]⟩

end LeaseQuery

end DhcpLeases
