import DhcpLeases.Failure
import DhcpLeases.Log

namespace DhcpLeases

/-- Access to pools by name. The orders of the lists are those in which pools are reported. -/
structure Catalog where
  hasPool : String → Bool
  pools : List String
  subnets : (pool : String) → List String
  ranges : (pool subnet : String) → List String
  bounds : (pool subnet range : String) → Option (Address × Address)

/-- A catalog as lists of entries; the first entry of a name counts. -/
structure CatalogTables where
  existing : List String
  pools : List String
  subnets : List (String × List String)
  ranges : List ((String × String) × List String)
  bounds : List ((String × String × String) × (Address × Address))

def CatalogTables.toCatalog (t : CatalogTables) : Catalog where
  hasPool pool := t.existing.contains pool
  pools := t.pools
  subnets pool := (t.subnets.lookup pool).getD []
  ranges pool subnet := (t.ranges.lookup (pool, subnet)).getD []
  bounds pool subnet range := t.bounds.lookup (pool, subnet, range)

structure CatalogRange where
  subnet : String
  range : String
  bounds : Option (Address × Address)
  deriving DecidableEq

/-- All ranges of all subnets of a pool. -/
def Catalog.poolRanges (c : Catalog) (pool : String) : List CatalogRange :=
  (c.subnets pool).flatMap fun subnet =>
    (c.ranges pool subnet).map fun range => ⟨subnet, range, c.bounds pool subnet range⟩

def maxCapacity : Nat := Number.max128

/-- The number of addresses from `start` to `stop`, both included. -/
def rangeSize (start stop : Address) : Except Failure Nat :=
  if start.SameFamily stop ∧ start.number ≤ stop.number then
    .ok (min (stop.number - start.number + 1) maxCapacity)
  else .error (.badRange start stop)

/-- Adds the sizes of ranges to a total, up to the first range that has none. -/
def addSizes (pool : String) : (total : Nat) → List CatalogRange → Logged (Except Failure Nat)
  | total, [] => ⟨.ok total, []⟩
  | total, r :: rs =>
    match r.bounds with
    | none => (addSizes pool total rs).behind [.unboundedRange r.range r.subnet pool]
    | some (start, stop) =>
      match rangeSize start stop with
      | .error failure => ⟨.error failure, []⟩
      | .ok size => addSizes pool (min (total + size) maxCapacity) rs

def poolCapacity (c : Catalog) (pool : String) : Logged (Except Failure Nat) :=
  addSizes pool 0 (c.poolRanges pool)

end DhcpLeases
