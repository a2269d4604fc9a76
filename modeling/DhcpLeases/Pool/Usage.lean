import DhcpLeases.Json.Form
import DhcpLeases.Json.Writing
import DhcpLeases.Lease.Query

namespace DhcpLeases

open Number

/-- The percentage that `active` is of `capacity`: the quotient in double precision, times a hundred,
rounded with ties to even, and at most 2^64 - 1. A pool without addresses has none in use. -/
def percentage (active capacity : Nat) : Nat :=
  if capacity = 0 then 0
  else
    let quotient := (Binary64.ofNat active).div (.ofNat capacity)
    min (quotient.mul (.ofNat 100)).round max64

structure PoolUsage where
  pool : String
  size : Nat
  active : Nat
  available : Int
  percentage : Nat
  deriving Repr, DecidableEq

/-- The addresses that are not in use, or as a negative number the leases that are too many. A difference
that is too large for its type becomes the largest number. -/
def availableOf (size active : Nat) : Int :=
  if active ≤ size then (toSigned128? (size - active)).getD maxSigned128
  else -(toSigned128? (active - size)).getD maxSigned128

def PoolUsage.of (pool : String) (size active : Nat) : PoolUsage :=
  { pool, size, active
    available := availableOf size active
    percentage := DhcpLeases.percentage active size }

def poolUsage (c : Catalog) (leases : List ListedLease) (pool : String) :
    Logged (Except Failure PoolUsage) :=
  let capacity := poolCapacity c pool
  match capacity.value with
  | .error failure => ⟨.error failure, capacity.events⟩
  | .ok size =>
    let active := leases.countP (LeaseQuery.activeIn pool).selects
    ⟨.ok (.of pool size active), capacity.events ++ [.poolCounted pool active size]⟩

/-- The usage of several pools, up to the first that has none. -/
def poolUsages (c : Catalog) (leases : List ListedLease) :
    List String → Logged (Except Failure (List PoolUsage))
  | [] => ⟨.ok [], []⟩
  | pool :: pools =>
    let usage := poolUsage c leases pool
    match usage.value with
    | .error failure => ⟨.error failure, usage.events⟩
    | .ok row => ((poolUsages c leases pools).map (·.map (row :: ·))).behind usage.events

/-- The usage of a pool, or of every pool in the catalog. -/
def usageReport (c : Catalog) (leases : List ListedLease) (pool : Option String) :
    Logged (Except Failure (Report PoolUsage)) :=
  match pool with
  | none => (poolUsages c leases c.pools).map (·.map .ofRows)
  | some pool =>
    if c.hasPool pool then (poolUsages c leases [pool]).map (·.map .ofRows)
    else ⟨.ok (.explained (.noSuchPool pool)), []⟩

namespace PoolUsage

open Json

def print (u : PoolUsage) : Printed :=
  .object [
    ("pool", .string u.pool),
    ("size", .natural u.size),
    ("leases", .natural u.active),
    ("available", .integer u.available),
    ("percentage", .natural u.percentage)]

def reader : Reader PoolUsage :=
  mapped
    (fun (pool, size, active, available, percentage, ()) =>
      { pool, size, active, available, percentage })
    (Form.read <|
      .member "pool" string .required <|
      .member "size" natural128 .required <|
      .member "leases" natural64 .required <|
      .member "available" integer128 .required <|
      .member "percentage" natural64 .required .done)

end PoolUsage

end DhcpLeases
