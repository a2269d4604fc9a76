import DhcpLeases.Lease.Record
import DhcpLeases.Time.Stamp

namespace DhcpLeases

open Text Time

def spanText (seconds : Nat) : String :=
  let days := seconds / secondsPerDay
  let rest := seconds % secondsPerDay
  let clock := String.ofList <|
    Decimal.digits (rest / 3600) ++ ':' :: Decimal.padded 2 (rest % 3600 / 60) ++
      ':' :: Decimal.padded 2 (rest % 60)
  if days = 0 then clock
  else if days = 1 then "1 day, " ++ clock
  else ofNat days ++ " days, " ++ clock

/-- The time from `now` until `stop`; nothing if there is no end or it has passed. -/
def remaining (now : Instant) (stop : Option Instant) : String :=
  match stop with
  | none => ""
  | some stop =>
    let nanos := stop.nanosSince now
    if nanos < 0 then "" else spanText (nanos.toNat / nanosPerSecond)

structure ListedLease where
  address : Address
  hardwareAddress : Option String
  state : BindingState
  start : String
  stop : String
  remaining : String
  pool : String
  hostname : Option String
  tstp : String
  tsfp : String
  atsfp : String
  cltt : String
  deriving DecidableEq

/-- From where leases are looked at: the time, the zone in seconds east of UTC, and the attribute that
names the pool of a lease. -/
structure Viewpoint where
  now : Instant
  offset : Int
  poolKey : String

namespace Viewpoint

/-- A time as the reader's clock shows it; nothing if it is missing or beyond the calendar. -/
def localTime (v : Viewpoint) (time : Option Instant) : String :=
  match time.bind (·.shift? v.offset) with
  | none => ""
  | some t => Stamp.write t.reading

def list (v : Viewpoint) (r : LeaseRecord) : ListedLease :=
  { address := r.address
    hardwareAddress := r.hardwareAddress
    state := r.state
    start := v.localTime r.start
    stop := v.localTime r.stop
    remaining := DhcpLeases.remaining v.now r.stop
    pool := (r.attributes.get? v.poolKey).getD ""
    hostname := r.hostname
    tstp := r.tstp
    tsfp := r.tsfp
    atsfp := r.atsfp
    cltt := r.cltt }

def listAll (v : Viewpoint) (records : List LeaseRecord) : List ListedLease :=
  records.map v.list

end Viewpoint

inductive SortKey where
  | ip
  | hardwareAddress
  | state
  | start
  | stop
  | remaining
  | pool
  | hostname
  deriving Repr, DecidableEq

namespace SortKey

def all : List SortKey :=
  [ip, hardwareAddress, state, start, stop, remaining, pool, hostname]

def name : SortKey → String
  | ip => "ip"
  | hardwareAddress => "hardware_address"
  | state => "state"
  | start => "start"
  | stop => "end"
  | remaining => "remaining"
  | pool => "pool"
  | hostname => "hostname"

def ofName? (s : String) : Option SortKey :=
  all.find? fun key => key.name = s

def compare : SortKey → ListedLease → ListedLease → Ordering
  | ip, a, b => Ord.compare a.address b.address
  | hardwareAddress, a, b => Ord.compare a.hardwareAddress b.hardwareAddress
  | state, a, b => Ord.compare a.state.name b.state.name
  | start, a, b => Ord.compare a.start b.start
  | stop, a, b => Ord.compare a.stop b.stop
  | remaining, a, b => Ord.compare a.remaining b.remaining
  | pool, a, b => Ord.compare a.pool b.pool
  | hostname, a, b => Ord.compare a.hostname b.hostname

/-- The leases in the order of a key; those that the key does not tell apart keep their order. -/
def sort (key : SortKey) (leases : List ListedLease) : List ListedLease :=
  leases.mergeSort fun a b => (key.compare a b).isLE

end SortKey

end DhcpLeases
