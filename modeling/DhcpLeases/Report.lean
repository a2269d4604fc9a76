import DhcpLeases.Log

namespace DhcpLeases

inductive Notice where
  | noSuchPool (pool : String)
  | serviceStopped (service : String)
  deriving Repr, DecidableEq

def Notice.text : Notice → String
  | noSuchPool pool => "Pool " ++ pool ++ " does not exist."
  | serviceStopped _ => "WARNING: DHCP server is configured but not started. Data may be stale."

structure Report (α : Type) where
  rows : List α
  notices : List Notice
  deriving DecidableEq

namespace Report

variable {α : Type}

def ofRows (rows : List α) : Report α :=
  ⟨rows, []⟩

def explained (notice : Notice) : Report α :=
  ⟨[], [notice]⟩

def note (r : Report α) (notice : Notice) : Report α :=
  { r with notices := r.notices ++ [notice] }

/-- Whether the pool that was asked for is unknown. -/
def poolUnknown (r : Report α) : Bool :=
  r.notices.any fun
    | .noSuchPool _ => true
    | .serviceStopped _ => false

end Report

inductive Probe where
  | answered (running : Bool)
  | impossible (reason : String)
  deriving Repr, DecidableEq

namespace Probe

/-- What an answer about a service comes to: a name with a NUL cannot be asked about. -/
def of (service : String) (answer : Probe) : Probe :=
  if service.toList.contains '\x00' then .impossible "nul byte found in provided data" else answer

def running : Probe → Bool
  | answered running => running
  | impossible _ => false

def events (service : String) : Probe → List Event
  | answered _ => []
  | impossible reason => [.probeFailed service reason]

end Probe

/-- The report with a warning if the server does not run. -/
def Report.checked {α : Type} (r : Report α) (service : String) (probe : Probe) :
    Logged (Report α) :=
  ⟨if probe.running then r else r.note (.serviceStopped service), probe.events service⟩

end DhcpLeases
