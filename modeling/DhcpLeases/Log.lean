import DhcpLeases.Address
import DhcpLeases.Text.Quoted
import DhcpLeases.Time.Rfc3339

namespace DhcpLeases

inductive Level where
  | warn
  | info
  | debug
  deriving Repr, DecidableEq

def Level.name : Level → String
  | warn => "WARN"
  | info => "INFO"
  | debug => "DEBUG"

/-- How much there is to a level: the higher, the finer. -/
def Level.detail : Level → Nat
  | warn => 2
  | info => 3
  | debug => 4

inductive Event where
  | discardedWords (words : List String)
  | unbalancedBrace
  | truncatedBlock (header : List String)
  | truncatedWords (words : List String)
  | foreignBlock (keyword : String)
  | headlessBlock
  | badLeaseAddress (header : List String)
  | badAssociatedAddress (header : List String)
  | unknownState (address : Address) (state : String)
  | missingState (address : Address)
  | journalRead (count : Nat) (path : String)
  | leasesLoaded (count : Nat) (path : String) (now : Time.Instant)
  | leasesListed (count : Nat) (order : String)
  | unboundedRange (range subnet pool : String)
  | poolCounted (pool : String) (active capacity : Nat)
  | probeFailed (service reason : String)
  deriving DecidableEq

namespace Event

open Text

def level : Event → Level
  | discardedWords _ => .debug
  | unbalancedBrace => .debug
  | truncatedBlock _ => .warn
  | truncatedWords _ => .warn
  | foreignBlock _ => .debug
  | headlessBlock => .debug
  | badLeaseAddress _ => .warn
  | badAssociatedAddress _ => .warn
  | unknownState _ _ => .warn
  | missingState _ => .warn
  | journalRead _ _ => .debug
  | leasesLoaded _ _ _ => .info
  | leasesListed _ _ => .debug
  | unboundedRange _ _ _ => .debug
  | poolCounted _ _ _ => .debug
  | probeFailed _ _ => .debug

/-- The part of the program that notes an event, as a log filter names it. -/
def part : Event → String
  | discardedWords _ | unbalancedBrace | truncatedBlock _ | truncatedWords _ | foreignBlock _
  | headlessBlock | badLeaseAddress _ | badAssociatedAddress _ | unknownState _ _ | missingState _
  | journalRead _ _ => "leasestat::journal"
  | leasesLoaded _ _ _ => "leasestat"
  | leasesListed _ _ => "leasestat::query"
  | unboundedRange _ _ _ | poolCounted _ _ _ => "leasestat::pool"
  | probeFailed _ _ => "leasestat::service"

def message : Event → String
  | discardedWords words => "Discarding unterminated statement " ++ Quoted.words words
  | unbalancedBrace => "Ignoring unbalanced closing brace"
  | truncatedBlock header => "Dropping truncated trailing block " ++ Quoted.words header
  | truncatedWords words => "Dropping unterminated trailing statement " ++ Quoted.words words
  | foreignBlock keyword => "Skipping '" ++ keyword ++ "' block"
  | headlessBlock => "Skipping anonymous block"
  | badLeaseAddress header => "Skipping lease block with invalid address: " ++ Quoted.words header
  | badAssociatedAddress header => "Skipping iaaddr with invalid address: " ++ Quoted.words header
  | unknownState address state =>
    "Skipping lease " ++ address.text ++ " with unknown binding state '" ++ state ++ "'"
  | missingState address => "Skipping lease " ++ address.text ++ " without a binding state"
  | journalRead count path => "Parsed " ++ ofNat count ++ " lease records from " ++ path
  | leasesLoaded count path now =>
    "Loaded " ++ ofNat count ++ " leases from " ++ path ++ " at " ++ Time.Rfc3339.write now
  | leasesListed count order => "Query matched " ++ ofNat count ++ " leases, sorted by " ++ order
  | unboundedRange range subnet pool =>
    "Range " ++ range ++ " of " ++ subnet ++ " in " ++ pool ++ " has no bounds"
  | poolCounted pool active capacity =>
    "Pool " ++ pool ++ ": " ++ ofNat active ++ " of " ++ ofNat capacity ++ " addresses active"
  | probeFailed service reason => "Could not run systemctl for " ++ service ++ ": " ++ reason

def line (e : Event) : String :=
  e.level.name ++ " " ++ e.message

end Event

/-- A result together with what was noted on the way to it. -/
structure Logged (α : Type) where
  value : α
  events : List Event

namespace Logged

def map {α β : Type} (f : α → β) (x : Logged α) : Logged β :=
  ⟨f x.value, x.events⟩

/-- The result behind earlier events. -/
def behind {α : Type} (events : List Event) (x : Logged α) : Logged α :=
  ⟨x.value, events ++ x.events⟩

end Logged

end DhcpLeases
