import DhcpLeases.Json.Form
import DhcpLeases.Json.Writing
import DhcpLeases.Lease.Listing
import DhcpLeases.Time.Rfc3339

namespace DhcpLeases

open Json

namespace Address

def print (a : Address) : Printed :=
  .string a.text

def reader : Reader Address :=
  denoted Address.read?

end Address

namespace Time.Instant

def print (t : Instant) : Printed :=
  .string (Rfc3339.write t)

def reader : Reader Instant :=
  denoted Rfc3339.read?

end Time.Instant

namespace BindingState

def print (s : BindingState) : Printed :=
  .string s.name

def nameReader : Reader BindingState :=
  denoted fun cs => ofName? (String.ofList cs)

/-- The `null` of an object `{"active": null}`. -/
def nullBody (cs : List Char) : Except Fault (List Char) :=
  match skipSpace cs with
  | 'n' :: rest => literal ['u', 'l', 'l'] rest
  | cs => .error (misfit cs)

/-- A name, or an object that has the name as its only member with nothing as its value. -/
def reader : Reader BindingState := fun cs =>
  match skipSpace cs with
  | [] => .error .truncated
  | '"' :: rest => nameReader ('"' :: rest)
  | '{' :: rest =>
    match skipSpace rest with
    | [] => .error .truncated
    | '"' :: rest => do
      let (state, rest) ← nameReader ('"' :: rest)
      let rest ← afterColon rest
      let rest ← nullBody rest
      match skipSpace rest with
      | [] => .error .truncated
      | c :: rest => if c = '}' then .ok (state, rest) else .error .malformed
    | _ => .error .malformed
  | _ => .error .malformed

end BindingState

namespace Attributes

def print (as : Attributes) : Printed :=
  .object (as.pairs.map fun p => (p.1, .string p.2))

def reader : Reader Attributes :=
  mapped ofList (dictionary string)

end Attributes

namespace LeaseRecord

def print (r : LeaseRecord) : Printed :=
  .object [
    ("address", r.address.print),
    ("hardware_address", .option .string r.hardwareAddress),
    ("hostname", .option .string r.hostname),
    ("binding_state", r.state.print),
    ("start", .option Time.Instant.print r.start),
    ("end", .option Time.Instant.print r.stop),
    ("sets", r.attributes.print),
    ("tstp", .string r.tstp),
    ("tsfp", .string r.tsfp),
    ("atsfp", .string r.atsfp),
    ("cltt", .string r.cltt)]

def reader : Reader LeaseRecord :=
  mapped
    (fun (address, hardwareAddress, hostname, state, start, stop, attributes, tstp, tsfp, atsfp,
        cltt, ()) =>
      { address, hardwareAddress, hostname, state, start, stop, attributes, tstp, tsfp, atsfp,
        cltt })
    (Form.read <|
      .member "address" Address.reader .required <|
      .member "hardware_address" (optional string) .isNone <|
      .member "hostname" (optional string) .isNone <|
      .member "binding_state" BindingState.reader .required <|
      .member "start" (optional Time.Instant.reader) .isNone <|
      .member "end" (optional Time.Instant.reader) .isNone <|
      .member "sets" Attributes.reader .required <|
      .member "tstp" string .required <|
      .member "tsfp" string .required <|
      .member "atsfp" string .required <|
      .member "cltt" string .required .done)

end LeaseRecord

namespace ListedLease

def print (l : ListedLease) : Printed :=
  .object [
    ("ip", l.address.print),
    ("hardware_address", .option .string l.hardwareAddress),
    ("state", l.state.print),
    ("start", .string l.start),
    ("end", .string l.stop),
    ("remaining", .string l.remaining),
    ("pool", .string l.pool),
    ("hostname", .option .string l.hostname),
    ("tstp", .string l.tstp),
    ("tsfp", .string l.tsfp),
    ("atsfp", .string l.atsfp),
    ("cltt", .string l.cltt)]

def reader : Reader ListedLease :=
  mapped
    (fun (address, hardwareAddress, state, start, stop, remaining, pool, hostname, tstp, tsfp,
        atsfp, cltt, ()) =>
      { address, hardwareAddress, state, start, stop, remaining, pool, hostname, tstp, tsfp,
        atsfp, cltt })
    (Form.read <|
      .member "ip" Address.reader .required <|
      .member "hardware_address" (optional string) .isNone <|
      .member "state" BindingState.reader .required <|
      .member "start" string .required <|
      .member "end" string .required <|
      .member "remaining" string .required <|
      .member "pool" string .required <|
      .member "hostname" (optional string) .isNone <|
      .member "tstp" string .required <|
      .member "tsfp" string .required <|
      .member "atsfp" string .required <|
      .member "cltt" string .required .done)

end ListedLease

end DhcpLeases
