import DhcpLeases.Lease.Json
import DhcpLeases.Pool.Capacity

namespace DhcpLeases

structure AddressRange where
  name : String
  start : Address
  stop : Address
  deriving DecidableEq

structure Subnet where
  name : String
  ranges : List AddressRange
  deriving DecidableEq

structure SharedNetwork where
  name : String
  subnets : List Subnet
  deriving DecidableEq

structure Settings where
  leasesFile : String
  poolKey : String
  serviceName : String
  networks : List SharedNetwork
  deriving DecidableEq

namespace SharedNetwork

/-- The first range that has no size. -/
def badRange? (n : SharedNetwork) : Option Flaw :=
  n.subnets.findSome? fun subnet =>
    subnet.ranges.findSome? fun range =>
      match rangeSize range.start range.stop with
      | .ok _ => none
      | .error _ => some (.badRange range.name subnet.name n.name range.start range.stop)

/-- The first flaw of networks behind others with the names `seen`. -/
def flaw? (seen : List String) : List SharedNetwork → Option Flaw
  | [] => none
  | n :: ns =>
    if n.name = "" then some .emptyNetworkName
    else if seen.contains n.name then some (.repeatedNetwork n.name)
    else n.badRange?.or (flaw? (n.name :: seen) ns)

end SharedNetwork

namespace Settings

def defaultPoolKey : String := "shared-networkname"

def defaultServiceName : String := "isc-dhcp-server.service"

def default : Settings :=
  { leasesFile := "/config/dhcpd.leases"
    poolKey := defaultPoolKey
    serviceName := defaultServiceName
    networks := [] }

/-- The first flaw in the order of the settings. -/
def flaw? (s : Settings) : Option Flaw :=
  if s.poolKey = "" then some .emptyPoolKey else SharedNetwork.flaw? [] s.networks

def validate (s : Settings) : Except Failure Unit :=
  match s.flaw? with
  | none => .ok ()
  | some flaw => .error (.unsound flaw)

def hasPools (s : Settings) : Bool :=
  !s.networks.isEmpty

def network? (s : Settings) (pool : String) : Option SharedNetwork :=
  s.networks.find? (·.name = pool)

def subnet? (s : Settings) (pool subnet : String) : Option Subnet :=
  (s.network? pool).bind fun n => n.subnets.find? (·.name = subnet)

/-- The settings as a catalog of pools. Lists have every entry; a name leads to its first entry. -/
def catalog (s : Settings) : Catalog where
  hasPool pool := (s.network? pool).isSome
  pools := s.networks.map (·.name)
  subnets pool := ((s.network? pool).map fun n => n.subnets.map (·.name)).getD []
  ranges pool subnet := ((s.subnet? pool subnet).map fun n => n.ranges.map (·.name)).getD []
  bounds pool subnet range :=
    (s.subnet? pool subnet).bind fun n =>
      (n.ranges.find? (·.name = range)).map fun r => (r.start, r.stop)

end Settings

open Json

namespace AddressRange

def print (r : AddressRange) : Printed :=
  .object [("name", .string r.name), ("start", r.start.print), ("stop", r.stop.print)]

def reader : Reader AddressRange :=
  mapped (fun (name, start, stop, ()) => { name, start, stop })
    (Form.read <|
      .member "name" string .required <|
      .member "start" Address.reader .required <|
      .member "stop" Address.reader .required .done)

end AddressRange

namespace Subnet

def print (s : Subnet) : Printed :=
  .object [("subnet", .string s.name), ("ranges", .array (s.ranges.map AddressRange.print))]

def reader : Reader Subnet :=
  mapped (fun (name, ranges, ()) => { name, ranges })
    (Form.read <|
      .member "subnet" string .required <|
      .member "ranges" (list AddressRange.reader) (.isDefault []) .done)

end Subnet

namespace SharedNetwork

def print (n : SharedNetwork) : Printed :=
  .object [("name", .string n.name), ("subnets", .array (n.subnets.map Subnet.print))]

def reader : Reader SharedNetwork :=
  mapped (fun (name, subnets, ()) => { name, subnets })
    (Form.read <|
      .member "name" string .required <|
      .member "subnets" (list Subnet.reader) (.isDefault []) .done)

end SharedNetwork

namespace Settings

def print (s : Settings) : Printed :=
  .object [
    ("leases_file", .string s.leasesFile),
    ("pool_key", .string s.poolKey),
    ("service_name", .string s.serviceName),
    ("shared_networks", .array (s.networks.map SharedNetwork.print))]

def reader : Reader Settings :=
  mapped
    (fun (leasesFile, poolKey, serviceName, networks, ()) =>
      { leasesFile, poolKey, serviceName, networks })
    (Form.read <|
      .member "leases_file" string .required <|
      .member "pool_key" string (.isDefault defaultPoolKey) <|
      .member "service_name" string (.isDefault defaultServiceName) <|
      .member "shared_networks" (list SharedNetwork.reader) (.isDefault []) .done)

def ofText (cs : List Char) : Except Failure Settings :=
  match readText reader cs with
  | .ok s => .ok s
  | .error fault => .error (.json fault)

/-- The settings in a file, if it can be read and they are sound. -/
def ofFile (contents : Except FileFault (List UInt8)) : Except Failure Settings :=
  match contents with
  | .error fault => .error (.file fault)
  | .ok bytes =>
    match Text.Utf8.decode? bytes with
    | none => .error (.file .notText)
    | some cs => do
      let s ← ofText cs
      s.validate
      .ok s

end Settings

end DhcpLeases
