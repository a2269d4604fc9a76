namespace DhcpLeases.Command

def versionText : String :=
  "leasestat 0.1.0\n"

def helpLines : List String := [
  "Show DHCP leases and pool statistics",
  "",
  "Usage: leasestat [OPTIONS]",
  "",
  "Options:",
  "  -c, --config <CONFIG>        [default: config.json]",
  "      --log-level <LOG_LEVEL>  [default: warn]",
  "  -l, --leases                 Show DHCP leases",
  "  -s, --statistics             Show DHCP pool statistics",
  "      --allowed <ALLOWED>      Show allowed values for an argument [possible values: sort, state]",
  "  -p, --pool <POOL>            Show leases for a specific pool",
  "  -S, --sort <SORT>            Sort by [default: ip]",
  "  -t, --state <STATE>...       Lease states to show [default: active]",
  "  -j, --json                   Produce JSON output",
  "  -h, --help                   Print help",
  "  -V, --version                Print version"]

def helpText : String :=
  String.join (helpLines.map (· ++ "\n"))

inductive Choice where
  | sort
  | state
  deriving Repr, DecidableEq

def Choice.name : Choice → String
  | sort => "sort"
  | state => "state"

def Choice.ofName? (s : String) : Option Choice :=
  [sort, state].find? fun choice => choice.name = s

structure Options where
  settingsFile : String
  logLevel : String
  leases : Bool
  statistics : Bool
  allowed : Option Choice
  pool : Option String
  order : String
  states : List String
  json : Bool
  deriving Repr, DecidableEq

inductive Halt where
  | help
  | version
  /-- An option twice, or two options that exclude each other. -/
  | conflict
  | badValue
  | unknownArgument
  | surplusValue
  deriving Repr, DecidableEq

namespace Halt

def exitCode : Halt → UInt8
  | help | version => 0
  | _ => 2

def reason : Halt → String
  | help => "help requested"
  | version => "version requested"
  | conflict => "an argument cannot be used with another"
  | badValue => "a value is missing or invalid"
  | unknownArgument => "unexpected argument found"
  | surplusValue => "unexpected value for a flag"

end Halt

inductive Key where
  | settings
  | logLevel
  | leases
  | statistics
  | allowed
  | pool
  | order
  | states
  | json
  | help
  | version
  deriving Repr, DecidableEq

namespace Key

def table : List (Key × String × Option Char) := [
  (settings, "config", some 'c'),
  (logLevel, "log-level", none),
  (leases, "leases", some 'l'),
  (statistics, "statistics", some 's'),
  (allowed, "allowed", none),
  (pool, "pool", some 'p'),
  (order, "sort", some 'S'),
  (states, "state", some 't'),
  (json, "json", some 'j'),
  (help, "help", some 'h'),
  (version, "version", some 'V')]

def ofLong? (name : String) : Option Key :=
  (table.find? fun row => row.2.1 = name).map Prod.fst

def ofLetter? (c : Char) : Option Key :=
  (table.find? fun row => row.2.2 = some c).map Prod.fst

def takesValue : Key → Bool
  | settings | logLevel | allowed | pool | order | states => true
  | leases | statistics | json | help | version => false

end Key

/-- The options given so far. -/
structure Given where
  settingsFile : Option String
  logLevel : Option String
  leases : Bool
  statistics : Bool
  allowed : Option Choice
  pool : Option String
  order : Option String
  states : List String
  json : Bool
  deriving Repr, DecidableEq

namespace Given

def nothing : Given :=
  { settingsFile := none, logLevel := none, leases := false, statistics := false, allowed := none,
    pool := none, order := none, states := [], json := false }

def once {α : Type} (before : Option α) (value : Option α) : Except Halt (Option α) :=
  match before, value with
  | some _, _ => .error .conflict
  | none, none => .error .badValue
  | none, some a => .ok (some a)

def store (g : Given) (key : Key) (value : String) : Except Halt Given :=
  match key with
  | .settings =>
    (once g.settingsFile (if value = "" then none else some value)).map
      fun v => { g with settingsFile := v }
  | .logLevel => (once g.logLevel (some value)).map fun v => { g with logLevel := v }
  | .allowed => (once g.allowed (Choice.ofName? value)).map fun v => { g with allowed := v }
  | .pool => (once g.pool (some value)).map fun v => { g with pool := v }
  | .order => (once g.order (some value)).map fun v => { g with order := v }
  | .states => .ok { g with states := g.states ++ [value] }
  | _ => .ok g

def raise (g : Given) (key : Key) : Except Halt Given :=
  match key with
  | .leases => if g.leases then .error .conflict else .ok { g with leases := true }
  | .statistics => if g.statistics then .error .conflict else .ok { g with statistics := true }
  | .json => if g.json then .error .conflict else .ok { g with json := true }
  | .help => .error .help
  | .version => .error .version
  | _ => .ok g

def modesClash (g : Given) : Bool :=
  [g.leases, g.statistics, g.allowed.isSome].count true > 1

def options (g : Given) : Except Halt Options :=
  if g.modesClash then .error .conflict
  else .ok
    { settingsFile := g.settingsFile.getD "config.json"
      logLevel := g.logLevel.getD "warn"
      leases := g.leases
      statistics := g.statistics
      allowed := g.allowed
      pool := g.pool
      order := g.order.getD "ip"
      states := if g.states = [] then ["active"] else g.states
      json := g.json }

end Given

/-- What has been read: options, and perhaps one that waits for its value or has it but may take more. -/
structure Reading where
  given : Given
  pending : Option (Key × List String)
  deriving Repr, DecidableEq

namespace Reading

def start : Reading :=
  ⟨.nothing, none⟩

def settle (r : Reading) : Except Halt Given :=
  match r.pending with
  | none => .ok r.given
  | some (_, []) => .error .badValue
  | some (key, values) => values.foldlM (fun g value => g.store key value) r.given

def option (r : Reading) (key : Key) (attached : Option String) : Except Halt Reading := do
  let given ← r.settle
  match attached with
  | none => .ok ⟨given, some (key, [])⟩
  | some value => do
    let given ← given.store key value
    .ok ⟨given, none⟩

def flag (r : Reading) (key : Key) : Except Halt Reading := do
  let given ← r.settle
  let given ← given.raise key
  .ok ⟨given, none⟩

def long (r : Reading) (cs : List Char) : Except Halt Reading :=
  let name := String.ofList (cs.takeWhile (· ≠ '='))
  let attached : Option String := match cs.dropWhile (· ≠ '=') with
    | [] => none
    | _ :: value => some (String.ofList value)
  match Key.ofLong? name with
  | none => .error .unknownArgument
  | some key =>
    if key.takesValue then r.option key attached
    else if attached.isSome then .error .surplusValue
    else r.flag key

/-- Letters behind one dash; the rest behind an option that takes a value is its value. -/
def letters (r : Reading) : List Char → Except Halt Reading
  | [] => .ok r
  | c :: cs =>
    match Key.ofLetter? c with
    | none => .error .unknownArgument
    | some key =>
      if key.takesValue then
        r.option key <| match cs with
          | [] => none
          | '=' :: value => some (String.ofList value)
          | value => some (String.ofList value)
      else do
        let r ← r.flag key
        r.letters cs

def word (r : Reading) (value : String) : Except Halt Reading :=
  match r.pending with
  | some (key, values) =>
    if values = [] ∨ key = .states then .ok ⟨r.given, some (key, values ++ [value])⟩
    else .error .unknownArgument
  | none => .error .unknownArgument

def argument (r : Reading) (arg : String) : Except Halt Reading :=
  match arg.toList with
  | '-' :: '-' :: cs => r.long cs
  | '-' :: c :: cs => r.letters (c :: cs)
  | _ => r.word arg

/-- All arguments; nothing may follow `--`. -/
def arguments (r : Reading) : List String → Except Halt Given
  | [] => r.settle
  | arg :: args =>
    if arg = "--" then if args = [] then r.settle else .error .unknownArgument
    else do
      let r ← r.argument arg
      r.arguments args

end Reading

def Options.ofArguments (args : List String) : Except Halt Options := do
  let given ← Reading.start.arguments args
  given.options

end DhcpLeases.Command
