import DhcpLeases.Command.Options
import DhcpLeases.Command.Sheet
import DhcpLeases.Journal.Reading
import DhcpLeases.Log.Filter
import DhcpLeases.Settings

namespace DhcpLeases.Command

open Json

/-- What the program asks of the system. -/
structure Host (m : Type → Type) where
  contents : (path : String) → m (Except FileFault (List UInt8))
  now : m Time.Instant
  probe : (service : String) → m Probe
  offset : Int

structure Outcome where
  stdout : String
  stderr : String
  events : List Event
  result : Except Failure Bool

namespace Outcome

def printed (text : String) : Outcome :=
  ⟨text, "", [], .ok true⟩

def failed (failure : Failure) : Outcome :=
  ⟨"", "", [], .error failure⟩

def exitCode (o : Outcome) : UInt8 :=
  match o.result with
  | .ok true => 0
  | _ => 1

def behind (events : List Event) (o : Outcome) : Outcome :=
  { o with events := events ++ o.events }

end Outcome

def Choice.values : Choice → List String
  | sort => SortKey.all.map SortKey.name
  | state => stateNames

def linesText (lines : List String) : String :=
  String.join (lines.map (· ++ "\n"))

/-- A report as JSON, with its notices apart, or as notices and a table. -/
def present {α : Type} (json : Bool) (print : α → Printed) (sheet : Sheet α) (r : Report α) :
    Outcome :=
  let notices := linesText (r.notices.map Notice.text)
  if json then
    ⟨linesText [(Printed.array (r.rows.map print)).indentedText], notices, [], .ok true⟩
  else
    ⟨notices ++ linesText (r.table? sheet).toList, "", [], .ok true⟩

def conclude {α : Type} (o : Options) (settings : Settings) (probe : Probe) (print : α → Printed)
    (sheet : Sheet α) (r : Report α) : Outcome :=
  let checked := r.checked settings.serviceName probe
  let outcome := present o.json print sheet checked.value
  { outcome with events := checked.events }

/-- What the options ask for, once the leases are known: either the failure or what is left to do when
the server's state is known. -/
def findings (o : Options) (query : LeaseQuery) (settings : Settings) (leases : List ListedLease) :
    Logged (Except Failure (Probe → Outcome)) :=
  if o.leases then
    (query.run leases settings.catalog).map fun r =>
      .ok fun probe => conclude o settings probe ListedLease.print ListedLease.sheet r
  else
    (usageReport settings.catalog leases o.pool).map fun usages =>
      usages.map fun r probe => conclude o settings probe PoolUsage.print PoolUsage.sheet r

def runWith {m : Type → Type} [Monad m] (host : Host m) (o : Options) (query : LeaseQuery)
    (settings : Settings) : m Outcome := do
  if !settings.hasPools then
    return .printed (linesText ["DHCP service is not configured."])
  match Journal.ofFile settings.leasesFile (← host.contents settings.leasesFile) with
  | .error failure => return .failed failure
  | .ok journal =>
    let viewpoint : Viewpoint := ⟨← host.now, host.offset, settings.poolKey⟩
    let leases := viewpoint.listAll (latest journal.records)
    let loaded : Event := .leasesLoaded leases.length settings.leasesFile viewpoint.now
    let found := findings o query settings leases
    let events := journal.events ++ loaded :: found.events
    match found.value with
    | .error failure => return (Outcome.failed failure).behind events
    | .ok conclusion =>
      let probe := Probe.of settings.serviceName (← host.probe settings.serviceName)
      return (conclusion probe).behind events

def run {m : Type → Type} [Monad m] (host : Host m) (o : Options) : m Outcome := do
  match o.allowed with
  | some choice => return .printed (linesText [" ".intercalate choice.values])
  | none =>
    if !o.leases && !o.statistics then
      return { Outcome.printed helpText with result := .ok false }
    match LeaseQuery.ofTexts o.states o.pool o.order with
    | .error failure => return .failed failure
    | .ok query =>
      match Settings.ofFile (← host.contents o.settingsFile) with
      | .error failure => return .failed failure
      | .ok settings => runWith host o query settings

structure Transcript where
  stdout : String
  stderr : String
  log : List String
  exitCode : UInt8

/-- What is said of arguments that give no options. -/
def Halt.transcript : Halt → Transcript
  | help => ⟨helpText, "", [], 0⟩
  | version => ⟨versionText, "", [], 0⟩
  | halt => ⟨"", linesText ["error: " ++ halt.reason], [], halt.exitCode⟩

/-- The whole program: what is wrong with the log filter is told first on the error stream, a failure
last. -/
def program {m : Type → Type} [Monad m] (host : Host m) (args : List String) : m Transcript := do
  match Options.ofArguments args with
  | .error halt => return halt.transcript
  | .ok o =>
    let filter := LogFilter.read o.logLevel
    let out ← run host o
    let complaint := match out.result with
      | .ok _ => ""
      | .error failure => linesText [failure.message]
    return { stdout := out.stdout
             stderr := linesText filter.complaints ++ out.stderr ++ complaint
             log := filter.lines out.events
             exitCode := out.exitCode }

end DhcpLeases.Command
