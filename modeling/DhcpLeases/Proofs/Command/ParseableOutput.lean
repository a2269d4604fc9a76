import DhcpLeases.Proofs.Command.Failures
import DhcpLeases.Proofs.Command.JsonOutput
import DhcpLeases.Proofs.Json.Grammar

namespace DhcpLeases

/-- What there is to say besides the rows: that there is no such pool as the one asked for, and that the
server does not run. -/
def Settings.notices (s : Settings) (asked : Option String) (answer : Probe) : List Notice :=
  ((asked.filter fun pool => !s.catalog.hasPool pool).map .noSuchPool).toList ++
    if (Probe.of s.serviceName answer).running then [] else [.serviceStopped s.serviceName]

theorem LeaseQuery.run_notices (q : LeaseQuery) (leases : List ListedLease) (c : Catalog) :
    (q.run leases c).value.notices = ((q.missingPool? c).map .noSuchPool).toList := by
  rw [run]
  cases q.missingPool? c with
  | none => rfl
  | some pool => rfl

theorem LeaseQuery.pool_of_ofTexts {states : List String} {pool : Option String} {order : String}
    {q : LeaseQuery} (h : ofTexts states pool order = .ok q) : q.pool = pool := by
  rw [ofTexts] at h
  cases horder : SortKey.ofName? order with
  | none =>
    rw [horder] at h
    cases h
  | some key =>
    rw [horder] at h
    obtain ⟨filter, -, rfl⟩ := map_eq_ok_iff.1 h
    rfl

theorem usageReport_notices {c : Catalog} {leases : List ListedLease} {asked : Option String}
    {report : Report PoolUsage} (h : (usageReport c leases asked).value = .ok report) :
    report.notices = ((asked.filter fun pool => !c.hasPool pool).map .noSuchPool).toList := by
  cases asked with
  | none =>
    rw [usageReport, Logged.map, map_eq_ok_iff] at h
    obtain ⟨rows, -, rfl⟩ := h
    rfl
  | some pool =>
    by_cases hpool : c.hasPool pool
    · rw [usageReport_known_pool hpool, map_eq_ok_iff] at h
      obtain ⟨row, -, rfl⟩ := h
      simp [Report.ofRows, hpool]
    · rw [usageReport_unknown_pool hpool] at h
      cases h
      rw [Option.filter_some, if_pos (by simpa using hpool)]
      rfl

theorem Report.checked_notices {α : Type} (r : Report α) (service : String) (probe : Probe) :
    (r.checked service probe).value.notices =
      r.notices ++ if probe.running then [] else [.serviceStopped service] := by
  rw [checked]
  cases probe.running with
  | true => exact (List.append_nil _).symm
  | false => rfl

namespace Command

/-- A text that is one array with a line break behind it. -/
def IsArrayLine (text : String) : Prop :=
  ∃ cs, Json.IsArray cs ∧ text.toList = cs ++ ['\n']

theorem IsArrayLine.head? {text : String} (h : IsArrayLine text) : text.toList.head? = some '[' := by
  obtain ⟨cs, harray, htext⟩ := h
  rw [htext]
  cases harray with
  | empty => rfl
  | items => rfl

variable {o : Options} {query : LeaseQuery} {s : Settings}

theorem conclude_json {α : Type} (hjson : o.json = true) {print : α → Json.Printed}
    (hprint : ∀ a, (print a).IsWellFormed) (probe : Probe) (sheet : Sheet α) (r : Report α) :
    IsArrayLine (conclude o s probe print sheet r).stdout ∧
      (conclude o s probe print sheet r).stderr =
        linesText ((r.checked s.serviceName probe).value.notices.map Notice.text) := by
  rw [conclude, hjson]
  refine ⟨⟨_, ?_, stdout_present print sheet _⟩, rfl⟩
  apply Json.Printed.isArray_array
  intro p hp
  obtain ⟨a, -, rfl⟩ := List.mem_map.1 hp
  exact hprint a

theorem findings_json (hjson : o.json = true) (hquery : query.pool = o.pool)
    {leases : List ListedLease} {conclusion : Probe → Outcome}
    (h : (findings o query s leases).value = .ok conclusion) (answer : Probe) :
    IsArrayLine (conclusion (.of s.serviceName answer)).stdout ∧
      (conclusion (.of s.serviceName answer)).stderr =
        linesText ((s.notices o.pool answer).map Notice.text) := by
  rw [findings] at h
  by_cases hmode : o.leases = true
  · rw [if_pos hmode] at h
    cases h
    have hstreams := @conclude_json o s _ hjson _ ListedLease.isWellFormed_print
      (.of s.serviceName answer) ListedLease.sheet (query.run leases s.catalog).value
    rwa [Report.checked_notices, LeaseQuery.run_notices, LeaseQuery.missingPool?, hquery] at hstreams
  · rw [if_neg hmode, Logged.map, map_eq_ok_iff] at h
    obtain ⟨report, hreport, rfl⟩ := h
    have hstreams := @conclude_json o s _ hjson _ PoolUsage.isWellFormed_print
      (.of s.serviceName answer) PoolUsage.sheet report
    rwa [Report.checked_notices, usageReport_notices hreport] at hstreams

variable {host : Host Id}

theorem runWith_concludes (h : s.networks ≠ []) (hok : (runWith host o query s).result = .ok true) :
    ∃ leases conclusion events, (findings o query s leases).value = .ok conclusion ∧
      runWith host o query s =
        (conclusion (.of s.serviceName (host.probe s.serviceName))).behind events := by
  cases hjournal : host.contents s.leasesFile with
  | error fault =>
    rw [runWith_without_journal host h hjournal] at hok
    cases hok
  | ok bytes =>
    obtain ⟨leases, events, hrun⟩ := @runWith_with_journal s o query host h bytes hjournal
    cases hvalue : (findings o query s leases).value with
    | error failure =>
      rw [hrun, hvalue] at hok
      cases hok
    | ok conclusion =>
      rw [hvalue] at hrun
      exact ⟨leases, conclusion, events, hvalue, hrun⟩

theorem run_concludes (hallowed : o.allowed = none) (hmode : o.leases ∨ o.statistics)
    (hok : (run host o).result = .ok true) :
    ∃ query s, query.pool = o.pool ∧ Settings.ofFile (host.contents o.settingsFile) = .ok s ∧
      run host o = runWith host o query s := by
  rw [run_eq hallowed hmode] at hok ⊢
  cases hquery : LeaseQuery.ofTexts o.states o.pool o.order with
  | error failure =>
    rw [hquery] at hok
    cases hok
  | ok query =>
    rw [hquery] at hok
    cases hs : Settings.ofFile (host.contents o.settingsFile) with
    | error failure =>
      simp only [hs] at hok
      cases hok
    | ok s => exact ⟨query, s, LeaseQuery.pool_of_ofTexts hquery, rfl, rfl⟩

theorem Outcome.exitCode_eq_zero_iff (out : Outcome) : out.exitCode = 0 ↔ out.result = .ok true := by
  rw [exitCode]
  split
  · next h => exact iff_of_true rfl h
  · next h => exact iff_of_false (by decide) h

theorem program_succeeds {args : List String} (hargs : Options.ofArguments args = .ok o)
    (hexit : (program host args).exitCode = 0) :
    (run host o).result = .ok true ∧ (program host args).stdout = (run host o).stdout ∧
      (program host args).stderr =
        linesText (LogFilter.read o.logLevel).complaints ++ (run host o).stderr := by
  rw [program, hargs] at hexit ⊢
  have hok := (Outcome.exitCode_eq_zero_iff (run host o)).1 hexit
  refine ⟨hok, rfl, ?_⟩
  simp only [bind, hok]
  exact String.append_empty

/-- A run in a mode that reads leases and succeeds with `--json` writes one array to the standard output
exactly if there are shared networks; notices then go to the error stream. Without shared networks it says
so on the standard output. -/
theorem isArrayLine_stdout_iff {args : List String} (hargs : Options.ofArguments args = .ok o)
    (hjson : o.json = true) (hmode : o.leases ∨ o.statistics)
    (hexit : (program host args).exitCode = 0) :
    ∃ s, Settings.ofFile (host.contents o.settingsFile) = .ok s ∧
      (IsArrayLine (program host args).stdout ↔ s.networks ≠ []) ∧
      (s.networks ≠ [] →
        (program host args).stderr = linesText (LogFilter.read o.logLevel).complaints ++
          linesText ((s.notices o.pool (host.probe s.serviceName)).map Notice.text)) ∧
      (s.networks = [] →
        (program host args).stdout = linesText ["DHCP service is not configured."] ∧
          (program host args).stderr = linesText (LogFilter.read o.logLevel).complaints) := by
  obtain ⟨hok, hstdout, hstderr⟩ := program_succeeds hargs hexit
  obtain ⟨query, s, hquery, hs, hrun⟩ := run_concludes (allowed_eq_none hargs hmode) hmode hok
  rw [hrun] at hok hstdout hstderr
  refine ⟨s, hs, ?_⟩
  by_cases hnetworks : s.networks = []
  · rw [runWith_without_pools host hnetworks] at hstdout hstderr
    refine ⟨⟨?_, absurd hnetworks⟩, absurd hnetworks, fun _ => ⟨hstdout, ?_⟩⟩
    · intro harray
      rw [hstdout] at harray
      cases harray.head?
    · rw [hstderr]
      exact String.append_empty
  · obtain ⟨leases, conclusion, events, hvalue, hconclusion⟩ := runWith_concludes hnetworks hok
    obtain ⟨harray, hnotices⟩ := findings_json hjson hquery hvalue (host.probe s.serviceName)
    rw [hconclusion] at hstdout hstderr
    refine ⟨⟨fun _ => hnetworks, fun _ => ?_⟩, fun _ => ?_, fun h => absurd h hnetworks⟩
    · rw [hstdout]
      exact harray
    · rw [hstderr]
      exact congrArg _ hnotices

def withSettings (settings : String) : Host Id where
  contents path :=
    if path = "config.json" then .ok settings.toUTF8.toList
    else if path = "j" then .ok []
    else .error .notFound
  now := Time.Instant.epoch
  probe _ := .answered false
  offset := 0

def onePool : Host Id :=
  withSettings "[\"j\",\"k\",\"s\",[[\"LAN\"]]]"

def noPools : Host Id :=
  withSettings "\x7b\"leases_file\": \"j\", \"shared_networks\": []\x7d"

theorem isArrayLine_stdout_onePool : (program onePool ["-lj", "-p", "WAN"]).exitCode = 0 ∧
    IsArrayLine (program onePool ["-lj", "-p", "WAN"]).stdout ∧
    (program onePool ["-lj", "-p", "WAN"]).stderr =
      linesText (LogFilter.read "warn").complaints ++ linesText ["Pool WAN does not exist.",
        "WARNING: DHCP server is configured but not started. Data may be stale."] := by
  have hargs : Options.ofArguments ["-lj", "-p", "WAN"] =
      .ok ⟨"config.json", "warn", true, false, none, some "WAN", "ip", ["active"], true⟩ := rfl
  have hexit : (program onePool ["-lj", "-p", "WAN"]).exitCode = 0 := by decide +kernel
  obtain ⟨s, hs, hiff, hnotices, -⟩ := isArrayLine_stdout_iff hargs rfl (.inl rfl) hexit
  have hsettings : Settings.ofFile (onePool.contents "config.json") =
      .ok ⟨"j", "k", "s", [⟨"LAN", []⟩]⟩ := by decide +kernel
  cases hsettings.symm.trans hs
  have hpools : ([⟨"LAN", []⟩] : List SharedNetwork) ≠ [] := List.cons_ne_nil _ _
  exact ⟨hexit, hiff.2 hpools, hnotices hpools⟩

theorem not_isArrayLine_noPools :
    ¬∀ args o (host : Host Id), Options.ofArguments args = .ok o → o.json = true →
      (o.leases ∨ o.statistics) → (program host args).exitCode = 0 →
      IsArrayLine (program host args).stdout := by
  intro h
  have hexit : (program noPools ["-lj"]).exitCode = 0 := by decide +kernel
  have harray := h ["-lj"] _ noPools rfl rfl (.inl rfl) hexit
  have hhead : (program noPools ["-lj"]).stdout.toList.head? = some 'D' := by decide +kernel
  rw [harray.head?] at hhead
  cases hhead

end Command

end DhcpLeases
