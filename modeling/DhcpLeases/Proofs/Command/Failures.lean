import DhcpLeases.Command.Run
import DhcpLeases.Proofs.Lease.QueryTexts
import DhcpLeases.Proofs.Pool.Usage

namespace DhcpLeases

namespace Settings

/-- The file cannot be read, it is no JSON in the form of settings, or the settings are unsound. -/
inductive IsLoadFailure : Failure → Prop
  | file (fault : FileFault) : IsLoadFailure (.file fault)
  | json (fault : Json.Fault) : IsLoadFailure (.json fault)
  | unsound (flaw : Flaw) : IsLoadFailure (.unsound flaw)

theorem ofText_error {cs : List Char} {failure : Failure} (h : ofText cs = .error failure) :
    IsLoadFailure failure := by
  unfold ofText at h
  split at h
  · cases h
  · cases h
    exact .json _

theorem validate_cases (s : Settings) :
    s.validate = .ok () ∨ ∃ flaw, s.validate = .error (.unsound flaw) := by
  unfold validate
  cases s.flaw? with
  | none => exact .inl rfl
  | some flaw => exact .inr ⟨flaw, rfl⟩

theorem ofFile_spec (contents : Except FileFault (List UInt8)) :
    match ofFile contents with
    | .ok s => s.IsSound
    | .error failure => IsLoadFailure failure := by
  cases contents with
  | error fault => exact .file fault
  | ok bytes =>
    simp only [ofFile]
    cases Text.Utf8.decode? bytes with
    | none => exact .file .notText
    | some cs =>
      simp only
      cases hs : ofText cs with
      | error failure => exact ofText_error hs
      | ok s =>
        rcases s.validate_cases with hvalid | ⟨flaw, hflaw⟩
        · simp only [bind, Except.bind, hvalid]
          exact (validate_eq_ok_iff s).1 hvalid
        · simp only [bind, Except.bind, hflaw]
          exact .unsound flaw

variable {contents : Except FileFault (List UInt8)}

theorem isSound_of_ofFile {s : Settings} (h : ofFile contents = .ok s) : s.IsSound := by
  have hspec := ofFile_spec contents
  rw [h] at hspec
  exact hspec

theorem isLoadFailure_of_ofFile {failure : Failure} (h : ofFile contents = .error failure) :
    IsLoadFailure failure := by
  have hspec := ofFile_spec contents
  rw [h] at hspec
  exact hspec

end Settings

namespace Command

theorem Given.allowed_eq_none {g : Given} (h : ¬g.modesClash = true)
    (hmode : g.leases ∨ g.statistics) : g.allowed = none := by
  cases hallowed : g.allowed with
  | none => rfl
  | some choice =>
    rw [modesClash, hallowed] at h
    rcases hmode with hmode | hmode
    · cases hs : g.statistics <;> simp [hmode, hs] at h
    · cases hl : g.leases <;> simp [hmode, hl] at h

theorem allowed_eq_none {args : List String} {o : Options} (h : Options.ofArguments args = .ok o)
    (hmode : o.leases ∨ o.statistics) : o.allowed = none := by
  unfold Options.ofArguments at h
  cases hg : Reading.start.arguments args with
  | error halt => rw [hg] at h; cases h
  | ok g =>
    rw [hg] at h
    have hoptions : g.options = .ok o := h
    rw [Given.options] at hoptions
    by_cases hclash : g.modesClash = true
    · rw [if_pos hclash] at hoptions
      cases hoptions
    · rw [if_neg hclash] at hoptions
      cases hoptions
      exact Given.allowed_eq_none hclash hmode

/-- The failure of a run in a mode that reads leases. What comes first is looked at first, and nothing is
read before the texts of the options are known to be right. -/
inductive Fails (o : Options) (contents : String → Except FileFault (List UInt8)) : Failure → Prop
  | sortKey (horder : o.order ∉ sortNames) : Fails o contents (.unknownSortKey o.order)
  | state {name : String} (horder : o.order ∈ sortNames)
      (hname : o.states.find? (· ∉ stateNames) = some name) :
      Fails o contents (.unknownState name)
  | settings {failure : Failure} (horder : o.order ∈ sortNames)
      (hstates : ∀ s ∈ o.states, s ∈ stateNames)
      (hsettings : Settings.ofFile (contents o.settingsFile) = .error failure) :
      Fails o contents failure
  | journal {s : Settings} {fault : FileFault} (horder : o.order ∈ sortNames)
      (hstates : ∀ s ∈ o.states, s ∈ stateNames)
      (hsettings : Settings.ofFile (contents o.settingsFile) = .ok s) (hpools : s.networks ≠ [])
      (hjournal : contents s.leasesFile = .error fault) :
      Fails o contents (.file fault)

theorem Fails.ne_badRange {o : Options} {contents : String → Except FileFault (List UInt8)}
    {failure : Failure} (h : Fails o contents failure) (start stop : Address) :
    failure ≠ .badRange start stop := by
  cases h with
  | sortKey => exact fun he => nomatch he
  | state => exact fun he => nomatch he
  | journal => exact fun he => nomatch he
  | settings _ _ hsettings =>
    rintro rfl
    cases Settings.isLoadFailure_of_ofFile hsettings

theorem exists_fails_of_unknown {o : Options}
    (h : o.order ∉ sortNames ∨ ∃ s ∈ o.states, s ∉ stateNames) :
    ∃ failure, ∀ contents, Fails o contents failure := by
  by_cases horder : o.order ∈ sortNames
  · obtain ⟨s, hs, hunknown⟩ := h.resolve_left (not_not_intro horder)
    cases hname : o.states.find? (· ∉ stateNames) with
    | some name => exact ⟨_, fun _ => .state horder hname⟩
    | none =>
      have hknown := List.find?_eq_none.1 hname s hs
      exact absurd (decide_eq_true hunknown) hknown
  · exact ⟨_, fun _ => .sortKey horder⟩

section

variable {s : Settings} {o : Options} {query : LeaseQuery}

theorem present_result {α : Type} (json : Bool) (print : α → Json.Printed) (sheet : Sheet α)
    (r : Report α) : (present json print sheet r).result = .ok true := by
  cases json <;> rfl

theorem findings_ok (hs : s.IsSound) (o : Options) (query : LeaseQuery) (leases : List ListedLease) :
    ∃ conclusion, (findings o query s leases).value = .ok conclusion ∧
      ∀ probe, (conclusion probe).result = .ok true := by
  rw [findings]
  by_cases hleases : o.leases = true
  · rw [if_pos hleases]
    exact ⟨_, rfl, fun probe => present_result _ _ _ _⟩
  · obtain ⟨report, hreport⟩ := hs.usageReport_ok leases o.pool
    rw [if_neg hleases, Logged.map, hreport]
    exact ⟨_, rfl, fun probe => present_result _ _ _ _⟩

variable (host : Host Id)

theorem runWith_without_pools (h : s.networks = []) :
    runWith host o query s = .printed (linesText ["DHCP service is not configured."]) := by
  have hpools : s.hasPools = false := by
    rw [← Bool.not_eq_true, s.hasPools_iff]
    exact not_not_intro h
  simp only [runWith, hpools]
  rfl

theorem runWith_without_journal (h : s.networks ≠ []) {fault : FileFault}
    (hjournal : host.contents s.leasesFile = .error fault) :
    runWith host o query s = .failed (.file fault) := by
  have hpools := s.hasPools_iff.2 h
  simp only [runWith, hpools, bind]
  rw [hjournal]
  rfl

theorem runWith_with_journal (h : s.networks ≠ []) {bytes : List UInt8}
    (hjournal : host.contents s.leasesFile = .ok bytes) :
    ∃ leases events, runWith host o query s =
      match (findings o query s leases).value with
      | .error failure => (Outcome.failed failure).behind events
      | .ok conclusion =>
        (conclusion (.of s.serviceName (host.probe s.serviceName))).behind events := by
  have hpools := s.hasPools_iff.2 h
  simp only [runWith, hpools, bind]
  rw [hjournal]
  simp only [Journal.ofFile]
  -- whatever leases were read
  generalize Viewpoint.listAll _ _ = leases
  refine ⟨leases, ?_⟩
  cases (findings o query s leases).value with
  | error failure => exact ⟨_, rfl⟩
  | ok conclusion => exact ⟨_, rfl⟩

theorem runWith_ok (hs : s.IsSound) (h : s.networks ≠ []) {bytes : List UInt8}
    (hjournal : host.contents s.leasesFile = .ok bytes) :
    (runWith host o query s).result = .ok true := by
  obtain ⟨leases, events, hrun⟩ := @runWith_with_journal s o query host h bytes hjournal
  obtain ⟨conclusion, hvalue, hok⟩ := findings_ok hs o query leases
  rw [hrun, hvalue]
  exact hok _

end

section

variable {o : Options} (hallowed : o.allowed = none) (hmode : o.leases ∨ o.statistics)

include hallowed hmode

theorem run_eq (host : Host Id) :
    run host o = match LeaseQuery.ofTexts o.states o.pool o.order with
      | .error failure => .failed failure
      | .ok query =>
        match Settings.ofFile (host.contents o.settingsFile) with
        | .error failure => .failed failure
        | .ok settings => runWith host o query settings := by
  have hhelp : (!o.leases && !o.statistics) = false := by
    rcases hmode with h | h <;> simp [h]
  rw [run, hallowed, hhelp]
  cases LeaseQuery.ofTexts o.states o.pool o.order with
  | error failure => rfl
  | ok query =>
    simp only [bind]
    cases Settings.ofFile (host.contents o.settingsFile) <;> rfl

theorem Fails.run_eq_failed {host : Host Id} {failure : Failure} (h : Fails o host.contents failure) :
    run host o = .failed failure := by
  rw [run_eq hallowed hmode]
  cases h with
  | sortKey horder => rw [LeaseQuery.ofTexts_of_unknown_order horder]
  | state horder hname => rw [LeaseQuery.ofTexts_of_unknown_state horder hname]
  | settings horder hstates hsettings =>
    obtain ⟨query, hquery⟩ := LeaseQuery.ofTexts_of_known horder hstates o.pool
    rw [hquery, hsettings]
  | journal horder hstates hsettings hpools hjournal =>
    obtain ⟨query, hquery⟩ := LeaseQuery.ofTexts_of_known horder hstates o.pool
    rw [hquery, hsettings]
    exact runWith_without_journal host hpools hjournal

theorem fails_or_run_ok (host : Host Id) :
    (∃ failure, Fails o host.contents failure) ∨ (run host o).result = .ok true := by
  by_cases horder : o.order ∈ sortNames
  swap
  · exact .inl ⟨_, .sortKey horder⟩
  cases hname : o.states.find? (· ∉ stateNames) with
  | some name => exact .inl ⟨_, .state horder hname⟩
  | none =>
    have hstates : ∀ s ∈ o.states, s ∈ stateNames := by simpa using hname
    rw [run_eq hallowed hmode]
    obtain ⟨query, hquery⟩ := LeaseQuery.ofTexts_of_known horder hstates o.pool
    rw [hquery]
    cases hsettings : Settings.ofFile (host.contents o.settingsFile) with
    | error failure => exact .inl ⟨failure, .settings horder hstates hsettings⟩
    | ok s =>
      by_cases hpools : s.networks = []
      · exact .inr (congrArg Outcome.result (runWith_without_pools host hpools))
      · cases hjournal : host.contents s.leasesFile with
        | error fault => exact .inl ⟨_, .journal horder hstates hsettings hpools hjournal⟩
        | ok bytes =>
          have hsound := Settings.isSound_of_ofFile hsettings
          exact .inr (runWith_ok host hsound hpools hjournal)

theorem fails_of_run_error {host : Host Id} {failure : Failure}
    (h : (run host o).result = .error failure) : Fails o host.contents failure := by
  rcases fails_or_run_ok hallowed hmode host with ⟨failure', hfails⟩ | hok
  · rw [hfails.run_eq_failed hallowed hmode] at h
    cases h
    exact hfails
  · rw [hok] at h
    cases h

end

/-- A run in a mode that reads leases fails exactly as `Fails` says, without a word on the standard output,
and never at a range: settings that are accepted have no range without a size. -/
theorem run_error_iff_fails {args : List String} {o : Options} (hargs : Options.ofArguments args = .ok o)
    (hmode : o.leases ∨ o.statistics) (host : Host Id) :
    (∀ failure, (run host o).result = .error failure ↔ Fails o host.contents failure) ∧
      (∀ failure, (run host o).result = .error failure →
        (run host o).stdout = "" ∧ ∀ start stop, failure ≠ .badRange start stop) ∧
      ((o.order ∉ sortNames ∨ ∃ s ∈ o.states, s ∉ stateNames) →
        ∀ other : Host Id, run other o = run host o) ∧
      (∀ file failure, Settings.ofFile file = .error failure → Settings.IsLoadFailure failure) ∧
      ∀ s : Settings, s.validate = .ok () → ∀ leases pool,
        ∃ report, (usageReport s.catalog leases pool).value = .ok report := by
  have hallowed := allowed_eq_none hargs hmode
  refine ⟨?_, ?_, ?_, ?_, ?_⟩
  · intro failure
    refine ⟨fails_of_run_error hallowed hmode, ?_⟩
    intro h
    rw [h.run_eq_failed hallowed hmode]
    rfl
  · intro failure hresult
    have h := fails_of_run_error hallowed hmode hresult
    refine ⟨?_, h.ne_badRange⟩
    rw [h.run_eq_failed hallowed hmode]
    rfl
  · intro hunknown other
    obtain ⟨failure, h⟩ := exists_fails_of_unknown hunknown
    rw [(h other.contents).run_eq_failed hallowed hmode, (h host.contents).run_eq_failed hallowed hmode]
  · intro file failure h
    exact Settings.isLoadFailure_of_ofFile h
  · intro s hvalid leases pool
    exact ((Settings.validate_eq_ok_iff s).1 hvalid).usageReport_ok leases pool

def withoutJournal : Host Id where
  contents path :=
    if path = "config.json" then .ok "[\"j\",\"k\",\"s\",[[\"LAN\"]]]".toUTF8.toList
    else .error .notFound
  now := Time.Instant.epoch
  probe _ := .answered true
  offset := 0

theorem run_error_withoutJournal : ∃ o, Options.ofArguments ["-lt", "all", "free"] = .ok o ∧
    o.leases ∧ (run withoutJournal o).result = .error (.file .notFound) := by
  have hargs : Options.ofArguments ["-lt", "all", "free"] = .ok _ := rfl
  refine ⟨_, hargs, rfl, ?_⟩
  obtain ⟨hiff, -⟩ := run_error_iff_fails hargs (.inl rfl) withoutJournal
  have hsettings : Settings.ofFile (withoutJournal.contents "config.json") =
      .ok ⟨"j", "k", "s", [⟨"LAN", []⟩]⟩ := by decide +kernel
  exact (hiff _).2 (.journal (by decide) (by decide) hsettings (by simp) rfl)

end Command

end DhcpLeases
