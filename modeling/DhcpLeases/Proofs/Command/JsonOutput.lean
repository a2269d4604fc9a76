import DhcpLeases.Command.Run
import DhcpLeases.Proofs.Json.RoundTrip
import DhcpLeases.Proofs.Pool.Agreement

namespace DhcpLeases

open Json

variable {c : Catalog} {leases : List ListedLease} {pool : String}

theorem addSizes_le {rs : List CatalogRange} {total size : Nat} (htotal : total ≤ maxCapacity)
    (h : (addSizes pool total rs).value = .ok size) : size ≤ maxCapacity := by
  induction rs generalizing total with
  | nil =>
    cases h
    exact htotal
  | cons r rs ih =>
    unfold addSizes at h
    split at h
    · exact ih htotal h
    · split at h
      · cases h
      · exact ih (Nat.min_le_right _ _) h

theorem PoolUsage.fits_of {size active : Nat} (hsize : size ≤ Number.max128)
    (hactive : active ≤ Number.max64) : (PoolUsage.of pool size active).Fits where
  size_le := hsize
  active_le := hactive
  available_ge := by
    simp only [PoolUsage.of, availableOf_eq, Number.maxSigned128]
    omega
  available_le := by
    simp only [PoolUsage.of, availableOf_eq, Number.maxSigned128]
    omega
  percentage_le := by
    rw [PoolUsage.of, DhcpLeases.percentage]
    split
    · exact Nat.zero_le _
    · exact Nat.min_le_right _ _

theorem poolUsage_fits (hleases : leases.length ≤ Number.max64) {row : PoolUsage}
    (h : (poolUsage c leases pool).value = .ok row) : row.Fits := by
  cases hsize : (poolCapacity c pool).value with
  | error failure =>
    simp only [poolUsage, hsize] at h
    cases h
  | ok size =>
    rw [poolUsage_value hsize] at h
    cases h
    apply PoolUsage.fits_of
    · exact addSizes_le (Nat.zero_le _) hsize
    · exact Nat.le_trans List.countP_le_length hleases

theorem poolUsages_fits (hleases : leases.length ≤ Number.max64) {pools : List String}
    {rows : List PoolUsage} (h : (poolUsages c leases pools).value = .ok rows) :
    ∀ row ∈ rows, row.Fits := by
  induction pools generalizing rows with
  | nil =>
    cases h
    exact List.forall_mem_nil _
  | cons pool pools ih =>
    cases hrow : (poolUsage c leases pool).value with
    | error failure =>
      rw [poolUsages_cons_of_error hrow] at h
      cases h
    | ok row =>
      rw [poolUsages_cons_of_ok hrow, map_eq_ok_iff] at h
      obtain ⟨rest, hrest, rfl⟩ := h
      exact List.forall_mem_cons.2 ⟨poolUsage_fits hleases hrow, ih hrest⟩

theorem usageReport_fits (hleases : leases.length ≤ Number.max64) {asked : Option String}
    {report : Report PoolUsage} (h : (usageReport c leases asked).value = .ok report) :
    ∀ row ∈ report.rows, row.Fits := by
  cases asked with
  | none =>
    rw [usageReport, Logged.map, map_eq_ok_iff] at h
    obtain ⟨rows, hrows, rfl⟩ := h
    exact poolUsages_fits hleases hrows
  | some pool =>
    by_cases hpool : c.hasPool pool
    · rw [usageReport_known_pool hpool, map_eq_ok_iff] at h
      obtain ⟨row, hrow, rfl⟩ := h
      intro u hu
      rw [List.mem_singleton.1 hu]
      exact poolUsage_fits hleases hrow
    · rw [usageReport_unknown_pool hpool] at h
      cases h
      exact List.forall_mem_nil _

namespace Command

theorem stdout_present {α : Type} (print : α → Printed) (sheet : Sheet α) (r : Report α) :
    (present true print sheet r).stdout.toList =
      Printed.array (r.rows.map print) .indented 0 ++ ['\n'] := by
  change (String.join [(Printed.array (r.rows.map print)).indentedText ++ "\n"]).toList = _
  simp only [String.join, List.foldl_cons, List.foldl_nil, String.toList_append,
    Printed.indentedText, String.toList_ofList]
  rfl

theorem conclude_json_reads {α : Type} {read : Reader α} {print : α → Printed} {o : Options}
    (hjson : o.json = true) (s : Settings) (probe : Probe) (sheet : Sheet α) {r : Report α}
    (h : ∀ a ∈ r.rows, ReadsBack read (print a) a) :
    readText (list read) (conclude o s probe print sheet r).stdout.toList = .ok r.rows := by
  have hrows : (r.checked s.serviceName probe).value.rows = r.rows := by
    rw [Report.checked]
    split
    · rfl
    · rfl
  have hend : EndsValue ['\n'] := by
    intro c hc
    cases hc
    decide
  rw [conclude, hjson]
  change readText _ (present true print sheet (r.checked s.serviceName probe).value).stdout.toList = _
  rw [stdout_present, hrows]
  exact (ReadsBack.array h).readText .indented hend rfl

/-- The standard output of a run with `--json` reads back as the leases that the query selects or as the
usages that were counted, of no more leases than a number of 64 bits can count. -/
structure ReadsAsRows (o : Options) (query : LeaseQuery) (s : Settings) (leases : List ListedLease)
    (stdout : String) : Prop where
  listed : o.leases = true → readText (list ListedLease.reader) stdout.toList =
    .ok (query.run leases s.catalog).value.rows
  counted : o.leases = false → leases.length ≤ Number.max64 →
    ∃ report, (usageReport s.catalog leases o.pool).value = .ok report ∧
      readText (list PoolUsage.reader) stdout.toList = .ok report.rows

theorem readsAsRows {o : Options} {query : LeaseQuery} {s : Settings} {conclusion : Probe → Outcome}
    (hjson : o.json = true) (h : (findings o query s leases).value = .ok conclusion) (probe : Probe) :
    ReadsAsRows o query s leases (conclusion probe).stdout where
  listed hmode := by
    rw [findings, if_pos hmode] at h
    cases h
    exact conclude_json_reads hjson s probe _ fun l _ => l.readsBack
  counted hmode hleases := by
    rw [findings, if_neg (Bool.not_eq_true _ ▸ hmode), Logged.map, map_eq_ok_iff] at h
    obtain ⟨report, hreport, rfl⟩ := h
    have hfits := usageReport_fits hleases hreport
    exact ⟨report, hreport, conclude_json_reads hjson s probe _ fun u hu => (hfits u hu).readsBack⟩

end Command

namespace Json

/-- Whatever is printed reads back, on one line or indented, alone or in an array, and so does what a run
prints. Of records this is so if no leap second of theirs stands within a minute; the text of any other is
also that of the record with the times that a clock shows, and reads back as that one. -/
theorem printed_roundTrip :
    (∀ rs, RoundTrip LeaseRecord.print LeaseRecord.reader rs ↔ ∀ r ∈ rs, r.EndsMinutes) ∧
      (∀ r : LeaseRecord, r.carried.EndsMinutes ∧ r.carried.print = r.print) ∧
      (∀ ls, RoundTrip ListedLease.print ListedLease.reader ls) ∧
      (∀ us : List PoolUsage, (∀ u ∈ us, u.Fits) → RoundTrip PoolUsage.print PoolUsage.reader us) ∧
      (∀ ss, RoundTrip Settings.print Settings.reader ss) ∧
      ∀ (o : Command.Options) (query : LeaseQuery) (s : Settings) (leases : List ListedLease)
        (conclusion : Probe → Command.Outcome) (probe : Probe), o.json = true →
        (Command.findings o query s leases).value = .ok conclusion →
        Command.ReadsAsRows o query s leases (conclusion probe).stdout := by
  refine ⟨LeaseRecord.roundTrip_iff, fun r => ⟨r.endsMinutes_carried, r.print_carried⟩, fun ls => ?_,
    fun us hus => ?_, fun ss => ?_, ?_⟩
  · exact .of_readsBack fun l _ => l.readsBack
  · exact .of_readsBack fun u hu => (hus u hu).readsBack
  · exact .of_readsBack fun s _ => s.readsBack
  · intro o query s leases conclusion probe hjson h
    exact Command.readsAsRows hjson h probe

def outermostUsage : PoolUsage :=
  { pool := "\"LAN\\\x07\n"
    size := Number.max128
    active := Number.max64
    available := -(Number.maxSigned128 + 1)
    percentage := Number.max64 }

def jsonUsages : Command.Options :=
  { settingsFile := "c", logLevel := "warn", leases := false, statistics := true, allowed := none,
    pool := none, order := "ip", states := [], json := true }

theorem printed_roundTrip_outermostUsage :
    (∀ u ∈ [outermostUsage], u.Fits) ∧ RoundTrip PoolUsage.print PoolUsage.reader [outermostUsage] ∧
      ∃ conclusion, (Command.findings jsonUsages (.activeIn "LAN") Settings.twoNetworks
          Settings.mixedLeases).value = .ok conclusion ∧
        readText (list PoolUsage.reader) (conclusion (.answered true)).stdout.toList =
          .ok [.of "LAN" 0 2, .of "WIFI" 0 1] := by
  obtain ⟨-, -, -, husages, -, hruns⟩ := printed_roundTrip
  have hfits : ∀ u ∈ [outermostUsage], u.Fits := by
    intro u hu
    rw [List.mem_singleton.1 hu]
    exact ⟨by decide, by decide, by decide, by decide, by decide⟩
  have hreport : (usageReport Settings.twoNetworks.catalog Settings.mixedLeases none).value =
      .ok ⟨[.of "LAN" 0 2, .of "WIFI" 0 1], []⟩ := by decide
  obtain ⟨conclusion, hconclusion⟩ : ∃ conclusion, (Command.findings jsonUsages (.activeIn "LAN")
      Settings.twoNetworks Settings.mixedLeases).value = .ok conclusion := ⟨_, rfl⟩
  obtain ⟨report, hsame, hread⟩ :=
    (hruns _ _ _ _ conclusion (.answered true) rfl hconclusion).counted rfl (by decide)
  cases hreport.symm.trans hsame
  exact ⟨hfits, husages [outermostUsage] hfits, conclusion, hconclusion, hread⟩

def leapWithinMinute : Time.Instant :=
  (Time.Instant.of? 0 1500000000).get (by decide)

def leapLease : LeaseRecord :=
  { LeaseRecord.bare (.v4 1) .active with stop := some leapWithinMinute }

def secondBehind : Time.Instant :=
  (Time.Instant.of? 1 0).get (by decide)

/-- What is read back ends half a second behind the next second, and the lease itself half a second before
it. -/
theorem not_roundTrip_leapLease :
    Time.Rfc3339.write leapWithinMinute = "1970-01-01T00:00:01.500Z" ∧
      readText LeaseRecord.reader leapLease.print.compactText.toList =
        .ok { leapLease with stop := Time.Instant.of? 1 500000000 } ∧
      remaining secondBehind leapLease.stop = "" ∧
      remaining secondBehind (Time.Instant.of? 1 500000000) = "0:00:00" ∧
      ¬∀ rs : List LeaseRecord, RoundTrip LeaseRecord.print LeaseRecord.reader rs := by
  have hread : readText LeaseRecord.reader leapLease.print.compactText.toList =
      .ok { leapLease with stop := Time.Instant.of? 1 500000000 } := by decide +kernel
  refine ⟨by decide +kernel, hread, by decide +kernel, by decide +kernel, fun h => ?_⟩
  have hback := (h [leapLease]).compact leapLease List.mem_cons_self
  have hsame := Except.ok.inj (hread.symm.trans hback)
  exact absurd (congrArg LeaseRecord.stop hsame) (by decide)

end Json

end DhcpLeases
