import DhcpLeases.Pool.Usage
import DhcpLeases.Proofs.Address.TextRoundTrip
import DhcpLeases.Proofs.Json.Forms
import DhcpLeases.Proofs.Lease.Attributes
import DhcpLeases.Proofs.Time.Rfc3339
import DhcpLeases.Settings

namespace DhcpLeases

open Json

theorem Address.readsBack (a : Address) : ReadsBack reader a.print a := by
  apply ReadsBack.denoted
  rw [text, String.toList_ofList, read?_chars]

theorem Time.Instant.readsBack {t : Instant} (h : t.EndsMinute) : ReadsBack reader t.print t :=
  .denoted (Rfc3339.read?_write h)

theorem BindingState.readsBack (s : BindingState) : ReadsBack reader s.print s where
  begins := (ReadsBack.string s.name).begins
  reads {layout depth gap rest} hgap hrest := by
    have hname : ofName? (String.ofList s.name.toList) = some s := by
      rw [String.ofList_toList, ofName?_name]
    have hread : nameReader (s.print layout depth ++ rest) = .ok (s, rest) :=
      (ReadsBack.denoted hname).reads_here hrest
    rw [reader, skipSpace_gap hgap]
    exact hread

theorem Attributes.readsBack (as : Attributes) : ReadsBack reader as.print as := by
  have hpairs : ReadsBack (dictionary string) as.print as.pairs :=
    .dictionary fun p _ => .string p.2
  have hread : ReadsBack reader as.print (ofList as.pairs) := hpairs.mapped
  rwa [ofList_pairs] at hread

namespace LeaseRecord

/-- A leap second at the start or the end stands behind the last second of a minute. -/
def EndsMinutes (r : LeaseRecord) : Prop :=
  (∀ t ∈ r.start, t.EndsMinute) ∧ ∀ t ∈ r.stop, t.EndsMinute

/-- The record with the times that a clock shows of it. -/
def carried (r : LeaseRecord) : LeaseRecord :=
  { r with start := r.start.map Time.Instant.carried, stop := r.stop.map Time.Instant.carried }

theorem endsMinutes_carried (r : LeaseRecord) : r.carried.EndsMinutes :=
  ⟨Option.forall_mem_map.2 fun t _ => t.endsMinute_carried,
    Option.forall_mem_map.2 fun t _ => t.endsMinute_carried⟩

theorem print_carried (r : LeaseRecord) : r.carried.print = r.print := by
  have htime (o : Option Time.Instant) :
      Printed.option Time.Instant.print (o.map Time.Instant.carried) =
        Printed.option Time.Instant.print o := by
    cases o with
    | none => rfl
    | some t => exact congrArg Printed.string (Time.Rfc3339.write_carried t)
  simp only [print, carried, htime]

theorem readsBack {r : LeaseRecord} (h : r.EndsMinutes) : ReadsBack reader r.print r :=
  .mapped <| .form (by decide) <|
    .member r.address.readsBack <|
    .member (.optional fun s _ => .string s) <|
    .member (.optional fun s _ => .string s) <|
    .member r.state.readsBack <|
    .member (.optional fun t ht => Time.Instant.readsBack (h.1 t ht)) <|
    .member (.optional fun t ht => Time.Instant.readsBack (h.2 t ht)) <|
    .member r.attributes.readsBack <|
    .member (.string r.tstp) <|
    .member (.string r.tsfp) <|
    .member (.string r.atsfp) <|
    .member (.string r.cltt) .done

end LeaseRecord

theorem ListedLease.readsBack (l : ListedLease) : ReadsBack reader l.print l :=
  .mapped <| .form (by decide) <|
    .member l.address.readsBack <|
    .member (.optional fun s _ => .string s) <|
    .member l.state.readsBack <|
    .member (.string l.start) <|
    .member (.string l.stop) <|
    .member (.string l.remaining) <|
    .member (.string l.pool) <|
    .member (.optional fun s _ => .string s) <|
    .member (.string l.tstp) <|
    .member (.string l.tsfp) <|
    .member (.string l.atsfp) <|
    .member (.string l.cltt) .done

/-- The numbers of a usage have the widths in which they are kept. -/
structure PoolUsage.Fits (u : PoolUsage) : Prop where
  size_le : u.size ≤ Number.max128
  active_le : u.active ≤ Number.max64
  available_ge : -(Number.maxSigned128 + 1 : Int) ≤ u.available
  available_le : u.available ≤ Number.maxSigned128
  percentage_le : u.percentage ≤ Number.max64

theorem PoolUsage.Fits.readsBack {u : PoolUsage} (h : u.Fits) : ReadsBack reader u.print u :=
  .mapped <| .form (by decide) <|
    .member (.string u.pool) <|
    .member (.natural128 h.size_le) <|
    .member (.natural64 h.active_le) <|
    .member (.integer128 h.available_ge h.available_le) <|
    .member (.natural64 h.percentage_le) .done

theorem AddressRange.readsBack (r : AddressRange) : ReadsBack reader r.print r :=
  .mapped <| .form (by decide) <|
    .member (.string r.name) <|
    .member r.start.readsBack <|
    .member r.stop.readsBack .done

theorem Subnet.readsBack (s : Subnet) : ReadsBack reader s.print s :=
  .mapped <| .form (by decide) <|
    .member (.string s.name) <|
    .member (.array fun r _ => r.readsBack) .done

theorem SharedNetwork.readsBack (n : SharedNetwork) : ReadsBack reader n.print n :=
  .mapped <| .form (by decide) <|
    .member (.string n.name) <|
    .member (.array fun s _ => s.readsBack) .done

theorem Settings.readsBack (s : Settings) : ReadsBack reader s.print s :=
  .mapped <| .form (by decide) <|
    .member (.string s.leasesFile) <|
    .member (.string s.poolKey) <|
    .member (.string s.serviceName) <|
    .member (.array fun n _ => n.readsBack) .done

namespace Json

/-- Each of the values reads back from both of its texts, and all of them from both texts of their array. -/
structure RoundTrip {α : Type} (print : α → Printed) (read : Reader α) (as : List α) : Prop where
  compact : ∀ a ∈ as, readText read (print a).compactText.toList = .ok a
  indented : ∀ a ∈ as, readText read (print a).indentedText.toList = .ok a
  compactArray : readText (list read) (Printed.array (as.map print)).compactText.toList = .ok as
  indentedArray : readText (list read) (Printed.array (as.map print)).indentedText.toList = .ok as

variable {α : Type} {read : Reader α} {print : α → Printed} {as : List α}

theorem endsValue_nil : EndsValue [] :=
  fun _ hc => nomatch hc

theorem ReadsBack.compactText {p : Printed} {a : α} (h : ReadsBack read p a) :
    Json.readText read p.compactText.toList = .ok a := by
  rw [Printed.compactText, String.toList_ofList, ← h.readText .compact endsValue_nil rfl,
    List.append_nil]

theorem ReadsBack.indentedText {p : Printed} {a : α} (h : ReadsBack read p a) :
    Json.readText read p.indentedText.toList = .ok a := by
  rw [Printed.indentedText, String.toList_ofList, ← h.readText .indented endsValue_nil rfl,
    List.append_nil]

theorem RoundTrip.of_readsBack (h : ∀ a ∈ as, ReadsBack read (print a) a) : RoundTrip print read as where
  compact a ha := (h a ha).compactText
  indented a ha := (h a ha).indentedText
  compactArray := (ReadsBack.array h).compactText
  indentedArray := (ReadsBack.array h).indentedText

end Json

/-- Records read back as they are just if no leap second of theirs stands within a minute: the records with
the times that a clock shows have the same text. -/
theorem LeaseRecord.roundTrip_iff (rs : List LeaseRecord) :
    RoundTrip print reader rs ↔ ∀ r ∈ rs, r.EndsMinutes := by
  constructor
  · intro h r hr
    have hcarried := r.endsMinutes_carried
    have hread := (readsBack hcarried).compactText
    rw [r.print_carried, h.compact r hr] at hread
    rwa [← Except.ok.inj hread] at hcarried
  · exact fun h => .of_readsBack fun r hr => readsBack (h r hr)

end DhcpLeases
