import DhcpLeases.Journal.Reading
import DhcpLeases.Proofs.Journal.BlockTokens
import DhcpLeases.Proofs.Journal.Building
import DhcpLeases.Proofs.Journal.Moments
import DhcpLeases.Proofs.Lease.Attributes
import Mathlib.Data.List.Basic

namespace DhcpLeases

open Text

/-- Records whose times are whole seconds, as journals say them. -/
def LeaseRecord.InSeconds (r : LeaseRecord) : Prop :=
  (∀ t ∈ r.start, t.nanos = 0) ∧ ∀ t ∈ r.stop, t.nanos = 0

instance (r : LeaseRecord) : Decidable r.InSeconds :=
  inferInstanceAs (Decidable (_ ∧ _))

namespace Journal

def Clause.InSeconds : Clause → Prop
  | starts time => ∀ t ∈ time, t.nanos = 0
  | ends time => ∀ t ∈ time, t.nanos = 0
  | _ => True

theorem joined_singleton (s : String) : joined [s] = s := by
  simp [joined]

theorem ofWords?_words {c : Clause} (hc : c.InSeconds) : Clause.ofWords? c.words = some c := by
  cases c with
  | starts time =>
    cases time with
    | none => rfl
    | some t => exact congrArg (some ∘ Clause.starts) (moment?_epoch (hc t rfl))
  | ends time =>
    cases time with
    | none => rfl
    | some t => exact congrArg (some ∘ Clause.ends) (moment?_epoch (hc t rfl))
  | tstp s => exact congrArg (some ∘ Clause.tstp) (joined_singleton s)
  | tsfp s => exact congrArg (some ∘ Clause.tsfp) (joined_singleton s)
  | atsfp s => exact congrArg (some ∘ Clause.atsfp) (joined_singleton s)
  | cltt s => exact congrArg (some ∘ Clause.cltt) (joined_singleton s)
  | binding s => rfl
  | hardware address => cases address <;> rfl
  | hostname name => cases name <;> rfl
  | tag name value => rfl

theorem foldl_unlessSilent {silent : Prop} [Decidable silent] {d : Draft} {c : Clause}
    (h : silent → d.add c = d) : (unlessSilent silent c).foldl Draft.add d = d.add c := by
  unfold unlessSilent
  split
  · next hsilent => exact (h hsilent).symm
  · rfl

theorem foldl_tag (ps : List (String × String)) (d : Draft) :
    (ps.map fun p => .tag p.1 p.2).foldl Draft.add d =
      { d with attributes := ps.foldl (fun as p => as.insert p.1 p.2) d.attributes } := by
  induction ps generalizing d with
  | nil => rfl
  | cons p ps ih =>
    rw [List.map_cons, List.foldl_cons, ih]
    rfl

def draft (r : LeaseRecord) : Draft :=
  { hardwareAddress := r.hardwareAddress, hostname := r.hostname, state := some r.state.name,
    start := r.start, stop := r.stop, attributes := r.attributes, tstp := r.tstp, tsfp := r.tsfp,
    atsfp := r.atsfp, cltt := r.cltt }

/-- A clause is left out only where it would say what the draft says anyway. -/
theorem foldl_clauses (r : LeaseRecord) : (clauses r).foldl Draft.add .empty = draft r := by
  have hattributes := Attributes.ofList_pairs r.attributes
  simp only [clauses, List.foldl_append]
  rw [foldl_unlessSilent (c := .starts r.start), foldl_unlessSilent (c := .ends r.stop),
    foldl_unlessSilent (c := .tstp r.tstp), foldl_unlessSilent (c := .tsfp r.tsfp),
    foldl_unlessSilent (c := .atsfp r.atsfp), foldl_unlessSilent (c := .cltt r.cltt),
    foldl_unlessSilent (c := .hardware r.hardwareAddress),
    foldl_unlessSilent (c := .hostname r.hostname), foldl_tag]
  · exact congrArg (fun as => { draft r with attributes := as }) hattributes
  all_goals
    intro h
    rw [h]
    rfl

theorem toRecord_draft (r : LeaseRecord) : (draft r).toRecord r.address = .ok r := by
  simp only [Draft.toRecord, draft, BindingState.ofName?_name]

def blockStatement (r : LeaseRecord) : Statement :=
  .block ["lease", r.address.text] ((clauses r).map fun c => .line c.words)

theorem words_ne_nil (c : Clause) : c.words ≠ [] := by
  have h : c.written ≠ [] := by
    cases c with
    | starts time | ends time | hardware time | hostname time =>
      cases time <;> exact List.cons_ne_nil _ _
    | _ => exact List.cons_ne_nil _ _
  exact fun hnil => h (List.map_eq_nil_iff.1 hnil)

theorem builds_blockTokens (r : LeaseRecord) : Builds (blockTokens r) [blockStatement r] := by
  have hlines := Builds.flatMap fun c (_ : c ∈ clauses r) => Builds.line (words_ne_nil c)
  rw [← List.map_eq_flatMap] at hlines
  exact hlines.block _

theorem inSeconds_of_mem {r : LeaseRecord} (hr : r.InSeconds) : ∀ c ∈ clauses r, c.InSeconds := by
  intro c hc
  cases c with
  | starts time =>
    have htime : ¬ r.start = none ∧ time = r.start := by simpa [clauses, unlessSilent] using hc
    rw [htime.2]
    exact hr.1
  | ends time =>
    have htime : ¬ r.stop = none ∧ time = r.stop := by simpa [clauses, unlessSilent] using hc
    rw [htime.2]
    exact hr.2
  | _ => trivial

theorem described_lines {cs : List Clause} (hcs : ∀ c ∈ cs, c.InSeconds) (d : Draft) :
    described d (cs.map fun c => .line c.words) = cs.foldl Draft.add d := by
  induction cs generalizing d with
  | nil => rfl
  | cons c cs ih =>
    have hread : d.read c.words = d.add c := by
      rw [Draft.read, ofWords?_words (hcs c List.mem_cons_self)]
    rw [List.foldl_cons, ← ih (fun e he => hcs e (List.mem_cons_of_mem c he)), ← hread]
    rfl

theorem outcomes_blockStatement {r : LeaseRecord} (hr : r.InSeconds) :
    outcomes (blockStatement r) = [.ok r] := by
  have haddress : headerAddress? ["lease", r.address.text] = some r.address :=
    r.address.ofText?_text
  have hrecord : leaseOutcome ["lease", r.address.text]
      ((clauses r).map fun c => .line c.words) = .ok r := by
    rw [leaseOutcome, haddress, ← toRecord_draft, ← foldl_clauses,
      ← described_lines (inSeconds_of_mem hr)]
  exact congrArg (fun outcome => [outcome]) hrecord

/-- Records come back from a journal as they were written to it, and nothing else does. -/
theorem read_write {rs : List LeaseRecord} (h : ∀ r ∈ rs, r.InSeconds) :
    read (write rs) = { records := rs, events := [] } := by
  have hbuilds : Builds (tokens (write rs)) (rs.map blockStatement) := by
    rw [tokens_write, List.map_eq_flatMap]
    exact Builds.flatMap fun r _ => builds_blockTokens r
  have houtcomes : (rs.map blockStatement).flatMap outcomes = rs.map .ok := by
    rw [List.flatMap_map, List.map_eq_flatMap]
    exact List.flatMap_congr fun r hr => outcomes_blockStatement (h r hr)
  rw [read]
  simp only [hbuilds.statements_eq, hbuilds.remarks_eq, houtcomes, List.filterMap_map]
  congr 1
  · exact List.filterMap_some
  · exact List.filterMap_eq_nil_iff.2 fun _ _ => rfl

def awkward : LeaseRecord :=
  { address := .v6 0xFFFF0A000005, hardwareAddress := some "\\101",
    hostname := some "a\"; \x7d lease \x7b # \\", state := .active, start := some .epoch, stop := none,
    attributes := .ofList [("set", ""), ("= \n", "\\0")], tstp := "", tsfp := ";", atsfp := " ",
    cltt := "\u00E9" }

theorem read_write_awkward : awkward.InSeconds ∧
    read (write [awkward, .bare (.v4 0x0A000005) .free]) =
      { records := [awkward, .bare (.v4 0x0A000005) .free], events := [] } :=
  ⟨by decide, read_write (by decide)⟩

end Journal

end DhcpLeases
