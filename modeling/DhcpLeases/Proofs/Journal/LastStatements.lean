import DhcpLeases.Proofs.Journal.Associations
import DhcpLeases.Proofs.Journal.RoundTrip
import DhcpLeases.Proofs.Journal.Targets
import DhcpLeases.Proofs.Lease.QueryTexts

namespace DhcpLeases.Journal

theorem toRecord_eq_ok_iff {d : Draft} {address : Address} {r : LeaseRecord} :
    d.toRecord address = .ok r ↔ r.address = address ∧ draft r = d := by
  constructor
  · intro h
    rw [Draft.toRecord] at h
    split at h
    · cases h
    · next name hname =>
      split at h
      · cases h
      · next state hstate =>
        cases h
        have hd : d.state = some state.name := by rw [hname, BindingState.name_of_ofName? hstate]
        exact ⟨rfl, by rw [draft, ← hd]⟩
  · rintro ⟨rfl, rfl⟩
    exact toRecord_draft r

/-- The record of a block of lines, if there is one, says of each target what the last line says that
writes it. -/
theorem record?_lines_eq_some_iff {xs : List (List String)} {address : Address} {r : LeaseRecord} :
    record? ((described .empty (xs.map .line)).toRecord address) = some r ↔
      r.address = address ∧ ∀ t, (draft r).value t = Target.last t xs := by
  have hok : record? ((described .empty (xs.map .line)).toRecord address) = some r ↔
      (described .empty (xs.map .line)).toRecord address = .ok r := by
    cases (described .empty (xs.map .line)).toRecord address <;> simp [record?]
  rw [hok, toRecord_eq_ok_iff]
  apply and_congr_right
  intro _
  constructor
  · intro h t
    rw [h, described_lines_value]
  · intro h
    apply Draft.ext_value
    intro t
    rw [h, described_lines_value]

theorem leaseLines_records {rest : List String} {address : Address}
    (h : headerAddress? ("lease" :: rest) = some address) (xs : List (List String)) :
    (Statement.block ("lease" :: rest) (xs.map .line)).records =
      (record? ((described .empty (xs.map .line)).toRecord address)).toList := by
  rw [leaseBlock_records, h]
  rfl

/-- For each target the same statements write it, in the same order. -/
def SameWrites (xs ys : List (List String)) : Prop :=
  ∀ t : Target, xs.filter t.isWrittenBy = ys.filter t.isWrittenBy

theorem records_of_statements {text : List Char} {before after : List Statement} {s : Statement}
    (h : statements (tokens text) = before ++ s :: after) :
    records text = before.flatMap Statement.records ++ s.records ++ after.flatMap Statement.records := by
  rw [records_eq_flatMap, h, List.flatMap_append, List.flatMap_cons, List.append_assoc]

theorem exists_text_of_lines {text : List Char} {before after : List Statement} {s : Statement}
    (h : statements (tokens text) = before ++ s :: after) (header : List String)
    {ys : List (List String)} (hwords : ∀ words ∈ ys, words ≠ []) :
    ∃ q, statements (tokens q) = before ++ .block header (ys.map .line) :: after := by
  have hproper : ∀ s' ∈ before ++ s :: after, s'.IsProper := by
    rw [← h]
    exact fun s' => isProper_of_mem_statements
  obtain ⟨hbefore, hrest⟩ := List.forall_mem_append.1 hproper
  have hlines : (Statement.block header (ys.map .line)).IsProper := by
    simpa using hwords
  have hall := List.forall_mem_append.2
    ⟨hbefore, List.forall_mem_cons.2 ⟨hlines, (List.forall_mem_cons.1 hrest).2⟩⟩
  exact ⟨_, (reads_writeStatements hall).statements_eq⟩

/-- The lines of a lease block can be reordered as long as those that write the same target keep their
order, and lines that write nothing can come and go: wherever the block stands, the records stay the same.
The block's record, if its state is one, says of each target what the last line writing it says. -/
theorem records_eq_of_sameWrites {p : List Char} {before after : List Statement} {rest : List String}
    {xs ys : List (List String)} {address : Address}
    (hp : statements (tokens p) = before ++ .block ("lease" :: rest) (xs.map .line) :: after)
    (haddress : headerAddress? ("lease" :: rest) = some address) (hsame : SameWrites xs ys)
    (hwords : ∀ words ∈ ys, words ≠ []) :
    (∃ q, statements (tokens q) = before ++ .block ("lease" :: rest) (ys.map .line) :: after) ∧
      (∀ q, statements (tokens q) = before ++ .block ("lease" :: rest) (ys.map .line) :: after →
        records q = records p) ∧
      ∃ record : Option LeaseRecord,
        records p =
          before.flatMap Statement.records ++ record.toList ++ after.flatMap Statement.records ∧
        ∀ r, record = some r ↔ r.address = address ∧ ∀ t, (draft r).value t = Target.last t xs := by
  have hrecord : record? ((described .empty (ys.map .line)).toRecord address) =
      record? ((described .empty (xs.map .line)).toRecord address) := by
    apply Option.ext
    intro r
    simp only [record?_lines_eq_some_iff, Target.last, hsame _]
  refine ⟨exists_text_of_lines hp _ hwords, ?_, _, ?_, fun r => record?_lines_eq_some_iff⟩
  · intro q hq
    rw [records_of_statements hq, records_of_statements hp, leaseLines_records haddress,
      leaseLines_records haddress, hrecord]
  · rw [records_of_statements hp, leaseLines_records haddress]

def writtenLines : List (List String) :=
  [["starts", "epoch", "5"], ["next", "binding", "state", "active"], ["set", "a", "=", "1"],
    ["binding", "state", "free"], ["set", "b", "=", "2"], ["starts", "soon"], ["set", "a", "=", "3"]]

def shuffledLines : List (List String) :=
  [["set", "b", "=", "2"], ["set", "a", "=", "1"], ["set", "a", "=", "3"], ["starts", "epoch", "5"],
    ["set", "b", "2"], ["binding", "state", "free"], ["starts", "soon"]]

theorem sameWrites_shuffledLines : SameWrites writtenLines shuffledLines := by
  intro t
  cases t with
  | tag name =>
    by_cases ha : name = "a"
    · subst ha
      decide
    · by_cases hb : name = "b"
      · subst hb
        decide
      · simp [writtenLines, shuffledLines, Target.isWrittenBy, Ne.symm ha, Ne.symm hb]
  | _ => decide

theorem records_eq_of_sameWrites_shuffledLines :
    SameWrites writtenLines shuffledLines ∧ (∀ words ∈ shuffledLines, words ≠ []) ∧
      headerAddress? ["lease", "::1"] = some (.v6 1) ∧
      records (writeStatements [.line ["x"], .block ["lease", "::1"] (shuffledLines.map .line)]) =
        records (writeStatements [.line ["x"], .block ["lease", "::1"] (writtenLines.map .line)]) := by
  have hstatements (xs : List (List String)) (hxs : ∀ words ∈ xs, words ≠ []) :
      statements (tokens (writeStatements [.line ["x"], .block ["lease", "::1"] (xs.map .line)])) =
        [.line ["x"]] ++ .block ["lease", "::1"] (xs.map .line) :: [] := by
    apply (reads_writeStatements _).statements_eq
    simpa using hxs
  have hwords : ∀ words ∈ shuffledLines, words ≠ [] := by decide
  have haddress : headerAddress? ["lease", "::1"] = some (.v6 1) := by decide
  obtain ⟨-, hrecords, -⟩ := records_eq_of_sameWrites (hstatements writtenLines (by decide)) haddress
    sameWrites_shuffledLines hwords
  exact ⟨sameWrites_shuffledLines, hwords, haddress, hrecords _ (hstatements shuffledLines hwords)⟩

example : Target.start.last writtenLines = .time none ∧
    Target.state.last writtenLines = .word (some "free") ∧
    (Target.tag "a").last writtenLines = .word (some "3") := by decide

end DhcpLeases.Journal
