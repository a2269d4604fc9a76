import DhcpLeases.Proofs.Journal.StatementText
import Mathlib.Data.List.Basic

namespace DhcpLeases.Journal

/-- The lines in which a lease block of its own says when the association was last used. -/
def transactionLines : List Statement → List Statement
  | [] => []
  | .line (keyword :: words) :: rest =>
    if keyword = "cltt" then [.line ("starts" :: words), .line ("cltt" :: words)]
    else transactionLines rest
  | .line [] :: rest => transactionLines rest
  | .block _ _ :: rest => transactionLines rest

def asLease? (lines : List Statement) : Statement → Option Statement
  | .line _ => none
  | .block header inner =>
    if header.head? = some "iaaddr" then some (.block ("lease" :: header.tail) (lines ++ inner))
    else none

def asLeases (body : List Statement) : List Statement :=
  body.filterMap (asLease? (transactionLines body))

theorem described_append (d : Draft) (xs ys : List Statement) :
    described d (xs ++ ys) = described (described d xs) ys :=
  List.foldl_append

theorem described_transactionLines (body : List Statement) :
    described .empty (transactionLines body) = associationDraft body := by
  induction body with
  | nil => rfl
  | cons s body ih =>
    cases s with
    | block header inner => exact ih
    | line words =>
      cases words with
      | nil => exact ih
      | cons keyword words =>
        by_cases hkeyword : keyword = "cltt"
        · subst hkeyword
          rfl
        · have htime : transactionTime? (.line (keyword :: words) :: body) = transactionTime? body := by
            simp only [transactionTime?, List.findSome?_cons, if_neg hkeyword]
          rw [transactionLines, if_neg hkeyword, ih, associationDraft, associationDraft, htime]

def associatedRecord? (d : Draft) : Statement → Option LeaseRecord
  | .line _ => none
  | .block header inner =>
    if header.head? = some "iaaddr" then
      (headerAddress? header).bind fun address => record? ((described d inner).toRecord address)
    else none

theorem associationOutcomes_records (body : List Statement) :
    (associationOutcomes body).filterMap record? =
      body.filterMap (associatedRecord? (associationDraft body)) := by
  rw [associationOutcomes, List.filterMap_filterMap]
  apply List.filterMap_congr
  intro s _
  cases s with
  | line words => rfl
  | block header inner =>
    by_cases hkeyword : header.head? = some "iaaddr"
    · simp only [associatedRecord?, if_pos hkeyword]
      cases headerAddress? header <;> rfl
    · simp only [associatedRecord?, if_neg hkeyword]
      rfl

theorem headerAddress?_retitled {header : List String} {keyword : String}
    (h : header.head? = some keyword) (title : String) :
    headerAddress? (title :: header.tail) = headerAddress? header := by
  cases header with
  | nil => cases h
  | cons first rest => rfl

theorem leaseBlock_records (address : List String) (body : List Statement) :
    (Statement.block ("lease" :: address) body).records =
      ((headerAddress? ("lease" :: address)).bind fun a =>
        record? ((described .empty body).toRecord a)).toList := by
  have houtcomes : outcomes (.block ("lease" :: address) body) =
      [leaseOutcome ("lease" :: address) body] := rfl
  rw [Statement.records, houtcomes, leaseOutcome]
  cases headerAddress? ("lease" :: address) with
  | none => rfl
  | some a =>
    simp only [Option.bind_some]
    cases (described .empty body).toRecord a <;> rfl

theorem filterMap_asLease?_records (lines ss : List Statement) :
    (ss.filterMap (asLease? lines)).flatMap Statement.records =
      ss.filterMap (associatedRecord? (described .empty lines)) := by
  induction ss with
  | nil => rfl
  | cons s ss ih =>
    cases s with
    | line words => exact ih
    | block header inner =>
      by_cases hkeyword : header.head? = some "iaaddr"
      · rw [List.filterMap_cons, List.filterMap_cons, asLease?, associatedRecord?, if_pos hkeyword,
          if_pos hkeyword, List.flatMap_cons, ih, leaseBlock_records, described_append,
          headerAddress?_retitled hkeyword]
        generalize (headerAddress? header).bind _ = record
        cases record <;> rfl
      · rw [List.filterMap_cons, List.filterMap_cons, asLease?, associatedRecord?, if_neg hkeyword,
          if_neg hkeyword]
        exact ih

theorem associationBlock_records {header : List String} (body : List Statement)
    (h : header.head? = some "ia-na" ∨ header.head? = some "ia-ta") :
    (Statement.block header body).records =
      body.filterMap (associatedRecord? (associationDraft body)) := by
  have houtcomes : outcomes (.block header body) = associationOutcomes body := by
    cases header with
    | nil => rcases h with h | h <;> cases h
    | cons keyword rest =>
      rcases h with h | h
      · cases h
        rfl
      · cases h
        rfl
  rw [Statement.records, houtcomes, associationOutcomes_records]

theorem association_records {header : List String} (body : List Statement)
    (h : header.head? = some "ia-na" ∨ header.head? = some "ia-ta") :
    (Statement.block header body).records = (asLeases body).flatMap Statement.records := by
  rw [associationBlock_records body h, asLeases, filterMap_asLease?_records, described_transactionLines]

theorem transactionLines_isProper (body : List Statement) :
    ∀ s ∈ transactionLines body, s.IsProper := by
  induction body with
  | nil => exact fun s hs => nomatch hs
  | cons s body ih =>
    cases s with
    | block header inner => exact ih
    | line words =>
      cases words with
      | nil => exact ih
      | cons keyword words =>
        rw [transactionLines]
        split
        · simp only [List.forall_mem_cons]
          exact ⟨.line (List.cons_ne_nil _ _), .line (List.cons_ne_nil _ _), List.forall_mem_nil _⟩
        · exact ih

theorem asLeases_isProper {header : List String} {body : List Statement}
    (h : (Statement.block header body).IsProper) : ∀ s ∈ asLeases body, s.IsProper := by
  intro s hs
  obtain ⟨address, haddress, hlease⟩ := List.mem_filterMap.1 hs
  have hproper := Statement.isProper_block_iff.1 h address haddress
  cases hproper with
  | line => cases hlease
  | block hinner =>
    rw [asLease?] at hlease
    split at hlease
    · cases hlease
      apply Statement.IsProper.block
      intro line hline
      rcases List.mem_append.1 hline with hline | hline
      · exact transactionLines_isProper body line hline
      · exact hinner line hline
    · cases hlease

theorem Reads.records {text : List Char} {ss : List Statement} (h : Reads text ss) :
    records text = ss.flatMap Statement.records := by
  rw [records_eq_flatMap, h.statements_eq]

/-- An association in a journal can be replaced by a lease block for each of its addresses, headed by what
its header says and beginning with the association's transaction time: however these blocks are written,
the records are the same. -/
theorem records_association_as_leases {a t : List Char} {header : List String} {body : List Statement}
    (ha : IsComplete a) (ht : Reads t [.block header body])
    (hkeyword : header.head? = some "ia-na" ∨ header.head? = some "ia-ta") (b : List Char) :
    (∃ leases, Reads leases (asLeases body)) ∧
      ∀ leases, Reads leases (asLeases body) →
        records t = records leases ∧ records (a ++ (t ++ b)) = records (a ++ (leases ++ b)) := by
  constructor
  · have hmem : Statement.block header body ∈ statements (tokens t) := by
      rw [ht.statements_eq]
      exact List.mem_singleton_self _
    exact ⟨_, reads_writeStatements (asLeases_isProper (isProper_of_mem_statements hmem))⟩
  · intro leases hleases
    have hsame : records t = records leases := by
      rw [ht.records, hleases.records, List.flatMap_singleton, association_records body hkeyword]
    refine ⟨hsame, ?_⟩
    rw [ha.records_append, ha.records_append, ht.complete.records_append, hleases.complete.records_append,
      hsame]

def mixedAssociation : List Statement :=
  [.block ["iaaddr", "here"] [.line ["binding", "state", "free"]],
    .block ["iaaddr", "::1", "more"] [.line ["ends", "epoch", "9"], .line ["binding", "state", "free"]],
    .line ["iaaddr", "::2"], .block ["cltt"] [], .line ["cltt", "epoch", "5"],
    .line ["cltt", "epoch", "6"],
    .block ["iaaddr", "::3"] [.line ["starts", "never"], .line ["binding", "state", "reset"]]]

theorem records_mixedAssociation_as_leases :
    IsComplete mixedJournal ∧
      Reads (writeStatements [.block ["ia-na", "\\"] mixedAssociation])
        [.block ["ia-na", "\\"] mixedAssociation] ∧
      records (mixedJournal ++ (writeStatements [.block ["ia-na", "\\"] mixedAssociation] ++ tornBlock)) =
        records (mixedJournal ++ (writeStatements (asLeases mixedAssociation) ++ tornBlock)) := by
  have hproper : (Statement.block ["ia-na", "\\"] mixedAssociation).IsProper := by
    simp [mixedAssociation]
  have hassociation := reads_writeStatements (List.forall_mem_singleton.2 hproper)
  have hleases := reads_writeStatements (asLeases_isProper hproper)
  obtain ⟨-, hsame⟩ :=
    records_association_as_leases isComplete_mixedJournal hassociation (.inl rfl) tornBlock
  exact ⟨isComplete_mixedJournal, hassociation, (hsame _ hleases).2⟩

/-- The transaction time counts for the address in front of it too; the last address has its own start. -/
example : (asLeases mixedAssociation).flatMap Statement.records =
    [{ LeaseRecord.bare (.v6 1) .free with
        start := Time.Instant.of? 5 0, stop := Time.Instant.of? 9 0, cltt := "epoch 5" },
      { LeaseRecord.bare (.v6 3) .reset with cltt := "epoch 5" }] := by decide +kernel

end DhcpLeases.Journal
