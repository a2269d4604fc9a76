import DhcpLeases.Proofs.Journal.LastStatements

namespace DhcpLeases.Journal

/-- A place among the statements of a lease block, or of the block of an address in an association. -/
inductive Place where
  | lease (address : List String) (front rest : List Statement)
  | associated (header : List String)
      (hkeyword : header.head? = some "ia-na" ∨ header.head? = some "ia-ta") (before : List Statement)
      (address : List String) (front rest after : List Statement)

namespace Place

def fill (inserted : List Statement) : Place → Statement
  | lease address front rest => .block ("lease" :: address) (front ++ inserted ++ rest)
  | associated header _ before address front rest after =>
    .block header (before ++ .block ("iaaddr" :: address) (front ++ inserted ++ rest) :: after)

variable {inserted inserted' : List Statement}

theorem described_inserted (h : ∀ d, described d inserted = described d inserted') (d : Draft)
    (front rest : List Statement) :
    described d (front ++ inserted ++ rest) = described d (front ++ inserted' ++ rest) := by
  rw [described_append, described_append, described_append d (front ++ inserted'),
    described_append d front inserted', h]

/-- No block in an association, whatever it holds, has to do with the association's own time. -/
theorem associationDraft_inserted (before after : List Statement) (header : List String)
    (body body' : List Statement) :
    associationDraft (before ++ .block header body :: after) =
      associationDraft (before ++ .block header body' :: after) := by
  have htime : transactionTime? (before ++ .block header body :: after) =
      transactionTime? (before ++ .block header body' :: after) := by
    rw [transactionTime?, transactionTime?, List.findSome?_append, List.findSome?_append]
    rfl
  rw [associationDraft, htime]
  rfl

theorem records_fill_congr (place : Place) (h : ∀ d, described d inserted = described d inserted') :
    (place.fill inserted).records = (place.fill inserted').records := by
  cases place with
  | lease address front rest =>
    rw [fill, fill, leaseBlock_records, leaseBlock_records, described_inserted h]
  | associated header hkeyword before address front rest after =>
    rw [fill, fill, associationBlock_records _ hkeyword, associationBlock_records _ hkeyword,
      associationDraft_inserted before after ("iaaddr" :: address) _ (front ++ inserted' ++ rest),
      List.filterMap_append, List.filterMap_append, List.filterMap_cons, List.filterMap_cons]
    simp only [associatedRecord?, described_inserted h]

end Place

theorem described_block (header : List String) (body : List Statement) (d : Draft) :
    described d [.block header body] = described d [.line header] :=
  rfl

theorem described_block_of_not_isWrittenBy {header : List String}
    (h : ∀ t : Target, ¬ t.isWrittenBy header) (body : List Statement) (d : Draft) :
    described d [.block header body] = described d [] := by
  have hread : described d [.block header body] = d.read header := rfl
  apply Draft.ext_value
  intro t
  rw [hread, Draft.value_read, if_neg (h t)]
  rfl

def Target.opposites : Target → List String × List String
  | start => (["starts", "epoch", "0"], ["starts"])
  | stop => (["ends", "epoch", "0"], ["ends"])
  | tstp => (["tstp", "0"], ["tstp"])
  | tsfp => (["tsfp", "0"], ["tsfp"])
  | atsfp => (["atsfp", "0"], ["atsfp"])
  | cltt => (["cltt", "0"], ["cltt"])
  | hardwareAddress => (["hardware", "ethernet", "0"], ["hardware"])
  | hostname => (["client-hostname", "0"], ["client-hostname"])
  | state => (["binding", "state", "active"], ["binding", "state", "free"])
  | tag name => (["set", name, "=", "0"], ["set", name, "=", "1"])

/-- Lines that write a target, behind which a lease still has a state. -/
structure Target.WrittenIn (t : Target) (words : List String) : Prop where
  ne_nil : words ≠ []
  isWrittenBy : t.isWrittenBy words
  hasState : ∃ state : BindingState,
    Target.state.last [["binding", "state", "active"], words] = .word (some state.name)

namespace Target

theorem writtenIn_opposites (t : Target) :
    t.WrittenIn t.opposites.1 ∧ t.WrittenIn t.opposites.2 ∧
      t.said t.opposites.1 ≠ t.said t.opposites.2 := by
  cases t with
  | state =>
    exact ⟨⟨by decide, by decide, .active, by decide⟩, ⟨by decide, by decide, .free, by decide⟩,
      by decide⟩
  | tag name =>
    exact ⟨⟨List.cons_ne_nil _ _, by simp [opposites, isWrittenBy], .active, rfl⟩,
      ⟨List.cons_ne_nil _ _, by simp [opposites, isWrittenBy], .active, rfl⟩,
      by simp [opposites, said]⟩
  | _ =>
    exact ⟨⟨by decide, by decide, .active, by decide⟩, ⟨by decide, by decide, .active, by decide⟩,
      by decide⟩

theorem exists_writtenIn_ne (t : Target) (v : Value) :
    ∃ words, t.WrittenIn words ∧ t.said words ≠ v := by
  obtain ⟨hfirst, hsecond, hne⟩ := t.writtenIn_opposites
  by_cases hv : t.said t.opposites.1 = v
  · exact ⟨_, hsecond, fun h => hne (hv.trans h.symm)⟩
  · exact ⟨_, hfirst, hv⟩

theorem last_append {t : Target} {words : List String} (h : t.isWrittenBy words)
    (front : List (List String)) : t.last (front ++ [words]) = t.said words := by
  rw [last, List.filter_append, List.filter_cons_of_pos h, List.filter_nil, List.getLast?_concat]
  rfl

end Target

theorem exists_record {xs : List (List String)} {state : BindingState}
    (h : Target.state.last xs = .word (some state.name)) (address : Address) :
    ∃ r, record? ((described .empty (xs.map .line)).toRecord address) = some r := by
  have hstate : (described .empty (xs.map .line)).state = some state.name := by
    have hvalue := described_lines_value xs .state
    rw [h] at hvalue
    injection hvalue
  rw [Draft.toRecord, hstate]
  simp only [BindingState.ofName?_name]
  exact ⟨_, rfl⟩

theorem exists_lines_changed {header : List String} {t : Target} (h : t.isWrittenBy header) :
    ∃ xs : List (List String), (∀ words ∈ xs, words ≠ []) ∧
      (Statement.block ["lease", "::1"] ((xs ++ [header]).map .line)).records ≠
        (Statement.block ["lease", "::1"] (xs.map .line)).records := by
  obtain ⟨words, hwritten, hne⟩ := t.exists_writtenIn_ne (t.said header)
  obtain ⟨state, hstate⟩ := hwritten.hasState
  have haddress : headerAddress? ["lease", "::1"] = some (.v6 1) := by decide
  obtain ⟨r, hr⟩ := exists_record hstate (.v6 1)
  refine ⟨[["binding", "state", "active"], words], by simpa using hwritten.ne_nil, ?_⟩
  intro hsame
  rw [leaseLines_records haddress, leaseLines_records haddress, hr] at hsame
  have hr' := Option.mem_toList.1 (hsame ▸ Option.mem_toList.2 rfl : r ∈ Option.toList _)
  apply hne
  have hvalue := (record?_lines_eq_some_iff.1 hr).2 t
  have hvalue' := (record?_lines_eq_some_iff.1 hr').2 t
  rw [Target.last_append h] at hvalue'
  rw [← hvalue', hvalue]
  exact (Target.last_append hwritten.isWrittenBy [["binding", "state", "active"]]).symm

/-- Whether these or those statements stand at a place, journals that are otherwise the same have the same
records. -/
def SameRecords (inserted inserted' : List Statement) : Prop :=
  ∀ (place : Place) (before after : List Statement) (p q : List Char),
    statements (tokens p) = before ++ place.fill inserted :: after →
      statements (tokens q) = before ++ place.fill inserted' :: after → records p = records q

theorem sameRecords_of_described {inserted inserted' : List Statement}
    (h : ∀ d, described d inserted = described d inserted') : SameRecords inserted inserted' := by
  intro place before after p q hp hq
  rw [records_of_statements hp, records_of_statements hq, place.records_fill_congr h]

theorem not_sameRecords_of_isWrittenBy {header : List String} {t : Target} (h : t.isWrittenBy header) :
    ¬ SameRecords [] [.block header []] := by
  obtain ⟨xs, hwords, hne⟩ := exists_lines_changed h
  let place := Place.lease ["::1"] (xs.map .line) []
  have hempty : place.fill [] = .block ["lease", "::1"] (xs.map .line) := by
    simp [place, Place.fill]
  have hline : place.fill [.line header] = .block ["lease", "::1"] ((xs ++ [header]).map .line) := by
    simp [place, Place.fill]
  have hlines : ∀ s ∈ xs.map Statement.line, s.IsProper := by simpa using hwords
  have hread {inserted : List Statement} (h : ∀ s ∈ inserted, s.IsProper) :
      Reads (writeStatements [place.fill inserted]) [place.fill inserted] := by
    have hproper : (place.fill inserted).IsProper :=
      .block (List.forall_mem_append.2 ⟨List.forall_mem_append.2 ⟨hlines, h⟩, List.forall_mem_nil _⟩)
    exact reads_writeStatements (List.forall_mem_singleton.2 hproper)
  have hnested : (Statement.block header []).IsProper := .block (List.forall_mem_nil _)
  have hp := hread (List.forall_mem_nil _)
  have hq := hread (List.forall_mem_singleton.2 hnested)
  intro hsame
  have hrecords := hsame place [] [] _ _ hp.statements_eq hq.statements_eq
  rw [hp.records, hq.records, List.flatMap_singleton, List.flatMap_singleton,
    place.records_fill_congr (described_block header []), hline, hempty] at hrecords
  exact hne hrecords.symm

/-- A block in a lease is read as the line that its header would be. So it can stand anywhere, whatever is in
it, just if its header writes no target. -/
theorem sameRecords_nestedBlock_iff (header : List String) :
    (∀ body, SameRecords [.block header body] [.line header]) ∧
      ((∀ body, SameRecords [] [.block header body]) ↔ ∀ t : Target, ¬ t.isWrittenBy header) := by
  refine ⟨fun body => sameRecords_of_described (described_block header body), ?_, ?_⟩
  · intro h t ht
    exact not_sameRecords_of_isWrittenBy ht (h [])
  · intro h body
    exact sameRecords_of_described fun d => (described_block_of_not_isWrittenBy h body d).symm

def openLease : List Char :=
  "lease 10.0.0.1\x7bbinding state active;".toList

def headedByStart : List Char :=
  "starts epoch 5\x7b\x7d".toList

theorem records_headedByStart :
    tokens headedByStart = [.word "starts", .word "epoch", .word "5", .openBrace, .closeBrace] ∧
      records (openLease ++ ['\x7d']) = [.bare (.v4 0x0A000001) .active] ∧
      records (openLease ++ (headedByStart ++ ['\x7d'])) =
        [{ LeaseRecord.bare (.v4 0x0A000001) .active with start := Time.Instant.of? 5 0 }] ∧
      records (openLease ++ (headedByStart ++ ['\x7d'])) ≠ records (openLease ++ ['\x7d']) := by
  decide +kernel

end DhcpLeases.Journal
