import DhcpLeases.Proofs.Journal.TornFile

namespace DhcpLeases.Journal

open Transducer (run)

def Scanner.isOutside : Scanner → Bool
  | between | bare _ => true
  | comment | quoted _ | escaped _ | octal _ _ _ => false

/-- Texts that leave nothing open: neither quotes or a comment nor words or a block. -/
structure IsComplete (text : List Char) : Prop where
  outside : (run Scanner.step .between text).1.isOutside
  words : (run Builder.step .empty (tokens text)).1.words = []
  frames : (run Builder.step .empty (tokens text)).1.frames = []

variable {a b : List Char}

theorem IsComplete.builder (h : IsComplete a) :
    (run Builder.step .empty (tokens a)).1 = .empty := by
  cases hb : (run Builder.step .empty (tokens a)).1 with
  | mk words frames =>
    have hwords := h.words
    have hframes := h.frames
    rw [hb] at hwords hframes
    cases hwords
    cases hframes
    rfl

theorem IsComplete.scanner (h : IsComplete a) : (run Scanner.step .between a).1 = .between := by
  have houtside := h.outside
  cases hs : (run Scanner.step .between a).1 with
  | between => rfl
  | bare chars =>
    -- the end of the text ends this word, and nothing then ends the statement it is in
    have htokens : tokens a = (run Scanner.step .between a).2 ++ [Scanner.bareWord chars] := by
      rw [tokens, hs]
      rfl
    have hwords := h.words
    rw [htokens, Transducer.run_append, Transducer.run_cons] at hwords
    cases hwords
  | comment | quoted _ | escaped _ | octal _ _ _ =>
    rw [hs] at houtside
    cases houtside

theorem IsComplete.tokens_append (h : IsComplete a) (b : List Char) :
    tokens (a ++ b) = tokens a ++ tokens b := by
  have hall := Transducer.output_append Scanner.step Scanner.finish .between a b
  have hfirst : tokens a = (run Scanner.step .between a).2 := by
    rw [tokens, h.scanner]
    exact List.append_nil _
  rw [h.scanner, ← hfirst] at hall
  exact hall

theorem IsComplete.statements_append (h : IsComplete a) (b : List Char) :
    statements (tokens (a ++ b)) = statements (tokens a) ++ statements (tokens b) := by
  have hfirst := Journal.statements_append (tokens a) []
  have hsecond := Journal.statements_append [] (tokens b)
  rw [List.append_nil] at hfirst
  rw [List.nil_append] at hsecond
  rw [h.tokens_append, Journal.statements_append, h.builder, hfirst, hsecond]
  simp only [Transducer.run_nil, List.filterMap_nil, List.append_nil, List.nil_append]

def record? : Except Event LeaseRecord → Option LeaseRecord
  | .ok record => some record
  | .error _ => none

def Statement.records (s : Statement) : List LeaseRecord :=
  (outcomes s).filterMap record?

theorem records_eq_flatMap (text : List Char) :
    records text = (statements (tokens text)).flatMap Statement.records := by
  have hrecords : records text = ((statements (tokens text)).flatMap outcomes).filterMap record? := rfl
  rw [hrecords, List.filterMap_flatMap]
  rfl

theorem IsComplete.records_append (h : IsComplete a) (b : List Char) :
    records (a ++ b) = records a ++ records b := by
  rw [records_eq_flatMap, h.statements_append, List.flatMap_append, ← records_eq_flatMap,
    ← records_eq_flatMap]

/-- Appending to a complete journal appends to its records, whatever is appended; and complete entries
without records, wherever they stand, change nothing of the records around them. -/
theorem records_append_and_skip (ha : IsComplete a) (b : List Char) :
    records (a ++ b) = records a ++ records b ∧
      ∀ skipped, IsComplete skipped → records skipped = [] →
        records (a ++ (skipped ++ b)) = records (a ++ b) := by
  refine ⟨ha.records_append b, ?_⟩
  intro skipped hskipped hnone
  rw [ha.records_append, ha.records_append, hskipped.records_append, hnone, List.nil_append]

def mixedJournal : List Char :=
  "#\"\x7b\nid \"\x7b\";\x7dlease ::2\x7bbinding state free;left\x7d".toList

theorem isComplete_mixedJournal : IsComplete mixedJournal :=
  ⟨by decide +kernel, by decide +kernel, by decide +kernel⟩

def namelessBlock : List Char :=
  "lease\x7bbinding state free;\x7d".toList

def tornBlock : List Char :=
  "lease ::2\x7bbinding state active;set \"".toList

theorem records_append_and_skip_torn : IsComplete mixedJournal ∧ IsComplete namelessBlock ∧
    records namelessBlock = [] ∧
    records (mixedJournal ++ (namelessBlock ++ tornBlock)) = [.bare (.v6 2) .free] := by
  have hnameless : IsComplete namelessBlock :=
    ⟨by decide +kernel, by decide +kernel, by decide +kernel⟩
  have hnone : records namelessBlock = [] := by decide +kernel
  have hfirst : records mixedJournal = [.bare (.v6 2) .free] := by decide +kernel
  have hsecond : records tornBlock = [] := by decide +kernel
  obtain ⟨happend, hskip⟩ := records_append_and_skip isComplete_mixedJournal tornBlock
  refine ⟨isComplete_mixedJournal, hnameless, hnone, ?_⟩
  rw [hskip namelessBlock hnameless hnone, happend, hfirst, hsecond]
  rfl

end DhcpLeases.Journal
