import DhcpLeases.Proofs.Journal.StatementText

namespace DhcpLeases.Journal

open Transducer (run)

/-- Statements in a row, at top level or in a block. A semicolon where no words stand says nothing, and
neither do words in front of the brace that closes a block. -/
inductive SpellsBody : List Token → List Statement → Prop
  | nil : SpellsBody [] []
  | semicolon {ts : List Token} {ss : List Statement} (h : SpellsBody ts ss) :
    SpellsBody (.semicolon :: ts) ss
  | line {words : List String} {ts : List Token} {ss : List Statement} (hwords : words ≠ [])
      (h : SpellsBody ts ss) :
    SpellsBody (words.map .word ++ .semicolon :: ts) (.line words :: ss)
  | block {header left : List String} {inner ts : List Token} {body ss : List Statement}
      (hbody : SpellsBody inner body) (h : SpellsBody ts ss) :
    SpellsBody
      (header.map .word ++ .openBrace :: (inner ++ (left.map .word ++ .closeBrace :: ts)))
      (.block header body :: ss)

def ClosesAtMost (depth : Nat) (ts : List Token) : Prop :=
  ∀ n, (ts.take n).count .closeBrace ≤ (ts.take n).count .openBrace + depth

/-- An end that completes nothing: words alone, or a block that stays open. -/
inductive BreaksOff : List Token → Prop
  | words (words : List String) : BreaksOff (words.map .word)
  | block (header : List String) {ts : List Token} (h : ClosesAtMost 0 ts) :
    BreaksOff (header.map .word ++ .openBrace :: ts)

/-- All of a journal: between its statements braces may stand that close nothing, each behind any words,
and the last of its tokens may break off. -/
inductive Spells : List Token → List Statement → Prop
  | last {ts us : List Token} {ss : List Statement} (hbody : SpellsBody ts ss) (hend : BreaksOff us) :
    Spells (ts ++ us) ss
  | stray {ts us : List Token} {ss ss' : List Statement} (hbody : SpellsBody ts ss)
      (left : List String) (h : Spells us ss') :
    Spells (ts ++ (left.map .word ++ .closeBrace :: us)) (ss ++ ss')

variable {ts us : List Token} {ss ss' : List Statement} {b b' b'' : Builder} {frames : List Frame}

/-- Tokens that take the builder from one state to another, with the statements that it hands out. -/
structure Takes (ts : List Token) (b b' : Builder) (ss : List Statement) : Prop where
  state : (run Builder.step b ts).1 = b'
  handedOut : (run Builder.step b ts).2.filterMap Piece.statement? = ss

theorem Takes.append (h : Takes ts b b' ss) (h' : Takes us b' b'' ss') :
    Takes (ts ++ us) b b'' (ss ++ ss') := by
  constructor
  · rw [Transducer.run_append, h.state, h'.state]
  · rw [Transducer.run_append, List.filterMap_append, h.handedOut, h.state, h'.handedOut]

theorem Takes.cons {t : Token} (h : Takes [t] b b' ss) (h' : Takes us b' b'' ss') :
    Takes (t :: us) b b'' (ss ++ ss') :=
  h.append h'

theorem takes_words (words : List String) (frames : List Frame) :
    Takes (words.map .word) ⟨[], frames⟩ ⟨words.reverse, frames⟩ [] := by
  have hrun := Builder.run_map_word words [] frames
  rw [List.append_nil] at hrun
  exact ⟨by rw [hrun], by rw [hrun]; rfl⟩

def keep (ss : List Statement) : List Frame → List Frame
  | [] => []
  | frame :: frames => ⟨frame.header, ss.reverse ++ frame.body⟩ :: frames

def pass (ss : List Statement) : List Frame → List Statement
  | [] => ss
  | _ :: _ => []

theorem keep_cons (s : Statement) (ss : List Statement) (frames : List Frame) :
    keep ss (keep [s] frames) = keep (s :: ss) frames := by
  cases frames with
  | nil => rfl
  | cons frame frames => simp [keep]

theorem pass_cons (s : Statement) (ss : List Statement) (frames : List Frame) :
    pass [s] frames ++ pass ss (keep [s] frames) = pass (s :: ss) frames := by
  cases frames <;> rfl

theorem takes_openBrace (header : List String) (frames : List Frame) :
    Takes [.openBrace] ⟨header.reverse, frames⟩ ⟨[], ⟨header, []⟩ :: frames⟩ [] := by
  constructor
  · rw [Transducer.run_cons, Builder.step, List.reverse_reverse]
    rfl
  · rfl

theorem takes_semicolon {words : List String} (hwords : words ≠ []) (frames : List Frame) :
    Takes [.semicolon] ⟨words.reverse, frames⟩ ⟨[], keep [.line words] frames⟩
      (pass [.line words] frames) := by
  have hstep : Builder.step ⟨words.reverse, frames⟩ .semicolon =
      (⟨[], (Builder.complete (.line words) frames).1⟩, (Builder.complete (.line words) frames).2) := by
    rw [Builder.step, if_neg (by simpa using hwords)]
    simp
  constructor
  · rw [Transducer.run_cons, hstep]
    cases frames <;> rfl
  · rw [Transducer.run_cons, hstep]
    cases frames <;> rfl

theorem takes_closeBrace (header left : List String) (body : List Statement) (frames : List Frame) :
    Takes [.closeBrace] ⟨left, ⟨header, body.reverse⟩ :: frames⟩ ⟨[], keep [.block header body] frames⟩
      (pass [.block header body] frames) := by
  have hdiscarded : List.filterMap Piece.statement?
      (if left = [] then [] else [.remark (.discardedWords left.reverse)]) = [] := by
    split <;> rfl
  constructor
  · rw [Transducer.run_cons, Builder.step, Builder.close, List.reverse_reverse]
    cases frames <;> rfl
  · rw [Transducer.run_cons, Builder.step, Builder.close, List.reverse_reverse, List.filterMap_append,
      List.filterMap_append, hdiscarded]
    cases frames <;> rfl

theorem takes_stray (left : List String) : Takes [.closeBrace] ⟨left, []⟩ .empty [] := by
  constructor
  · rfl
  · by_cases hleft : left = [] <;> simp [Transducer.run_cons, Builder.step, Builder.close, hleft,
      Piece.statement?]

theorem SpellsBody.takes (h : SpellsBody ts ss) (frames : List Frame) :
    Takes ts ⟨[], frames⟩ ⟨[], keep ss frames⟩ (pass ss frames) := by
  induction h generalizing frames with
  | nil => cases frames <;> exact ⟨rfl, rfl⟩
  | semicolon _ ih => exact ⟨(ih frames).state, (ih frames).handedOut⟩
  | @line words _ ss hwords _ ih =>
    have hline := (takes_words words frames).append ((takes_semicolon hwords frames).cons (ih _))
    rw [keep_cons, List.nil_append, pass_cons] at hline
    exact hline
  | @block header left _ _ body ss _ _ ihbody ih =>
    have hbody := ihbody (⟨header, []⟩ :: frames)
    rw [keep, List.append_nil] at hbody
    have hclose := (takes_closeBrace header left.reverse body frames).cons (ih _)
    rw [keep_cons, pass_cons] at hclose
    exact (takes_words header frames).append
      ((takes_openBrace header frames).cons (hbody.append ((takes_words left _).append hclose)))

namespace ClosesAtMost

variable {depth depth' : Nat}

theorem nil (depth : Nat) : ClosesAtMost depth [] := by
  intro n
  rw [List.take_nil]
  exact Nat.zero_le _

theorem cons_iff {t : Token} (hopen : t ≠ .openBrace) (hclose : t ≠ .closeBrace) :
    ClosesAtMost depth (t :: ts) ↔ ClosesAtMost depth ts := by
  have hcount (n : Nat) {brace : Token} (hbrace : t ≠ brace) :
      ((t :: ts).take (n + 1)).count brace = (ts.take n).count brace := by
    rw [List.take_succ_cons, List.count_cons_of_ne hbrace]
  constructor
  · intro h n
    rw [← hcount n hopen, ← hcount n hclose]
    exact h (n + 1)
  · intro h n
    cases n with
    | zero => exact Nat.zero_le _
    | succ n =>
      rw [hcount n hopen, hcount n hclose]
      exact h n

theorem word_iff {w : String} : ClosesAtMost depth (.word w :: ts) ↔ ClosesAtMost depth ts :=
  cons_iff (fun h => nomatch h) (fun h => nomatch h)

theorem semicolon_iff : ClosesAtMost depth (.semicolon :: ts) ↔ ClosesAtMost depth ts :=
  cons_iff (fun h => nomatch h) (fun h => nomatch h)

theorem openBrace_iff : ClosesAtMost depth (.openBrace :: ts) ↔ ClosesAtMost (depth + 1) ts := by
  have hopen (n : Nat) : ((Token.openBrace :: ts).take (n + 1)).count .openBrace =
      (ts.take n).count .openBrace + 1 := List.count_cons_self
  have hclose (n : Nat) : ((Token.openBrace :: ts).take (n + 1)).count .closeBrace =
      (ts.take n).count .closeBrace := List.count_cons_of_ne (by decide)
  constructor
  · intro h n
    have hn := h (n + 1)
    rw [hopen, hclose] at hn
    omega
  · intro h n
    cases n with
    | zero => exact Nat.zero_le _
    | succ n =>
      have hn := h n
      rw [hopen, hclose]
      omega

theorem closeBrace_iff :
    ClosesAtMost depth (.closeBrace :: ts) ↔ ∃ d, depth = d + 1 ∧ ClosesAtMost d ts := by
  have hopen (n : Nat) : ((Token.closeBrace :: ts).take (n + 1)).count .openBrace =
      (ts.take n).count .openBrace := List.count_cons_of_ne (by decide)
  have hclose (n : Nat) : ((Token.closeBrace :: ts).take (n + 1)).count .closeBrace =
      (ts.take n).count .closeBrace + 1 := List.count_cons_self
  constructor
  · intro h
    have hzero := h 1
    rw [hopen, hclose, List.take_zero, List.count_nil, List.count_nil] at hzero
    refine ⟨depth - 1, by omega, fun n => ?_⟩
    have hn := h (n + 1)
    rw [hopen, hclose] at hn
    omega
  · rintro ⟨d, rfl, h⟩ n
    cases n with
    | zero => exact Nat.zero_le _
    | succ n =>
      have hn := h n
      rw [hopen, hclose]
      omega

theorem append (h : ClosesAtMost depth ts) (h' : ClosesAtMost depth' us) :
    ClosesAtMost (depth + depth') (ts ++ us) := by
  intro n
  have hts := h n
  have hus := h' (n - ts.length)
  rw [List.take_append, List.count_append, List.count_append]
  omega

theorem words (words : List String) (h : ClosesAtMost depth ts) :
    ClosesAtMost depth (words.map .word ++ ts) := by
  induction words with
  | nil => exact h
  | cons w words ih => exact word_iff.2 ih

end ClosesAtMost

theorem SpellsBody.closesAtMost (h : SpellsBody ts ss) : ClosesAtMost 0 ts := by
  induction h with
  | nil => exact .nil 0
  | semicolon _ ih => exact ClosesAtMost.semicolon_iff.2 ih
  | line _ _ ih => exact .words _ (ClosesAtMost.semicolon_iff.2 ih)
  | block _ _ ihbody ih =>
    have hclose := ClosesAtMost.closeBrace_iff.2 ⟨0, rfl, ih⟩
    exact .words _ (ClosesAtMost.openBrace_iff.2 (ihbody.append (.words _ hclose)))

theorem BreaksOff.closesAtMost (h : BreaksOff ts) : ClosesAtMost 0 ts := by
  cases h with
  | words words => exact List.append_nil (words.map Token.word) ▸ .words words (.nil 0)
  | block header h =>
    apply ClosesAtMost.words
    apply ClosesAtMost.openBrace_iff.2
    exact (ClosesAtMost.nil 1).append h

theorem complete_of_pos (h : 0 < frames.length) (s : Statement) :
    (Builder.complete s frames).1.length = frames.length ∧ (Builder.complete s frames).2 = [] := by
  cases frames with
  | nil => cases h
  | cons frame frames => exact ⟨rfl, rfl⟩

/-- Nothing is handed out while the outermost block stays open. -/
theorem ClosesAtMost.handedOut {depth : Nat} (h : ClosesAtMost depth ts)
    (hdepth : depth < b.frames.length) :
    (run Builder.step b ts).2.filterMap Piece.statement? = [] := by
  induction ts generalizing b depth with
  | nil => rfl
  | cons t ts ih =>
    rw [Transducer.run_cons, List.filterMap_append]
    cases t with
    | word w => exact ih (word_iff.1 h) hdepth
    | semicolon =>
      have hrest := semicolon_iff.1 h
      rw [Builder.step]
      by_cases hwords : b.words = []
      · rw [if_pos hwords]
        exact ih hrest hdepth
      · obtain ⟨hlength, hnone⟩ := complete_of_pos (Nat.zero_lt_of_lt hdepth) (.line b.words.reverse)
        rw [if_neg hwords, hnone]
        exact ih hrest (by rwa [hlength])
    | openBrace => exact ih (openBrace_iff.1 h) (Nat.succ_lt_succ hdepth)
    | closeBrace =>
      obtain ⟨d, rfl, hrest⟩ := closeBrace_iff.1 h
      rw [Builder.step]
      cases hframes : b.frames with
      | nil => rw [hframes] at hdepth; cases hdepth
      | cons frame frames =>
        rw [hframes] at hdepth
        have hopen : d < frames.length := Nat.lt_of_succ_lt_succ hdepth
        obtain ⟨hlength, hnone⟩ := complete_of_pos (Nat.zero_lt_of_lt hopen)
          (.block frame.header frame.body.reverse)
        simp only [Builder.close, hnone, List.append_nil]
        rw [ih hrest (by rwa [hlength])]
        split <;> rfl

theorem BreaksOff.handedOut (h : BreaksOff ts) :
    (run Builder.step .empty ts).2.filterMap Piece.statement? = [] := by
  cases h with
  | words words => exact (takes_words words []).handedOut
  | @block header ts h =>
    have hinside : Takes ts ⟨[], [⟨header, []⟩]⟩ _ [] := ⟨rfl, h.handedOut Nat.zero_lt_one⟩
    exact ((takes_words header []).append ((takes_openBrace header []).cons hinside)).handedOut

theorem Spells.handedOut (h : Spells ts ss) :
    (run Builder.step .empty ts).2.filterMap Piece.statement? = ss := by
  induction h with
  | @last _ us ss hbody hend =>
    have hrest : Takes us .empty _ [] := ⟨rfl, hend.handedOut⟩
    have htop := ((hbody.takes []).append hrest).handedOut
    rwa [List.append_nil] at htop
  | @stray _ us _ ss' hbody left _ ih =>
    have hrest : Takes us .empty _ ss' := ⟨rfl, ih⟩
    exact ((hbody.takes []).append
      ((takes_words left []).append ((takes_stray left.reverse).cons hrest))).handedOut

theorem Spells.statements_eq (h : Spells ts ss) : statements ts = ss := by
  have happend := statements_append ts []
  rw [List.append_nil, h.handedOut, Transducer.run_nil, List.filterMap_nil, List.append_nil] at happend
  exact happend

/-- Statements up to a brace that closes nothing among them, or up to the end. -/
inductive Splits : List Token → Prop
  | stray {ts : List Token} {ss : List Statement} (hbody : SpellsBody ts ss) (left : List String)
      (rest : List Token) : Splits (ts ++ (left.map .word ++ .closeBrace :: rest))
  | last {ts us : List Token} {ss : List Statement} (hbody : SpellsBody ts ss) (hend : BreaksOff us) :
    Splits (ts ++ us)

theorem Splits.behind {front : List Token} (h : Splits ts)
    (hfront : ∀ us ss, SpellsBody us ss → ∃ ss', SpellsBody (front ++ us) ss') :
    Splits (front ++ ts) := by
  cases h with
  | stray hbody left rest =>
    obtain ⟨ss', hbody'⟩ := hfront _ _ hbody
    rw [← List.append_assoc]
    exact .stray hbody' left rest
  | last hbody hend =>
    obtain ⟨ss', hbody'⟩ := hfront _ _ hbody
    rw [← List.append_assoc]
    exact .last hbody' hend

theorem BreaksOff.splits (h : BreaksOff ts) : Splits ts :=
  @Splits.last [] ts [] .nil h

/-- The words are those that nothing has ended yet. What follows a closed block is not what follows its
opening brace, so the induction is on a bound of the number of tokens. -/
theorem splits_behind_words {bound : Nat} (hbound : ts.length < bound) (words : List String) :
    Splits (words.map .word ++ ts) := by
  induction bound generalizing ts words with
  | zero => cases hbound
  | succ bound ih =>
    cases ts with
    | nil =>
      rw [List.append_nil]
      exact (BreaksOff.words words).splits
    | cons t ts =>
      have hts : ts.length < bound := Nat.lt_of_succ_lt_succ hbound
      cases t with
      | word w =>
        have h := ih hts (words ++ [w])
        rwa [List.map_append, List.append_assoc] at h
      | semicolon =>
        rw [List.append_cons]
        apply (ih hts []).behind
        intro us ss hus
        rw [← List.append_cons]
        by_cases hwords : words = []
        · rw [hwords]
          exact ⟨_, .semicolon hus⟩
        · exact ⟨_, .line hwords hus⟩
      | openBrace =>
        have hinside := ih hts []
        rw [List.map_nil, List.nil_append] at hinside
        cases hinside with
        | @stray inner body hbody left rest =>
          have hrest : rest.length < bound := by
            simp only [List.length_append, List.length_cons] at hts
            omega
          have hfront (us : List Token) :
              words.map .word ++ .openBrace :: (inner ++ (left.map .word ++ [.closeBrace])) ++ us =
                words.map .word ++ .openBrace :: (inner ++ (left.map .word ++ .closeBrace :: us)) := by
            simp
          rw [← hfront]
          apply (ih hrest []).behind
          intro us ss hus
          rw [hfront]
          exact ⟨_, .block hbody hus⟩
        | last hbody hend =>
          have hopen := hbody.closesAtMost.append hend.closesAtMost
          exact (BreaksOff.block words hopen).splits
      | closeBrace => exact @Splits.stray [] [] .nil words ts

theorem exists_spells {bound : Nat} (hbound : ts.length < bound) : ∃ ss, Spells ts ss := by
  induction bound generalizing ts with
  | zero => cases hbound
  | succ bound ih =>
    have h := splits_behind_words hbound []
    rw [List.map_nil, List.nil_append] at h
    cases h with
    | @stray us ss hbody left rest =>
      have hrest : rest.length < bound := by
        simp only [List.length_append, List.length_cons] at hbound
        omega
      obtain ⟨ss', h⟩ := ih hrest
      exact ⟨_, .stray hbody left h⟩
    | last hbody hend => exact ⟨_, .last hbody hend⟩

theorem SpellsBody.isProper (h : SpellsBody ts ss) : ∀ s ∈ ss, s.IsProper := by
  induction h with
  | nil => exact List.forall_mem_nil _
  | semicolon _ ih => exact ih
  | line hwords _ ih => exact List.forall_mem_cons.2 ⟨.line hwords, ih⟩
  | block _ _ ihbody ih => exact List.forall_mem_cons.2 ⟨.block ihbody, ih⟩

theorem Spells.isProper (h : Spells ts ss) : ∀ s ∈ ss, s.IsProper := by
  induction h with
  | last hbody _ => exact hbody.isProper
  | stray hbody _ _ ih => exact List.forall_mem_append.2 ⟨hbody.isProper, ih⟩

theorem spellsBody_flattenAll
    (h : ∀ s ∈ ss, ∀ ts ss', SpellsBody ts ss' → SpellsBody (s.flatten ++ ts) (s :: ss')) :
    SpellsBody (Statement.flattenAll ss) ss := by
  induction ss with
  | nil => exact .nil
  | cons s ss ih =>
    have hrest := ih fun s' hs' => h s' (List.mem_cons_of_mem s hs')
    exact h s List.mem_cons_self _ _ hrest

theorem Statement.IsProper.spellsBody {s : Statement} (hs : s.IsProper) (ts : List Token)
    (ss : List Statement) (h : SpellsBody ts ss) : SpellsBody (s.flatten ++ ts) (s :: ss) := by
  induction hs generalizing ts ss with
  | @line words hwords =>
    rw [Statement.flatten, List.append_assoc]
    exact .line hwords h
  | @block header body _ ih =>
    have hblock := @SpellsBody.block header [] _ _ _ _ (spellsBody_flattenAll ih) h
    simpa [Statement.flatten] using hblock

theorem spells_flattenAll (h : ∀ s ∈ ss, s.IsProper) : Spells (Statement.flattenAll ss) ss := by
  have hbody := spellsBody_flattenAll fun s hs => (h s hs).spellsBody
  have hspells := Spells.last hbody (.words [])
  rwa [List.map_nil, List.append_nil] at hspells

theorem SpellsBody.sublist (h : SpellsBody ts ss) : List.Sublist (Statement.flattenAll ss) ts := by
  induction h with
  | nil => exact .slnil
  | semicolon _ ih => exact ih.cons _
  | line _ _ ih =>
    rw [Statement.flattenAll, Statement.flatten, List.append_assoc]
    exact .append (.refl _) (ih.cons_cons _)
  | block _ _ ihbody ih =>
    rw [Statement.flattenAll, Statement.flatten]
    simp only [List.append_assoc]
    apply List.Sublist.append (.refl _)
    apply List.Sublist.cons_cons
    apply ihbody.append
    exact (ih.cons_cons _).trans (List.sublist_append_right _ _)

theorem Spells.sublist (h : Spells ts ss) : List.Sublist (Statement.flattenAll ss) ts := by
  induction h with
  | last hbody _ => exact hbody.sublist.trans (List.sublist_append_left _ _)
  | stray hbody left _ ih =>
    rw [Statement.flattenAll_eq_flatMap, List.flatMap_append, ← Statement.flattenAll_eq_flatMap,
      ← Statement.flattenAll_eq_flatMap]
    exact hbody.sublist.append ((ih.cons _).trans (List.sublist_append_right _ _))

/-- Tokens are read as the statements that they spell, no others, and all tokens spell some. What they hold
besides the tokens of these statements is noise: statements are spelled without any too. -/
theorem spells_iff_statements_eq (ts : List Token) (ss : List Statement) :
    (Spells ts ss ↔ statements ts = ss) ∧
      (Spells (Statement.flattenAll ss) ss ↔ ∀ s ∈ ss, s.IsProper) ∧
      (∀ s ∈ statements ts, s.IsProper) ∧
      List.Sublist (Statement.flattenAll (statements ts)) ts := by
  obtain ⟨spelled, h⟩ := exists_spells (Nat.lt_succ_self ts.length)
  have heq := h.statements_eq
  refine ⟨⟨Spells.statements_eq, ?_⟩, ⟨Spells.isProper, spells_flattenAll⟩, ?_, ?_⟩
  · rintro rfl
    rwa [heq]
  · rw [heq]
    exact h.isProper
  · rw [heq]
    exact h.sublist

end DhcpLeases.Journal
