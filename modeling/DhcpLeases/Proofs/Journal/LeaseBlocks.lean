import DhcpLeases.Proofs.Journal.Appending
import DhcpLeases.Proofs.Journal.Targets
import DhcpLeases.Proofs.Lease.QueryTexts
import Mathlib.Data.List.Forall2

namespace DhcpLeases

def Event.IsSkip (e : Event) : Prop :=
  e.level = .warn ∧ "Skipping ".toList <+: e.message.toList

instance (e : Event) : Decidable e.IsSkip :=
  inferInstanceAs (Decidable (_ ∧ _))

namespace Journal

open Transducer (run)

/-- A block that stands for a lease: at top level, or for an address of an association. -/
structure LeaseBlock where
  header : List String
  body : List Statement

/-- The blocks for the addresses directly in an association. -/
def addressBlock? : Statement → Option LeaseBlock
  | .line _ => none
  | .block header body => if header.head? = some "iaaddr" then some ⟨header, body⟩ else none

def Statement.leaseBlocks : Statement → List LeaseBlock
  | .line _ => []
  | .block header body =>
    if header.head? = some "lease" then [⟨header, body⟩]
    else if header.head? = some "ia-na" ∨ header.head? = some "ia-ta" then
      body.filterMap addressBlock?
    else []

def bindingState? : List String → Option String
  | [keyword, what, state] => if keyword = "binding" ∧ what = "state" then some state else none
  | _ => none

def lastState? (body : List Statement) : Option String :=
  body.reverse.findSome? fun s => bindingState? s.words

def badAddress (header : List String) : Event :=
  if header.head? = some "lease" then .badLeaseAddress header else .badAssociatedAddress header

/-- The ways in which a block for a lease can end up. -/
inductive Exit (b : LeaseBlock) : Except Event LeaseRecord → Prop
  | badAddress (haddress : headerAddress? b.header = none) :
      Exit b (.error (badAddress b.header))
  | missingState {a : Address} (haddress : headerAddress? b.header = some a)
      (hstate : lastState? b.body = none) : Exit b (.error (.missingState a))
  | unknownState {a : Address} {name : String} (haddress : headerAddress? b.header = some a)
      (hstate : lastState? b.body = some name) (hname : name ∉ BindingState.all.map BindingState.name) :
      Exit b (.error (.unknownState a name))
  | record {r : LeaseRecord} (haddress : headerAddress? b.header = some r.address)
      (hstate : lastState? b.body = some r.state.name) : Exit b (.ok r)

theorem prefix_append {word first : String} (h : word.toList <+: first.toList) (rest : String) :
    word.toList <+: (first ++ rest).toList := by
  rw [String.toList_append]
  exact h.trans (List.prefix_append _ _)

theorem prefix_of_prefix_append {word first rest : String}
    (h : word.toList <+: (first ++ rest).toList)
    (hlength : word.toList.length ≤ first.toList.length) : word.toList <+: first.toList := by
  rw [String.toList_append] at h
  exact List.prefix_of_prefix_length_le h (List.prefix_append _ _) hlength

theorem isSkip_badAddress (header : List String) : (badAddress header).IsSkip := by
  have hlease : "Skipping ".toList <+: "Skipping lease block with invalid address: ".toList := by decide
  have hother : "Skipping ".toList <+: "Skipping iaaddr with invalid address: ".toList := by decide
  rw [badAddress]
  split
  · exact ⟨rfl, prefix_append hlease _⟩
  · exact ⟨rfl, prefix_append hother _⟩

theorem isSkip_missingState (a : Address) : (Event.missingState a).IsSkip := by
  have hfirst : "Skipping ".toList <+: "Skipping lease ".toList := by decide
  exact ⟨rfl, prefix_append (prefix_append hfirst _) _⟩

theorem isSkip_unknownState (a : Address) (name : String) : (Event.unknownState a name).IsSkip := by
  have hfirst : "Skipping ".toList <+: "Skipping lease ".toList := by decide
  exact ⟨rfl, prefix_append (prefix_append (prefix_append (prefix_append hfirst _) _) _) _⟩

theorem Exit.isSkip {b : LeaseBlock} {e : Event} (h : Exit b (.error e)) : e.IsSkip := by
  cases h with
  | badAddress => exact isSkip_badAddress _
  | missingState => exact isSkip_missingState _
  | unknownState => exact isSkip_unknownState _ _

theorem not_isSkip_truncatedBlock (header : List String) : ¬(Event.truncatedBlock header).IsSkip := by
  have hfirst : ¬"Skipping ".toList <+: "Dropping truncated trailing block ".toList := by decide
  rintro ⟨-, h⟩
  exact hfirst (prefix_of_prefix_append h (by decide))

theorem not_isSkip_truncatedWords (words : List String) : ¬(Event.truncatedWords words).IsSkip := by
  have hfirst : ¬"Skipping ".toList <+: "Dropping unterminated trailing statement ".toList := by decide
  rintro ⟨-, h⟩
  exact hfirst (prefix_of_prefix_append h (by decide))

def Piece.IsQuiet : Piece → Prop
  | .statement _ => True
  | .remark e => ¬e.IsSkip

namespace Builder

theorem complete_isQuiet (s : Statement) (frames : List Frame) :
    ∀ p ∈ (complete s frames).2, p.IsQuiet := by
  cases frames with
  | nil =>
    intro p hp
    rw [List.mem_singleton.1 hp]
    trivial
  | cons frame frames => exact fun p hp => nomatch hp

theorem step_isQuiet (b : Builder) (t : Token) : ∀ p ∈ (b.step t).2, p.IsQuiet := by
  cases t with
  | word w => exact fun p hp => nomatch hp
  | semicolon =>
    by_cases hwords : b.words = []
    · rw [step, if_pos hwords]
      exact fun p hp => nomatch hp
    · rw [step, if_neg hwords]
      exact complete_isQuiet _ _
  | openBrace => exact fun p hp => nomatch hp
  | closeBrace =>
    intro p hp
    rcases List.mem_append.1 hp with hp | hp
    · split at hp
      · cases hp
      · rw [List.mem_singleton.1 hp]
        exact fun h => nomatch h.1
    · cases hframes : b.frames with
      | nil =>
        rw [hframes] at hp
        rw [List.mem_singleton.1 hp]
        exact fun h => nomatch h.1
      | cons frame frames =>
        rw [hframes] at hp
        exact complete_isQuiet _ _ p hp

theorem run_isQuiet (b : Builder) (ts : List Token) : ∀ p ∈ (run step b ts).2, p.IsQuiet :=
  Transducer.run_invariant (fun _ => True) (fun b t _ => ⟨trivial, step_isQuiet b t⟩) trivial ts

theorem finish_isQuiet (b : Builder) : ∀ p ∈ b.finish, p.IsQuiet := by
  unfold finish
  split
  · intro p hp
    rw [List.mem_singleton.1 hp]
    exact not_isSkip_truncatedBlock _
  · split
    · exact fun p hp => nomatch hp
    · intro p hp
      rw [List.mem_singleton.1 hp]
      exact not_isSkip_truncatedWords _

end Builder

theorem not_isSkip_of_mem_remarks {ts : List Token} {e : Event} (h : e ∈ remarks ts) : ¬e.IsSkip := by
  obtain ⟨p, hp, he⟩ := List.mem_filterMap.1 h
  cases p with
  | statement s => cases he
  | remark e' =>
    cases he
    rcases List.mem_append.1 hp with hp | hp
    · exact Builder.run_isQuiet _ _ _ hp
    · exact Builder.finish_isQuiet _ _ hp

theorem Draft.state_read (d : Draft) (words : List String) :
    (d.read words).state = (bindingState? words).or d.state := by
  have hvalue := d.value_read words .state
  by_cases h : Target.state.isWrittenBy words
  · obtain ⟨state, rfl⟩ := eq_append_of_dropLast_eq (of_decide_eq_true h) (by decide)
    rw [if_pos h] at hvalue
    exact Value.word.inj hvalue
  · have hnone : bindingState? words = none := by
      unfold bindingState?
      split
      · apply if_neg
        rintro ⟨rfl, rfl⟩
        exact h (by simp [Target.isWrittenBy])
      · rfl
    rw [if_neg h] at hvalue
    rw [hnone, Option.none_or]
    exact Value.word.inj hvalue

theorem lastState?_cons (s : Statement) (body : List Statement) :
    lastState? (s :: body) = (lastState? body).or (bindingState? s.words) := by
  rw [lastState?, List.reverse_cons, List.findSome?_append, List.findSome?_singleton]
  rfl

theorem described_state (d : Draft) (body : List Statement) :
    (described d body).state = (lastState? body).or d.state := by
  induction body generalizing d with
  | nil => rfl
  | cons s body ih =>
    have hcons : described d (s :: body) = described (d.read s.words) body := rfl
    rw [hcons, ih, Draft.state_read, lastState?_cons, Option.or_assoc]

def isExit : Except Event LeaseRecord → Bool
  | .ok _ => true
  | .error e => e.IsSkip

theorem Exit.isExit {b : LeaseBlock} {x : Except Event LeaseRecord} (h : Exit b x) :
    isExit x = true := by
  cases x with
  | ok r => rfl
  | error e => exact decide_eq_true h.isSkip

theorem exit_toRecord {b : LeaseBlock} {d : Draft} {a : Address}
    (haddress : headerAddress? b.header = some a) (hd : d.state = none) :
    Exit b ((described d b.body).toRecord a) := by
  have hstate : (described d b.body).state = lastState? b.body := by
    rw [described_state, hd, Option.or_none]
  rw [Draft.toRecord, hstate]
  cases hlast : lastState? b.body with
  | none => exact .missingState haddress hlast
  | some name =>
    cases hname : BindingState.ofName? name with
    | none =>
      simp only [hname]
      exact .unknownState haddress hlast ((BindingState.ofName?_eq_none_iff name).1 hname)
    | some state =>
      simp only [hname]
      apply Exit.record haddress
      rw [hlast, BindingState.name_of_ofName? hname]

theorem exit_leaseOutcome {header : List String} (h : header.head? = some "lease")
    (body : List Statement) : Exit ⟨header, body⟩ (leaseOutcome header body) := by
  rw [leaseOutcome]
  cases haddress : headerAddress? header with
  | none =>
    have hexit := Exit.badAddress (b := ⟨header, body⟩) haddress
    rwa [badAddress, if_pos h] at hexit
  | some a => exact exit_toRecord haddress rfl

theorem associationDraft_state (body : List Statement) : (associationDraft body).state = none := by
  rw [associationDraft]
  cases transactionTime? body <;> rfl

def addressOutcome? (d : Draft) : Statement → Option (Except Event LeaseRecord)
  | .line _ => none
  | .block header inner =>
    if header.head? = some "iaaddr" then
      match headerAddress? header with
      | none => some (.error (.badAssociatedAddress header))
      | some address => some ((described d inner).toRecord address)
    else none

theorem associationOutcomes_eq (body : List Statement) :
    associationOutcomes body = body.filterMap (addressOutcome? (associationDraft body)) :=
  rfl

theorem exit_addressOutcome {d : Draft} (hd : d.state = none) {header : List String}
    (h : header.head? = some "iaaddr") (inner : List Statement) :
    ∃ x, addressOutcome? d (.block header inner) = some x ∧ Exit ⟨header, inner⟩ x := by
  have houtcome : addressOutcome? d (.block header inner) =
      match headerAddress? header with
      | none => some (.error (.badAssociatedAddress header))
      | some address => some ((described d inner).toRecord address) := if_pos h
  have hlease : header.head? ≠ some "lease" := by
    rw [h]
    decide
  cases haddress : headerAddress? header with
  | none =>
    have hexit := Exit.badAddress (b := ⟨header, inner⟩) haddress
    rw [badAddress, if_neg hlease] at hexit
    rw [haddress] at houtcome
    exact ⟨_, houtcome, hexit⟩
  | some a =>
    rw [haddress] at houtcome
    exact ⟨_, houtcome, exit_toRecord haddress hd⟩

theorem exits_filterMap {d : Draft} (hd : d.state = none) (body : List Statement) :
    List.Forall₂ Exit (body.filterMap addressBlock?) (body.filterMap (addressOutcome? d)) := by
  induction body with
  | nil => exact .nil
  | cons s body ih =>
    cases s with
    | line words => exact ih
    | block header inner =>
      by_cases hkeyword : header.head? = some "iaaddr"
      · have hblock : addressBlock? (.block header inner) = some ⟨header, inner⟩ := if_pos hkeyword
        obtain ⟨x, houtcome, hexit⟩ := exit_addressOutcome hd hkeyword inner
        rw [List.filterMap_cons_some hblock, List.filterMap_cons_some houtcome]
        exact .cons hexit ih
      · have hblock : addressBlock? (.block header inner) = none := if_neg hkeyword
        have houtcome : addressOutcome? d (.block header inner) = none := if_neg hkeyword
        rwa [List.filterMap_cons_none hblock, List.filterMap_cons_none houtcome]

theorem filter_isExit {bs : List LeaseBlock} {xs : List (Except Event LeaseRecord)}
    (h : List.Forall₂ Exit bs xs) : xs.filter isExit = xs := by
  induction h with
  | nil => rfl
  | cons hexit _ ih => rw [List.filter_cons_of_pos hexit.isExit, ih]

theorem leaseBlocks_cons (keyword : String) (rest : List String) (body : List Statement) :
    (Statement.block (keyword :: rest) body).leaseBlocks =
      if keyword = "lease" then [⟨keyword :: rest, body⟩]
      else if keyword = "ia-na" ∨ keyword = "ia-ta" then body.filterMap addressBlock?
      else [] := by
  simp only [Statement.leaseBlocks, List.head?_cons, Option.some.injEq]

theorem outcomes_cons (keyword : String) (rest : List String) (body : List Statement) :
    outcomes (.block (keyword :: rest) body) =
      if keyword = "lease" then [leaseOutcome (keyword :: rest) body]
      else if keyword = "ia-na" ∨ keyword = "ia-ta" then associationOutcomes body
      else [.error (.foreignBlock keyword)] :=
  rfl

/-- A statement holds an exit for each of its blocks for leases, and otherwise a remark at most. -/
theorem exits_outcomes (s : Statement) :
    List.Forall₂ Exit s.leaseBlocks ((outcomes s).filter isExit) := by
  cases s with
  | line words => exact .nil
  | block header body =>
    cases header with
    | nil => exact .nil
    | cons keyword rest =>
      rw [leaseBlocks_cons, outcomes_cons]
      split
      · next hlease =>
        have hhead : (keyword :: rest).head? = some "lease" := congrArg some hlease
        have hexit := List.Forall₂.cons (exit_leaseOutcome hhead body) .nil
        rwa [filter_isExit hexit]
      · split
        · have hexits := exits_filterMap (associationDraft_state body) body
          rwa [associationOutcomes_eq, filter_isExit hexits]
        · exact .nil

theorem exits_flatMap (ss : List Statement) :
    List.Forall₂ Exit (ss.flatMap Statement.leaseBlocks) ((ss.flatMap outcomes).filter isExit) := by
  induction ss with
  | nil => exact .nil
  | cons s ss ih =>
    rw [List.flatMap_cons, List.flatMap_cons, List.filter_append]
    exact List.rel_append (exits_outcomes s) ih

def remark? : Except Event LeaseRecord → Option Event
  | .ok _ => none
  | .error e => some e

theorem record?_filter_isExit (xs : List (Except Event LeaseRecord)) :
    (xs.filter isExit).filterMap record? = xs.filterMap record? := by
  rw [List.filterMap_filter]
  apply List.filterMap_congr
  intro x _
  cases x with
  | ok r => rfl
  | error e => exact ite_self none

theorem remark?_filter_isExit (xs : List (Except Event LeaseRecord)) :
    (xs.filter isExit).filterMap remark? = (xs.filterMap remark?).filter (·.IsSkip) := by
  rw [List.filterMap_filter, List.filter_filterMap]
  apply List.filterMap_congr
  intro x _
  cases x with
  | ok r => rfl
  | error e => rfl

/-- Every block that stands for a lease leaves one record or one warning that it is skipped, in the order
of the journal; no other part of a journal leaves a record or such a warning. -/
theorem read_accounts_for_leaseBlocks (text : List Char) :
    ∃ exits, List.Forall₂ Exit ((statements (tokens text)).flatMap Statement.leaseBlocks) exits ∧
      (read text).records = exits.filterMap record? ∧
      (read text).events.filter (·.IsSkip) = exits.filterMap remark? := by
  refine ⟨_, exits_flatMap (statements (tokens text)), ?_, ?_⟩
  · rw [record?_filter_isExit]
    rfl
  · have hquiet : (remarks (tokens text)).filter (·.IsSkip) = [] := by
      rw [List.filter_eq_nil_iff]
      intro e he hskip
      exact not_isSkip_of_mem_remarks he (of_decide_eq_true hskip)
    have hevents : (read text).events =
        remarks (tokens text) ++ ((statements (tokens text)).flatMap outcomes).filterMap remark? := rfl
    rw [remark?_filter_isExit, hevents, List.filter_append, hquiet, List.nil_append]

/-- A record, a state that there is not, and blocks that stand for no lease: one within a foreign block, one
that is torn. -/
example :
    let text := ("lease ::1\x7bbinding state free;\x7dia-na x\x7biaaddr ::2\x7bbinding state odd;\x7d\x7d" ++
      "zone\x7blease ::3\x7bbinding state free;\x7d\x7dlease ::4\x7bbinding state free;").toList
    (read text).records = [.bare (.v6 1) .free] ∧
      (read text).events.filter (·.IsSkip) = [.unknownState (.v6 2) "odd"] := by decide +kernel

end Journal

end DhcpLeases
