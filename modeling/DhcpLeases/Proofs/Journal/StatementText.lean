import DhcpLeases.Proofs.Journal.Appending
import DhcpLeases.Proofs.Journal.Building
import DhcpLeases.Proofs.Journal.Scanning

namespace DhcpLeases.Journal

open Transducer (run)

/-- Statements whose lines have words, at every depth. -/
inductive Statement.IsProper : Statement → Prop
  | line {words : List String} (h : words ≠ []) : IsProper (.line words)
  | block {header : List String} {body : List Statement} (h : ∀ s ∈ body, IsProper s) :
    IsProper (.block header body)

@[simp] theorem Statement.isProper_line_iff {words : List String} :
    (line words).IsProper ↔ words ≠ [] :=
  ⟨fun | .line h => h, .line⟩

@[simp] theorem Statement.isProper_block_iff {header : List String} {body : List Statement} :
    (block header body).IsProper ↔ ∀ s ∈ body, s.IsProper :=
  ⟨fun | .block h => h, .block⟩

mutual

def Statement.flatten : Statement → List Token
  | .line words => words.map .word ++ [.semicolon]
  | .block header body =>
    header.map .word ++ [.openBrace] ++ Statement.flattenAll body ++ [.closeBrace]

def Statement.flattenAll : List Statement → List Token
  | [] => []
  | s :: ss => s.flatten ++ Statement.flattenAll ss

end

theorem Statement.flattenAll_eq_flatMap (ss : List Statement) :
    flattenAll ss = ss.flatMap flatten := by
  induction ss with
  | nil => rfl
  | cons s ss ih => rw [flattenAll, ih, List.flatMap_cons]

theorem Builds.flatMap_flatten {ss : List Statement} (h : ∀ s ∈ ss, Builds s.flatten [s]) :
    Builds (Statement.flattenAll ss) ss := by
  have hbuilds := Builds.flatMap h
  rw [← Statement.flattenAll_eq_flatMap, List.flatMap_singleton'] at hbuilds
  exact hbuilds

theorem Statement.IsProper.builds {s : Statement} (h : s.IsProper) : Builds s.flatten [s] := by
  induction h with
  | line hwords => exact Builds.line hwords
  | block _ ih => exact (Builds.flatMap_flatten ih).block _

def Token.chars : Token → List Char
  | .word s => (Written.quoted s).chars
  | .openBrace => ['{']
  | .closeBrace => ['}']
  | .semicolon => [';']

theorem Scanner.run_chars (t : Token) : run Scanner.step .between t.chars = (.between, [t]) := by
  cases t with
  | word s => exact Scanner.run_quoted s
  | openBrace => rfl
  | closeBrace => rfl
  | semicolon => rfl

def writeStatements (ss : List Statement) : List Char :=
  (Statement.flattenAll ss).flatMap Token.chars

/-- Texts that leave nothing open and say these statements. -/
structure Reads (text : List Char) (ss : List Statement) : Prop where
  complete : IsComplete text
  statements_eq : statements (tokens text) = ss

theorem reads_writeStatements {ss : List Statement} (h : ∀ s ∈ ss, s.IsProper) :
    Reads (writeStatements ss) ss := by
  have hscan : run Scanner.step .between (writeStatements ss) = (.between, Statement.flattenAll ss) := by
    rw [writeStatements, Transducer.run_flatMap fun t _ => Scanner.run_chars t,
      List.flatMap_singleton']
  have htokens : tokens (writeStatements ss) = Statement.flattenAll ss := by
    rw [tokens, hscan]
    exact List.append_nil _
  have hbuilds := Builds.flatMap_flatten fun s hs => (h s hs).builds
  constructor
  · constructor
    · rw [hscan]
      rfl
    · rw [htokens, hbuilds.top]
      rfl
    · rw [htokens, hbuilds.top]
      rfl
  · rw [htokens, hbuilds.statements_eq]

def Piece.IsProper : Piece → Prop
  | .statement s => s.IsProper
  | .remark _ => True

def ProperFrames (frames : List Frame) : Prop :=
  ∀ frame ∈ frames, ∀ s ∈ frame.body, s.IsProper

namespace Builder

theorem complete_isProper {s : Statement} {frames : List Frame} (hs : s.IsProper)
    (h : ProperFrames frames) :
    ProperFrames (complete s frames).1 ∧ ∀ p ∈ (complete s frames).2, p.IsProper := by
  cases frames with
  | nil => exact ⟨h, by simpa [complete, Piece.IsProper] using hs⟩
  | cons frame frames =>
    constructor
    · rintro f hf
      rcases List.mem_cons.1 hf with rfl | hf
      · exact List.forall_mem_cons.2 ⟨hs, h frame List.mem_cons_self⟩
      · exact h f (List.mem_cons_of_mem _ hf)
    · exact fun p hp => nomatch hp

theorem close_isProper {frames : List Frame} (h : ProperFrames frames) :
    ProperFrames (close frames).1 ∧ ∀ p ∈ (close frames).2, p.IsProper := by
  cases frames with
  | nil => exact ⟨h, by simp [close, Piece.IsProper]⟩
  | cons frame frames =>
    apply complete_isProper
    · apply Statement.IsProper.block
      intro s hs
      exact h frame List.mem_cons_self s (List.mem_reverse.1 hs)
    · exact fun f hf => h f (List.mem_cons_of_mem _ hf)

theorem step_isProper {b : Builder} (h : ProperFrames b.frames) (t : Token) :
    ProperFrames (b.step t).1.frames ∧ ∀ p ∈ (b.step t).2, p.IsProper := by
  cases t with
  | word w => exact ⟨h, fun p hp => nomatch hp⟩
  | semicolon =>
    unfold step
    by_cases hwords : b.words = []
    · simp only [hwords, if_true]
      exact ⟨h, fun p hp => nomatch hp⟩
    · simp only [hwords, if_false]
      exact complete_isProper (.line (by simpa using hwords)) h
  | openBrace =>
    refine ⟨?_, fun p hp => nomatch hp⟩
    intro f hf
    rcases List.mem_cons.1 hf with rfl | hf
    · exact fun s hs => nomatch hs
    · exact h f hf
  | closeBrace =>
    obtain ⟨hframes, hpieces⟩ := close_isProper h
    refine ⟨hframes, ?_⟩
    intro p hp
    rcases List.mem_append.1 hp with hp | hp
    · split at hp
      · cases hp
      · rw [List.mem_singleton.1 hp]
        trivial
    · exact hpieces p hp

theorem run_isProper {b : Builder} (h : ProperFrames b.frames) (ts : List Token) :
    ∀ p ∈ (run step b ts).2, p.IsProper :=
  Transducer.run_invariant (fun b => ProperFrames b.frames) (fun _ t hb => step_isProper hb t) h ts

end Builder

theorem isProper_of_mem_statements {ts : List Token} {s : Statement} (h : s ∈ statements ts) :
    s.IsProper := by
  have hempty : ProperFrames Builder.empty.frames := fun f hf => nomatch hf
  have hproper := Builder.run_isProper hempty ts
  have happend := statements_append ts []
  rw [List.append_nil, Transducer.run_nil, List.filterMap_nil, List.append_nil] at happend
  rw [happend] at h
  obtain ⟨p, hp, hs⟩ := List.mem_filterMap.1 h
  cases p with
  | statement s' =>
    cases hs
    exact hproper _ hp
  | remark e => cases hs

end DhcpLeases.Journal
