import DhcpLeases.Proofs.Journal.Scanning
import Mathlib.Data.List.Chain

namespace DhcpLeases.Journal

open Text

/-- What keeps tokens apart: white space, or a comment up to the end of its line. -/
inductive Separator where
  | blank (c : Char) (h : isBlank c)
  | comment (text : List Char) (h : '\n' ∉ text)

namespace Separator

def chars : Separator → List Char
  | blank c _ => [c]
  | comment text _ => '#' :: (text ++ ['\n'])

end Separator

def gapChars (gap : List Separator) : List Char :=
  gap.flatMap Separator.chars

inductive Lexeme where
  | word (w : Written) (h : w.IsReadable)
  | openBrace
  | closeBrace
  | semicolon

namespace Lexeme

def token : Lexeme → Token
  | word w _ => .word w.text
  | openBrace => .openBrace
  | closeBrace => .closeBrace
  | semicolon => .semicolon

def chars : Lexeme → List Char
  | word w _ => w.chars
  | openBrace => ['\x7b']
  | closeBrace => ['\x7d']
  | semicolon => [';']

def isBare : Lexeme → Bool
  | word (.bare _) _ => true
  | word (.quoted _) _ | openBrace | closeBrace | semicolon => false

end Lexeme

/-- Lexemes, each behind a gap, with a last gap behind them. -/
structure Layout where
  placed : List (List Separator × Lexeme)
  last : List Separator
  /-- Two bare words would be one without a gap. -/
  apart : placed.IsChain fun p q => p.2.isBare → q.2.isBare → q.1 ≠ []

def placedChars (placed : List (List Separator × Lexeme)) (last : List Separator) : List Char :=
  placed.flatMap (fun p => gapChars p.1 ++ p.2.chars) ++ gapChars last

namespace Layout

def tokens (l : Layout) : List Token :=
  l.placed.map fun p => p.2.token

def chars (l : Layout) : List Char :=
  placedChars l.placed l.last

end Layout

/-- No bare word goes on into this text. -/
def EndsWord (rest : List Char) : Prop :=
  ∀ c ∈ rest.head?, isPlain c = false

theorem tokens_append_of_run {front : List Char} {ts : List Token}
    (h : Transducer.run Scanner.step .between front = (.between, ts)) (rest : List Char) :
    tokens (front ++ rest) = ts ++ tokens rest := by
  have hall := Transducer.output_append Scanner.step Scanner.finish .between front rest
  rw [h] at hall
  exact hall

theorem Scanner.run_comment {text : List Char} (h : '\n' ∉ text) :
    Transducer.run Scanner.step .comment (text ++ ['\n']) = (.between, []) := by
  induction text with
  | nil => rfl
  | cons c text ih =>
    obtain ⟨hc, htext⟩ := not_or.1 (List.mem_cons.not.1 h)
    have hstep : Scanner.step .comment c = (.comment, []) := by
      rw [Scanner.step, if_neg (Ne.symm hc)]
    rw [List.cons_append, Transducer.run_cons, hstep, ih htext]
    rfl

theorem Scanner.fresh_blank {c : Char} (h : isBlank c) : Scanner.fresh c = (.between, []) := by
  have hmark {m : Char} (hm : isBlank m = false) : c ≠ m := by
    rintro rfl
    rw [h] at hm
    cases hm
  rw [fresh, if_neg (hmark (by decide)), if_neg (hmark (by decide)), if_neg (hmark (by decide)),
    if_neg (hmark (by decide)), if_neg (hmark (by decide)), if_pos h]

theorem Separator.run_chars (s : Separator) :
    Transducer.run Scanner.step .between s.chars = (.between, []) := by
  cases s with
  | blank c h =>
    have hstep : Scanner.step .between c = (.between, []) := Scanner.fresh_blank h
    rw [chars, Transducer.run_cons, hstep]
    rfl
  | comment text h =>
    have hopen : Scanner.step .between '#' = (.comment, []) := rfl
    rw [chars, Transducer.run_cons, hopen, Scanner.run_comment h]
    rfl

theorem tokens_gap (gap : List Separator) (rest : List Char) :
    tokens (gapChars gap ++ rest) = tokens rest := by
  have hrun := Transducer.run_flatMap fun s (_ : s ∈ gap) => s.run_chars
  have hnone : gap.flatMap (fun _ => ([] : List Token)) = [] := List.flatMap_eq_nil_iff.2 fun _ _ => rfl
  rw [hnone] at hrun
  exact tokens_append_of_run hrun rest

theorem tokens_bare {s : String} (h : (Written.bare s).IsReadable) {rest : List Char}
    (hrest : EndsWord rest) : tokens (s.toList ++ rest) = .word s :: tokens rest := by
  cases rest with
  | nil =>
    have hrun := Scanner.run_bare h.1 (List.all_eq_true.1 h.2)
    rw [List.append_nil, tokens, hrun]
    simp [Scanner.finish, Scanner.bareWord, tokens]
  | cons c rest =>
    have hrun := Scanner.run_written h (hrest c rfl) rest
    rw [Written.chars] at hrun
    rw [tokens, hrun]
    rfl

theorem tokens_lexeme (l : Lexeme) {rest : List Char} (hrest : l.isBare → EndsWord rest) :
    tokens (l.chars ++ rest) = l.token :: tokens rest := by
  cases l with
  | word w h =>
    cases w with
    | bare s => exact tokens_bare h (hrest rfl)
    | quoted s => exact tokens_append_of_run (Scanner.run_quoted s) rest
  | openBrace => exact @tokens_append_of_run ['\x7b'] _ rfl rest
  | closeBrace => exact @tokens_append_of_run ['\x7d'] _ rfl rest
  | semicolon => exact @tokens_append_of_run [';'] _ rfl rest

theorem EndsWord.append {front rest : List Char} (h : EndsWord front) (hfront : front ≠ []) :
    EndsWord (front ++ rest) := by
  obtain ⟨c, cs, rfl⟩ := List.exists_cons_of_ne_nil hfront
  exact h

theorem Separator.endsWord (s : Separator) : EndsWord s.chars := by
  rintro c hc
  cases s with
  | blank d h =>
    cases hc
    rw [isPlain, h]
    rfl
  | comment text h =>
    cases hc
    rfl

theorem endsWord_gap {gap : List Separator} (h : gap ≠ []) (rest : List Char) :
    EndsWord (gapChars gap ++ rest) := by
  obtain ⟨s, gap, rfl⟩ := List.exists_cons_of_ne_nil h
  have hchars : s.chars ≠ [] := by cases s <;> exact List.cons_ne_nil _ _
  rw [gapChars, List.flatMap_cons, List.append_assoc]
  exact s.endsWord.append hchars

theorem Lexeme.endsWord {l : Lexeme} (h : ¬l.isBare) (rest : List Char) :
    EndsWord (l.chars ++ rest) := by
  intro c hc
  cases l with
  | word w hw =>
    cases w with
    | bare s => exact absurd rfl h
    | quoted s => cases hc; rfl
  | openBrace | closeBrace | semicolon => cases hc; rfl

theorem endsWord_last (last : List Separator) : EndsWord (gapChars last) := by
  cases last with
  | nil => exact fun c hc => nomatch hc
  | cons s last =>
    rw [← List.append_nil (gapChars (s :: last))]
    exact endsWord_gap (List.cons_ne_nil s last) []

variable {placed : List (List Separator × Lexeme)}

theorem endsWord_placedChars {p : List Separator × Lexeme} (hp : p.2.isBare) (last : List Separator)
    (h : (p :: placed).IsChain fun p q => p.2.isBare → q.2.isBare → q.1 ≠ []) :
    EndsWord (placedChars placed last) := by
  cases placed with
  | nil => exact endsWord_last last
  | cons q placed =>
    have hq := (List.isChain_cons_cons.1 h).1 hp
    rw [placedChars, List.flatMap_cons, List.append_assoc, List.append_assoc]
    by_cases hgap : q.1 = []
    · have hbare : ¬q.2.isBare := fun hbare => hq hbare hgap
      rw [hgap]
      exact Lexeme.endsWord hbare _
    · exact endsWord_gap hgap _

theorem tokens_placedChars (last : List Separator)
    (h : placed.IsChain fun p q => p.2.isBare → q.2.isBare → q.1 ≠ []) :
    tokens (placedChars placed last) = placed.map fun p => p.2.token := by
  induction placed with
  | nil =>
    have hlast := tokens_gap last []
    rwa [List.append_nil] at hlast
  | cons p placed ih =>
    have hchars : placedChars (p :: placed) last =
        gapChars p.1 ++ (p.2.chars ++ placedChars placed last) := by
      simp [placedChars]
    rw [hchars, tokens_gap, tokens_lexeme p.2 fun hp => endsWord_placedChars hp last h, ih h.tail,
      List.map_cons]

def Token.lexeme : Token → Lexeme
  | .word text => .word (.quoted text) trivial
  | .openBrace => .openBrace
  | .closeBrace => .closeBrace
  | .semicolon => .semicolon

theorem exists_layout (ts : List Token) : ∃ l : Layout, l.tokens = ts := by
  have hbare (t : Token) : ¬t.lexeme.isBare := by cases t <;> exact Bool.false_ne_true
  have hapart : (ts.map fun t => (([] : List Separator), t.lexeme)).IsChain
      fun p q => p.2.isBare → q.2.isBare → q.1 ≠ [] := by
    rw [List.isChain_map]
    exact (List.pairwise_of_forall fun t _ ht => absurd ht (hbare t)).isChain
  have htoken (t : Token) : t.lexeme.token = t := by cases t <;> rfl
  refine ⟨⟨_, [], hapart⟩, ?_⟩
  rw [Layout.tokens, List.map_map]
  exact List.map_id'' htoken ts

/-- Tokens are read as they were written, in whatever layout, and all tokens can be written. -/
theorem tokens_layout (l : Layout) (ts : List Token) :
    tokens l.chars = l.tokens ∧ ∃ written : Layout, written.tokens = ts :=
  ⟨tokens_placedChars l.last l.apart, exists_layout ts⟩

end DhcpLeases.Journal
