import DhcpLeases.Journal.Clause
import DhcpLeases.Journal.Token
import DhcpLeases.Proofs.Text.Utf8

namespace DhcpLeases.Journal

open Text

/-- A word as it is written, bare or in quotes. -/
inductive Written where
  | bare (text : String)
  | quoted (text : String)
  deriving DecidableEq

namespace Written

def text : Written → String
  | bare s => s
  | quoted s => s

def escape (c : Char) : List Char :=
  if c = '"' ∨ c = '\\' then ['\\', c] else [c]

def chars : Written → List Char
  | bare s => s.toList
  | quoted s => '"' :: (s.toList.flatMap escape ++ ['"'])

end Written

def spaced (ws : List Written) : List Char :=
  [' '].intercalate (ws.map Written.chars)

namespace Clause

open Written

/-- The words that say a clause; a time is said in seconds since 1970. -/
def written : Clause → List Written
  | starts (some t) => [bare "starts", bare "epoch", bare (ofInt t.seconds)]
  | starts none => [bare "starts", bare "never"]
  | ends (some t) => [bare "ends", bare "epoch", bare (ofInt t.seconds)]
  | ends none => [bare "ends", bare "never"]
  | tstp s => [bare "tstp", quoted s]
  | tsfp s => [bare "tsfp", quoted s]
  | atsfp s => [bare "atsfp", quoted s]
  | cltt s => [bare "cltt", quoted s]
  | binding s => [bare "binding", bare "state", bare s]
  | hardware (some s) => [bare "hardware", bare "ethernet", quoted s]
  | hardware none => [bare "hardware"]
  | hostname (some s) => [bare "client-hostname", quoted s]
  | hostname none => [bare "client-hostname"]
  | tag name value => [bare "set", quoted name, bare "=", quoted value]

def line (c : Clause) : List Char :=
  [' ', ' '] ++ spaced c.written ++ [';', '\n']

end Clause

def unlessSilent (silent : Prop) [Decidable silent] (c : Clause) : List Clause :=
  if silent then [] else [c]

def clauses (r : LeaseRecord) : List Clause :=
  unlessSilent (r.start = none) (.starts r.start) ++
  unlessSilent (r.stop = none) (.ends r.stop) ++
  unlessSilent (r.tstp = "") (.tstp r.tstp) ++
  unlessSilent (r.tsfp = "") (.tsfp r.tsfp) ++
  unlessSilent (r.atsfp = "") (.atsfp r.atsfp) ++
  unlessSilent (r.cltt = "") (.cltt r.cltt) ++
  [.binding r.state.name] ++
  unlessSilent (r.hardwareAddress = none) (.hardware r.hardwareAddress) ++
  unlessSilent (r.hostname = none) (.hostname r.hostname) ++
  r.attributes.pairs.map fun p => .tag p.1 p.2

def block (r : LeaseRecord) : List Char :=
  spaced [.bare "lease", .bare r.address.text] ++ [' ', '{', '\n'] ++ (clauses r).flatMap Clause.line ++
    ['}', '\n']

def write (rs : List LeaseRecord) : List Char :=
  rs.flatMap block

def isPlain (c : Char) : Bool :=
  !(isBlank c || isMark c)

theorem isPlain_iff {c : Char} : isPlain c ↔ isBlank c = false ∧ isMark c = false := by
  rw [isPlain, Bool.not_eq_true', Bool.or_eq_false_iff]

def Written.IsReadable : Written → Prop
  | .bare s => s.toList ≠ [] ∧ s.toList.all isPlain
  | .quoted _ => True

instance (w : Written) : Decidable w.IsReadable := by
  cases w <;> unfold Written.IsReadable <;> infer_instance

namespace Scanner

theorem fresh_plain {c : Char} (h : isPlain c) : fresh c = (bare [c], []) := by
  obtain ⟨hblank, hmark⟩ := isPlain_iff.1 h
  simp only [isMark, Bool.or_eq_false_iff, decide_eq_false_iff_not] at hmark
  obtain ⟨⟨⟨⟨hopen, hclose⟩, hsemicolon⟩, hquote⟩, hcomment⟩ := hmark
  rw [fresh, if_neg hopen, if_neg hclose, if_neg hsemicolon, if_neg hquote, if_neg hcomment, hblank]
  rfl

theorem run_plain {cs : List Char} (h : ∀ c ∈ cs, isPlain c) (chars : List Char) :
    Transducer.run step (bare chars) cs = (bare (cs.reverse ++ chars), []) := by
  induction cs generalizing chars with
  | nil => rfl
  | cons c cs ih =>
    have hc : step (bare chars) c = (bare (c :: chars), []) := by
      obtain ⟨hblank, hmark⟩ := isPlain_iff.1 (h c List.mem_cons_self)
      rw [step, hblank, hmark]
      rfl
    rw [Transducer.run_cons, hc, ih fun d hd => h d (List.mem_cons_of_mem c hd)]
    simp

theorem run_bare {cs : List Char} (hne : cs ≠ []) (h : ∀ c ∈ cs, isPlain c) :
    Transducer.run step between cs = (bare cs.reverse, []) := by
  obtain ⟨c, cs, rfl⟩ := List.exists_cons_of_ne_nil hne
  have hc : step between c = (bare [c], []) := fresh_plain (h c List.mem_cons_self)
  rw [Transducer.run_cons, hc, run_plain fun d hd => h d (List.mem_cons_of_mem c hd)]
  simp

theorem run_escape (c : Char) (bytes : List UInt8) :
    Transducer.run step (quoted bytes) (Written.escape c) =
      (quoted ((Utf8.encodeChar c).reverse ++ bytes), []) := by
  have hliteral : literal bytes c = (quoted ((Utf8.encodeChar c).reverse ++ bytes), []) := by
    rw [literal, List.reverseAux_eq]
  unfold Written.escape
  split
  · next hescaped =>
    have hbackslash : step (quoted bytes) '\\' = (escaped bytes, []) := rfl
    have hc : step (escaped bytes) c = literal bytes c := by
      rcases hescaped with rfl | rfl <;> rfl
    rw [Transducer.run_cons, hbackslash, Transducer.run_cons, hc, hliteral]
    rfl
  · next hplain =>
    obtain ⟨hquote, hbackslash⟩ := not_or.1 hplain
    have hc : step (quoted bytes) c = literal bytes c := by
      rw [step, inside, if_neg hquote, if_neg hbackslash]
    rw [Transducer.run_cons, hc, hliteral]
    rfl

theorem run_escapes (cs : List Char) (bytes : List UInt8) :
    Transducer.run step (quoted bytes) (cs.flatMap Written.escape) =
      (quoted ((Utf8.encode cs).reverse ++ bytes), []) := by
  induction cs generalizing bytes with
  | nil => rfl
  | cons c cs ih =>
    rw [List.flatMap_cons, Transducer.run_append, run_escape, ih]
    simp [Utf8.encode]

theorem run_quoted (s : String) :
    Transducer.run step between (Written.quoted s).chars = (between, [.word s]) := by
  have hopen : step between '"' = (quoted [], []) := rfl
  have hclose (bytes : List UInt8) : step (quoted bytes) '"' = (between, [quotedWord bytes]) := rfl
  rw [Written.chars, Transducer.run_cons, hopen, Transducer.run_append, run_escapes,
    Transducer.run_cons, hclose, quotedWord, List.append_nil, List.reverse_reverse,
    Utf8.decode_encode, String.ofList_toList]
  rfl

/-- A word ends where a character follows that no bare word holds. -/
theorem run_written {w : Written} (hw : w.IsReadable) {c : Char} (hc : isPlain c = false)
    (rest : List Char) :
    Transducer.run step between (w.chars ++ c :: rest) =
      ((Transducer.run step between (c :: rest)).1,
        .word w.text :: (Transducer.run step between (c :: rest)).2) := by
  cases w with
  | quoted s => rw [Transducer.run_append, run_quoted]; rfl
  | bare s =>
    have hend : step (bare s.toList.reverse) c = ((fresh c).1, .word s :: (fresh c).2) := by
      have hends : (isBlank c || isMark c) = true := by rwa [isPlain, Bool.not_eq_false'] at hc
      rw [step, if_pos hends, bareWord, List.reverse_reverse, String.ofList_toList]
    rw [Written.chars, Transducer.run_append, run_bare hw.1 (List.all_eq_true.1 hw.2),
      Transducer.run_cons, hend, Transducer.run_cons]
    rfl

theorem run_spaced {ws : List Written} (hws : ∀ w ∈ ws, w.IsReadable) {c : Char}
    (hc : isPlain c = false) (rest : List Char) :
    Transducer.run step between (spaced ws ++ c :: rest) =
      ((Transducer.run step between (c :: rest)).1,
        ws.map (fun w => .word w.text) ++ (Transducer.run step between (c :: rest)).2) := by
  induction ws with
  | nil => rfl
  | cons w ws ih =>
    have hw := hws w List.mem_cons_self
    cases ws with
    | nil =>
      rw [spaced, List.map_singleton, List.intercalate_singleton, run_written hw hc]
      rfl
    | cons v ws =>
      have hspaced : spaced (w :: v :: ws) ++ c :: rest =
          w.chars ++ ' ' :: (spaced (v :: ws) ++ c :: rest) := by
        simp [spaced]
      have hblank : step between ' ' = (between, []) := rfl
      rw [hspaced, run_written hw (by decide), Transducer.run_cons, hblank,
        ih fun u hu => hws u (List.mem_cons_of_mem w hu)]
      rfl

end Scanner

end DhcpLeases.Journal
