import DhcpLeases.Proofs.Journal.TokenLayout
import DhcpLeases.Proofs.Text.LossyDecoding

namespace DhcpLeases.Journal

open Text
open Transducer (run)

def isOctal (c : Char) : Bool :=
  (octalDigit? c).isSome

def octalValue (n : Nat) (ds : List Char) : Nat :=
  ds.foldl (fun n c => n * 8 + (octalDigit? c).getD 0) n

/-- A stretch of a string in quotes: a character as it is or behind a backslash, or a byte in octal digits
behind a backslash. -/
inductive QuotedPart where
  | plain (c : Char) (hquote : c ≠ '"') (hbackslash : c ≠ '\\')
  | escaped (c : Char) (h : ¬isOctal c)
  | octal (digits : List Char) (hdigits : digits.all isOctal) (hne : digits ≠ [])
    (hlength : digits.length ≤ 3)

namespace QuotedPart

def chars : QuotedPart → List Char
  | plain c _ _ => [c]
  | escaped c _ => ['\\', c]
  | octal digits _ _ _ => '\\' :: digits

def bytes : QuotedPart → List UInt8
  | plain c _ _ => Utf8.encodeChar c
  | escaped c _ => Utf8.encodeChar c
  | octal digits _ _ _ => [.ofNat (octalValue 0 digits)]

/-- A further octal digit would belong to the byte. -/
def isShort : QuotedPart → Bool
  | plain _ _ _ | escaped _ _ => false
  | octal digits _ _ _ => digits.length < 3

end QuotedPart

def EndsOctal (rest : List Char) : Prop :=
  ∀ c ∈ rest.head?, ¬isOctal c

structure QuotedBytes where
  parts : List QuotedPart
  apart : parts.IsChain fun p q => p.isShort → EndsOctal q.chars

namespace QuotedBytes

def chars (q : QuotedBytes) : List Char :=
  '"' :: (q.parts.flatMap QuotedPart.chars ++ ['"'])

def bytes (q : QuotedBytes) : List UInt8 :=
  q.parts.flatMap QuotedPart.bytes

end QuotedBytes

variable {bytes : List UInt8}

namespace Scanner

theorem run_octal_end {value count : Nat} {rest : List Char} (hne : rest ≠ []) (h : EndsOctal rest) :
    run step (octal bytes value count) rest = run step (quoted (.ofNat value :: bytes)) rest := by
  obtain ⟨c, rest, rfl⟩ := List.exists_cons_of_ne_nil hne
  have hnone : octalDigit? c = none := by simpa [isOctal] using h c rfl
  have hstep : step (octal bytes value count) c = step (quoted (.ofNat value :: bytes)) c := by
    simp only [step, hnone]
  rw [Transducer.run_cons, Transducer.run_cons, hstep]

/-- Digits are read up to the third, or to a character that is none. -/
theorem run_octal {digits : List Char} (hdigits : digits.all isOctal) {value count : Nat}
    (hcount : count < 3) (hlength : count + digits.length ≤ 3) {rest : List Char} (hne : rest ≠ [])
    (hend : count + digits.length < 3 → EndsOctal rest) :
    run step (octal bytes value count) (digits ++ rest) =
      run step (quoted (.ofNat (octalValue value digits) :: bytes)) rest := by
  induction digits generalizing value count with
  | nil => exact run_octal_end hne (hend hcount)
  | cons c digits ih =>
    obtain ⟨hc, htail⟩ := Bool.and_eq_true_iff.1 hdigits
    obtain ⟨d, hd⟩ := Option.isSome_iff_exists.1 hc
    have hvalue : octalValue value (c :: digits) = octalValue (value * 8 + d) digits := by
      rw [octalValue, List.foldl_cons, hd]
      rfl
    rw [List.length_cons] at hlength hend
    rw [hvalue, List.cons_append, Transducer.run_cons]
    by_cases htwo : count = 2
    · have hnil : digits = [] := List.eq_nil_of_length_eq_zero (by omega)
      have hstep : step (octal bytes value count) c = (quoted (.ofNat (value * 8 + d) :: bytes), []) := by
        simp only [step, hd, if_pos htwo]
      rw [hstep, hnil]
      rfl
    · have hstep : step (octal bytes value count) c = (octal bytes (value * 8 + d) (count + 1), []) := by
        simp only [step, hd, if_neg htwo]
      have hrest := @ih htail (value * 8 + d) (count + 1) (by omega) (by omega)
        (fun h => hend (by omega))
      rw [hstep, hrest]
      rfl

theorem run_escaped_octal {digits : List Char} (hdigits : digits.all isOctal) (hne : digits ≠ [])
    (hlength : digits.length ≤ 3) {rest : List Char} (hrest : rest ≠ [])
    (hend : digits.length < 3 → EndsOctal rest) :
    run step (escaped bytes) (digits ++ rest) =
      run step (quoted (.ofNat (octalValue 0 digits) :: bytes)) rest := by
  obtain ⟨c, digits, rfl⟩ := List.exists_cons_of_ne_nil hne
  obtain ⟨hc, htail⟩ := Bool.and_eq_true_iff.1 hdigits
  obtain ⟨d, hd⟩ := Option.isSome_iff_exists.1 hc
  have hstep : step (escaped bytes) c = (octal bytes d 1, []) := by
    simp only [step, hd]
  have hvalue : octalValue 0 (c :: digits) = octalValue d digits := by
    rw [octalValue, List.foldl_cons, hd, Nat.zero_mul, Nat.zero_add]
    rfl
  rw [List.length_cons] at hlength hend
  rw [List.cons_append, Transducer.run_cons, hstep, hvalue,
    run_octal htail (by decide) (by omega) hrest fun h => hend (by omega)]
  rfl

theorem run_part (p : QuotedPart) {rest : List Char} (hne : rest ≠ [])
    (hend : p.isShort → EndsOctal rest) :
    run step (quoted bytes) (p.chars ++ rest) = run step (quoted (p.bytes.reverse ++ bytes)) rest := by
  have hbackslash : step (quoted bytes) '\\' = (escaped bytes, []) := rfl
  have hliteral (c : Char) : literal bytes c = (quoted ((Utf8.encodeChar c).reverse ++ bytes), []) := by
    rw [literal, List.reverseAux_eq]
  cases p with
  | plain c hquote hbackslash =>
    have hstep : step (quoted bytes) c = literal bytes c := by
      rw [step, inside, if_neg hquote, if_neg hbackslash]
    rw [QuotedPart.chars, List.singleton_append, Transducer.run_cons, hstep, hliteral]
    rfl
  | escaped c h =>
    have hnone : octalDigit? c = none := by simpa [isOctal] using h
    have hstep : step (escaped bytes) c = literal bytes c := by
      simp only [step, hnone]
    rw [QuotedPart.chars, List.cons_append, List.singleton_append, Transducer.run_cons, hbackslash,
      Transducer.run_cons, hstep, hliteral]
    rfl
  | octal digits hdigits hdigitsne hlength =>
    have hshort : digits.length < 3 → EndsOctal rest := fun h => hend (decide_eq_true h)
    rw [QuotedPart.chars, List.cons_append, Transducer.run_cons, hbackslash,
      run_escaped_octal hdigits hdigitsne hlength hne hshort]
    rfl

end Scanner

variable {p : QuotedPart} {parts : List QuotedPart}

theorem endsOctal_parts (hp : p.isShort)
    (h : (p :: parts).IsChain fun p q => p.isShort → EndsOctal q.chars) :
    EndsOctal (parts.flatMap QuotedPart.chars ++ ['"']) := by
  cases parts with
  | nil =>
    intro c hc
    cases hc
    decide
  | cons q parts =>
    have hq := (List.isChain_cons_cons.1 h).1 hp
    have hne : q.chars ≠ [] := by cases q <;> exact List.cons_ne_nil _ _
    obtain ⟨c, cs, hchars⟩ := List.exists_cons_of_ne_nil hne
    rw [hchars] at hq
    rw [List.flatMap_cons, hchars]
    exact hq

theorem Scanner.run_parts (h : parts.IsChain fun p q => p.isShort → EndsOctal q.chars) :
    run Scanner.step (.quoted bytes) (parts.flatMap QuotedPart.chars ++ ['"']) =
      (.between, [quotedWord ((parts.flatMap QuotedPart.bytes).reverse ++ bytes)]) := by
  induction parts generalizing bytes with
  | nil => rfl
  | cons p parts ih =>
    have hne : parts.flatMap QuotedPart.chars ++ ['"'] ≠ [] :=
      List.append_ne_nil_of_right_ne_nil _ (List.cons_ne_nil _ _)
    rw [List.flatMap_cons, List.append_assoc, run_part p hne fun hp => endsOctal_parts hp h,
      ih h.tail, List.flatMap_cons, List.reverse_append, List.append_assoc]

theorem Scanner.run_quotedBytes (q : QuotedBytes) :
    run Scanner.step .between q.chars =
      (.between, [.word (String.ofList (Utf8.decode q.bytes))]) := by
  have hopen : Scanner.step .between '"' = (.quoted [], []) := rfl
  rw [QuotedBytes.chars, Transducer.run_cons, hopen, run_parts q.apart, List.append_nil, quotedWord,
    List.reverse_reverse]
  rfl

def octalChar (n : Nat) : Char :=
  Char.ofNat ('0'.toNat + n)

theorem octalDigit?_octalChar : ∀ n < 8, octalDigit? (octalChar n) = some n := by
  decide

theorem isOctal_octalChar {n : Nat} (h : n < 8) : isOctal (octalChar n) := by
  rw [isOctal, octalDigit?_octalChar n h]
  rfl

def QuotedPart.ofByte (b : UInt8) : QuotedPart :=
  have hhigh : b.toNat / 64 < 8 := by have := b.toNat_lt; omega
  .octal [octalChar (b.toNat / 64), octalChar (b.toNat / 8 % 8), octalChar (b.toNat % 8)]
    (by
      rw [List.all_cons, List.all_cons, List.all_cons, isOctal_octalChar hhigh,
        isOctal_octalChar (Nat.mod_lt _ (by decide)), isOctal_octalChar (Nat.mod_lt _ (by decide))]
      rfl)
    (List.cons_ne_nil _ _) (Nat.le_refl 3)

theorem QuotedPart.bytes_ofByte (b : UInt8) : (ofByte b).bytes = [b] := by
  have hb : b.toNat < 256 := b.toNat_lt
  have hvalue : ((0 * 8 + b.toNat / 64) * 8 + b.toNat / 8 % 8) * 8 + b.toNat % 8 = b.toNat := by omega
  rw [ofByte, bytes, octalValue, List.foldl_cons, List.foldl_cons, List.foldl_cons, List.foldl_nil,
    octalDigit?_octalChar _ (by omega), octalDigit?_octalChar _ (Nat.mod_lt _ (by decide)),
    octalDigit?_octalChar _ (Nat.mod_lt _ (by decide))]
  simp only [Option.getD_some, hvalue, UInt8.ofNat_toNat]

theorem exists_quotedBytes (bs : List UInt8) : ∃ q : QuotedBytes, q.bytes = bs := by
  have hapart : (bs.map QuotedPart.ofByte).IsChain fun p q => p.isShort → EndsOctal q.chars := by
    rw [List.isChain_map]
    exact (List.pairwise_of_forall fun _ _ h => nomatch h).isChain
  refine ⟨⟨_, hapart⟩, ?_⟩
  rw [QuotedBytes.bytes, List.flatMap_map]
  simp only [QuotedPart.bytes_ofByte, List.flatMap_singleton']

/-- A string in quotes is one word, the text of its bytes, and reading goes on behind its closing quote.
Bytes of a text give that text, and any bytes can be written. -/
theorem tokens_quotedBytes (q : QuotedBytes) (rest : List Char) :
    tokens (q.chars ++ rest) = .word (String.ofList (Utf8.decode q.bytes)) :: tokens rest ∧
      (∀ text, Utf8.Lossy q.bytes text ↔ Utf8.decode q.bytes = text) ∧
      (∀ text, q.bytes = Utf8.encode text → Utf8.decode q.bytes = text) ∧
      ∀ bs, ∃ other : QuotedBytes, other.bytes = bs := by
  refine ⟨tokens_append_of_run (Scanner.run_quotedBytes q) rest, ?_, ?_, exists_quotedBytes⟩
  · exact Utf8.lossy_iff_decode_eq q.bytes
  · intro text htext
    rw [htext, Utf8.decode_encode]

def splitLetter : QuotedBytes where
  parts := [.octal ['3', '0', '3'] rfl (by decide) (by decide),
    .octal ['2', '5', '1'] rfl (by decide) (by decide),
    .octal ['1', '2'] rfl (by decide) (by decide), .plain 'y' (by decide) (by decide)]
  apart := by
    have hlast : EndsOctal ['y'] := by
      intro c hc
      cases hc
      decide
    refine .cons_cons ?_ (.cons_cons ?_ (.cons_cons (fun _ => hlast) (.singleton _)))
    · exact fun h => nomatch h
    · exact fun h => nomatch h

theorem tokens_quotedBytes_splitLetter :
    splitLetter.bytes = Utf8.encode ['\u00e9', '\n', 'y'] ∧
      tokens (splitLetter.chars ++ [';']) = [.word "\u00e9\ny", .semicolon] := by
  have hbytes : splitLetter.bytes = Utf8.encode ['\u00e9', '\n', 'y'] := rfl
  obtain ⟨htokens, -, htext, -⟩ := tokens_quotedBytes splitLetter [';']
  rw [htext _ hbytes] at htokens
  exact ⟨hbytes, htokens⟩

end DhcpLeases.Journal
