import DhcpLeases.Proofs.Text.Utf8
import Mathlib.Algebra.Group.Nat.Defs

namespace DhcpLeases.Text.Utf8

open Transducer (run output)

/-- Bytes that some character begins with, perhaps all of it. -/
def BeginsChar (bs : List UInt8) : Prop :=
  ∃ c, bs <+: encodeChar c

/-- Where no character stands: the longest piece that begins one, or a single byte if none does. -/
structure IsBroken (piece rest : List UInt8) : Prop where
  no_char : ∀ c, ¬encodeChar c <+: piece ++ rest
  ne_nil : piece ≠ []
  begins : BeginsChar piece ∨ piece.length = 1
  longest : ∀ longer, longer <+: piece ++ rest → BeginsChar longer → longer.length ≤ piece.length

/-- The text of bytes, with one replacement character for each broken piece. -/
inductive Lossy : List UInt8 → List Char → Prop
  | nil : Lossy [] []
  | char (c : Char) {bs : List UInt8} {cs : List Char} (h : Lossy bs cs) :
    Lossy (encodeChar c ++ bs) (c :: cs)
  | broken {piece rest : List UInt8} {cs : List Char} (hpiece : IsBroken piece rest)
      (h : Lossy rest cs) : Lossy (piece ++ rest) (replacement :: cs)

def tailByte (n : Nat) : UInt8 :=
  .ofNat (0x80 + n % 64)

def tailBytes : (count : Nat) → (n : Nat) → List UInt8
  | 0, _ => []
  | count + 1, n => tailByte (n / 64 ^ count) :: tailBytes count n

def tailCount (n : Nat) : Nat :=
  if n < 0x80 then 0 else if n < 0x800 then 1 else if n < 0x10000 then 2 else 3

def leadNumber (n : Nat) : Nat :=
  if n < 0x80 then n
  else if n < 0x800 then 0xC0 + n / 64
  else if n < 0x10000 then 0xE0 + n / 4096
  else 0xF0 + n / 262144

theorem encodeChar_eq (c : Char) :
    encodeChar c = .ofNat (leadNumber c.toNat) :: tailBytes (tailCount c.toNat) c.toNat := by
  unfold encodeChar leadNumber tailCount
  generalize c.toNat = n
  dsimp only
  split
  · rfl
  split
  · simp [tailBytes, tailByte]
  split
  · simp [tailBytes, tailByte]
  · simp [tailBytes, tailByte]

theorem leadNumber_cases (n : Nat) :
    (n < 0x80 ∧ leadNumber n = n ∧ tailCount n = 0) ∨
      (0x80 ≤ n ∧ n < 0x800 ∧ leadNumber n = 0xC0 + n / 64 ∧ tailCount n = 1) ∨
      (0x800 ≤ n ∧ n < 0x10000 ∧ leadNumber n = 0xE0 + n / 4096 ∧ tailCount n = 2) ∨
      (0x10000 ≤ n ∧ leadNumber n = 0xF0 + n / 262144 ∧ tailCount n = 3) := by
  unfold leadNumber tailCount
  split
  · omega
  split
  · omega
  split
  · omega
  · omega

theorem leadNumber_lt {n : Nat} (h : n.isValidChar) : leadNumber n < 256 := by
  have hn : n < 0xD800 ∨ 0xDFFF < n ∧ n < 0x110000 := h
  have hcases := leadNumber_cases n
  omega

theorem singleton_prefix_encodeChar {b : UInt8} {c : Char} :
    [b] <+: encodeChar c ↔ leadNumber c.toNat = b.toNat := by
  have hlead : (UInt8.ofNat (leadNumber c.toNat)).toNat = leadNumber c.toNat :=
    UInt8.toNat_ofNat_of_lt' (leadNumber_lt c.valid)
  rw [encodeChar_eq, List.cons_prefix_cons, ← UInt8.toNat_inj, hlead]
  constructor
  · intro h
    exact h.1.symm
  · intro h
    exact ⟨h.symm, List.nil_prefix⟩

theorem toNat_ofNat {n : Nat} (h : n.isValidChar) : (Char.ofNat n).toNat = n := by
  rw [Char.ofNat, dif_pos h]
  rfl

/-- The numbers of the characters that an unfinished one can become. -/
def Unfinished.Holds (u : Unfinished) (n : Nat) : Prop :=
  u.value * 64 + (u.low - 0x80) ≤ n / 64 ^ (u.owed - 1) ∧
    n / 64 ^ (u.owed - 1) ≤ u.value * 64 + (u.high - 0x80)

/-- The bytes of an unfinished character are the first of those that it can become, and of no others. -/
structure Begun (piece : List UInt8) (u : Unfinished) : Prop where
  run_eq : run step none piece = (some u, [])
  bounds : 0 < u.owed ∧ 0x80 ≤ u.low ∧ u.low ≤ u.high ∧ u.high ≤ 0xBF
  valid : ∀ n, u.Holds n → n.isValidChar
  encode : ∀ c : Char, u.Holds c.toNat → encodeChar c = piece ++ tailBytes u.owed c.toNat
  holds : ∀ c : Char, piece <+: encodeChar c → u.Holds c.toNat

/-- What a first byte with this number does: it is a character, begins none or leaves one unfinished. -/
inductive Leads (m : Nat) : State × List Char → Prop
  | char (h : m < 0x80) : Leads m (none, [Char.ofNat m])
  | broken (h : 0x80 ≤ m ∧ m < 0xC2 ∨ 0xF5 ≤ m) : Leads m (none, [replacement])
  | unfinished {u : Unfinished}
      (hbounds : 0 < u.owed ∧ 0x80 ≤ u.low ∧ u.low ≤ u.high ∧ u.high ≤ 0xBF)
      (hholds : ∀ n, u.Holds n → n.isValidChar ∧ leadNumber n = m ∧ tailCount n = u.owed)
      (hnumber : ∀ n, n.isValidChar → leadNumber n = m → u.Holds n) : Leads m (some u, [])

theorem leads_lead (b : UInt8) : Leads b.toNat (lead b) := by
  unfold lead
  generalize b.toNat = m
  dsimp only
  split
  · next h => exact .char h
  split
  · next hlow h => exact .broken (.inl ⟨Nat.le_of_not_lt hlow, h⟩)
  -- the seven kinds of first bytes that leave a character unfinished
  iterate 7
    split
    · apply Leads.unfinished
      · simp
      all_goals
        intro n
        have hcases := leadNumber_cases n
        simp only [Unfinished.Holds, Nat.isValidChar]
        omega
  exact .broken (.inr (by omega))

theorem Begun.of_lead {b : UInt8} {u : Unfinished} (h : lead b = (some u, [])) : Begun [b] u := by
  have hleads := leads_lead b
  rw [h] at hleads
  cases hleads with
  | unfinished hbounds hholds hnumber =>
    refine ⟨?_, hbounds, fun n hn => (hholds n hn).1, ?_, ?_⟩
    · rw [Transducer.run_cons, step, h]
      rfl
    · intro c hc
      obtain ⟨-, hlead, hcount⟩ := hholds c.toNat hc
      rw [encodeChar_eq, hlead, hcount, UInt8.ofNat_toNat]
      rfl
    · intro c hc
      exact hnumber c.toNat c.valid (singleton_prefix_encodeChar.1 hc)

theorem encodeChar_ofNat {b : UInt8} (h : b.toNat < 0x80) : encodeChar (Char.ofNat b.toNat) = [b] := by
  have hb : (Char.ofNat b.toNat).toNat = b.toNat := toNat_ofNat (.inl (by omega))
  rw [encodeChar_eq, hb, leadNumber, if_pos h, tailCount, if_pos h, UInt8.ofNat_toNat]
  rfl

theorem not_beginsChar {b : UInt8} (h : 0x80 ≤ b.toNat ∧ b.toNat < 0xC2 ∨ 0xF5 ≤ b.toNat) :
    ¬BeginsChar [b] := by
  rintro ⟨c, hc⟩
  have hnumber := singleton_prefix_encodeChar.1 hc
  have hvalid := toNat_bounds c
  have hcases := leadNumber_cases c.toNat
  omega

variable {piece rest : List UInt8} {u : Unfinished} {b : UInt8}

theorem Begun.tail_of_holds (h : Begun piece u) {c : Char} (hc : u.Holds c.toNat) :
    encodeChar c = piece ++ tailByte (c.toNat / 64 ^ (u.owed - 1)) ::
      tailBytes (u.owed - 1) c.toNat := by
  obtain ⟨owed, howed⟩ := Nat.exists_eq_add_one.2 h.bounds.1
  rw [h.encode c hc, howed, tailBytes, Nat.add_sub_cancel]

theorem Begun.continues (h : Begun piece u) {c : Char} (hc : piece ++ [b] <+: encodeChar c) :
    u.low ≤ b.toNat ∧ b.toNat ≤ u.high ∧
      c.toNat / 64 ^ (u.owed - 1) = u.value * 64 + (b.toNat - 0x80) := by
  have hholds := h.holds c ((List.prefix_append piece [b]).trans hc)
  rw [h.tail_of_holds hholds, List.prefix_append_right_inj, List.cons_prefix_cons] at hc
  have hb : b.toNat = 0x80 + c.toNat / 64 ^ (u.owed - 1) % 64 := by
    rw [hc.1, tailByte]
    exact UInt8.toNat_ofNat_of_lt' (by rw [UInt8.size]; omega)
  obtain ⟨hlow, hhigh⟩ := hholds
  have hbounds := h.bounds
  omega

def Unfinished.push (u : Unfinished) (b : UInt8) : Unfinished :=
  ⟨0x80, 0xBF, u.owed - 1, u.value * 64 + (b.toNat - 0x80)⟩

theorem Unfinished.holds_push_iff (howed : ¬u.owed ≤ 1) (n : Nat) :
    (u.push b).Holds n ↔ n / 64 ^ (u.owed - 1) = u.value * 64 + (b.toNat - 0x80) := by
  have hpow : n / 64 ^ (u.owed - 1) = n / 64 ^ (u.owed - 1 - 1) / 64 := by
    rw [Nat.div_div_eq_div_mul, ← Nat.pow_succ]
    congr 2
    omega
  rw [Holds, push, hpow]
  dsimp only
  omega

theorem Unfinished.holds_of_eq (hb : u.low ≤ b.toNat ∧ b.toNat ≤ u.high) {n : Nat}
    (hn : n / 64 ^ (u.owed - 1) = u.value * 64 + (b.toNat - 0x80)) : u.Holds n := by
  rw [Holds, hn]
  omega

section

variable (h : Begun piece u) (hb : u.low ≤ b.toNat ∧ b.toNat ≤ u.high)

include h hb

theorem Begun.tailByte_eq {n : Nat} (hn : n = u.value * 64 + (b.toNat - 0x80)) : tailByte n = b := by
  have hbounds := h.bounds
  have hbyte : 0x80 + n % 64 = b.toNat := by omega
  rw [tailByte, hbyte, UInt8.ofNat_toNat]

theorem Begun.encode_last (howed : u.owed ≤ 1) :
    encodeChar (Char.ofNat (u.value * 64 + (b.toNat - 0x80))) = piece ++ [b] := by
  have hone : u.owed - 1 = 0 := by omega
  have hholds : u.Holds (u.value * 64 + (b.toNat - 0x80)) :=
    Unfinished.holds_of_eq hb (by rw [hone, Nat.pow_zero, Nat.div_one])
  have hnumber := toNat_ofNat (h.valid _ hholds)
  rw [h.tail_of_holds (by rwa [hnumber]), hnumber, hone, Nat.pow_zero, Nat.div_one,
    h.tailByte_eq hb rfl]
  rfl

theorem Begun.push (howed : ¬u.owed ≤ 1) : Begun (piece ++ [b]) (u.push b) where
  run_eq := by
    rw [Transducer.run_append, h.run_eq, Transducer.run_cons, step, if_pos hb, if_neg howed]
    rfl
  bounds := by
    rw [Unfinished.push]
    dsimp only
    omega
  valid n hn := h.valid n (Unfinished.holds_of_eq hb ((Unfinished.holds_push_iff howed n).1 hn))
  encode c hc := by
    have hnumber := (Unfinished.holds_push_iff howed c.toNat).1 hc
    rw [h.tail_of_holds (Unfinished.holds_of_eq hb hnumber), h.tailByte_eq hb hnumber, List.append_cons]
    rfl
  holds c hc := (Unfinished.holds_push_iff howed c.toNat).2 (h.continues hc).2.2

end

theorem encodeChar_ne_nil (c : Char) : encodeChar c ≠ [] := by
  rw [encodeChar_eq]
  exact List.cons_ne_nil _ _

theorem Begun.beginsChar (h : Begun piece u) : BeginsChar piece := by
  have hholds : u.Holds ((u.value * 64 + (u.low - 0x80)) * 64 ^ (u.owed - 1)) := by
    have hbounds := h.bounds
    rw [Unfinished.Holds, Nat.mul_div_cancel _ (Nat.pow_pos (by decide))]
    omega
  have hnumber := toNat_ofNat (h.valid _ hholds)
  exact ⟨_, h.encode (Char.ofNat _) (by rwa [hnumber]) ▸ List.prefix_append _ _⟩

/-- An unfinished character is broken where the bytes end or the next one does not go on with it. -/
theorem Begun.isBroken (h : Begun piece u)
    (hrest : ∀ b ∈ rest.head?, ¬(u.low ≤ b.toNat ∧ b.toNat ≤ u.high)) : IsBroken piece rest := by
  have hlongest (longer : List UInt8) (hlonger : longer <+: piece ++ rest) (hbegins : BeginsChar longer) :
      longer.length ≤ piece.length := by
    obtain ⟨c, hc⟩ := hbegins
    apply Nat.le_of_not_lt
    intro hlength
    cases rest with
    | nil =>
      rw [List.append_nil] at hlonger
      exact absurd hlonger.length_le (Nat.not_le_of_lt hlength)
    | cons b rest =>
      have hnext : piece ++ [b] <+: longer := by
        apply List.prefix_of_prefix_length_le _ hlonger
        · rw [List.length_append, List.length_singleton]
          exact hlength
        · exact List.append_cons piece b rest ▸ List.prefix_append _ _
      obtain ⟨hlow, hhigh, -⟩ := h.continues (hnext.trans hc)
      exact hrest b rfl ⟨hlow, hhigh⟩
  refine ⟨?_, ?_, .inl h.beginsChar, hlongest⟩
  · intro c hc
    have hlength := hlongest _ hc ⟨c, List.prefix_refl _⟩
    obtain ⟨more, hmore⟩ := List.prefix_of_prefix_length_le hc (List.prefix_append _ _) hlength
    have hrun := h.run_eq
    rw [← hmore, Transducer.run_append, run_encodeChar] at hrun
    exact List.cons_ne_nil _ _ (congrArg Prod.snd hrun)
  · rintro rfl
    cases h.run_eq

theorem isBroken_singleton (h : ¬BeginsChar [b]) (rest : List UInt8) : IsBroken [b] rest where
  no_char c hc := by
    obtain ⟨first, more, hfirst⟩ := List.exists_cons_of_ne_nil (encodeChar_ne_nil c)
    apply h
    refine ⟨c, ?_⟩
    rw [hfirst] at hc ⊢
    rw [(List.cons_prefix_cons.1 hc).1]
    exact List.prefix_append [b] more
  ne_nil := List.cons_ne_nil b []
  begins := .inr rfl
  longest longer hlonger hbegins := by
    obtain ⟨c, hc⟩ := hbegins
    cases longer with
    | nil => exact Nat.zero_le _
    | cons first more =>
      rw [(List.cons_prefix_cons.1 hlonger).1] at hc
      exact absurd ⟨c, (List.prefix_append [b] more).trans hc⟩ h

inductive DecodesFirst : List UInt8 → List Char → Prop
  | char (c : Char) (rest : List UInt8) : DecodesFirst (encodeChar c ++ rest) (c :: decode rest)
  | broken {piece rest : List UInt8} (h : IsBroken piece rest) :
    DecodesFirst (piece ++ rest) (replacement :: decode rest)

theorem Begun.decodesFirst (h : Begun piece u) (bs : List UInt8) :
    DecodesFirst (piece ++ bs) (output step flush (some u) bs) := by
  induction bs generalizing piece u with
  | nil => exact .broken (h.isBroken fun b hb => nomatch hb)
  | cons b bs ih =>
    by_cases hb : u.low ≤ b.toNat ∧ b.toNat ≤ u.high
    · rw [List.append_cons, output, Transducer.run_cons, step, if_pos hb]
      by_cases howed : u.owed ≤ 1
      · rw [if_pos howed, ← h.encode_last hb howed]
        exact .char _ bs
      · rw [if_neg howed]
        exact ih (h.push hb howed)
    · have hdecode : output step flush (some u) (b :: bs) = replacement :: decode (b :: bs) := by
        rw [output, Transducer.run_cons, step, if_neg hb, decode, Transducer.run_cons, step]
        rfl
      rw [hdecode]
      apply DecodesFirst.broken
      apply h.isBroken
      intro d hd
      cases hd
      exact hb

theorem decodesFirst {bs : List UInt8} (h : bs ≠ []) : DecodesFirst bs (decode bs) := by
  obtain ⟨b, bs, rfl⟩ := List.exists_cons_of_ne_nil h
  have hdecode : decode (b :: bs) = (lead b).2 ++ output step flush (lead b).1 bs := by
    rw [decode, Transducer.run_cons, step, List.append_assoc]
    rfl
  rw [hdecode]
  have hleads := leads_lead b
  rw [← List.singleton_append]
  generalize hlead : lead b = p at hleads
  cases hleads with
  | char h =>
    rw [← encodeChar_ofNat h]
    exact .char _ bs
  | broken h => exact .broken (isBroken_singleton (not_beginsChar h) bs)
  | unfinished => exact (Begun.of_lead hlead).decodesFirst bs

theorem lossy_decode {bound : Nat} {bs : List UInt8} (hbound : bs.length < bound) :
    Lossy bs (decode bs) := by
  induction bound generalizing bs with
  | zero => cases hbound
  | succ bound ih =>
    by_cases hbs : bs = []
    · rw [hbs]
      exact .nil
    · have h := decodesFirst hbs
      generalize decode bs = cs at h
      cases h with
      | char c rest =>
        have hc := List.length_pos_iff.2 (encodeChar_ne_nil c)
        rw [List.length_append] at hbound
        exact .char c (ih (by omega))
      | @broken piece rest h =>
        have hpiece := List.length_pos_iff.2 h.ne_nil
        rw [List.length_append] at hbound
        exact .broken h (ih (by omega))

theorem IsBroken.length_le {piece' rest' : List UInt8} (h : IsBroken piece rest)
    (h' : IsBroken piece' rest') (heq : piece' ++ rest' = piece ++ rest) :
    piece'.length ≤ piece.length := by
  rcases h'.begins with hbegins | hone
  · exact h.longest piece' (heq ▸ List.prefix_append piece' rest') hbegins
  · rw [hone]
    exact List.length_pos_iff.2 h.ne_nil

theorem IsBroken.decode_append (h : IsBroken piece rest) :
    decode (piece ++ rest) = replacement :: decode rest := by
  have hfirst := decodesFirst (List.append_ne_nil_of_left_ne_nil h.ne_nil rest)
  generalize hbs : piece ++ rest = bs at hfirst
  generalize decode bs = cs at hfirst
  cases hfirst with
  | char c after => exact absurd (hbs ▸ List.prefix_append _ after) (h.no_char c)
  | broken h' =>
    have hlength := Nat.le_antisymm (h'.length_le h hbs) (h.length_le h' hbs.symm)
    rw [(List.append_inj hbs hlength).2]

/-- Bytes have one text, which is what they are decoded to. -/
theorem lossy_iff_decode_eq (bs : List UInt8) (cs : List Char) : Lossy bs cs ↔ decode bs = cs := by
  constructor
  · intro h
    induction h with
    | nil => rfl
    | @char c bs _ _ ih =>
      have happend := Transducer.output_append step flush none (encodeChar c) bs
      rw [run_encodeChar] at happend
      rw [← ih]
      exact happend
    | broken h _ ih => rw [h.decode_append, ih]
  · rintro rfl
    exact lossy_decode (Nat.lt_succ_self bs.length)

end DhcpLeases.Text.Utf8
