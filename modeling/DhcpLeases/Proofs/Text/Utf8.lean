import DhcpLeases.Text.Utf8

namespace DhcpLeases.Text.Utf8

theorem lead_one {n : Nat} (h : n < 0x80) : lead (.ofNat n) = (none, [Char.ofNat n]) := by
  have hn : (UInt8.ofNat n).toNat = n := UInt8.toNat_ofNat_of_lt' (by rw [UInt8.size]; omega)
  rw [lead, hn]
  exact if_pos h

theorem lead_two : ∀ m < 32, 2 ≤ m → lead (.ofNat (0xC0 + m)) = (some ⟨0x80, 0xBF, 1, m⟩, []) := by
  decide

/-- The second byte of three is bounded below after the least first byte, above before surrogates. -/
theorem lead_three : ∀ m < 16, lead (.ofNat (0xE0 + m)) =
    (some ⟨if m = 0 then 0xA0 else 0x80, if m = 0xD then 0x9F else 0xBF, 2, m⟩, []) := by
  decide

/-- The second byte of four is bounded below after the least first byte and above after the last. -/
theorem lead_four : ∀ m < 5, lead (.ofNat (0xF0 + m)) =
    (some ⟨if m = 0 then 0x90 else 0x80, if m = 4 then 0x8F else 0xBF, 3, m⟩, []) := by
  decide

theorem step_tail {low high owed value k : Nat} (hk : k < 64) (hlow : low ≤ 0x80 + k)
    (hhigh : 0x80 + k ≤ high) :
    step (some ⟨low, high, owed, value⟩) (.ofNat (0x80 + k)) =
      if owed ≤ 1 then (none, [Char.ofNat (value * 64 + k)])
      else (some ⟨0x80, 0xBF, owed - 1, value * 64 + k⟩, []) := by
  have hb : (UInt8.ofNat (0x80 + k)).toNat = 0x80 + k :=
    UInt8.toNat_ofNat_of_lt' (by rw [UInt8.size]; omega)
  rw [step, hb, if_pos ⟨hlow, hhigh⟩, Nat.add_sub_cancel_left]

theorem toNat_bounds (c : Char) : c.toNat < 0xD800 ∨ 0xDFFF < c.toNat ∧ c.toNat < 0x110000 :=
  c.valid

theorem run_encodeChar (c : Char) : Transducer.run step none (encodeChar c) = (none, [c]) := by
  have hbounds := toNat_bounds c
  have hc : Char.ofNat c.toNat = c := Char.ofNat_toNat c
  unfold encodeChar
  generalize c.toNat = n at hbounds hc
  dsimp only
  split
  · next h1 =>
    rw [Transducer.run_cons, step, lead_one h1, hc]
    rfl
  split
  · next h1 h2 =>
    have hlead := lead_two (n / 64) (by omega) (by omega)
    have hvalue : n / 64 * 64 + n % 64 = n := by omega
    rw [Transducer.run_cons, step, hlead, Transducer.run_cons,
      step_tail (by omega) (by omega) (by omega), hvalue, hc]
    rfl
  split
  · next h1 h2 h3 =>
    have hlead := lead_three (n / 4096) (by omega)
    have hvalue : (n / 4096 * 64 + n / 64 % 64) * 64 + n % 64 = n := by omega
    have hlow : (if n / 4096 = 0 then 0xA0 else 0x80) ≤ 0x80 + n / 64 % 64 := by
      split <;> omega
    have hhigh : 0x80 + n / 64 % 64 ≤ if n / 4096 = 0xD then 0x9F else 0xBF := by
      split <;> omega
    rw [Transducer.run_cons, step, hlead, Transducer.run_cons, step_tail (by omega) hlow hhigh,
      if_neg (by decide), Transducer.run_cons, step_tail (by omega) (by omega) (by omega), hvalue, hc]
    rfl
  · next h1 h2 h3 =>
    have hlead := lead_four (n / 262144) (by omega)
    have hvalue : ((n / 262144 * 64 + n / 4096 % 64) * 64 + n / 64 % 64) * 64 + n % 64 = n := by
      omega
    have hlow : (if n / 262144 = 0 then 0x90 else 0x80) ≤ 0x80 + n / 4096 % 64 := by
      split <;> omega
    have hhigh : 0x80 + n / 4096 % 64 ≤ if n / 262144 = 4 then 0x8F else 0xBF := by
      split <;> omega
    rw [Transducer.run_cons, step, hlead, Transducer.run_cons, step_tail (by omega) hlow hhigh,
      if_neg (by decide), Transducer.run_cons, step_tail (by omega) (by omega) (by omega),
      if_neg (by decide), Transducer.run_cons, step_tail (by omega) (by omega) (by omega), hvalue, hc]
    rfl

theorem run_encode (cs : List Char) : Transducer.run step none (encode cs) = (none, cs) := by
  have h := Transducer.run_flatMap fun c (_ : c ∈ cs) => run_encodeChar c
  rw [List.flatMap_singleton'] at h
  exact h

theorem decode_encode (cs : List Char) : decode (encode cs) = cs := by
  rw [decode, run_encode]
  exact List.append_nil cs

end DhcpLeases.Text.Utf8
