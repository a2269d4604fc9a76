import DhcpLeases.Proofs.Address.Groups

namespace DhcpLeases.Address

variable {base count n : Nat}

theorem length_toDigits : (toDigits base count n).length = count := by
  induction count generalizing n with
  | zero => rfl
  | succ count ih => rw [toDigits, List.length_append, ih, List.length_singleton]

theorem lt_of_mem_toDigits (hbase : 0 < base) : ∀ d ∈ toDigits base count n, d < base := by
  induction count generalizing n with
  | zero =>
    intro d hd
    cases hd
  | succ count ih =>
    intro d hd
    rcases List.mem_append.1 hd with hd | hd
    · exact ih d hd
    · rw [List.mem_singleton.1 hd]
      exact Nat.mod_lt n hbase

theorem ofDigits_append (ds : List Nat) (d : Nat) :
    ofDigits base (ds ++ [d]) = ofDigits base ds * base + d := by
  rw [ofDigits, ofDigits, List.foldl_append, List.foldl_cons, List.foldl_nil]

theorem ofDigits_toDigits : ofDigits base (toDigits base count n) = n % base ^ count := by
  induction count generalizing n with
  | zero =>
    rw [Nat.pow_zero, Nat.mod_one]
    rfl
  | succ count ih =>
    rw [toDigits, ofDigits_append, ih, Nat.pow_succ', Nat.mod_mul, Nat.mul_comm, Nat.add_comm]

theorem ofOctets_octets (bits : BitVec 32) : ofOctets (octets bits) = v4 bits := by
  have hbits : bits.toNat < 256 ^ 4 := bits.isLt
  rw [ofOctets, octets, ofDigits_toDigits, Nat.mod_eq_of_lt hbits, BitVec.ofNat_toNat,
    BitVec.setWidth_eq]

theorem ofGroups_groups (bits : BitVec 128) : ofGroups (groups bits) = v6 bits := by
  have hbits : bits.toNat < 65536 ^ 8 := bits.isLt
  rw [ofGroups, groups, ofDigits_toDigits, Nat.mod_eq_of_lt hbits, BitVec.ofNat_toNat,
    BitVec.setWidth_eq]

theorem length_octets {bits : BitVec 32} : (octets bits).length = 4 :=
  length_toDigits

theorem length_groups {bits : BitVec 128} : (groups bits).length = 8 :=
  length_toDigits

theorem lt_of_mem_octets {bits : BitVec 32} : ∀ d ∈ octets bits, d < 256 :=
  lt_of_mem_toDigits (by decide)

theorem lt_of_mem_groups {bits : BitVec 128} : ∀ g ∈ groups bits, g < 65536 :=
  lt_of_mem_toDigits (by decide)

open DhcpLeases.Text

variable {gs : List Nat} {room : Nat}

/-- A stretch of positions at which a list holds zeros. -/
def Stretch.IsZeroIn (s : Stretch) (gs : List Nat) : Prop :=
  ∀ i, s.start ≤ i → i < s.start + s.length → gs[i]? = some 0

theorem Stretch.isZeroIn_empty (gs : List Nat) : Stretch.IsZeroIn ⟨0, 0⟩ gs := by
  intro i _ h
  exact absurd h (Nat.not_lt_zero i)

def Stretch.extend (current : Stretch) (i : Nat) : Stretch :=
  if current.length = 0 then ⟨i, 1⟩ else ⟨current.start, current.length + 1⟩

theorem Stretch.extend_end {current : Stretch} {i : Nat}
    (hends : current.length ≠ 0 → current.start + current.length = i) :
    (current.extend i).start + (current.extend i).length = i + 1 := by
  unfold Stretch.extend
  split
  · rfl
  · next hne => exact congrArg (· + 1) (hends hne)

theorem Stretch.extend_isZeroIn {current : Stretch} {i : Nat} (hcurrent : current.IsZeroIn gs)
    (hends : current.length ≠ 0 → current.start + current.length = i) (hi : gs[i]? = some 0) :
    (current.extend i).IsZeroIn gs := by
  intro j hstart hstop
  rw [Stretch.extend_end hends] at hstop
  by_cases hj : j = i
  · rw [hj, hi]
  · unfold Stretch.extend at hstart
    split at hstart
    · exact absurd (Nat.le_antisymm (Nat.le_of_lt_succ hstop) hstart) hj
    · next hne =>
      have hlast := hends hne
      exact hcurrent j hstart (by omega)

/-- The scan has seen the list up to position `i`, where the current stretch ends if there is one. -/
theorem longestZeros_isZeroIn {all : List Nat} {longest current : Stretch} {i : Nat}
    (hgs : all.drop i = gs) (hlongest : longest.IsZeroIn all) (hcurrent : current.IsZeroIn all)
    (hends : current.length ≠ 0 → current.start + current.length = i) :
    (longestZeros longest current i gs).IsZeroIn all := by
  induction gs generalizing longest current i with
  | nil => exact hlongest
  | cons g gs ih =>
    have hi : all[i]? = some g := by
      rw [← List.head?_drop, hgs]
      rfl
    have htail : all.drop (i + 1) = gs := by
      rw [← List.tail_drop, hgs]
      rfl
    rw [longestZeros]
    split
    · next hzero =>
      have hextend := Stretch.extend_isZeroIn hcurrent hends (hzero ▸ hi)
      have hnext : (if longest.length < (current.extend i).length then current.extend i
          else longest).IsZeroIn all := by
        split
        · exact hextend
        · exact hlongest
      exact ih htail hnext hextend fun _ => Stretch.extend_end hends
    · exact ih htail hlongest (Stretch.isZeroIn_empty all) fun h => absurd rfl h

/-- A list is what stands on both sides of a stretch of its zeros, with the zeros between. -/
theorem Stretch.IsZeroIn.split {s : Stretch} (h : s.IsZeroIn gs) :
    gs.take s.start ++ List.replicate s.length 0 ++ gs.drop (s.start + s.length) = gs := by
  have hzeros : (gs.drop s.start).take s.length = List.replicate s.length 0 := by
    apply List.ext_getElem?
    intro i
    rw [List.getElem?_take, List.getElem?_drop, List.getElem?_replicate]
    split
    · next hi => exact h (s.start + i) (by omega) (by omega)
    · rfl
  rw [← hzeros, List.append_assoc, ← List.drop_drop, List.take_append_drop, List.take_append_drop]

theorem Stretch.IsZeroIn.length_le {s : Stretch} (h : s.IsZeroIn gs) (hs : 0 < s.length) :
    s.start + s.length ≤ gs.length := by
  have hlast := h (s.start + s.length - 1) (by omega) (by omega)
  obtain ⟨hlt, _⟩ := List.getElem?_eq_some_iff.1 hlast
  omega

theorem mem_compressedText {c : Char} (h : c ∈ compressedText gs) : (hexDigit? c).isSome ∨ c = ':' := by
  unfold compressedText at h
  dsimp only at h
  split at h
  · rcases List.mem_append.1 h with h | h
    · exact mem_groupsText h
    · rcases List.mem_cons.1 h with h | h
      · exact .inr h
      · rcases List.mem_cons.1 h with h | h
        · exact .inr h
        · exact mem_groupsText h
  · exact mem_groupsText h

theorem dot_not_mem_groupsText (gs : List Nat) : '.' ∉ groupsText gs := by
  intro h
  rcases mem_groupsText h with h | h <;> revert h <;> decide

theorem dot_not_mem_compressedText (gs : List Nat) : '.' ∉ compressedText gs := by
  intro h
  rcases mem_compressedText h with h | h <;> revert h <;> decide

theorem sixteenBytes?_groupsText (hlength : gs.length = 8) (hgs : ∀ g ∈ gs, g < 65536) :
    sixteenBytes? (groupsText gs) = some (gs, []) := by
  have hdot : '.' ∉ groupsText gs ++ [] := by
    rw [List.append_nil]
    exact dot_not_mem_groupsText gs
  have hrun : groupRun true 8 _ = _ :=
    groupRun_groupsText (Nat.le_of_eq hlength) hgs (.inl rfl) hdot
  rw [List.append_nil] at hrun
  rw [sixteenBytes?, hrun]
  exact if_pos hlength

/-- A double colon stands for as many zeros as are missing, if more than one is. -/
theorem sixteenBytes?_doubleColon {head tail : List Nat} {missing : Nat} (hmissing : 1 < missing)
    (hlength : head.length + missing + tail.length = 8) (hhead : ∀ g ∈ head, g < 65536)
    (htail : ∀ g ∈ tail, g < 65536) :
    sixteenBytes? (groupsText head ++ ':' :: ':' :: groupsText tail) =
      some (head ++ List.replicate missing 0 ++ tail, []) := by
  have hdotTail : '.' ∉ groupsText tail ++ [] := by
    rw [List.append_nil]
    exact dot_not_mem_groupsText tail
  have hdotHead : '.' ∉ groupsText head ++ ':' :: ':' :: groupsText tail := by
    rw [List.append_nil] at hdotTail
    simp [dot_not_mem_groupsText head, hdotTail]
  have hrunHead : groupRun true 8 _ = _ :=
    groupRun_groupsText (by omega) hhead (.inr ⟨_, rfl⟩) hdotHead
  have hrunTail : groupRun true (7 - head.length) _ = _ :=
    groupRun_groupsText (by omega) htail (.inl rfl) hdotTail
  have hleft : 8 - head.length - tail.length = missing := by omega
  rw [List.append_nil] at hrunTail
  rw [sixteenBytes?, hrunHead]
  simp only [hrunTail, hleft]
  rw [if_neg (by omega)]
  rfl

theorem sixteenBytes?_compressedText (hlength : gs.length = 8) (hgs : ∀ g ∈ gs, g < 65536) :
    sixteenBytes? (compressedText gs) = some (gs, []) := by
  have hzeros := longestZeros_isZeroIn (List.drop_zero (l := gs)) (Stretch.isZeroIn_empty gs)
    (Stretch.isZeroIn_empty gs) fun h => absurd rfl h
  unfold compressedText
  dsimp only
  generalize longestZeros ⟨0, 0⟩ ⟨0, 0⟩ 0 gs = zeros at hzeros ⊢
  split
  · next htwo =>
    have hfits := hzeros.length_le (by omega)
    have hparts : (gs.take zeros.start).length + zeros.length +
        (gs.drop (zeros.start + zeros.length)).length = 8 := by
      rw [List.length_take, List.length_drop]
      omega
    rw [sixteenBytes?_doubleColon htwo hparts (fun g hg => hgs g (List.mem_of_mem_take hg))
      (fun g hg => hgs g (List.mem_of_mem_drop hg)), hzeros.split]
  · exact sixteenBytes?_groupsText hlength hgs

theorem read?_v4 (bits : BitVec 32) : read? (quadText (octets bits)) = some (v4 bits) := by
  rw [read?, quad?_quadText length_octets lt_of_mem_octets]
  exact congrArg some (ofOctets_octets bits)

theorem read?_compressedText (bits : BitVec 128) :
    read? (compressedText (groups bits)) = some (v6 bits) := by
  rw [read?, quad?_eq_none (dot_not_mem_compressedText _),
    sixteenBytes?_compressedText length_groups lt_of_mem_groups]
  exact congrArg some (ofGroups_groups bits)

theorem groupRun_quad {first : Bool} {cs behind after : List Char} {os : List Nat}
    (hcs : behindColon? first cs = some behind) (hquad : quad? behind = some (os, after)) :
    groupRun first (room + 2) cs =
      ([ofDigits 256 (os.take 2), ofDigits 256 (os.drop 2)], true, after) := by
  rw [groupRun, if_neg (Nat.succ_ne_zero room), hcs]
  simp [hquad]

theorem sixteenBytes?_mapped {os : List Nat} (hlength : os.length = 4) (hos : ∀ n ∈ os, n < 256) :
    sixteenBytes? ("::ffff:".toList ++ quadText os) =
      some ([0, 0, 0, 0, 0, 0xFFFF, ofDigits 256 (os.take 2), ofDigits 256 (os.drop 2)], []) := by
  have hmapped : "::ffff:".toList ++ quadText os =
      ':' :: ':' :: (hexDigits 0xFFFF ++ ':' :: quadText os) := by
    have h : "::ffff:".toList = ':' :: ':' :: (hexDigits 0xFFFF ++ [':']) := by decide
    rw [h]
    simp
  have hcolon : ∀ c ∈ (':' :: quadText os).head?, (hexDigit? c).isSome = false := by
    intro c hc
    cases hc
    decide
  have hgroup := group?_hexDigits (g := 0xFFFF) (by decide) hcolon
  have hnoQuad : quad? (hexDigits 0xFFFF ++ ':' :: quadText os) = none := by
    have h : hexDigits 0xFFFF = ['f', 'f', 'f', 'f'] := by decide
    rw [h]
    rfl
  have hquad : groupRun false 6 (':' :: quadText os) = _ :=
    groupRun_quad rfl (quad?_quadText hlength hos)
  have htail : groupRun true 7 (hexDigits 0xFFFF ++ ':' :: quadText os) =
      ([0xFFFF, ofDigits 256 (os.take 2), ofDigits 256 (os.drop 2)], true, []) := by
    rw [groupRun_succ rfl hnoQuad hgroup, hquad]
  have hhead (cs : List Char) : groupRun true 8 (':' :: cs) = ([], false, ':' :: cs) := rfl
  rw [hmapped, sixteenBytes?, hhead]
  simp [htail]

theorem ofGroups_mapped {bits : BitVec 128} {low : BitVec 32} (h : mapped? bits = some low) :
    ofGroups [0, 0, 0, 0, 0, 0xFFFF, ofDigits 256 ((octets low).take 2),
      ofDigits 256 ((octets low).drop 2)] = v6 bits := by
  unfold mapped? at h
  split at h
  · next hmapped =>
    have hlow : low.toNat = bits.toNat % 0x100000000 := by
      rw [← Option.some.inj h, BitVec.toNat_ofNat]
    have hbound : low.toNat < 256 ^ 4 := low.isLt
    have hvalue : ofDigits 256 (octets low) = low.toNat := by
      rw [octets, ofDigits_toDigits, Nat.mod_eq_of_lt hbound]
    obtain ⟨a, b, c, d, hos⟩ : ∃ a b c d, octets low = [a, b, c, d] := ⟨_, _, _, _, rfl⟩
    rw [hos] at hvalue ⊢
    simp only [ofDigits, List.foldl_cons, List.foldl_nil] at hvalue
    rw [ofGroups]
    congr 1
    apply BitVec.eq_of_toNat_eq
    have hbits := bits.isLt
    rw [BitVec.toNat_ofNat]
    simp only [ofDigits, List.take_succ_cons, List.take_zero, List.drop_succ_cons, List.drop_zero,
      List.foldl_cons, List.foldl_nil]
    omega
  · cases h

theorem read?_mapped {bits : BitVec 128} {low : BitVec 32} (h : mapped? bits = some low) :
    read? ("::ffff:".toList ++ quadText (octets low)) = some (v6 bits) := by
  have hgroups : sixteenBytes? ("::ffff:".toList ++ quadText (octets low)) = _ :=
    sixteenBytes?_mapped length_octets lt_of_mem_octets
  rw [read?, hgroups]
  exact congrArg some (ofGroups_mapped h)

theorem read?_chars (a : Address) : read? a.chars = some a := by
  cases a with
  | v4 bits => exact read?_v4 bits
  | v6 bits =>
    rw [chars]
    split
    · next low h => exact read?_mapped h
    · exact read?_compressedText bits

theorem ofText?_text (a : Address) : ofText? a.text = some a := by
  rw [ofText?, text, String.toList_ofList, read?_chars]

theorem isHexDigit_of_isDigit {c : Char} (h : Decimal.isDigit c) : (hexDigit? c).isSome := by
  unfold Decimal.isDigit Decimal.digit? at h
  split at h
  · next hc =>
    rw [hexDigit?, if_pos hc]
    rfl
  · cases h

theorem mem_chars {a : Address} {c : Char} (h : c ∈ a.chars) :
    (hexDigit? c).isSome ∨ c = '.' ∨ c = ':' := by
  have hquad {os : List Nat} (hos : c ∈ quadText os) : (hexDigit? c).isSome ∨ c = '.' ∨ c = ':' := by
    rcases mem_quadText hos with hc | hc
    · exact .inl (isHexDigit_of_isDigit hc)
    · exact .inr (.inl hc)
  cases a with
  | v4 bits => exact hquad h
  | v6 bits =>
    rw [chars] at h
    split at h
    · rcases List.mem_append.1 h with hc | hc
      · have hmapped : "::ffff:".toList.all fun c => (hexDigit? c).isSome || c = '.' || c = ':' := by
          decide
        simpa [or_assoc] using List.all_eq_true.1 hmapped c hc
      · exact hquad hc
    · rcases mem_compressedText h with hc | hc
      · exact .inl hc
      · exact .inr (.inr hc)

theorem chars_ne_nil (a : Address) : a.chars ≠ [] := by
  intro h
  have hread := read?_chars a
  rw [h] at hread
  cases hread

end DhcpLeases.Address
