import DhcpLeases.Proofs.Address.Quads
import Mathlib.Data.List.TakeDrop

namespace DhcpLeases.Address

open DhcpLeases.Text

theorem hexDigit?_digitChar : ∀ n < 16, hexDigit? n.digitChar = some n := by
  decide

theorem hexDigits_eq (n : Nat) :
    hexDigits n = if n < 16 then [n.digitChar] else hexDigits (n / 16) ++ [(n % 16).digitChar] :=
  Nat.toDigits_eq_if (by decide)

theorem hexValue_append (ds : List Char) {n : Nat} (hn : n < 16) :
    hexValue (ds ++ [n.digitChar]) = hexValue ds * 16 + n := by
  rw [hexValue, hexValue, List.foldl_append, List.foldl_cons, List.foldl_nil, hexDigit?_digitChar n hn]
  rfl

theorem isHexDigit_of_mem_hexDigits {n : Nat} : ∀ c ∈ hexDigits n, (hexDigit? c).isSome := by
  induction n using Nat.strongRecOn with
  | ind n ih =>
    intro c hc
    rw [hexDigits_eq] at hc
    split at hc
    · next hn =>
      rw [List.mem_singleton.1 hc, hexDigit?_digitChar n hn]
      rfl
    · rcases List.mem_append.1 hc with hc | hc
      · exact ih (n / 16) (by omega) c hc
      · rw [List.mem_singleton.1 hc, hexDigit?_digitChar (n % 16) (Nat.mod_lt n (by decide))]
        rfl

theorem hexValue_hexDigits (n : Nat) : hexValue (hexDigits n) = n := by
  induction n using Nat.strongRecOn with
  | ind n ih =>
    rw [hexDigits_eq]
    split
    · next hn =>
      have hone : hexValue [n.digitChar] = 0 * 16 + n := hexValue_append [] hn
      omega
    · rw [hexValue_append _ (Nat.mod_lt n (by decide)), ih (n / 16) (by omega)]
      omega

theorem group?_hexDigits {g : Nat} (hg : g < 65536) {rest : List Char}
    (hrest : ∀ c ∈ rest.head?, (hexDigit? c).isSome = false) :
    group? (hexDigits g ++ rest) = some (g, rest) := by
  have hlength : (hexDigits g).length ≤ 4 :=
    (Nat.length_toDigits_le_iff (by decide) (by decide)).2 hg
  have hne : hexDigits g ≠ [] := Nat.toDigits_ne_nil
  have hdigits : ∀ c ∈ hexDigits g, (hexDigit? c).isSome := isHexDigit_of_mem_hexDigits
  obtain ⟨htake, hdrop⟩ := takeWhile_dropWhile_append hdigits hrest
  obtain ⟨c, cs, hcs⟩ := List.exists_cons_of_ne_nil hne
  have hvalue := hexValue_hexDigits g
  rw [group?, List.span_eq_takeWhile_dropWhile, htake, hdrop]
  rw [hcs] at hlength hvalue ⊢
  simp only [hvalue, if_pos hlength]

/-- What may follow a run of groups in a written address. -/
def EndsRun (rest : List Char) : Prop :=
  rest = [] ∨ ∃ more, rest = ':' :: ':' :: more

variable {gs : List Nat} {rest : List Char} {room : Nat}

theorem EndsRun.groupRun_eq (h : EndsRun rest) (hrest : '.' ∉ rest) (first : Bool) :
    groupRun first room rest = ([], false, rest) := by
  cases room with
  | zero => rfl
  | succ room =>
    have hquad : (behindColon? first rest).bind quad? = none := by
      rcases h with rfl | ⟨more, rfl⟩ <;> cases first
      · rfl
      · rfl
      · exact quad?_eq_none fun hmem => hrest (List.mem_cons_of_mem _ hmem)
      · exact quad?_eq_none hrest
    have hgroup : (behindColon? first rest).bind group? = none := by
      rcases h with rfl | ⟨more, rfl⟩ <;> cases first <;> rfl
    rw [groupRun, hquad, hgroup]
    simp

/-- One group of a run, when no quad can stand in its place. -/
theorem groupRun_succ {first : Bool} {cs behind after : List Char} {g : Nat}
    (hcs : behindColon? first cs = some behind) (hquad : quad? behind = none)
    (hgroup : group? behind = some (g, after)) :
    groupRun first (room + 1) cs =
      (g :: (groupRun false room after).1, (groupRun false room after).2) := by
  rw [groupRun, hcs]
  simp [hquad, hgroup]

theorem head?_following (gs : List Nat) (hrest : EndsRun rest) :
    ∀ c ∈ (following ':' hexDigits gs ++ rest).head?, (hexDigit? c).isSome = false := by
  intro c hc
  cases gs with
  | cons g gs =>
    cases hc
    decide
  | nil =>
    rcases hrest with rfl | ⟨more, rfl⟩ <;> cases hc
    decide

theorem groupRun_cons {first : Bool} {cs : List Char} {g : Nat} (hg : g < 65536)
    (hcs : behindColon? first cs = some (hexDigits g ++ (following ':' hexDigits gs ++ rest)))
    (hrest : EndsRun rest) (hdot : '.' ∉ hexDigits g ++ (following ':' hexDigits gs ++ rest))
    (hrun : '.' ∉ following ':' hexDigits gs ++ rest →
      groupRun false room (following ':' hexDigits gs ++ rest) = (gs, false, rest)) :
    groupRun first (room + 1) cs = (g :: gs, false, rest) := by
  have hgroup := group?_hexDigits hg (head?_following gs hrest)
  have hmore := hrun fun hmem => hdot (List.mem_append_right (hexDigits g) hmem)
  rw [groupRun_succ hcs (quad?_eq_none hdot) hgroup, hmore]

theorem groupRun_following (hlength : gs.length ≤ room) (hgs : ∀ g ∈ gs, g < 65536)
    (hrest : EndsRun rest) (hdot : '.' ∉ following ':' hexDigits gs ++ rest) :
    groupRun false room (following ':' hexDigits gs ++ rest) = (gs, false, rest) := by
  induction gs generalizing room with
  | nil => exact hrest.groupRun_eq hdot false
  | cons g gs ih =>
    obtain ⟨room, rfl⟩ : ∃ k, room = k + 1 := ⟨room - 1, by rw [List.length_cons] at hlength; omega⟩
    have htext : following ':' hexDigits (g :: gs) ++ rest =
        ':' :: (hexDigits g ++ (following ':' hexDigits gs ++ rest)) := by
      simp [following]
    rw [htext] at hdot ⊢
    apply groupRun_cons (hgs g List.mem_cons_self) rfl hrest
    · exact fun hmem => hdot (List.mem_cons_of_mem ':' hmem)
    · exact ih (Nat.le_of_succ_le_succ hlength) fun m hm => hgs m (List.mem_cons_of_mem g hm)

theorem groupRun_groupsText (hlength : gs.length ≤ room) (hgs : ∀ g ∈ gs, g < 65536)
    (hrest : EndsRun rest) (hdot : '.' ∉ groupsText gs ++ rest) :
    groupRun true room (groupsText gs ++ rest) = (gs, false, rest) := by
  cases gs with
  | nil => exact hrest.groupRun_eq hdot true
  | cons g gs =>
    obtain ⟨room, rfl⟩ : ∃ k, room = k + 1 := ⟨room - 1, by rw [List.length_cons] at hlength; omega⟩
    have htext : groupsText (g :: gs) ++ rest =
        hexDigits g ++ (following ':' hexDigits gs ++ rest) := by
      rw [groupsText, intercalate_eq, List.append_assoc]
    rw [htext] at hdot ⊢
    apply groupRun_cons (hgs g List.mem_cons_self) rfl hrest hdot
    exact groupRun_following (Nat.le_of_succ_le_succ hlength)
      (fun m hm => hgs m (List.mem_cons_of_mem g hm)) hrest

theorem mem_groupsText {c : Char} (h : c ∈ groupsText gs) : (hexDigit? c).isSome ∨ c = ':' := by
  rcases mem_of_mem_intercalate h with h | ⟨g, h⟩
  · exact .inr h
  · exact .inl (isHexDigit_of_mem_hexDigits c h)

end DhcpLeases.Address
