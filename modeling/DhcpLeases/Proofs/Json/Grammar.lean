import DhcpLeases.Lease.Json
import DhcpLeases.Pool.Usage
import DhcpLeases.Proofs.Json.Values

namespace DhcpLeases

namespace Json

open Text

def IsGap (cs : List Char) : Prop :=
  ∀ c ∈ cs, isSpace c

inductive SpellsChar : List Char → Prop
  | plain {c : Char} (hcontrol : 0x20 ≤ c.toNat) (hquote : c ≠ '"') (hbackslash : c ≠ '\\') :
      SpellsChar [c]
  | letter {c : Char} (h : c ∈ ['"', '\\', '/', 'b', 'f', 'n', 'r', 't']) : SpellsChar ['\\', c]
  | number {c₁ c₂ c₃ c₄ : Char} (h : ∀ c ∈ [c₁, c₂, c₃, c₄], (Address.hexDigit? c).isSome) :
      SpellsChar ['\\', 'u', c₁, c₂, c₃, c₄]

inductive IsString : List Char → Prop
  | quoted {chars : List (List Char)} (h : ∀ cs ∈ chars, SpellsChar cs) :
      IsString ('"' :: (chars.flatten ++ ['"']))

def IsDigits (cs : List Char) : Prop :=
  cs ≠ [] ∧ ∀ c ∈ cs, Decimal.isDigit c

inductive IsWhole : List Char → Prop
  | zero : IsWhole ['0']
  | digits {cs : List Char} (h : IsDigits cs) (hhead : cs.head? ≠ some '0') : IsWhole cs

inductive IsFraction : List Char → Prop
  | none : IsFraction []
  | digits {cs : List Char} (h : IsDigits cs) : IsFraction ('.' :: cs)

inductive IsExponent : List Char → Prop
  | none : IsExponent []
  | digits {letter : Char} {sign cs : List Char} (hletter : letter ∈ ['e', 'E'])
      (hsign : sign ∈ [[], ['+'], ['-']]) (h : IsDigits cs) : IsExponent (letter :: (sign ++ cs))

inductive IsNumber : List Char → Prop
  | parts {sign whole fraction exponent : List Char} (hsign : sign ∈ [[], ['-']])
      (hwhole : IsWhole whole) (hfraction : IsFraction fraction) (hexponent : IsExponent exponent) :
      IsNumber (sign ++ whole ++ fraction ++ exponent)

/-- One item or more, with a comma between each two. -/
inductive Joined (IsItem : List Char → Prop) : List Char → Prop
  | last {item : List Char} (h : IsItem item) : Joined IsItem item
  | cons {item rest : List Char} (h : IsItem item) (hrest : Joined IsItem rest) :
      Joined IsItem (item ++ ',' :: rest)

/-- Items between brackets, or white space if there are none. -/
inductive Bracketed (opening closing : Char) (IsItem : List Char → Prop) : List Char → Prop
  | empty {gap : List Char} (hgap : IsGap gap) :
      Bracketed opening closing IsItem (opening :: (gap ++ [closing]))
  | items {cs : List Char} (h : Joined IsItem cs) :
      Bracketed opening closing IsItem (opening :: (cs ++ [closing]))

mutual

inductive IsValue : List Char → Prop
  | null : IsValue ['n', 'u', 'l', 'l']
  | true : IsValue ['t', 'r', 'u', 'e']
  | false : IsValue ['f', 'a', 'l', 's', 'e']
  | number {cs : List Char} (h : IsNumber cs) : IsValue cs
  | string {cs : List Char} (h : IsString cs) : IsValue cs
  | array {cs : List Char} (h : Bracketed '[' ']' IsElement cs) : IsValue cs
  | object {cs : List Char} (h : Bracketed '\x7b' '\x7d' IsMember cs) : IsValue cs

inductive IsElement : List Char → Prop
  | spaced {before cs after : List Char} (hbefore : IsGap before) (h : IsValue cs)
      (hafter : IsGap after) : IsElement (before ++ cs ++ after)

inductive IsMember : List Char → Prop
  | named {before name between cs : List Char} (hbefore : IsGap before) (hname : IsString name)
      (hbetween : IsGap between) (h : IsElement cs) :
      IsMember (before ++ name ++ between ++ ':' :: cs)

end

def IsArray (cs : List Char) : Prop :=
  Bracketed '[' ']' IsElement cs

theorem spellsChar_escape (c : Char) : SpellsChar (escape c) := by
  rcases escape_cases c with ⟨e, he, -, hc⟩ | ⟨hcontrol, hc⟩ | ⟨hquote, hbackslash, hplain, hc⟩
  · rw [hc]
    exact .letter he
  · have hhigh := hexDigit?_hexDigit (c.toNat / 16) (by omega)
    have hlow := hexDigit?_hexDigit (c.toNat % 16) (by omega)
    rw [hc]
    apply SpellsChar.number
    simp only [List.forall_mem_cons, hhigh, hlow]
    exact ⟨rfl, rfl, rfl, rfl, List.forall_mem_nil _⟩
  · rw [hc]
    exact .plain hplain hquote hbackslash

theorem isString_quotedText (cs : List Char) : IsString (quotedText cs) := by
  rw [quotedText, List.flatMap_def]
  apply IsString.quoted
  intro item hitem
  obtain ⟨c, -, rfl⟩ := List.mem_map.1 hitem
  exact spellsChar_escape c

theorem isWhole_digits (n : Nat) : IsWhole (Decimal.digits n) := by
  have hdigits : IsDigits (Decimal.digits n) :=
    ⟨Decimal.digits_ne_nil n, Decimal.isDigit_of_mem_digits⟩
  rcases Nat.eq_zero_or_pos n with rfl | hn
  · rw [Decimal.digits]
    exact .zero
  · exact .digits hdigits (Decimal.head?_digits hn)

theorem IsWhole.isNumber {sign cs : List Char} (h : IsWhole cs) (hsign : sign ∈ [[], ['-']]) :
    IsNumber (sign ++ cs) := by
  have hparts := IsNumber.parts hsign h .none .none
  rwa [List.append_nil, List.append_nil] at hparts

namespace Printed

/-- The text of a value keeps to the grammar wherever it stands. -/
def IsWellFormed (p : Printed) : Prop :=
  ∀ layout depth, IsValue (p layout depth)

namespace IsWellFormed

theorem string (s : String) : (Printed.string s).IsWellFormed :=
  fun _ _ => .string (isString_quotedText s.toList)

theorem natural (n : Nat) : (Printed.natural n).IsWellFormed :=
  fun _ _ => .number ((isWhole_digits n).isNumber List.mem_cons_self)

theorem integer (n : Int) : (Printed.integer n).IsWellFormed := by
  intro _ _
  have hwhole := isWhole_digits n.natAbs
  rw [Printed.integer, Decimal.signed]
  split
  · exact .number (@IsWhole.isNumber ['-'] _ hwhole (by decide))
  · exact .number (hwhole.isNumber List.mem_cons_self)

theorem null : Printed.null.IsWellFormed :=
  fun _ _ => .null

theorem option {α : Type} {print : α → Printed} (h : ∀ a, (print a).IsWellFormed) (o : Option α) :
    (Printed.option print o).IsWellFormed := by
  cases o with
  | none => exact null
  | some a => exact h a

end IsWellFormed

theorem isGap_nil : IsGap [] :=
  List.forall_mem_nil _

theorem isGap_lineBreak (layout : Layout) (depth : Nat) : IsGap (lineBreak layout depth) := by
  intro c hc
  cases layout with
  | compact => cases hc
  | indented =>
    rcases List.mem_cons.1 hc with rfl | hc
    · rfl
    · rw [List.eq_of_mem_replicate hc]
      rfl

/-- A printed text is an item of some kind, with any white space before and behind it. -/
def IsItem (IsKind : List Char → Prop) (p : Printed) : Prop :=
  ∀ layout depth {before after}, IsGap before → IsGap after →
    IsKind (before ++ p layout depth ++ after)

variable {IsKind : List Char → Prop} {ps : List Printed}

theorem joined_further {layout : Layout} {depth : Nat} {after : List Char} (hafter : IsGap after)
    {p : Printed} (h : ∀ q ∈ p :: ps, q.IsItem IsKind) :
    Joined IsKind (lineBreak layout depth ++ p layout depth ++ further layout depth ps ++ after) := by
  have hbreak := isGap_lineBreak layout depth
  obtain ⟨hp, hps⟩ := List.forall_mem_cons.1 h
  induction ps generalizing p with
  | nil =>
    rw [further, List.append_nil]
    exact .last (hp layout depth hbreak hafter)
  | cons q ps ih =>
    obtain ⟨hq, hrest⟩ := List.forall_mem_cons.1 hps
    have hitem := hp layout depth hbreak isGap_nil
    have hjoined := Joined.cons hitem (ih hps hq hrest)
    rw [List.append_nil] at hjoined
    rw [further]
    simpa only [List.append_assoc, List.cons_append] using hjoined

theorem bracketed_enclosed (opening closing : Char) (h : ∀ p ∈ ps, p.IsItem IsKind)
    (layout : Layout) (depth : Nat) :
    Bracketed opening closing IsKind (enclosed opening closing ps layout depth) := by
  cases ps with
  | nil => exact .empty isGap_nil
  | cons p ps => exact .items (joined_further (isGap_lineBreak layout depth) h)

theorem IsWellFormed.isItem {p : Printed} (h : p.IsWellFormed) : p.IsItem IsElement :=
  fun layout depth _ _ hbefore hafter => .spaced hbefore (h layout depth) hafter

theorem isItem_member {m : String × Printed} (h : m.2.IsWellFormed) :
    (member m).IsItem IsMember := by
  intro layout depth before after hbefore hafter
  have hname := isString_quotedText m.1.toList
  cases layout with
  | compact =>
    have hvalue := h.isItem .compact depth isGap_nil hafter
    have hmember := IsMember.named hbefore hname isGap_nil hvalue
    simpa [member] using hmember
  | indented =>
    have hspace : IsGap [' '] := List.forall_mem_singleton.2 rfl
    have hvalue := h.isItem .indented depth hspace hafter
    have hmember := IsMember.named hbefore hname isGap_nil hvalue
    simpa [member] using hmember

theorem isArray_array (h : ∀ p ∈ ps, p.IsWellFormed) (layout : Layout) (depth : Nat) :
    IsArray (array ps layout depth) :=
  bracketed_enclosed '[' ']' (fun p hp => (h p hp).isItem) layout depth

theorem IsWellFormed.object {ms : List (String × Printed)} (h : ∀ m ∈ ms, m.2.IsWellFormed) :
    (object ms).IsWellFormed := by
  intro layout depth
  apply IsValue.object
  apply bracketed_enclosed
  intro p hp
  obtain ⟨m, hm, rfl⟩ := List.mem_map.1 hp
  exact isItem_member (h m hm)

end Printed

end Json

open Json.Printed

theorem ListedLease.isWellFormed_print (l : ListedLease) : l.print.IsWellFormed := by
  have hstring := IsWellFormed.string
  have hoption := IsWellFormed.option hstring
  apply IsWellFormed.object
  simp only [List.forall_mem_cons]
  exact ⟨hstring _, hoption _, hstring _, hstring _, hstring _, hstring _, hstring _, hoption _,
    hstring _, hstring _, hstring _, hstring _, List.forall_mem_nil _⟩

theorem PoolUsage.isWellFormed_print (u : PoolUsage) : u.print.IsWellFormed := by
  apply IsWellFormed.object
  simp only [List.forall_mem_cons]
  exact ⟨.string _, .natural _, .natural _, .integer _, .natural _, List.forall_mem_nil _⟩

end DhcpLeases
