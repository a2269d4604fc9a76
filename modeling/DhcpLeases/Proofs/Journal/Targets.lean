import DhcpLeases.Journal.Reading
import DhcpLeases.Proofs.Lease.Attributes

namespace DhcpLeases.Journal

open Time

/-- What a statement can write of a lease. -/
inductive Target where
  | start
  | stop
  | tstp
  | tsfp
  | atsfp
  | cltt
  | hardwareAddress
  | hostname
  | state
  | tag (name : String)
  deriving DecidableEq

inductive Value where
  | time (t : Option Instant)
  | text (s : String)
  | word (w : Option String)
  deriving DecidableEq

namespace Target

/-- Most targets are written by every statement that begins with their keyword, whatever follows. The state
takes three words and a tag takes four. -/
def isWrittenBy : Target → List String → Bool
  | start, words => words.head? = some "starts"
  | stop, words => words.head? = some "ends"
  | tstp, words => words.head? = some "tstp"
  | tsfp, words => words.head? = some "tsfp"
  | atsfp, words => words.head? = some "atsfp"
  | cltt, words => words.head? = some "cltt"
  | hardwareAddress, words => words.head? = some "hardware"
  | hostname, words => words.head? = some "client-hostname"
  | state, words => words.dropLast = ["binding", "state"]
  | tag name, words => words.dropLast = ["set", name, "="]

def said : Target → List String → Value
  | start, words | stop, words => .time (moment? words.tail)
  | tstp, words | tsfp, words | atsfp, words | cltt, words => .text (joined words.tail)
  | hardwareAddress, words => .word words[2]?
  | hostname, words => .word words[1]?
  | state, words | tag _, words => .word words.getLast?

def unsaid : Target → Value
  | start | stop => .time none
  | tstp | tsfp | atsfp | cltt => .text ""
  | hardwareAddress | hostname | state | tag _ => .word none

/-- The value that the last statement writing a target says. -/
def last (t : Target) (statements : List (List String)) : Value :=
  ((statements.filter t.isWrittenBy).getLast?.map t.said).getD t.unsaid

end Target

def Draft.value (d : Draft) : Target → Value
  | .start => .time d.start
  | .stop => .time d.stop
  | .tstp => .text d.tstp
  | .tsfp => .text d.tsfp
  | .atsfp => .text d.atsfp
  | .cltt => .text d.cltt
  | .hardwareAddress => .word d.hardwareAddress
  | .hostname => .word d.hostname
  | .state => .word d.state
  | .tag name => .word (d.attributes.get? name)

def Clause.target : Clause → Target
  | starts _ => .start
  | ends _ => .stop
  | tstp _ => .tstp
  | tsfp _ => .tsfp
  | atsfp _ => .atsfp
  | cltt _ => .cltt
  | binding _ => .state
  | hardware _ => .hardwareAddress
  | hostname _ => .hostname
  | tag name _ => .tag name

def Clause.value : Clause → Value
  | starts t | ends t => .time t
  | tstp s | tsfp s | atsfp s | cltt s => .text s
  | binding state => .word (some state)
  | hardware address => .word address
  | hostname name => .word name
  | tag _ value => .word (some value)

theorem Draft.value_add (d : Draft) (c : Clause) (t : Target) :
    (d.add c).value t = if t = c.target then c.value else d.value t := by
  cases c with
  | tag name text =>
    cases t with
    | tag key =>
      simp only [Draft.value, add, Attributes.get?_insert, Clause.target, Target.tag.injEq, Clause.value]
      split <;> rfl
    | _ => rfl
  | _ => cases t <;> rfl

theorem eq_append_of_dropLast_eq {words front : List String} (h : words.dropLast = front)
    (hfront : front ≠ []) : ∃ last, words = front ++ [last] := by
  subst h
  have hwords : words ≠ [] := by
    rintro rfl
    exact hfront rfl
  exact ⟨words.getLast hwords, (List.dropLast_concat_getLast hwords).symm⟩

theorem exists_clause {t : Target} {words : List String} (h : t.isWrittenBy words) :
    ∃ c, Clause.ofWords? words = some c ∧ c.target = t ∧ c.value = t.said words := by
  cases t with
  | state =>
    obtain ⟨last, rfl⟩ := eq_append_of_dropLast_eq (of_decide_eq_true h) (by decide)
    exact ⟨_, rfl, rfl, rfl⟩
  | tag name =>
    obtain ⟨last, rfl⟩ := eq_append_of_dropLast_eq (of_decide_eq_true h) (List.cons_ne_nil _ _)
    exact ⟨_, rfl, rfl, rfl⟩
  | hostname =>
    obtain ⟨rest, rfl⟩ := List.head?_eq_some_iff.1 (of_decide_eq_true h)
    exact ⟨_, rfl, rfl, congrArg Value.word List.head?_eq_getElem?⟩
  | _ =>
    obtain ⟨rest, rfl⟩ := List.head?_eq_some_iff.1 (of_decide_eq_true h)
    exact ⟨_, rfl, rfl, rfl⟩

theorem isWrittenBy_of_ofWords? {words : List String} {c : Clause} (h : Clause.ofWords? words = some c) :
    c.target.isWrittenBy words := by
  cases words with
  | nil => cases h
  | cons keyword rest =>
    rw [Clause.ofWords?] at h
    revert h
    fun_cases Clause.of? keyword rest
    -- a keyword that is none, or one with words that do not go with it
    case case8 | case9 | case13 | case14 | case15 => nofun
    all_goals
      rintro ⟨⟩
      subst keyword
      simp [Clause.target, Target.isWrittenBy]

theorem Draft.value_read (d : Draft) (words : List String) (t : Target) :
    (d.read words).value t = if t.isWrittenBy words then t.said words else d.value t := by
  split
  · next ht =>
    obtain ⟨c, hclause, htarget, hvalue⟩ := exists_clause ht
    have hread : d.read words = d.add c := by rw [read, hclause]
    rw [hread, value_add, if_pos htarget.symm, hvalue]
  · next ht =>
    cases hclause : Clause.ofWords? words with
    | none => rw [read, hclause]
    | some c =>
      have hread : d.read words = d.add c := by rw [read, hclause]
      have hne : t ≠ c.target := by
        rintro rfl
        exact ht (isWrittenBy_of_ofWords? hclause)
      rw [hread, value_add, if_neg hne]

theorem described_value (d : Draft) (body : List Statement) (t : Target) :
    (described d body).value t =
      (((body.map Statement.words).filter t.isWrittenBy).getLast?.map t.said).getD (d.value t) := by
  induction body generalizing d with
  | nil => rfl
  | cons s body ih =>
    have hcons : described d (s :: body) = described (d.read s.words) body := rfl
    rw [hcons, ih, Draft.value_read, List.map_cons, List.filter_cons]
    split
    · rw [List.getLast?_cons]
      cases ((body.map Statement.words).filter t.isWrittenBy).getLast? <;> rfl
    · rfl

theorem described_lines_value (xs : List (List String)) (t : Target) :
    (described .empty (xs.map .line)).value t = t.last xs := by
  have hwords : (xs.map Statement.line).map Statement.words = xs := by
    rw [List.map_map]
    exact List.map_id xs
  have hunsaid : Draft.empty.value t = t.unsaid := by cases t <;> rfl
  rw [described_value, hwords, hunsaid]
  rfl

theorem Draft.ext_value {d d' : Draft} (h : ∀ t, d.value t = d'.value t) : d = d' := by
  have htime {x y : Option Instant} (h : Value.time x = .time y) : x = y := by injection h
  have htext {x y : String} (h : Value.text x = .text y) : x = y := by injection h
  have hword {x y : Option String} (h : Value.word x = .word y) : x = y := by injection h
  have hattributes : d.attributes = d'.attributes := Attributes.ext_get? fun name => hword (h (.tag name))
  cases d
  cases d'
  simp only [Draft.mk.injEq]
  exact ⟨hword (h .hardwareAddress), hword (h .hostname), hword (h .state), htime (h .start),
    htime (h .stop), hattributes, htext (h .tstp), htext (h .tsfp), htext (h .atsfp), htext (h .cltt)⟩

end DhcpLeases.Journal
