import DhcpLeases.Journal.Statement

namespace DhcpLeases.Journal

open Transducer (run)

/-- Tokens that the builder makes into statements without a remark, whatever blocks are open. -/
structure Builds (ts : List Token) (ss : List Statement) : Prop where
  top : run Builder.step .empty ts = (.empty, ss.map .statement)
  inside : ∀ frame frames, run Builder.step ⟨[], frame :: frames⟩ ts =
    (⟨[], ⟨frame.header, ss.reverse ++ frame.body⟩ :: frames⟩, [])

theorem Builder.run_map_word (ws acc : List String) (frames : List Frame) :
    run Builder.step ⟨acc, frames⟩ (ws.map .word) = (⟨ws.reverse ++ acc, frames⟩, []) := by
  induction ws generalizing acc with
  | nil => rfl
  | cons w ws ih =>
    have hw : Builder.step ⟨acc, frames⟩ (.word w) = (⟨w :: acc, frames⟩, []) := rfl
    rw [List.map_cons, Transducer.run_cons, hw, ih]
    simp

variable {ts us : List Token} {ss : List Statement}

namespace Builds

theorem nil : Builds [] [] :=
  ⟨rfl, fun _ _ => rfl⟩

theorem append {ss' : List Statement} (h : Builds ts ss) (h' : Builds us ss') :
    Builds (ts ++ us) (ss ++ ss') := by
  constructor
  · rw [Transducer.run_append, h.top, h'.top, List.map_append]
  · intro frame frames
    rw [Transducer.run_append, h.inside, h'.inside, List.reverse_append, List.append_assoc]
    rfl

theorem flatMap {α : Type} {xs : List α} {read : α → List Token} {built : α → List Statement}
    (h : ∀ x ∈ xs, Builds (read x) (built x)) : Builds (xs.flatMap read) (xs.flatMap built) := by
  induction xs with
  | nil => exact nil
  | cons x xs ih =>
    exact (h x List.mem_cons_self).append (ih fun y hy => h y (List.mem_cons_of_mem x hy))

theorem of_complete {s : Statement} (h : ∀ frames, run Builder.step ⟨[], frames⟩ ts =
    (⟨[], (Builder.complete s frames).1⟩, (Builder.complete s frames).2)) : Builds ts [s] :=
  ⟨h [], fun frame frames => h (frame :: frames)⟩

theorem line {ws : List String} (hws : ws ≠ []) :
    Builds (ws.map .word ++ [.semicolon]) [.line ws] := by
  have hwords : ws.reverse ++ [] ≠ [] := by simpa using hws
  apply of_complete
  intro frames
  rw [Transducer.run_append, Builder.run_map_word, Transducer.run_cons, Builder.step, if_neg hwords]
  simp

theorem block (h : Builds ts ss) (header : List String) :
    Builds (header.map .word ++ [.openBrace] ++ ts ++ [.closeBrace]) [.block header ss] := by
  apply of_complete
  intro frames
  have hopen : run Builder.step ⟨[], frames⟩ (header.map .word ++ [.openBrace]) =
      (⟨[], ⟨header, []⟩ :: frames⟩, []) := by
    rw [Transducer.run_append, Builder.run_map_word]
    simp [Transducer.run_cons, Builder.step]
  have hclose : run Builder.step ⟨[], ⟨header, ss.reverse ++ []⟩ :: frames⟩ [.closeBrace] =
      (⟨[], (Builder.complete (.block header ss) frames).1⟩,
        (Builder.complete (.block header ss) frames).2) := by
    simp [Transducer.run_cons, Builder.step, Builder.close]
  rw [Transducer.run_append, Transducer.run_append, hopen, h.inside, hclose]
  rfl

theorem pieces_eq (h : Builds ts ss) : pieces ts = ss.map .statement := by
  rw [pieces, h.top]
  exact List.append_nil _

theorem statements_eq (h : Builds ts ss) : statements ts = ss := by
  rw [statements, h.pieces_eq, List.filterMap_map]
  exact List.filterMap_some

theorem remarks_eq (h : Builds ts ss) : remarks ts = [] := by
  rw [remarks, h.pieces_eq, List.filterMap_map]
  exact List.filterMap_eq_nil_iff.2 fun _ _ => rfl

end Builds

end DhcpLeases.Journal
