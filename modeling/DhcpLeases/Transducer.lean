namespace DhcpLeases.Transducer

variable {σ α β : Type}

/-- One step of a run whose output so far is kept newest first. -/
def feed (step : σ → α → σ × List β) (p : σ × List β) (x : α) : σ × List β :=
  let q := step p.1 x
  (q.1, q.2.reverseAux p.2)

/-- The state after all of the input and the output in order. -/
def run (step : σ → α → σ × List β) (s : σ) (xs : List α) : σ × List β :=
  let p := xs.foldl (feed step) (s, [])
  (p.1, p.2.reverse)

theorem foldl_feed (step : σ → α → σ × List β) (s : σ) (out : List β) (xs : List α) :
    xs.foldl (feed step) (s, out) =
      ((run step s xs).1, (run step s xs).2.reverse ++ out) := by
  induction xs generalizing s out with
  | nil => rfl
  | cons x xs ih =>
    have h := ih (step s x).1 ((step s x).2.reverseAux [])
    simp only [run, List.foldl_cons, feed] at h ⊢
    rw [ih, h]
    simp [run, List.reverseAux_eq]

@[simp] theorem run_nil (step : σ → α → σ × List β) (s : σ) : run step s [] = (s, []) :=
  rfl

theorem run_cons (step : σ → α → σ × List β) (s : σ) (x : α) (xs : List α) :
    run step s (x :: xs) =
      ((run step (step s x).1 xs).1, (step s x).2 ++ (run step (step s x).1 xs).2) := by
  have h := foldl_feed step (step s x).1 ((step s x).2.reverseAux []) xs
  show ((List.foldl (feed step) (feed step (s, []) x) xs).1, _) = _
  simp only [run, List.foldl_cons, feed] at h ⊢
  rw [h]
  simp [List.reverseAux_eq]

theorem run_append (step : σ → α → σ × List β) (s : σ) (xs ys : List α) :
    run step s (xs ++ ys) =
      ((run step (run step s xs).1 ys).1,
        (run step s xs).2 ++ (run step (run step s xs).1 ys).2) := by
  induction xs generalizing s with
  | nil => rfl
  | cons x xs ih => simp [run_cons, ih]

theorem run_flatMap {γ : Type} {step : σ → α → σ × List β} {s : σ} {read : γ → List α}
    {written : γ → List β} {xs : List γ} (h : ∀ x ∈ xs, run step s (read x) = (s, written x)) :
    run step s (xs.flatMap read) = (s, xs.flatMap written) := by
  induction xs with
  | nil => rfl
  | cons x xs ih =>
    rw [List.flatMap_cons, run_append, h x List.mem_cons_self,
      ih fun y hy => h y (List.mem_cons_of_mem x hy), List.flatMap_cons]

/-- What every step keeps of the state and says of its output holds of the output of a whole run. -/
theorem run_invariant {step : σ → α → σ × List β} (kept : σ → Prop) {said : β → Prop}
    (hstep : ∀ s x, kept s → kept (step s x).1 ∧ ∀ y ∈ (step s x).2, said y) {s : σ} (h : kept s)
    (xs : List α) : ∀ y ∈ (run step s xs).2, said y := by
  induction xs generalizing s with
  | nil => exact fun y hy => nomatch hy
  | cons x xs ih =>
    obtain ⟨hnext, hsaid⟩ := hstep s x h
    rw [run_cons]
    intro y hy
    rcases List.mem_append.1 hy with hy | hy
    · exact hsaid y hy
    · exact ih hnext y hy

/-- All that is written for an input that ends, when `finish` says what the last state still holds. -/
def output (step : σ → α → σ × List β) (finish : σ → List β) (s : σ) (xs : List α) : List β :=
  (run step s xs).2 ++ finish (run step s xs).1

theorem output_append (step : σ → α → σ × List β) (finish : σ → List β) (s : σ) (xs ys : List α) :
    output step finish s (xs ++ ys) =
      (run step s xs).2 ++ output step finish (run step s xs).1 ys := by
  rw [output, output, run_append, List.append_assoc]

end DhcpLeases.Transducer
