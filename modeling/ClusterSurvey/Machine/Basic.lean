/-!
# Machines and their runs

A machine has a step function that says what an event makes of a state, if it can happen there.  A
run is a sequence of events that happen one after the other; what each of them yields adds up to a
history.
-/

namespace ClusterSurvey.Machine

variable {σ ε α : Type}

/-- The state after several events, if they can happen one after the other. -/
def run? (step? : σ → ε → Option σ) : σ → List ε → Option σ
  | s, [] => some s
  | s, e :: es => (step? s e).bind fun s => run? step? s es

/-- What the events of a run yield, in their order. -/
def history (step? : σ → ε → Option σ) (yield : σ → ε → List α) : σ → List ε → List α
  | _, [] => []
  | s, e :: es =>
    match step? s e with
    | some s' => yield s e ++ history step? yield s' es
    | none => []

/-- Whether every event of a run is of some kind, in the state in which it happens. -/
def Along (step? : σ → ε → Option σ) (P : σ → ε → Prop) : σ → List ε → Prop
  | _, [] => True
  | s, e :: es => P s e ∧ ∀ s', step? s e = some s' → Along step? P s' es

variable {step? : σ → ε → Option σ}

instance Along.decidable {P : σ → ε → Prop} [∀ s e, Decidable (P s e)] (s : σ) (es : List ε) :
    Decidable (Along step? P s es) :=
  match es with
  | [] => .isTrue trivial
  | e :: es =>
    match hs : step? s e with
    | some s' =>
      have : Decidable (Along step? P s' es) := Along.decidable s' es
      decidable_of_iff (P s e ∧ Along step? P s' es) (by simp [Along, hs])
    | none => decidable_of_iff (P s e) (by simp [Along, hs])

/-- A run in two parts goes through the state between them. -/
theorem run?_append (s : σ) (es es' : List ε) :
    run? step? s (es ++ es') = (run? step? s es).bind fun t => run? step? t es' := by
  induction es generalizing s with
  | nil => rfl
  | cons e es ih =>
    simp only [List.cons_append, run?, Option.bind_assoc]
    congr 1
    funext t
    exact ih t

/-- The last event of a run happens in the state that the others lead to. -/
theorem run?_concat (s : σ) (es : List ε) (e : ε) :
    run? step? s (es ++ [e]) = (run? step? s es).bind fun t => step? t e := by
  rw [run?_append]
  congr 1
  funext t
  simp [run?]

/-- The history of a run in two parts. -/
theorem history_append (yield : σ → ε → List α) {s t : σ} {es : List ε} (es' : List ε)
    (h : run? step? s es = some t) :
    history step? yield s (es ++ es') =
      history step? yield s es ++ history step? yield t es' := by
  induction es generalizing s with
  | nil =>
    cases h
    rfl
  | cons e es ih =>
    obtain ⟨s', hs, ht⟩ := Option.bind_eq_some_iff.mp h
    simp only [List.cons_append, history, hs, List.append_assoc]
    rw [ih ht]

/-- What the last event of a run adds to its history. -/
theorem history_concat (yield : σ → ε → List α) {s t u : σ} {es : List ε} {e : ε}
    (h : run? step? s es = some t) (he : step? t e = some u) :
    history step? yield s (es ++ [e]) = history step? yield s es ++ yield t e := by
  rw [history_append yield [e] h]
  simp [history, he]

/-- The last event of a run happens in the state that the others lead to, and is of the same kind. -/
theorem along_concat {P : σ → ε → Prop} {s t : σ} {es : List ε} {e : ε}
    (h : run? step? s es = some t) :
    Along step? P s (es ++ [e]) ↔ Along step? P s es ∧ P t e := by
  induction es generalizing s with
  | nil =>
    cases h
    simp [Along]
  | cons a es ih =>
    obtain ⟨s', hs, ht⟩ := Option.bind_eq_some_iff.mp h
    simp only [List.cons_append, Along, hs, Option.some.injEq, forall_eq', ih ht, and_assoc]

/-- Events that are of a kind in every state are so along every run. -/
theorem along_of_forall {P : σ → ε → Prop} {s : σ} {es : List ε} (h : ∀ e ∈ es, ∀ s, P s e) :
    Along step? P s es := by
  induction es generalizing s with
  | nil => trivial
  | cons e es ih =>
    refine ⟨h e List.mem_cons_self s, fun s' _ => ih fun a ha => ?_⟩
    exact h a (List.mem_cons_of_mem e ha)

/-- Events that are of a kind wherever a run comes to them are so along the run. -/
theorem along_of_split {P : σ → ε → Prop} {s : σ} {es : List ε}
    (h : ∀ before e after t, es = before ++ e :: after → run? step? s before = some t → P t e) :
    Along step? P s es := by
  induction es generalizing s with
  | nil => trivial
  | cons a es ih =>
    refine ⟨h [] a es s rfl rfl, fun s' hs => ih fun before e after t hsplit ht => ?_⟩
    refine h (a :: before) e after t (by rw [hsplit, List.cons_append]) ?_
    rw [run?, hs]
    exact ht

/-- Events that are of a kind are also of every wider one. -/
theorem Along.imp {P Q : σ → ε → Prop} {s : σ} {es : List ε} (h : ∀ s e, P s e → Q s e)
    (along : Along step? P s es) : Along step? Q s es := by
  induction es generalizing s with
  | nil => trivial
  | cons e es ih => exact ⟨h s e along.1, fun s' hs => ih (along.2 s' hs)⟩

/-- What holds at the start of a run and is kept by each further event holds at its end. -/
theorem run?_induction {s₀ : σ} {P : List ε → σ → Prop} (start : P [] s₀)
    (step : ∀ es s e s', run? step? s₀ es = some s → P es s → step? s e = some s' →
      P (es ++ [e]) s')
    {es : List ε} {s : σ} (h : run? step? s₀ es = some s) : P es s := by
  suffices ∀ n (es : List ε) (s : σ), es.length = n → run? step? s₀ es = some s → P es s from
    this es.length es s rfl h
  intro n
  induction n with
  | zero =>
    intro es s hn hr
    obtain rfl := List.eq_nil_of_length_eq_zero hn
    cases hr
    exact start
  | succ n ih =>
    intro es s hn hr
    have hne : es ≠ [] := by
      rintro rfl
      exact Nat.succ_ne_zero n hn.symm
    rw [← List.dropLast_concat_getLast hne, run?_concat] at hr
    obtain ⟨t, ht, he⟩ := Option.bind_eq_some_iff.mp hr
    rw [← List.dropLast_concat_getLast hne]
    refine step _ t _ s ht (ih _ t ?_ ht) he
    rw [List.length_dropLast, hn]
    rfl

end ClusterSurvey.Machine
