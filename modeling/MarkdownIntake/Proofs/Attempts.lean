/-!
This module contains runs of steps that may fail. A step that fails leaves the state as it was, and the
run goes on.
-/

namespace MarkdownIntake

variable {ι σ τ ε δ : Type}

def attempt (step : σ → ι → Except ε σ) (state : σ) (item : ι) : Option ε × σ :=
  match step state item with
  | .ok next => (none, next)
  | .error error => (some error, state)

def attempts (step : σ → ι → Except ε σ) : σ → List ι → List (Option ε) × σ
  | state, [] => ([], state)
  | state, item :: rest =>
    let (error?, next) := attempt step state item
    let (errors, last) := attempts step next rest
    (error? :: errors, last)

@[simp]
theorem attempt_of_ok {step : σ → ι → Except ε σ} {state next : σ} {item : ι}
    (h : step state item = .ok next) : attempt step state item = (none, next) := by
  simp [attempt, h]

@[simp]
theorem attempt_of_error {step : σ → ι → Except ε σ} {state : σ} {item : ι} {error : ε}
    (h : step state item = .error error) : attempt step state item = (some error, state) := by
  simp [attempt, h]

theorem attempts_append (step : σ → ι → Except ε σ) (state : σ) (items others : List ι) :
    (attempts step state (items ++ others)).2
      =
    (attempts step (attempts step state items).2 others).2 := by
  induction items generalizing state with
  | nil => rfl
  | cons item rest ih => exact ih _

/-- Two runs correspond as long as each step keeps what is said of the states and of the items to come. -/
theorem attempts_refine {step : σ → ι → Except ε σ} {step' : τ → ι → Except δ τ} {f : δ → ε}
    {R : List ι → σ → τ → Prop}
    (hstep : ∀ item rest s t, R (item :: rest) s t →
      (attempt step s item).1 = (attempt step' t item).1.map f
        ∧ R rest (attempt step s item).2 (attempt step' t item).2)
    {items : List ι} {s : σ} {t : τ} (h : R items s t) :
    (attempts step s items).1 = (attempts step' t items).1.map (Option.map f)
      ∧ R [] (attempts step s items).2 (attempts step' t items).2 := by
  -- The two runs go on from states that correspond, whether the step was made or has failed.
  induction items generalizing s t with
  | nil => exact ⟨rfl, h⟩
  | cons item rest ih =>
    obtain ⟨herror, hnext⟩ := hstep item rest s t h
    obtain ⟨herrors, hlast⟩ := ih hnext
    refine ⟨?_, hlast⟩
    simp only [attempts, List.map_cons]
    rw [herror, herrors]

end MarkdownIntake
