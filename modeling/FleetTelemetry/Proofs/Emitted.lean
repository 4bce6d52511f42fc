/-
# What a run emits

A system goes from state to state by events, and each step may emit something.
Put together in their order, these are what the run emits. What holds between a
state and all that has been emitted up to it follows from one step.

Key definitions: `emitted`.
Key theorems: `emitted_append`, `emitted_concat`, `emitted_invariant`.
-/
import Mathlib.Data.List.Induction

namespace FleetTelemetry

variable {σ ε β : Type}

/-- Everything that the steps of a run emit, in their order. -/
def emitted (step : σ → ε → σ) (emit : σ → ε → List β) : σ → List ε → List β
  | _, [] => []
  | s, e :: es => emit s e ++ emitted step emit (step s e) es

variable {step : σ → ε → σ} {emit : σ → ε → List β}

theorem emitted_nil (s : σ) : emitted step emit s [] = [] := rfl

theorem emitted_cons (s : σ) (e : ε) (es : List ε) :
    emitted step emit s (e :: es) = emit s e ++ emitted step emit (step s e) es := rfl

theorem emitted_append (s : σ) (es es' : List ε) :
    emitted step emit s (es ++ es') =
      emitted step emit s es ++ emitted step emit (es.foldl step s) es' := by
  induction es generalizing s with
  | nil => rfl
  | cons e es ih =>
    rw [List.cons_append, emitted_cons, ih, emitted_cons, List.append_assoc]
    rfl

theorem emitted_concat (s : σ) (es : List ε) (e : ε) :
    emitted step emit s (es ++ [e]) = emitted step emit s es ++ emit (es.foldl step s) e := by
  rw [emitted_append, emitted_cons, emitted_nil, List.append_nil]

/-- What every step preserves, a run preserves. -/
theorem emitted_invariant {P : σ → List β → Prop}
    (hstep : ∀ s out e, P s out → P (step s e) (out ++ emit s e)) {s : σ} (h : P s [])
    (es : List ε) : P (es.foldl step s) (emitted step emit s es) := by
  induction es using List.reverseRecOn with
  | nil => exact h
  | append_singleton es e ih =>
    rw [List.foldl_append, emitted_concat]
    exact hstep _ _ e ih

end FleetTelemetry
