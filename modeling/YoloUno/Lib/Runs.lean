import Mathlib.Data.List.Induction
import Mathlib.Data.List.Infix

/-!
# Runs of a step function

A system is a step function `step : σ → ι → σ`; a run feeds it a finite list
of inputs. The rules are stated once here:

* `run_invariant` — what one step preserves, every run preserves;
* `run_invariant_along` — the same, when the step may use which inputs came
  before it and which run it is part of;
* `holds_throughout_iff` — the exact condition under which a property holds
  in every state of a run, from what one step does to it;
* `run_simulates` — two systems that read the same inputs, side by side;
* `run_traced` — a system each of whose steps is a run of another one.
-/

namespace Runs

variable {σ ι : Type*} (step : σ → ι → σ)

/-- The state reached from `s` by the inputs `xs`. -/
def run (s : σ) (xs : List ι) : σ := xs.foldl step s

@[simp] theorem run_nil (s : σ) : run step s [] = s := rfl

@[simp] theorem run_cons (s : σ) (x : ι) (xs : List ι) :
    run step s (x :: xs) = run step (step s x) xs := rfl

theorem run_append (s : σ) (xs ys : List ι) :
    run step s (xs ++ ys) = run step (run step s xs) ys :=
  List.foldl_append ..

@[simp] theorem run_concat (s : σ) (xs : List ι) (x : ι) :
    run step s (xs ++ [x]) = step (run step s xs) x := by
  rw [run_append, run_cons, run_nil]

variable {step}

/-- **Invariant rule.** A predicate of the start that every step preserves
holds after every run. -/
theorem run_invariant {Inv : σ → Prop} {s : σ} (h0 : Inv s)
    (hstep : ∀ t x, Inv t → Inv (step t x)) (xs : List ι) : Inv (run step s xs) := by
  induction xs generalizing s with
  | nil => exact h0
  | cons x xs ih => exact ih (hstep s x h0)

/-- The invariant rule with the inputs in view: the step hypothesis may use
that the inputs so far, and the one it takes, begin the run `xs`. -/
theorem run_invariant_along {Inv : List ι → σ → Prop} {s : σ} {xs : List ι}
    (h0 : Inv [] s)
    (hstep : ∀ pre x, pre ++ [x] <+: xs → Inv pre (run step s pre) →
      Inv (pre ++ [x]) (run step s (pre ++ [x]))) :
    ∀ pre, pre <+: xs → Inv pre (run step s pre) := by
  intro pre
  induction pre using List.reverseRecOn with
  | nil => intro _; exact h0
  | append_singleton pre x ih =>
    intro hpre
    have hshort : pre <+: xs := (List.prefix_append pre [x]).trans hpre
    exact hstep pre x hpre (ih hshort)

/--
**Exact condition along a run.** `Inv` strengthens `P`, a step that meets the
condition `C` keeps `Inv`, and a step between two states of `P` meets `C`.
Then `P` holds in every state of the run exactly when every step of it meets
`C`.
-/
theorem holds_throughout_iff {P Inv : σ → Prop} {C : σ → ι → Prop} {s : σ}
    {xs : List ι} (h0 : Inv s) (hP : ∀ t, Inv t → P t)
    (hstep : ∀ pre x, pre ++ [x] <+: xs → Inv (run step s pre) →
      C (run step s pre) x → Inv (step (run step s pre) x))
    (hconv : ∀ pre x, pre ++ [x] <+: xs → P (run step s pre) →
      P (step (run step s pre) x) → C (run step s pre) x) :
    (∀ pre, pre <+: xs → P (run step s pre)) ↔
      ∀ pre x, pre ++ [x] <+: xs → C (run step s pre) x := by
  constructor
  · -- two neighbouring states of the run have `P`
    intro hall pre x hpre
    have hshort : pre <+: xs := (List.prefix_append pre [x]).trans hpre
    refine hconv pre x hpre (hall pre hshort) ?_
    rw [← run_concat step s pre x]
    exact hall _ hpre
  · -- the invariant is kept from the start on, and gives `P` at the end
    intro hC pre hpre
    have hInv : ∀ pre, pre <+: xs → Inv (run step s pre) := by
      apply @run_invariant_along _ _ step (fun _ t => Inv t) s xs h0
      intro pre x hpre hInv
      show Inv (run step s (pre ++ [x]))
      rw [run_concat]
      exact hstep pre x hpre hInv (hC pre x hpre)
    exact hP _ (hInv pre hpre)

/-- **Simulation rule.** A relation between two systems that holds at the start
and that every common input preserves holds after every run of both. -/
theorem run_simulates {τ : Type*} {step' : τ → ι → τ} {Related : σ → τ → Prop} {s : σ} {t : τ}
    (h0 : Related s t)
    (hstep : ∀ s t x, Related s t → Related (step s x) (step' t x)) (xs : List ι) :
    Related (run step s xs) (run step' t xs) := by
  induction xs generalizing s t with
  | nil => exact h0
  | cons x xs ih => exact ih (hstep s t x h0)

/-- A condition on the inputs alone holds at every step of a run exactly when
it holds of every input. -/
theorem forall_step_iff {C : ι → Prop} {xs : List ι} :
    (∀ pre x, pre ++ [x] <+: xs → C x) ↔ ∀ x ∈ xs, C x := by
  constructor
  · intro h x hx
    obtain ⟨pre, post, rfl⟩ := List.append_of_mem hx
    exact h pre x ⟨post, by simp⟩
  · rintro h pre x ⟨post, rfl⟩
    exact h x (by simp)

/-! ## Systems within systems -/

/-- The inputs that the steps of a run hand to a part of the system, where
`label` says which ones a step hands over. -/
def trace {κ : Type*} (step : σ → ι → σ) (label : σ → ι → List κ) : σ → List ι → List κ
  | _, [] => []
  | s, x :: xs => label s x ++ trace step label (step s x) xs

theorem trace_append {κ : Type*} (label : σ → ι → List κ) (s : σ) (xs ys : List ι) :
    trace step label s (xs ++ ys) =
      trace step label s xs ++ trace step label (run step s xs) ys := by
  induction xs generalizing s with
  | nil => rfl
  | cons x xs ih =>
    show label s x ++ trace step label (step s x) (xs ++ ys) = _
    rw [ih, ← List.append_assoc]
    rfl

@[simp] theorem trace_concat {κ : Type*} (label : σ → ι → List κ) (s : σ) (xs : List ι) (x : ι) :
    trace step label s (xs ++ [x]) = trace step label s xs ++ label (run step s xs) x := by
  rw [trace_append]
  exact congrArg (_ ++ ·) (List.append_nil _)

/-- **A part of a system.** When every step leaves the part `f` as a run of
`part` over the inputs handed to it would, so does every run. -/
theorem run_traced {τ κ : Type*} {part : τ → κ → τ} {label : σ → ι → List κ} {f : σ → τ}
    (hstep : ∀ s x, f (step s x) = run part (f s) (label s x)) (s : σ) (xs : List ι) :
    f (run step s xs) = run part (f s) (trace step label s xs) := by
  induction xs generalizing s with
  | nil => rfl
  | cons x xs ih =>
    rw [run_cons, ih, hstep]
    exact (run_append part _ _ _).symm

end Runs
