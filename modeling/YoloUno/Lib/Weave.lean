import YoloUno.Lib.Runs

/-!
# Runs with inputs inserted

A weave is a run with blocks of further inputs inserted between its own. It
stands for two runs at once: the one that reads everything (`woven`) and the
one that reads only its own inputs (`own`).

`run_related` carries a relation through both runs side by side: an own input
is read by both, a block only by the one that has it.
-/

namespace Weave

/-- An input of the run itself, or a block of inputs inserted at its place. -/
inductive Turn (ι : Type*)
  | own (x : ι)
  | extra (xs : List ι)

variable {σ ι : Type*}

/-- The inputs a turn stands for in the run that reads everything. -/
def Turn.inputs : Turn ι → List ι
  | .own x => [x]
  | .extra xs => xs

/-- The input a turn stands for in the run without the blocks. -/
def Turn.own? : Turn ι → Option ι
  | .own x => some x
  | .extra _ => none

def woven (w : List (Turn ι)) : List ι := w.flatMap Turn.inputs

def own (w : List (Turn ι)) : List ι := w.filterMap Turn.own?

theorem woven_concat (w : List (Turn ι)) (t : Turn ι) : woven (w ++ [t]) = woven w ++ t.inputs := by
  unfold woven
  rw [List.flatMap_append, List.flatMap_singleton]

@[simp] theorem own_concat_own (w : List (Turn ι)) (x : ι) : own (w ++ [.own x]) = own w ++ [x] :=
  List.filterMap_append

@[simp] theorem own_concat_extra (w : List (Turn ι)) (xs : List ι) :
    own (w ++ [.extra xs]) = own w := by
  unfold own
  rw [List.filterMap_append]
  exact List.append_nil _

/--
**Two runs side by side.** A relation that holds at the start, that a common
input preserves, and that no block of the weave breaks, holds between the two
runs after every part of the weave.
-/
theorem run_related {step : σ → ι → σ} {Related : σ → σ → Prop} {s : σ} {w : List (Turn ι)}
    (h0 : Related s s)
    (hown : ∀ t u x, Related t u → Related (step t x) (step u x))
    (hextra : ∀ pre xs, pre ++ [.extra xs] <+: w →
      Related (Runs.run step s (own pre)) (Runs.run step s (woven pre)) →
      Related (Runs.run step s (own pre)) (Runs.run step (Runs.run step s (woven pre)) xs)) :
    ∀ pre, pre <+: w →
      Related (Runs.run step s (own pre)) (Runs.run step s (woven pre)) := by
  intro pre
  induction pre using List.reverseRecOn with
  | nil => intro _; exact h0
  | append_singleton pre t ih =>
    intro hpre
    have hshort : pre <+: w := (List.prefix_append pre [t]).trans hpre
    rw [woven_concat, Runs.run_append]
    cases t with
    | own x =>
      rw [own_concat_own, Runs.run_concat]
      exact hown _ _ x (ih hshort)
    | extra xs =>
      rw [own_concat_extra]
      exact hextra pre xs hpre (ih hshort)

end Weave
