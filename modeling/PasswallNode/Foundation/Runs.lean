import Mathlib.Data.List.Basic

/-! Runs of a step function over a list of actions, which carry all that the environment decides. -/

namespace PasswallNode.Foundation

variable {σ α : Type} {step : σ → α → σ} {state : σ} {actions : List α} {ε : Type}

def run (step : σ → α → σ) : σ → List α → σ
  | state, [] => state
  | state, action :: rest => run step (step state action) rest

@[simp] theorem run_nil (step : σ → α → σ) (state : σ) : run step state [] = state := rfl

@[simp] theorem run_cons (step : σ → α → σ) (state : σ) (action : α) (rest : List α) :
    run step state (action :: rest) = run step (step state action) rest := rfl

theorem run_append (step : σ → α → σ) (state : σ) (first second : List α) :
    run step state (first ++ second) = run step (run step state first) second := by
  induction first generalizing state with
  | nil => rfl
  | cons action rest ih => exact ih (step state action)

theorem run_concat (step : σ → α → σ) (state : σ) (actions : List α) (last : α) :
    run step state (actions ++ [last]) = step (run step state actions) last :=
  run_append step state actions [last]

theorem run_invariant (holds : σ → Prop) (preserved : ∀ state action, holds state → holds (step state action))
    (initial : holds state) (actions : List α) : holds (run step state actions) := by
  induction actions generalizing state with
  | nil => exact initial
  | cons action rest ih => exact ih (preserved state action initial)

theorem run_invariant_of_forall {allowed : α → Prop} (holds : σ → Prop)
    (preserved : ∀ state action, allowed action → holds state → holds (step state action)) (initial : holds state)
    (all : ∀ action ∈ actions, allowed action) : holds (run step state actions) := by
  induction actions generalizing state with
  | nil => exact initial
  | cons action rest ih =>
    exact ih (preserved state action (all action List.mem_cons_self) initial)
      (fun other member => all other (List.mem_cons_of_mem _ member))

theorem run_relation (holds : σ → Prop) (related : σ → σ → Prop)
    (preserved : ∀ state action, holds state → holds (step state action)) (refl : ∀ state, related state state)
    (trans : ∀ first second third, related first second → related second third → related first third)
    (advances : ∀ state action, holds state → related state (step state action)) (initial : holds state)
    (actions : List α) : related state (run step state actions) := by
  induction actions generalizing state with
  | nil => exact refl state
  | cons action rest ih =>
    exact trans _ _ _ (advances state action initial) (ih (preserved state action initial))

/-- Every step of the run meets a condition on its action and the state before it. -/
def Admits (step : σ → α → σ) (meets : σ → α → Prop) : σ → List α → Prop
  | _, [] => True
  | state, action :: rest => meets state action ∧ Admits step meets (step state action) rest

instance decidableAdmits {step : σ → α → σ} {meets : σ → α → Prop}
    [decides : ∀ state action, Decidable (meets state action)] :
    ∀ (state : σ) (actions : List α), Decidable (Admits step meets state actions)
  | _, [] => isTrue trivial
  | state, action :: rest =>
    match decides state action, decidableAdmits (step state action) rest with
    | isTrue holds, isTrue later => isTrue ⟨holds, later⟩
    | isFalse fails, _ => isFalse (fun all => fails all.1)
    | _, isFalse fails => isFalse (fun all => fails all.2)

theorem run_invariant_of_admits {meets : σ → α → Prop} (holds : σ → Prop)
    (preserved : ∀ state action, holds state → meets state action → holds (step state action))
    (initial : holds state) (admitted : Admits step meets state actions) : holds (run step state actions) := by
  induction actions generalizing state with
  | nil => exact initial
  | cons action rest ih =>
    exact ih (preserved state action initial admitted.1) admitted.2

/-- Every event of a history is right after what happened before it. -/
def Always {ε : Type} (holds : List ε → ε → Prop) (trace : List ε) : Prop :=
  ∀ past event later, trace = past ++ event :: later → holds past event

theorem always_nil (holds : List ε → ε → Prop) : Always holds [] := by
  intro past event later same
  cases List.append_eq_nil_iff.mp same.symm |>.2

theorem always_concat {holds : List ε → ε → Prop} {trace : List ε} {last : ε} (before : Always holds trace)
    (right : holds trace last) : Always holds (trace ++ [last]) := by
  intro past event later same
  rcases List.eq_nil_or_concat later with rfl | ⟨rest, final, rfl⟩
  · obtain ⟨rfl, single⟩ := List.append_inj' same rfl
    cases single
    exact right
  · have shifted : trace ++ [last] = (past ++ event :: rest) ++ [final] := by
      rw [same, List.concat_eq_append, List.append_assoc, List.cons_append]
    exact before past event rest (List.append_inj' shifted rfl).1

end PasswallNode.Foundation
