import Mathlib.Data.List.Destutter
import PasswallNode.Foundation.Runs

/-! Readiness is evaluated whenever it is asked for; its first result and every change are reported. -/

namespace PasswallNode.Readiness

open Foundation

/-- `reported` is what `onChange` was called with: nothing when ready, or the reason. -/
structure ReadinessGate where
  observed : Bool
  ready : Bool
  reason : String
  reported : List (Option String)

def result (answer : Option (Option String)) : Option String := answer.getD (some "readiness check is not configured")

def check (g : ReadinessGate) (answer : Option (Option String)) : ReadinessGate :=
  let err := result answer
  let ready := err.isNone
  let reason := err.getD ""
  if g.observed = true ∧ ready = g.ready ∧ reason = g.reason then g
  else ⟨true, ready, reason, g.reported ++ [err]⟩

theorem run_reported (answers : List (Option (Option String))) (last : Option String) (past : List (Option String)) :
    (run check ⟨true, last.isNone, last.getD "", past ++ [last]⟩ answers).reported =
      past ++ (answers.map result).destutter' (· ≠ ·) last := by
  induction answers generalizing last past with
  | nil => rfl
  | cons answer rest ih =>
    have known : (result answer).isNone = last.isNone ∧ (result answer).getD "" = last.getD "" ↔
        last = result answer := by
      cases result answer <;> cases last <;> simp [eq_comm]
    rw [List.map_cons, List.destutter'_cons, run_cons]
    simp only [check, true_and, known]
    by_cases same : last = result answer
    · rw [if_pos same, if_neg (not_not.mpr same)]
      exact ih last past
    · rw [if_neg same, if_pos same, ih, List.append_assoc]
      rfl

/-- Exactly the first result and the changes are reported, in their order. -/
theorem readiness_reported (answers : List (Option (Option String))) :
    (run check ⟨false, false, "", []⟩ answers).reported = (answers.map result).destutter (· ≠ ·) := by
  cases answers with
  | nil => rfl
  | cons answer rest =>
    have first : check ⟨false, false, "", []⟩ answer =
        ⟨true, (result answer).isNone, (result answer).getD "", [] ++ [result answer]⟩ := by simp [check]
    rw [run_cons, first, run_reported, List.map_cons, List.destutter_cons']
    rfl

end PasswallNode.Readiness
