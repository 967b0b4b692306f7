import Mathlib.Data.List.Perm.Basic
import PasswallNode.Foundation.Fallible
import PasswallNode.Foundation.Runs

/-! The services of the node as one failure domain: their exits, the end of the parent context and the
collecting goroutine in any order. -/

namespace PasswallNode.Lifecycle

open Foundation

structure ServiceError where
  text : String
  canceled : Bool
  deriving DecidableEq

inductive Phase where
  | selecting
  | draining
  | returned (err : Option String)
  deriving DecidableEq

/-- `live` are the services that have not returned, `results` is the channel. -/
structure Group where
  size : Nat
  live : List String
  results : List (String × Option ServiceError)
  collected : List (String × Option ServiceError)
  parentDone : Bool
  canceled : Bool
  parentStopped : Bool
  phase : Phase

def Group.start (services : List String) : Except String Group := do
  rejectIf (services = []) "lifecycle requires at least one service"
  rejectIf ("" ∈ services) "lifecycle service requires a name and runner"
  .ok ⟨services.length, services, [], [], false, false, false, .selecting⟩

def runService (g : Group) (err : Option ServiceError) : Option ServiceError :=
  if err = none ∧ g.canceled = false ∧ g.parentDone = false then some ⟨"service exited unexpectedly", false⟩ else err

def failures (collected : List (String × Option ServiceError)) : List String :=
  collected.filterMap (fun outcome =>
    (outcome.2.filter (fun err => !err.canceled)).map (fun err => outcome.1 ++ ": " ++ err.text))

def Group.result (g : Group) : Option String :=
  if failures g.collected ≠ [] then some ("\n".intercalate (failures g.collected))
  else if g.parentStopped ∨ g.parentDone then none
  else some "node lifecycle stopped without cancellation"

inductive Action where
  | stop
  | exit (name : String) (err : Option ServiceError)
  | receive
  | notice
  | finish

def Group.step (g : Group) : Action → Group
  | .stop => { g with parentDone := true }
  | .exit name err =>
    if name ∈ g.live then
      { g with live := g.live.erase name, results := g.results ++ [(name, runService g err)] }
    else g
  | .receive =>
    match g.results with
    | [] => g
    | first :: rest =>
      { g with results := rest, collected := g.collected ++ [first], canceled := true, phase := .draining }
  | .notice =>
    if g.phase = .selecting ∧ g.parentDone then
      { g with parentStopped := true, canceled := true, phase := .draining }
    else g
  | .finish =>
    if g.phase = .draining ∧ g.collected.length = g.size then { g with phase := .returned g.result } else g

/-- No service is lost, none ends in silence before the group is cancelled, and `Run` returns after all of them:
without an error only if the parent context has ended and no service failed. -/
structure Orderly (services : List String) (g : Group) : Prop where
  size : g.size = services.length
  each : (g.live ++ (g.results ++ g.collected).map Prod.fst).Perm services
  silent : ∀ name, (name, none) ∈ g.results ++ g.collected → g.canceled = true ∨ g.parentDone = true
  stopped : g.parentStopped = true → g.parentDone = true
  cancels : g.phase ≠ .selecting → g.canceled = true
  returns : ∀ err, g.phase = .returned err → g.live = [] ∧ g.results = [] ∧
    (err = none → g.parentDone = true ∧ failures g.collected = []) ∧
    (failures g.collected ≠ [] → err = some ("\n".intercalate (failures g.collected)))

variable {services : List String} {g : Group}

theorem runService_none {err : Option ServiceError} (quiet : runService g err = none) :
    g.canceled = true ∨ g.parentDone = true := by
  unfold runService at quiet
  split at quiet
  · cases quiet
  · rename_i loud
    cases canceled : g.canceled <;> cases done : g.parentDone <;> simp_all

theorem Group.result_none (ok : g.result = none) :
    (g.parentStopped = true ∨ g.parentDone = true) ∧ failures g.collected = [] := by
  unfold Group.result at ok
  split at ok
  · cases ok
  · rename_i clean
    split at ok
    · exact ⟨‹_›, not_not.mp clean⟩
    · cases ok

theorem Orderly.step (orderly : Orderly services g) (action : Action) : Orderly services (g.step action) := by
  have ⟨size, each, silent, stopped, cancels, returns⟩ := orderly
  cases action with
  | stop =>
    refine ⟨size, each, fun _ _ => .inr rfl, fun _ => rfl, cancels, fun err ended => ?_⟩
    obtain ⟨none, empty, clean, named⟩ := returns err ended
    exact ⟨none, empty, fun ok => ⟨rfl, (clean ok).2⟩, named⟩
  | exit name err =>
    dsimp only [Group.step]
    split
    · rename_i listed
      refine ⟨size, ?_, fun other quiet => ?_, stopped, cancels, fun err ended => ?_⟩
      · refine .trans ?_ (((List.perm_cons_erase listed).append_right _).symm.trans each)
        exact List.perm_iff_count.mpr (fun other => by simp [List.count_cons]; omega)
      · have either : (other, none) ∈ g.results ++ g.collected ∨ runService g err = none := by
          simp only [List.mem_append, List.mem_singleton, Prod.mk.injEq] at quiet ⊢
          tauto
        exact either.elim (silent other) runService_none
      · rw [(returns err ended).1] at listed
        cases listed
    · exact orderly
  | receive =>
    dsimp only [Group.step]
    cases waiting : g.results with
    | nil => exact orderly
    | cons first rest =>
      refine ⟨size, ?_, fun _ _ => .inl rfl, stopped, fun _ => rfl, fun _ ended => by cases ended⟩
      rw [waiting] at each
      refine .trans ?_ each
      exact List.perm_iff_count.mpr (fun other => by simp [List.count_cons]; omega)
  | notice =>
    dsimp only [Group.step]
    split
    · rename_i ready
      exact ⟨size, each, fun _ _ => .inl rfl, fun _ => ready.2, fun _ => rfl, fun _ ended => by cases ended⟩
    · exact orderly
  | finish =>
    dsimp only [Group.step]
    split
    · rename_i drained
      refine ⟨size, each, silent, stopped, fun _ => cancels (by simp [drained.1]), fun err ended => ?_⟩
      cases ended
      have all := each.length_eq
      simp only [List.length_append, List.length_map, drained.2, size] at all
      have live : g.live = [] := List.length_eq_zero_iff.mp (by omega)
      have empty : g.results = [] := List.length_eq_zero_iff.mp (by omega)
      exact ⟨live, empty, fun ok => ⟨(Group.result_none ok).1.elim stopped id, (Group.result_none ok).2⟩,
        fun some => if_pos some⟩
    · exact orderly

end PasswallNode.Lifecycle
