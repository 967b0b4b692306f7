import Mathlib.Algebra.Order.Ring.Int
import PasswallNode.Agent.TaskClock

/-! A deadline once proved expired stays expired. -/

namespace PasswallNode.Agent

open Foundation State

/-- While there is an anchor, the floor holds nothing the anchor does not prove at the last
accepted reading. -/
structure Retains (clock : ControlPlaneTaskClock) : Prop where
  positive : 0 < clock.maxAnchorAge
  reached : clock.hasAnchor = true → clock.hasRawFloor = true ∧ clock.anchorAt ≤ clock.rawFloor
  covered : clock.hasAnchor = true → clock.trustedLowerFloor ≤ anchoredLower clock clock.rawFloor

structure Advances (clock next : ControlPlaneTaskClock) : Prop where
  retains : Retains next
  floor : clock.trustedLowerFloor ≤ next.trustedLowerFloor

theorem Advances.trans {first second third : ControlPlaneTaskClock} (one : Advances first second)
    (two : Advances second third) : Advances first third :=
  ⟨two.retains, one.floor.trans two.floor⟩

theorem anchoredLower_mono {clock : ControlPlaneTaskClock} (positive : 0 < clock.maxAnchorAge)
    {earlier later : Int} (aged : clock.anchorAt ≤ earlier) (ordered : earlier ≤ later) :
    anchoredLower clock earlier ≤ anchoredLower clock later := by
  unfold anchoredLower nanosPerMS
  have first : 0 ≤ min (earlier - clock.anchorAt) (clock.maxAnchorAge - 1) := by omega
  have second : 0 ≤ min (later - clock.anchorAt) (clock.maxAnchorAge - 1) := by omega
  rw [Int.tdiv_eq_ediv_of_nonneg first, Int.tdiv_eq_ediv_of_nonneg second]
  omega

section Steps

variable {clock : ControlPlaneTaskClock}

theorem retains_dropped (before : Retains clock) : Retains { clock with hasAnchor := false } :=
  ⟨before.positive, by simp, by simp⟩

theorem retains_sampledAt {raw : Int} (before : Retains clock)
    (advanced : clock.hasRawFloor = true → clock.rawFloor ≤ raw) : Retains (sampledAt clock raw) := by
  refine ⟨before.positive, ?_, ?_⟩
  · intro anchored
    obtain ⟨floored, aged⟩ := before.reached anchored
    exact ⟨rfl, aged.trans (advanced floored)⟩
  · intro anchored
    obtain ⟨floored, aged⟩ := before.reached anchored
    exact (before.covered anchored).trans (anchoredLower_mono before.positive aged (advanced floored))

theorem boundsAtLocked_advances (before : Retains clock) : Advances clock (boundsAtLocked clock clock.rawFloor).1 ∧
    (boundsAtLocked clock clock.rawFloor).1.hasRawFloor = clock.hasRawFloor ∧
    (boundsAtLocked clock clock.rawFloor).1.rawFloor = clock.rawFloor ∧
    ∀ bounds, (boundsAtLocked clock clock.rawFloor).2 = .ok bounds → clock.trustedLowerFloor ≤ bounds.lowerMS ∧
        bounds.lowerMS = (boundsAtLocked clock clock.rawFloor).1.trustedLowerFloor ∧
        bounds.lowerMS ≤ bounds.upperMS := by
  have outcome := boundsAtLocked_outcome clock clock.rawFloor
  generalize boundsAtLocked clock clock.rawFloor = result at outcome
  cases outcome with
  | absent none => exact ⟨⟨before, le_refl _⟩, rfl, rfl, by simp⟩
  | dropped fault _ => exact ⟨⟨retains_dropped before, le_refl _⟩, rfl, rfl, by simp⟩
  | folded fault _ anchored aged =>
    exact ⟨⟨⟨before.positive, by simp, by simp⟩, le_max_left _ _⟩, rfl, rfl, by simp⟩
  | answered anchored aged fresh ordered =>
    have covered := before.covered anchored
    refine ⟨⟨⟨before.positive, before.reached, ?_⟩, le_max_left _ _⟩, rfl, rfl, ?_⟩
    · intro _
      exact max_le covered (le_refl _)
    · intro bounds same
      cases same
      exact ⟨covered, (max_eq_right covered).symm, ordered⟩

theorem captureLocked_advances (before : Retains clock) (reading : Reading) :
    Advances clock (captureLocked clock reading).1 ∧ ∀ raw, (captureLocked clock reading).2 = .ok raw →
      (captureLocked clock reading).1.hasRawFloor = true ∧ (captureLocked clock reading).1.rawFloor = raw := by
  have outcome := captureLocked_outcome clock reading
  generalize captureLocked clock reading = result at outcome
  cases outcome with
  | refused fault _ => exact ⟨⟨retains_dropped before, le_refl _⟩, by simp⟩
  | @accepted raw read positive advanced =>
    obtain ⟨advances, floored, same, _⟩ :=
      boundsAtLocked_advances (retains_sampledAt before advanced)
    refine ⟨⟨advances.retains, advances.floor⟩, ?_⟩
    rintro _ ⟨⟩
    exact ⟨floored, same⟩

theorem taskTimeBounds_advances (before : Retains clock) (reading : Reading) :
    Advances clock (taskTimeBounds clock reading).1 ∧ ∀ bounds, (taskTimeBounds clock reading).2 = .ok bounds →
      clock.trustedLowerFloor ≤ bounds.lowerMS ∧
        bounds.lowerMS = (taskTimeBounds clock reading).1.trustedLowerFloor ∧ bounds.lowerMS ≤ bounds.upperMS := by
  obtain ⟨captured, last⟩ := captureLocked_advances before reading
  unfold taskTimeBounds
  rcases result : captureLocked clock reading with ⟨sampled, fault | now⟩
  · rw [result] at captured
    exact ⟨captured, by simp⟩
  · rw [result] at captured last
    dsimp only at captured last
    obtain ⟨_, rfl⟩ := last now rfl
    obtain ⟨advances, _, _, answers⟩ := boundsAtLocked_advances captured.retains
    refine ⟨captured.trans advances, ?_⟩
    intro bounds answered
    obtain ⟨above, rest⟩ := answers bounds answered
    exact ⟨captured.floor.trans above, rest⟩

theorem observe_advances (before : Retains clock) (computedAtMS start : Int) (reading : Reading) :
    Advances clock (observe clock computedAtMS start reading).1 := by
  obtain ⟨captured, last⟩ := captureLocked_advances before reading
  rcases result : captureLocked clock reading with ⟨sampled, fault | finish⟩
  · rw [result] at captured
    rw [observe_of_refused result]
    exact captured
  · rw [result] at captured last
    dsimp only at captured last
    obtain ⟨floored, rfl⟩ := last finish rfl
    obtain ⟨held, stillFloored, same, _⟩ := boundsAtLocked_advances captured.retains
    refine captured.trans (held.trans ?_)
    have outcome : ObserveOutcome sampled computedAtMS start _ _ := observe_outcome result
    generalize observe clock computedAtMS start reading = final at outcome
    cases outcome with
    | rejected fault _ => exact ⟨retains_dropped held.retains, le_refl _⟩
    | inconsistent _ _ => exact ⟨retains_dropped held.retains, le_refl _⟩
    | @anchored interval observed =>
      -- The new anchor starts at the reading, and its lower bound is the new floor.
      refine ⟨⟨held.retains.positive, fun _ => ⟨stillFloored.trans floored, same.ge⟩, fun _ => ?_⟩,
        le_max_right _ _⟩
      have started : min 0 ((boundsAtLocked sampled sampled.rawFloor).1.maxAnchorAge - 1) = 0 := by
        have := held.retains.positive
        omega
      simp [anchoredLower, anchoredAt, same, started]

theorem perform_advances (before : Retains clock) (call : ClockCall) : Advances clock (call.perform clock) := by
  cases call with
  | capture reading => exact (captureLocked_advances before reading).1
  | observe computedAtMS start reading => exact observe_advances before computedAtMS start reading
  | taskTimeBounds reading => exact (taskTimeBounds_advances before reading).1

theorem run_advances (before : Retains clock) (calls : List ClockCall) :
    Advances clock (run ClockCall.perform clock calls) :=
  run_invariant (Advances clock) (fun _ call reached => reached.trans (perform_advances reached.retains call))
    ⟨before, le_refl _⟩ calls

end Steps

theorem newControlPlaneTaskClock_retains {options : ClockOptions} {reading : Reading}
    {clock : ControlPlaneTaskClock} (created : newControlPlaneTaskClock options reading = .ok clock) :
    Retains clock := by
  obtain ⟨⟨age, _, _⟩, raw, captured⟩ := newControlPlaneTaskClock_ok created
  have blank : Retains (blankClock options) := ⟨age, by simp [blankClock], by simp [blankClock]⟩
  have advances := (captureLocked_advances blank reading).1
  rw [captured] at advances
  exact advances.retains

/-- The lower bounds a clock answers never decrease, whatever faults, stale anchors and
smaller timestamps lie between two answers. -/
theorem taskTimeBounds_lower_monotone (options : ClockOptions) (probe : Reading)
    (clock : ControlPlaneTaskClock) (created : newControlPlaneTaskClock options probe = .ok clock)
    (before between : List ClockCall) (first second : Reading) (early late : TaskTimeBounds)
    (answered : (taskTimeBounds (run ClockCall.perform clock before) first).2 = .ok early)
    (again : (taskTimeBounds
      (run ClockCall.perform clock (before ++ .taskTimeBounds first :: between)) second).2 = .ok late) :
    early.lowerMS ≤ late.lowerMS ∧ early.lowerMS ≤ late.upperMS := by
  have retains := (run_advances (newControlPlaneTaskClock_retains created) before).retains
  obtain ⟨reached, answers⟩ := taskTimeBounds_advances retains first
  obtain ⟨_, floor, _⟩ := answers early answered
  rw [run_append, run_cons] at again
  have later := run_advances reached.retains between
  obtain ⟨above, _, ordered⟩ := (taskTimeBounds_advances later.retains second).2 late again
  have lower : early.lowerMS ≤ late.lowerMS := by
    calc early.lowerMS
        = (taskTimeBounds (run ClockCall.perform clock before) first).1.trustedLowerFloor := floor
      _ ≤ _ := later.floor
      _ ≤ late.lowerMS := above
  exact ⟨lower, lower.trans ordered⟩

def faultsBetween : List ClockCall :=
  [.capture (.error "EIO"), .observe 500 2000000 (.ok 2000000), .observe 1001 2000000 (.ok 3000000)]

theorem taskTimeBounds_lower_monotone_across_faults :
    (taskTimeBounds (run ClockCall.perform exampleClock [.observe 1000 0 (.ok 1000000)])
        (.ok 2000000)).2 = .ok ⟨1000, 1003⟩ ∧
      (taskTimeBounds (run ClockCall.perform exampleClock
          ([.observe 1000 0 (.ok 1000000)] ++ .taskTimeBounds (.ok 2000000) :: faultsBetween))
        (.ok 3000000)).2 = .ok ⟨1000, 1003⟩ ∧
      (1000 : Int) ≤ 1000 ∧ (1000 : Int) ≤ 1003 := by
  have created : newControlPlaneTaskClock exampleOptions (.ok 0) = .ok exampleClock := by decide
  have answered : (taskTimeBounds (run ClockCall.perform exampleClock
      [.observe 1000 0 (.ok 1000000)]) (.ok 2000000)).2 = .ok ⟨1000, 1003⟩ := by decide
  have again : (taskTimeBounds (run ClockCall.perform exampleClock
      ([.observe 1000 0 (.ok 1000000)] ++ .taskTimeBounds (.ok 2000000) :: faultsBetween))
      (.ok 3000000)).2 = .ok ⟨1000, 1003⟩ := by decide
  exact ⟨answered, again, taskTimeBounds_lower_monotone exampleOptions (.ok 0) exampleClock created
    _ _ _ _ _ _ answered again⟩

end PasswallNode.Agent
