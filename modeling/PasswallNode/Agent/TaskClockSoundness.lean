import Mathlib.Data.Real.Basic
import Mathlib.Tactic.Linarith
import Mathlib.Tactic.Ring
import PasswallNode.Agent.TaskClock

/-! The task clock is sound: with honest readings every interval contains the true control-plane time. -/

namespace PasswallNode.Agent

open Foundation State

variable {duration a b : Int}

theorem tdiv_nanosPerMS_mul_le (positive : 0 ≤ duration) : duration.tdiv nanosPerMS * nanosPerMS ≤ duration := by
  rw [Int.tdiv_eq_ediv_of_nonneg positive, nanosPerMS]
  omega

theorem le_ceilTaskClockMS_mul (positive : 0 ≤ duration) : duration ≤ ceilTaskClockMS duration * nanosPerMS := by
  unfold ceilTaskClockMS nanosPerMS
  rw [Int.tdiv_eq_ediv_of_nonneg positive, Int.tmod_eq_emod_of_nonneg positive]
  dsimp only
  split <;> omega

noncomputable def nanos (ms : Int) : ℝ := (ms : ℝ) * (nanosPerMS : ℝ)

theorem nanos_mono (ordered : a ≤ b) : nanos a ≤ nanos b := by
  have cast : (a : ℝ) ≤ b := by exact_mod_cast ordered
  have positive : (0 : ℝ) ≤ (nanosPerMS : ℝ) := by norm_num [nanosPerMS]
  exact mul_le_mul_of_nonneg_right cast positive

theorem nanos_add (a b : Int) : nanos (a + b) = nanos a + nanos b := by
  unfold nanos
  push_cast
  ring

theorem le_of_nanos_le {instant : ℝ} (left : nanos a ≤ instant) (right : instant ≤ nanos b) : a ≤ b := by
  by_contra crossed
  have step : nanos b + nanos 1 ≤ nanos a := by
    rw [← nanos_add]
    exact nanos_mono (by omega)
  have positive : 0 < nanos 1 := by norm_num [nanos, nanosPerMS]
  linarith

theorem nanos_tdiv_le (positive : 0 ≤ duration) : nanos (duration.tdiv nanosPerMS) ≤ duration := by
  unfold nanos
  exact_mod_cast tdiv_nanosPerMS_mul_le positive

theorem le_nanos_ceil (positive : 0 ≤ duration) : (duration : ℝ) ≤ nanos (ceilTaskClockMS duration) := by
  unfold nanos
  exact_mod_cast le_ceilTaskClockMS_mul positive

/-- What the clock claims is true. Control-plane time at a reading `raw` is `origin + raw`. -/
structure Sound (options : ClockOptions) (origin : ℝ) (clock : ControlPlaneTaskClock) : Prop where
  fresh : 0 < clock.maxAnchorAge
  uncertain : (options.uncertainty : ℝ) ≤ nanos clock.uncertaintyMS
  floored : clock.hasRawFloor = true
  floor : nanos clock.trustedLowerFloor ≤ origin + clock.rawFloor
  reached : clock.hasAnchor = true → clock.anchorAt ≤ clock.rawFloor
  lower : clock.hasAnchor = true → nanos clock.anchorLowerMS ≤ origin + clock.anchorAt
  upper : clock.hasAnchor = true → origin + clock.anchorAt ≤ nanos clock.anchorUpperMS

def Contains (interval : Int × Int) (instant : ℝ) : Prop :=
  nanos interval.1 ≤ instant ∧ instant ≤ nanos interval.2

section Steps

variable {options : ClockOptions} {origin : ℝ} {clock : ControlPlaneTaskClock} {now computedAtMS start : Int}
  {interval : Int × Int} {old : Except ClockFault TaskTimeBounds} {instant : ℝ}

theorem sound_dropped (before : Sound options origin clock) :
    Sound options origin { clock with hasAnchor := false } :=
  ⟨before.fresh, before.uncertain, before.floored, before.floor, by simp, by simp, by simp⟩

theorem sound_floor_raised {floor : Int} (before : Sound options origin clock)
    (below : nanos floor ≤ origin + clock.rawFloor) :
    Sound options origin { clock with trustedLowerFloor := max clock.trustedLowerFloor floor } := by
  refine ⟨before.fresh, before.uncertain, before.floored, ?_, before.reached, before.lower, before.upper⟩
  rcases max_choice clock.trustedLowerFloor floor with same | same
  · simpa only [same] using before.floor
  · simpa only [same] using below

theorem sound_sampledAt {raw : Int} (before : Sound options origin clock)
    (advanced : clock.rawFloor ≤ raw) : Sound options origin (sampledAt clock raw) := by
  have later : (clock.rawFloor : ℝ) ≤ raw := by exact_mod_cast advanced
  refine ⟨before.fresh, before.uncertain, rfl, ?_,
    fun anchored => (before.reached anchored).trans advanced, before.lower, before.upper⟩
  have := before.floor
  show nanos clock.trustedLowerFloor ≤ origin + raw
  linarith

theorem nanos_anchoredLower_le (positive : 0 < clock.maxAnchorAge)
    (lower : nanos clock.anchorLowerMS ≤ origin + clock.anchorAt) (aged : clock.anchorAt ≤ now) :
    nanos (anchoredLower clock now) ≤ origin + now := by
  have kept : 0 ≤ min (now - clock.anchorAt) (clock.maxAnchorAge - 1) := by omega
  have part := nanos_tdiv_le kept
  have whole : ((min (now - clock.anchorAt) (clock.maxAnchorAge - 1) : Int) : ℝ) ≤
      ((now - clock.anchorAt : Int) : ℝ) := by exact_mod_cast min_le_left _ _
  rw [anchoredLower, nanos_add]
  push_cast at whole part
  linarith

theorem le_nanos_anchoredUpper (upper : origin + clock.anchorAt ≤ nanos clock.anchorUpperMS)
    (aged : clock.anchorAt ≤ now) :
    origin + now ≤ nanos (clock.anchorUpperMS + ceilTaskClockMS (now - clock.anchorAt)) := by
  have part := le_nanos_ceil (show 0 ≤ now - clock.anchorAt by omega)
  rw [nanos_add]
  push_cast at part
  linarith

theorem boundsAtLocked_sound (before : Sound options origin clock) :
    Sound options origin (boundsAtLocked clock clock.rawFloor).1 ∧
    (boundsAtLocked clock clock.rawFloor).1.rawFloor = clock.rawFloor ∧
    ∀ bounds, (boundsAtLocked clock clock.rawFloor).2 = .ok bounds →
      Contains (bounds.lowerMS, bounds.upperMS) (origin + clock.rawFloor) := by
  have outcome := boundsAtLocked_outcome clock clock.rawFloor
  generalize boundsAtLocked clock clock.rawFloor = result at outcome
  cases outcome with
  | absent none => exact ⟨before, rfl, by simp⟩
  | dropped fault _ => exact ⟨sound_dropped before, rfl, by simp⟩
  | folded fault _ anchored aged =>
    have below := nanos_anchoredLower_le before.fresh (before.lower anchored) aged
    exact ⟨sound_dropped (sound_floor_raised before below), rfl, by simp⟩
  | answered anchored aged fresh ordered =>
    have below := nanos_anchoredLower_le before.fresh (before.lower anchored) aged
    refine ⟨sound_floor_raised before below, rfl, ?_⟩
    intro bounds same
    cases same
    exact ⟨below, le_nanos_anchoredUpper (before.upper anchored) aged⟩

theorem captureLocked_sound (before : Sound options origin clock) (reading : Reading) :
    Sound options origin (captureLocked clock reading).1 ∧ ∀ raw, (captureLocked clock reading).2 = .ok raw →
      (captureLocked clock reading).1.rawFloor = raw := by
  have outcome := captureLocked_outcome clock reading
  generalize captureLocked clock reading = result at outcome
  cases outcome with
  | refused fault _ => exact ⟨sound_dropped before, by simp⟩
  | @accepted raw read positive advanced =>
    obtain ⟨sound, same, _⟩ := boundsAtLocked_sound (sound_sampledAt before (advanced before.floored))
    refine ⟨sound, ?_⟩
    rintro _ ⟨⟩
    exact same

theorem taskTimeBounds_sound (before : Sound options origin clock) (reading : Reading) :
    Sound options origin (taskTimeBounds clock reading).1 ∧
    ∀ bounds, (taskTimeBounds clock reading).2 = .ok bounds → ∃ raw, (captureLocked clock reading).2 = .ok raw ∧
        Contains (bounds.lowerMS, bounds.upperMS) (origin + raw) := by
  obtain ⟨captured, last⟩ := captureLocked_sound before reading
  unfold taskTimeBounds
  rcases result : captureLocked clock reading with ⟨sampled, fault | now⟩
  · rw [result] at captured
    exact ⟨captured, by simp⟩
  · rw [result] at captured last
    dsimp only at captured last
    obtain rfl := last now rfl
    obtain ⟨sound, _, answers⟩ := boundsAtLocked_sound captured
    exact ⟨sound, fun bounds answered => ⟨_, rfl, answers bounds answered⟩⟩

/-- A response is honest when its timestamp was within the uncertainty of the true time at
some instant of the round trip. -/
def HonestTimestamp (options : ClockOptions) (computedAtMS : Int) (sent received : ℝ) : Prop :=
  ∃ instant, sent ≤ instant ∧ instant ≤ received ∧
    |nanos computedAtMS - instant| ≤ (options.uncertainty : ℝ)

theorem observedInterval_contains {finish : Int} (uncertain : (options.uncertainty : ℝ) ≤ nanos clock.uncertaintyMS)
    (honest : HonestTimestamp options computedAtMS (origin + start) (origin + finish))
    (observed : observedInterval clock computedAtMS start finish = .ok interval) :
    Contains interval (origin + finish) := by
  obtain ⟨_, ordered, rfl⟩ := observedInterval_ok observed
  obtain ⟨instant, sent, received, within⟩ := honest
  obtain ⟨low, high⟩ := abs_le.mp within
  have trip := le_nanos_ceil (show 0 ≤ finish - start by omega)
  push_cast at trip
  have difference : nanos (computedAtMS - clock.uncertaintyMS) =
      nanos computedAtMS - nanos clock.uncertaintyMS := by
    unfold nanos
    push_cast
    ring
  refine ⟨?_, ?_⟩
  · rw [difference]
    linarith
  · rw [nanos_add, nanos_add]
    linarith

theorem tightened_contains (new : Contains interval instant)
    (held : ∀ bounds, old = .ok bounds → Contains (bounds.lowerMS, bounds.upperMS) instant) :
    Contains (tightened interval old) instant := by
  cases old with
  | error fault => exact new
  | ok bounds =>
    obtain ⟨low, high⟩ := held bounds rfl
    refine ⟨?_, ?_⟩
    · rcases max_choice interval.1 bounds.lowerMS with same | same
      · simpa only [tightened, same] using new.1
      · simpa only [tightened, same] using low
    · rcases min_choice interval.2 bounds.upperMS with same | same
      · simpa only [tightened, same] using new.2
      · simpa only [tightened, same] using high

theorem anchorFrom_contains (new : Contains interval instant)
    (held : ∀ bounds, old = .ok bounds → Contains (bounds.lowerMS, bounds.upperMS) instant)
    (floor : nanos clock.trustedLowerFloor ≤ instant) : Contains (anchorFrom clock interval old) instant := by
  obtain ⟨low, high⟩ := tightened_contains new held
  refine ⟨?_, high⟩
  rcases max_choice (tightened interval old).1 clock.trustedLowerFloor with same | same
  · simpa only [anchorFrom, same] using low
  · simpa only [anchorFrom, same] using floor

theorem observe_sound (before : Sound options origin clock) {reading : Reading}
    (honest : ∀ raw, (captureLocked clock reading).2 = .ok raw →
      HonestTimestamp options computedAtMS (origin + start) (origin + raw)) :
    Sound options origin (observe clock computedAtMS start reading).1 ∧
    (observe clock computedAtMS start reading).2 ≠ .error .intervalsInconsistent := by
  obtain ⟨captured, last⟩ := captureLocked_sound before reading
  have capture := captureLocked_outcome clock reading
  rcases result : captureLocked clock reading with ⟨sampled, fault | finish⟩
  · rw [result] at captured capture
    rw [observe_of_refused result]
    cases capture with
    | refused fault distinct => exact ⟨captured, by simpa using distinct⟩
  · rw [result] at captured last honest
    dsimp only at captured last honest
    obtain rfl := last finish rfl
    obtain ⟨held, same, answers⟩ := boundsAtLocked_sound captured
    have outcome : ObserveOutcome sampled computedAtMS start _ _ := observe_outcome result
    generalize observe clock computedAtMS start reading = final at outcome
    have anchors : ∀ interval, observedInterval (boundsAtLocked sampled sampled.rawFloor).1
        computedAtMS start sampled.rawFloor = .ok interval →
        Contains (anchorFrom (boundsAtLocked sampled sampled.rawFloor).1 interval
          (boundsAtLocked sampled sampled.rawFloor).2) (origin + sampled.rawFloor) := by
      intro interval observed
      have floor := held.floor
      rw [same] at floor
      exact anchorFrom_contains (observedInterval_contains held.uncertain (honest _ rfl) observed) answers floor
    cases outcome with
    | rejected fault distinct => exact ⟨sound_dropped held, by simpa using distinct⟩
    | @inconsistent interval observed crossed =>
      obtain ⟨low, high⟩ := anchors interval observed
      exact absurd (le_of_nanos_le low high) (by omega)
    | @anchored interval observed =>
      obtain ⟨low, high⟩ := anchors interval observed
      refine ⟨⟨held.fresh, held.uncertain, held.floored, ?_, fun _ => same.ge, fun _ => low,
        fun _ => high⟩, by simp⟩
      show nanos _ ≤ origin + ((boundsAtLocked sampled sampled.rawFloor).1.rawFloor : ℝ)
      rw [same]
      exact low

end Steps

structure TimedCall where
  call : ClockCall
  instant : ℝ

structure TimedClock where
  clock : ControlPlaneTaskClock
  captured : List (Int × ℝ)

def ClockCall.reading : ClockCall → Reading
  | .capture reading => reading
  | .observe _ _ reading => reading
  | .taskTimeBounds reading => reading

noncomputable def TimedClock.step (state : TimedClock) (timed : TimedCall) : TimedClock where
  clock := timed.call.perform state.clock
  captured :=
    match timed.call with
    | .capture reading =>
      match (capture state.clock reading).2 with
      | .ok raw => (raw, timed.instant) :: state.captured
      | .error _ => state.captured
    | _ => state.captured

/-- The assumptions on the environment: accepted readings differ from the probe's by the real time since
`created`, and a response comes with the start of an earlier capture and an honest timestamp. -/
structure HonestCall (options : ClockOptions) (probe : Int) (created : ℝ) (state : TimedClock)
    (timed : TimedCall) : Prop where
  measured : ∀ raw, (captureLocked state.clock timed.call.reading).2 = .ok raw →
    timed.instant - created = (raw - probe : ℝ)
  observed : ∀ computedAtMS start reading, timed.call = .observe computedAtMS start reading →
    ∃ sent, (start, sent) ∈ state.captured ∧
      HonestTimestamp options computedAtMS sent timed.instant

section Runs

variable {options : ClockOptions} {probe : Int} {created : ℝ} {state : TimedClock} {timed : TimedCall}

structure TimedSound (options : ClockOptions) (probe : Int) (created : ℝ) (state : TimedClock) :
    Prop where
  sound : Sound options (created - probe) state.clock
  captured : ∀ entry ∈ state.captured, entry.2 = created - probe + entry.1

theorem HonestCall.instant_eq (honest : HonestCall options probe created state timed) {raw : Int}
    (accepted : (captureLocked state.clock timed.call.reading).2 = .ok raw) :
    timed.instant = created - probe + raw := by
  have measured := honest.measured raw accepted
  linarith

theorem HonestCall.timestamp (honest : HonestCall options probe created state timed)
    (before : TimedSound options probe created state) {computedAtMS start : Int} {reading : Reading}
    (called : timed.call = .observe computedAtMS start reading) {raw : Int}
    (accepted : (captureLocked state.clock reading).2 = .ok raw) :
    HonestTimestamp options computedAtMS (created - probe + start) (created - probe + raw) := by
  obtain ⟨sent, earlier, timestamp⟩ := honest.observed computedAtMS start reading called
  have received : timed.instant = created - probe + raw :=
    honest.instant_eq (by rw [called]; exact accepted)
  have began : sent = created - probe + start := before.captured _ earlier
  rw [began, received] at timestamp
  exact timestamp

theorem step_timedSound (honest : HonestCall options probe created state timed)
    (before : TimedSound options probe created state) : TimedSound options probe created (state.step timed) := by
  cases called : timed.call with
  | capture reading =>
    refine ⟨?_, ?_⟩
    · simpa [TimedClock.step, called, ClockCall.perform, capture] using (captureLocked_sound before.sound reading).1
    · intro entry member
      simp only [TimedClock.step, called] at member
      split at member
      · rename_i raw accepted
        rcases List.mem_cons.mp member with rfl | earlier
        · exact honest.instant_eq (by rw [called]; exact accepted)
        · exact before.captured entry earlier
      · exact before.captured entry member
  | observe computedAtMS start reading =>
    refine ⟨?_, ?_⟩
    · simpa [TimedClock.step, called, ClockCall.perform] using
        (observe_sound before.sound fun raw accepted => honest.timestamp before called accepted).1
    · simpa [TimedClock.step, called] using before.captured
  | taskTimeBounds reading =>
    refine ⟨?_, ?_⟩
    · simpa [TimedClock.step, called, ClockCall.perform] using (taskTimeBounds_sound before.sound reading).1
    · simpa [TimedClock.step, called] using before.captured

theorem newControlPlaneTaskClock_sound {clock : ControlPlaneTaskClock}
    (new : newControlPlaneTaskClock options (.ok probe) = .ok clock) (epoch : 0 ≤ created) :
    Sound options (created - probe) clock := by
  obtain ⟨⟨age, _, positive⟩, raw, captured⟩ := newControlPlaneTaskClock_ok new
  have probed : clock = sampledAt (blankClock options) probe := by
    rw [captureLocked] at captured
    split at captured
    · cases captured
    · cases captured
      rfl
  subst probed
  refine ⟨age, le_nanos_ceil positive.le, rfl, ?_, by simp [sampledAt, blankClock],
    by simp [sampledAt, blankClock], by simp [sampledAt, blankClock]⟩
  simpa [sampledAt, blankClock, nanos] using epoch

end Runs

/-- Under honest readings and timestamps, in every reached state the floor is at most the true time of the last
accepted reading, the next answer contains the true time at which it was sampled, and the next response never
disagrees with the intervals held. -/
theorem task_clock_sound (options : ClockOptions) (probe : Int) (created : ℝ)
    (clock : ControlPlaneTaskClock)
    (new : newControlPlaneTaskClock options (.ok probe) = .ok clock) (epoch : 0 ≤ created)
    (calls : List TimedCall)
    (honest : Admits TimedClock.step (HonestCall options probe created) ⟨clock, []⟩ calls)
    (state : TimedClock) (reached : run TimedClock.step ⟨clock, []⟩ calls = state) :
    nanos state.clock.trustedLowerFloor ≤ created + (state.clock.rawFloor - probe) ∧
      ∀ next, HonestCall options probe created state next →
        (∀ reading bounds, next.call = .taskTimeBounds reading →
          (taskTimeBounds state.clock reading).2 = .ok bounds →
            nanos bounds.lowerMS ≤ next.instant ∧ next.instant ≤ nanos bounds.upperMS) ∧
        (∀ computedAtMS start reading, next.call = .observe computedAtMS start reading →
          (observe state.clock computedAtMS start reading).2 ≠ .error .intervalsInconsistent) := by
  have initial : TimedSound options probe created ⟨clock, []⟩ :=
    ⟨newControlPlaneTaskClock_sound new epoch, by simp⟩
  have timed : TimedSound options probe created state := by
    rw [← reached]
    exact run_invariant_of_admits (TimedSound options probe created)
      (fun _ _ before call => step_timedSound call before) initial honest
  refine ⟨?_, ?_⟩
  · have floor := timed.sound.floor
    linarith
  · intro next call
    refine ⟨?_, ?_⟩
    · intro reading bounds called answered
      obtain ⟨raw, accepted, contains⟩ := (taskTimeBounds_sound timed.sound reading).2 bounds answered
      rw [call.instant_eq (by rw [called]; exact accepted)]
      exact contains
    · intro computedAtMS start reading called
      exact (observe_sound timed.sound fun raw accepted => call.timestamp timed called accepted).2

noncomputable def honestRoundTrip : List TimedCall :=
  [⟨.capture (.ok 0), 1000000000⟩, ⟨.observe 1000 0 (.ok 1000000), 1001000000⟩]

theorem honestRoundTrip_admits : Admits TimedClock.step (HonestCall exampleOptions 0 1000000000) ⟨exampleClock, []⟩
    honestRoundTrip := by
  refine ⟨⟨?_, by simp⟩, ⟨?_, ?_⟩, trivial⟩
  · intro raw accepted
    obtain rfl : 0 = raw := Except.ok.inj accepted
    norm_num
  · intro raw accepted
    obtain rfl : 1000000 = raw := Except.ok.inj accepted
    norm_num
  · rintro computedAtMS start reading ⟨⟩
    refine ⟨1000000000, List.mem_cons_self, 1000000000, le_refl _, by norm_num, ?_⟩
    norm_num [nanos, nanosPerMS, exampleOptions]

theorem task_clock_sound_after_round_trip :
    ∃ state, run TimedClock.step ⟨exampleClock, []⟩ honestRoundTrip = state ∧
      nanos state.clock.trustedLowerFloor ≤ 1000000000 + (state.clock.rawFloor - (0 : Int)) ∧
      (taskTimeBounds state.clock (.ok 2000000)).2 = .ok ⟨1000, 1003⟩ ∧
      nanos 1000 ≤ 1002000000 ∧ 1002000000 ≤ nanos 1003 := by
  have new : newControlPlaneTaskClock exampleOptions (.ok 0) = .ok exampleClock := by decide
  obtain ⟨floor, next⟩ := task_clock_sound exampleOptions 0 1000000000 exampleClock new (by norm_num)
    honestRoundTrip honestRoundTrip_admits _ rfl
  have answered : (taskTimeBounds (run TimedClock.step ⟨exampleClock, []⟩ honestRoundTrip).clock
      (.ok 2000000)).2 = .ok ⟨1000, 1003⟩ := by decide
  have call : HonestCall exampleOptions 0 1000000000
      (run TimedClock.step ⟨exampleClock, []⟩ honestRoundTrip)
      ⟨.taskTimeBounds (.ok 2000000), 1002000000⟩ := by
    refine ⟨?_, by simp⟩
    intro raw accepted
    obtain rfl : 2000000 = raw := Except.ok.inj accepted
    norm_num
  exact ⟨_, rfl, floor, answered, (next _ call).1 _ _ rfl answered⟩

end PasswallNode.Agent
