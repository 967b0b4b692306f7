import PasswallNode.Foundation.Fallible
import PasswallNode.Foundation.Runs
import PasswallNode.State

/-! The control-plane task clock: an anchor from a complete sync round trip, advanced by a local elapsed
counter. Durations are nanoseconds, control-plane times milliseconds. -/

namespace PasswallNode.Agent

open Foundation State

abbrev Reading := Except String Int

inductive ClockFault where
  | noAnchor
  | readFailed (text : String)
  | counterRegressed
  | anchorStale
  | lowerOverflows
  | upperOverflows
  | boundsInvalid
  | timestampRegressed
  | roundTripInvalid
  | uncertaintyReachesEpoch
  | roundTripOverflows
  | uncertaintyOverflows
  | intervalsInconsistent
  deriving DecidableEq, Repr

def ClockFault.error : ClockFault → Error
  | .noAnchor => .ofSentinel .taskClockUnavailable
  | .readFailed text => (Error.ofSentinel .taskClockUnavailable).followedBy
      ("read elapsed counter: " ++ text)
  | .counterRegressed => unavailable "elapsed counter is negative or regressed"
  | .anchorStale => unavailable "anchor is stale or elapsed time regressed"
  | .lowerOverflows => unavailable "lower bound overflows"
  | .upperOverflows => unavailable "upper bound overflows"
  | .boundsInvalid => unavailable "time bounds are invalid"
  | .timestampRegressed => unavailable "control-plane timestamp is zero or regressed"
  | .roundTripInvalid => unavailable "round trip is invalid or exceeds policy"
  | .uncertaintyReachesEpoch => unavailable "uncertainty reaches the Unix epoch"
  | .roundTripOverflows => unavailable "round-trip upper bound overflows"
  | .uncertaintyOverflows => unavailable "uncertainty upper bound overflows"
  | .intervalsInconsistent => unavailable "control-plane time intervals are inconsistent"
where
  unavailable (reason : String) : Error := (Error.ofSentinel .taskClockUnavailable).followedBy reason

structure ClockOptions where
  maxAnchorAge : Int
  maxRoundTrip : Int
  uncertainty : Int
  deriving DecidableEq, Repr

structure ControlPlaneTaskClock where
  maxAnchorAge : Int
  maxRoundTrip : Int
  uncertaintyMS : Int
  hasRawFloor : Bool
  rawFloor : Int
  computedHighwater : Int
  trustedLowerFloor : Int
  hasAnchor : Bool
  anchorAt : Int
  anchorLowerMS : Int
  anchorUpperMS : Int
  deriving DecidableEq, Repr

def nanosPerMS : Int := 1000000

def ceilTaskClockMS (duration : Int) : Int :=
  let ms := duration.tdiv nanosPerMS
  if duration.tmod nanosPerMS ≠ 0 then ms + 1 else ms

def addTaskClockMS (a b : Int) : Option Int := addChecked a b

/-- Every fault drops the anchor; what the clock has learnt of the past it keeps. -/
def unavailableLocked {α : Type} (clock : ControlPlaneTaskClock) (fault : ClockFault) :
    ControlPlaneTaskClock × Except ClockFault α :=
  ({ clock with hasAnchor := false }, .error fault)

def boundsAtLocked (clock : ControlPlaneTaskClock) (now : Int) :
    ControlPlaneTaskClock × Except ClockFault TaskTimeBounds :=
  if clock.hasAnchor = false then (clock, .error .noAnchor)
  else
    let age := now - clock.anchorAt
    if age < 0 then unavailableLocked clock .anchorStale
    else
      let historicalAge := min age (clock.maxAnchorAge - 1)
      match addTaskClockMS clock.anchorLowerMS (historicalAge.tdiv nanosPerMS) with
      | none => unavailableLocked clock .lowerOverflows
      | some lower =>
        let floored := { clock with trustedLowerFloor := max clock.trustedLowerFloor lower }
        if age ≥ clock.maxAnchorAge then unavailableLocked floored .anchorStale
        else
          match addTaskClockMS clock.anchorUpperMS (ceilTaskClockMS age) with
          | none => unavailableLocked floored .upperOverflows
          | some upper =>
            match (TaskTimeBounds.mk lower upper).validate with
            | .error _ => unavailableLocked floored .boundsInvalid
            | .ok _ => (floored, .ok ⟨lower, upper⟩)

def captureLocked (clock : ControlPlaneTaskClock) (reading : Reading) :
    ControlPlaneTaskClock × Except ClockFault Int :=
  match reading with
  | .error text => unavailableLocked clock (.readFailed text)
  | .ok raw =>
    if raw < 0 ∨ (clock.hasRawFloor = true ∧ raw < clock.rawFloor) then
      -- The old floor stays: a faulty counter cannot revive authorisation from below it.
      unavailableLocked clock .counterRegressed
    else
      let sampled := { clock with hasRawFloor := true, rawFloor := raw }
      if sampled.hasAnchor then ((boundsAtLocked sampled raw).1, .ok raw) else (sampled, .ok raw)

def capture (clock : ControlPlaneTaskClock) (reading : Reading) :
    ControlPlaneTaskClock × Except ClockFault Int :=
  captureLocked clock reading

def taskTimeBounds (clock : ControlPlaneTaskClock) (reading : Reading) :
    ControlPlaneTaskClock × Except ClockFault TaskTimeBounds :=
  match captureLocked clock reading with
  | (sampled, .error fault) => (sampled, .error fault)
  | (sampled, .ok now) => boundsAtLocked sampled now

/-- The interval a response proves at its reception: its timestamp, widened by the round
trip and the uncertainty. -/
def observedInterval (clock : ControlPlaneTaskClock) (computedAtMS start finish : Int) :
    Except ClockFault (Int × Int) := do
  rejectIf (computedAtMS ≤ 0 ∨ computedAtMS < clock.computedHighwater) .timestampRegressed
  rejectIf (start < 0 ∨ start > finish ∨ finish - start > clock.maxRoundTrip) .roundTripInvalid
  rejectIf (computedAtMS ≤ clock.uncertaintyMS) .uncertaintyReachesEpoch
  let upper ← orError (addTaskClockMS computedAtMS (ceilTaskClockMS (finish - start))) .roundTripOverflows
  let upper ← orError (addTaskClockMS upper clock.uncertaintyMS) .uncertaintyOverflows
  .ok (computedAtMS - clock.uncertaintyMS, upper)

def tightened (interval : Int × Int) (old : Except ClockFault TaskTimeBounds) : Int × Int :=
  match old with
  | .ok bounds => (max interval.1 bounds.lowerMS, min interval.2 bounds.upperMS)
  | .error _ => interval

def observe (clock : ControlPlaneTaskClock) (computedAtMS start : Int) (reading : Reading) :
    ControlPlaneTaskClock × Except ClockFault Unit :=
  match captureLocked clock reading with
  | (sampled, .error fault) => (sampled, .error fault)
  | (sampled, .ok finish) =>
    let (held, old) := boundsAtLocked sampled finish
    match observedInterval held computedAtMS start finish with
    | .error fault => unavailableLocked held fault
    | .ok interval =>
      let (lower, upper) := tightened interval old
      let lower := max lower held.trustedLowerFloor
      if lower > upper then unavailableLocked held .intervalsInconsistent
      else
        ({ held with
            hasAnchor := true, anchorAt := finish, anchorLowerMS := lower,
            anchorUpperMS := upper, computedHighwater := computedAtMS,
            trustedLowerFloor := lower },
          .ok ())

def blankClock (options : ClockOptions) : ControlPlaneTaskClock where
  maxAnchorAge := options.maxAnchorAge
  maxRoundTrip := options.maxRoundTrip
  uncertaintyMS := ceilTaskClockMS options.uncertainty
  hasRawFloor := false
  rawFloor := 0
  computedHighwater := 0
  trustedLowerFloor := 0
  hasAnchor := false
  anchorAt := 0
  anchorLowerMS := 0
  anchorUpperMS := 0

/-- The first capture probes the counter; a clock is returned only when it succeeds. -/
def newControlPlaneTaskClock (options : ClockOptions) (reading : Reading) :
    Except Error ControlPlaneTaskClock := do
  rejectIf (options.maxAnchorAge ≤ 0 ∨ options.maxRoundTrip ≤ 0 ∨ options.uncertainty ≤ 0)
    (.new "task clock requires positive max anchor age, max round trip, and uncertainty")
  match capture (blankClock options) reading with
  | (_, .error fault) => .error (fault.error.within "probe task elapsed clock")
  | (probed, .ok _) => .ok probed

variable {reading : Reading} {clock : ControlPlaneTaskClock} {computedAtMS start finish : Int} {fault : ClockFault}
  {sampled : ControlPlaneTaskClock}

theorem newControlPlaneTaskClock_ok {options : ClockOptions}
    (created : newControlPlaneTaskClock options reading = .ok clock) :
    (0 < options.maxAnchorAge ∧ 0 < options.maxRoundTrip ∧ 0 < options.uncertainty) ∧
    ∃ raw, captureLocked (blankClock options) reading = (clock, .ok raw) := by
  simp only [newControlPlaneTaskClock, bind_eq_ok, rejectIf_eq_ok] at created
  obtain ⟨_, policy, probed⟩ := created
  refine ⟨by omega, ?_⟩
  split at probed
  · cases probed
  · rename_i raw captured
    cases probed
    exact ⟨raw, captured⟩

def anchoredLower (clock : ControlPlaneTaskClock) (now : Int) : Int :=
  clock.anchorLowerMS + (min (now - clock.anchorAt) (clock.maxAnchorAge - 1)).tdiv nanosPerMS

inductive BoundsOutcome (clock : ControlPlaneTaskClock) (now : Int) :
    ControlPlaneTaskClock × Except ClockFault TaskTimeBounds → Prop where
  | absent (none : clock.hasAnchor = false) : BoundsOutcome clock now (clock, .error .noAnchor)
  | dropped (fault : ClockFault) (distinct : fault ≠ .intervalsInconsistent) :
      BoundsOutcome clock now ({ clock with hasAnchor := false }, .error fault)
  | folded (fault : ClockFault) (distinct : fault ≠ .intervalsInconsistent)
      (anchored : clock.hasAnchor = true) (aged : clock.anchorAt ≤ now) :
      BoundsOutcome clock now
        ({ clock with
            trustedLowerFloor := max clock.trustedLowerFloor (anchoredLower clock now),
            hasAnchor := false }, .error fault)
  | answered (anchored : clock.hasAnchor = true) (aged : clock.anchorAt ≤ now)
      (fresh : now - clock.anchorAt < clock.maxAnchorAge)
      (ordered : anchoredLower clock now ≤
        clock.anchorUpperMS + ceilTaskClockMS (now - clock.anchorAt)) :
      BoundsOutcome clock now
        ({ clock with
            trustedLowerFloor := max clock.trustedLowerFloor (anchoredLower clock now) },
          .ok ⟨anchoredLower clock now, clock.anchorUpperMS + ceilTaskClockMS (now - clock.anchorAt)⟩)

theorem validate_eq_ok {bounds : TaskTimeBounds} {u : Unit} (valid : bounds.validate = .ok u) :
    0 < bounds.lowerMS ∧ bounds.lowerMS ≤ bounds.upperMS := by
  unfold TaskTimeBounds.validate at valid
  split at valid
  · cases valid
  · omega

theorem boundsAtLocked_outcome (clock : ControlPlaneTaskClock) (now : Int) :
    BoundsOutcome clock now (boundsAtLocked clock now) := by
  unfold boundsAtLocked
  split
  · rename_i none; exact .absent none
  rename_i anchored
  rw [Bool.not_eq_false] at anchored
  dsimp only
  split
  · exact .dropped _ (by simp)
  rename_i aged
  split
  · exact .dropped _ (by simp)
  rename_i lower sum
  obtain ⟨_, _, _, rfl⟩ := addChecked_eq_some.mp sum
  split
  · exact .folded _ (by simp) anchored (by omega)
  rename_i fresh
  split
  · exact .folded _ (by simp) anchored (by omega)
  rename_i upper total
  obtain ⟨_, _, _, rfl⟩ := addChecked_eq_some.mp total
  split
  · exact .folded _ (by simp) anchored (by omega)
  rename_i valid
  exact .answered anchored (by omega) (by omega) (validate_eq_ok valid).2

def sampledAt (clock : ControlPlaneTaskClock) (raw : Int) : ControlPlaneTaskClock :=
  { clock with hasRawFloor := true, rawFloor := raw }

inductive CaptureOutcome (clock : ControlPlaneTaskClock) (reading : Reading) :
    ControlPlaneTaskClock × Except ClockFault Int → Prop where
  | refused (fault : ClockFault) (distinct : fault ≠ .intervalsInconsistent) :
      CaptureOutcome clock reading ({ clock with hasAnchor := false }, .error fault)
  | accepted {raw : Int} (read : reading = .ok raw) (positive : 0 ≤ raw)
      (advanced : clock.hasRawFloor = true → clock.rawFloor ≤ raw) :
      CaptureOutcome clock reading ((boundsAtLocked (sampledAt clock raw) raw).1, .ok raw)

theorem captureLocked_outcome (clock : ControlPlaneTaskClock) (reading : Reading) :
    CaptureOutcome clock reading (captureLocked clock reading) := by
  unfold captureLocked
  split
  · exact .refused _ (by simp)
  rename_i raw
  split
  · exact .refused _ (by simp)
  rename_i sane
  rw [not_or, not_and] at sane
  have outcome : CaptureOutcome clock (.ok raw)
      ((boundsAtLocked (sampledAt clock raw) raw).1, .ok raw) :=
    .accepted rfl (by omega) (fun floored => by have := sane.2 floored; omega)
  dsimp only
  split
  · exact outcome
  · rename_i none
    have same : (boundsAtLocked (sampledAt clock raw) raw).1 = sampledAt clock raw := by
      rw [boundsAtLocked, if_pos (by simpa [sampledAt] using none)]
    rw [same] at outcome
    exact outcome

def anchorFrom (held : ControlPlaneTaskClock) (interval : Int × Int)
    (old : Except ClockFault TaskTimeBounds) : Int × Int :=
  (max (tightened interval old).1 held.trustedLowerFloor, (tightened interval old).2)

def anchoredAt (held : ControlPlaneTaskClock) (computedAtMS finish : Int) (anchor : Int × Int) :
    ControlPlaneTaskClock :=
  { held with
    hasAnchor := true, anchorAt := finish, anchorLowerMS := anchor.1, anchorUpperMS := anchor.2,
    computedHighwater := computedAtMS, trustedLowerFloor := anchor.1 }

/-- All that `observe` can do after its counter reading. `sampled` is the clock the capture leaves; its bounds
are folded in before the response is judged. -/
inductive ObserveOutcome (sampled : ControlPlaneTaskClock) (computedAtMS start finish : Int) :
    ControlPlaneTaskClock × Except ClockFault Unit → Prop where
  | rejected (fault : ClockFault) (distinct : fault ≠ .intervalsInconsistent) :
      ObserveOutcome sampled computedAtMS start finish
        ({ (boundsAtLocked sampled finish).1 with hasAnchor := false }, .error fault)
  | inconsistent {interval : Int × Int}
      (observed : observedInterval (boundsAtLocked sampled finish).1 computedAtMS start finish =
        .ok interval)
      (crossed : (anchorFrom (boundsAtLocked sampled finish).1 interval
          (boundsAtLocked sampled finish).2).2 <
        (anchorFrom (boundsAtLocked sampled finish).1 interval (boundsAtLocked sampled finish).2).1) :
      ObserveOutcome sampled computedAtMS start finish
        ({ (boundsAtLocked sampled finish).1 with hasAnchor := false }, .error .intervalsInconsistent)
  | anchored {interval : Int × Int}
      (observed : observedInterval (boundsAtLocked sampled finish).1 computedAtMS start finish =
        .ok interval) :
      ObserveOutcome sampled computedAtMS start finish
        (anchoredAt (boundsAtLocked sampled finish).1 computedAtMS finish
          (anchorFrom (boundsAtLocked sampled finish).1 interval (boundsAtLocked sampled finish).2),
          .ok ())

theorem observedInterval_ok {interval : Int × Int}
    (observed : observedInterval clock computedAtMS start finish = .ok interval) : 0 ≤ start ∧ start ≤ finish ∧
    interval = (computedAtMS - clock.uncertaintyMS,
      computedAtMS + ceilTaskClockMS (finish - start) + clock.uncertaintyMS) := by
  simp only [observedInterval, bind_eq_ok, rejectIf_eq_ok, orError_eq_ok, Except.ok.injEq] at observed
  obtain ⟨_, _, _, roundTrip, _, _, first, sum, second, total, rfl⟩ := observed
  obtain ⟨_, _, _, rfl⟩ := addChecked_eq_some.mp sum
  obtain ⟨_, _, _, rfl⟩ := addChecked_eq_some.mp total
  exact ⟨by omega, by omega, rfl⟩

theorem observedInterval_fault (refused : observedInterval clock computedAtMS start finish = .error fault) :
    fault ≠ .intervalsInconsistent := by
  rintro rfl
  simp [observedInterval, bind_eq_error, rejectIf_eq_error, orError_eq_error] at refused

theorem observe_outcome (captured : captureLocked clock reading = (sampled, .ok finish)) :
    ObserveOutcome sampled computedAtMS start finish (observe clock computedAtMS start reading) := by
  unfold observe
  rw [captured]
  dsimp only
  split
  · rename_i fault refused
    exact .rejected fault (observedInterval_fault refused)
  · rename_i interval observed
    split
    · rename_i crossed
      exact .inconsistent observed crossed
    · exact .anchored observed

theorem observe_of_refused (captured : captureLocked clock reading = (sampled, .error fault)) :
    observe clock computedAtMS start reading = (sampled, .error fault) := by
  rw [observe, captured]

inductive ClockCall where
  | capture (reading : Reading)
  | observe (computedAtMS start : Int) (reading : Reading)
  | taskTimeBounds (reading : Reading)

def ClockCall.perform (clock : ControlPlaneTaskClock) : ClockCall → ControlPlaneTaskClock
  | .capture reading => (Agent.capture clock reading).1
  | .observe computedAtMS start reading => (Agent.observe clock computedAtMS start reading).1
  | .taskTimeBounds reading => (Agent.taskTimeBounds clock reading).1

def exampleOptions : ClockOptions := ⟨10000000000, 5000000000, 1000000⟩

def exampleClock : ControlPlaneTaskClock := (capture (blankClock exampleOptions) (.ok 0)).1

end PasswallNode.Agent
