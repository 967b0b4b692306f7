import Mathlib.Data.List.Chain
import PasswallNode.Foundation.Interference
import PasswallNode.Handover.Looking

/-! How often and how soon a handover of one predecessor onto one image is tried again. -/

namespace PasswallNode.Handover

open Foundation Relation
open Upgrade (Failure)

/-- The journal, the last reading of the clock, and every record with the reading at which it was
written. -/
structure Ledger where
  journal : Option DockerHandover
  clock : Int
  log : List (Int × DockerHandover)

/-- A journal that always decodes. A read or a write may fail, and a write that fails may have taken effect. -/
def Ledger.answers (state : Ledger) : (op : UpdaterCall) → op.Answer → Ledger → Prop
  | .loadHandover, answer, after =>
    after = state ∧ (answer = state.journal.elim .absent .journal ∨ ∃ err, answer = .failed err)
  | .storeHandover h, answer, after =>
    after = ⟨some h, state.clock, state.log ++ [(state.clock, h)]⟩ ∨ ((∃ err, answer = .error err) ∧ after = state)
  | .now, answer, after => after = { state with clock := answer }
  | _, _, after => after = state

def ledger : Environment Ledger UpdaterCall UpdaterCall.Answer where
  answers state := state.answers
  moves _ _ := False

section Records

def DockerHandover.identity (h : DockerHandover) : DockerHandover :=
  { h with phase := .prepared, notBeforeUnix := 0, successorID := "", reason := "" }

def Moved (prev next : DockerHandover) : Prop := movesOn prev next = .ok ()

theorem movesOn_eq_ok {prev next : DockerHandover} :
    Moved prev next ↔ next.phase ∈ handoverTransitions prev.phase ∧ next = expectedAfter prev next := by
  unfold Moved movesOn
  rw [bind_eq_ok]
  simp only [rejectIf_eq_ok, not_not]
  exact exists_const Unit

theorem replaces_eq_ok {prev : Option DockerHandover} {next : DockerHandover} (ok : replaces prev next = .ok ()) :
    (∀ h, prev = some h → handoverTerminal h.phase = true) ∧ next.phase = .prepared := by
  unfold replaces at ok
  rw [bind_eq_ok] at ok
  obtain ⟨_, finished, first⟩ := ok
  rw [rejectIf_eq_ok] at finished first
  refine ⟨?_, not_not.mp first⟩
  rintro h rfl
  simpa using finished

theorem expectedAfter_identity (prev next : DockerHandover) :
    (expectedAfter prev next).identity = prev.identity := by
  unfold expectedAfter DockerHandover.identity
  dsimp only
  split <;> split <;> try split
  all_goals rfl

theorem transitions_of_terminal {phase : Phase} (terminal : handoverTerminal phase = true) :
    handoverTransitions phase = [] := by
  cases phase <;> first | rfl | cases terminal

def DockerHandover.Stamped (h : DockerHandover) (time : Int) : Prop :=
  h.phase = .aborted ∨ h.phase = .reverted → h.notBeforeUnix = handoverNotBefore h.attempt h.reason time

inductive Records (state : Ledger) (next : DockerHandover) : Prop where
  | begins (valid : next.validate = .ok ())
      (finished : ∀ prev, state.journal = some prev → handoverTerminal prev.phase = true)
      (first : next.phase = .prepared) (counted : numbered state.journal next state.clock = .ok ())
  | continues (valid : next.validate = .ok ()) (prev : DockerHandover) (found : state.journal = some prev)
      (moved : Moved prev next) (stamped : next.Stamped state.clock)

def Ledger.allows (state : Ledger) (op : UpdaterCall) : Prop := ∀ h, op = .storeHandover h → Records state h

variable {state : Ledger} {α β : Type} {program : Updating α}

abbrev Timed (state : Ledger) (program : Updating α) : Prop :=
  Ensures ledger Ledger.allows (fun _ => Yields (fun _ => True) (fun _ => True)) state program

theorem ledger_still {after : Ledger} (moved : ReflTransGen ledger.moves state after) : after = state := by
  induction moved with
  | refl => rfl
  | tail _ impossible _ => exact impossible.elim

theorem timed_call {op : UpdaterCall} {next : op.Answer → Updating α} {post : Ledger → Except Failure α → Prop}
    (permitted : state.allows op)
    (rest : ∀ answer after, state.answers op answer after → Ensures ledger Ledger.allows post after (next answer)) :
    Ensures ledger Ledger.allows post state (.call op next) := by
  intro later moved
  rw [ledger_still moved]
  exact ⟨permitted, rest⟩

theorem timed_of_looks (uses : Uses Looks program) : Timed state program := by
  have first : Ensures ledger Ledger.allows (fun _ _ => True) state program := by
    refine ensures_of_uses (fun _ _ _ held => held) (fun _ _ _ _ held _ _ => held) ?_ uses trivial
    rintro state op - looks h rfl
    exact looks.elim
  refine ensures_mono first (fun _ _ => id) (fun _ result _ => ?_)
  cases result <;> trivial

theorem timed_bind {next : α → Updating β} (first : Timed state program) (rest : ∀ state a, Timed state (next a)) :
    Timed state (program >>= next) :=
  ensures_bind first (fun state a _ => rest state a)

theorem timed_looks {next : α → Updating β} (uses : Uses Observes program) (rest : ∀ state a, Timed state (next a)) :
    Timed state (program >>= next) :=
  timed_bind (timed_of_looks (uses_mono uses looks_of_observes)) rest

theorem timed_attempt {next : Except Failure α → Updating β} (first : Timed state program)
    (rest : ∀ state outcome, Timed state (next outcome)) : Timed state (program.attempt >>= next) :=
  ensures_bind (ensures_attempt first) (fun state outcome _ => rest state outcome)

theorem timed_tries {next : Except Failure α → Updating β} (uses : Uses Observes program)
    (rest : ∀ state outcome, Timed state (next outcome)) : Timed state (program.attempt >>= next) :=
  timed_attempt (timed_of_looks (uses_mono uses looks_of_observes)) rest

theorem timed_request {op : UpdaterCall} {next : op.Answer → Updating α} (plain : ∀ h, op ≠ .storeHandover h)
    (rest : ∀ state answer, Timed state (next answer)) : Timed state (request op >>= next) :=
  timed_call (fun h same => absurd same (plain h)) (fun answer after _ => rest after answer)

theorem timed_clock {next : Int → Updating α} {post : Ledger → Except Failure α → Prop}
    (rest : ∀ state, Ensures ledger Ledger.allows post state (next state.clock)) :
    Ensures ledger Ledger.allows post state (clock >>= next) := by
  refine timed_call (fun h same => ?_) (fun answer after answered => ?_)
  · cases same
  · cases answered
    exact rest { state with clock := answer }

theorem timed_readHandover :
    Ensures ledger Ledger.allows (fun _ => Yields (fun _ => True) (fun _ => True)) state (readHandover true) := by
  refine timed_call (fun h same => ?_) (fun loaded after answered => ?_)
  · cases same
  · obtain ⟨rfl, answered⟩ := answered
    cases loaded with
    | absent | journal | failed => trivial
    | invalid =>
      rcases answered with shown | ⟨err, impossible⟩
      · cases found : after.journal <;> rw [found] at shown <;> cases shown
      · cases impossible

theorem timed_storeHandover {next : DockerHandover} (records : Records state next) :
    Timed state (storeHandover next) := by
  refine timed_call (fun h same => ?_) (fun stored after _ => ?_)
  · cases same
    exact records
  · cases stored <;> trivial

theorem timed_loadHandover :
    Ensures ledger Ledger.allows
      (fun later => Yields (fun _ => True) (fun prev => later = state ∧ prev = state.journal))
    state loadHandover := by
  refine timed_call (fun h same => ?_) (fun loaded after answered => ?_)
  · cases same
  · obtain ⟨rfl, answered⟩ := answered
    rcases answered with rfl | ⟨err, rfl⟩
    · cases found : after.journal <;> exact ⟨rfl, rfl⟩
    · trivial

theorem timed_writeHandover {next : DockerHandover} (stamped : next.Stamped state.clock) :
    Timed state (writeHandover next) := by
  unfold writeHandover
  cases checked : next.validate with
  | error err => trivial
  | ok _ =>
    change Timed state (loadHandover >>= _)
    refine ensures_bind timed_loadHandover ?_
    rintro later prev ⟨rfl, rfl⟩
    split
    · next same found =>
        obtain ⟨found, -⟩ := Option.filter_eq_some_iff.mp found
        unfold continueHandover
        cases moved : movesOn same next with
        | error err => trivial
        | ok _ => exact timed_storeHandover (.continues checked same found moved stamped)
    · unfold beginHandover
      cases replaced : replaces later.journal next with
      | error err => trivial
      | ok _ =>
        obtain ⟨finished, first⟩ := replaces_eq_ok replaced
        change Timed later (clock >>= _)
        refine timed_call (fun h same => ?_) (fun now after answered => ?_)
        · cases same
        · cases answered
          change Timed _ (Proc.done (numbered later.journal next now) >>= fun _ => storeHandover next)
          cases counted : numbered later.journal next now with
          | error err => trivial
          | ok _ => exact timed_storeHandover (.begins checked finished first counted)

end Records

section Writers

variable {state : Ledger} {h : DockerHandover}

theorem stamped_of_phase {time : Int} (going : h.phase ≠ .aborted ∧ h.phase ≠ .reverted) : h.Stamped time :=
  fun ended => (ended.elim going.1 going.2).elim

namespace Controller

variable (c : Controller)

theorem timed_abortHandover {known reason : String} {byName : Bool} :
    Timed state (c.abortHandover h known byName reason) := by
  refine timed_looks (looks_abortedSuccessor h known byName) (fun state successor => ?_)
  refine timed_looks (c.looks_removeSuccessor successor) (fun state _ => ?_)
  refine timed_clock (fun state => ?_)
  exact ensures_mapError (timed_writeHandover (fun _ => rfl)) (fun _ _ _ => trivial)

theorem timed_abortWith {known reason : String} {byName : Bool} : Timed state (c.abortWith h known byName reason) :=
  timed_bind c.timed_abortHandover (fun _ _ => trivial)

theorem timed_abortUnlessStopping {reason : String} : Timed state (c.abortUnlessStopping h reason) := by
  refine timed_request (fun _ => UpdaterCall.noConfusion) (fun state stopping => ?_)
  split
  · trivial
  · exact c.timed_abortWith

theorem timed_commitHandover : Timed state (c.commitHandover h) := by
  refine timed_attempt (timed_writeHandover (stamped_of_phase ⟨Phase.noConfusion, Phase.noConfusion⟩))
    (fun state written => ?_)
  cases written with
  | ok _ => trivial
  | error err => exact timed_bind c.timed_abortHandover (fun _ _ => trivial)

theorem timed_proveSuccessor {t : HandoverTarget} : Timed state (c.proveSuccessor h t) := by
  refine timed_tries (c.looks_verifySuccessor h t) (fun state verified => ?_)
  cases verified with
  | error err => exact c.timed_abortUnlessStopping
  | ok _ =>
    refine timed_tries (c.uses_mutate (fun _ => id) trivial) (fun state started => ?_)
    cases started with
    | error err => exact c.timed_abortUnlessStopping
    | ok _ =>
      refine timed_looks (c.looks_waitStandby h) (fun state waited => ?_)
      cases waited with
      | some reason => exact c.timed_abortUnlessStopping
      | none => exact c.timed_commitHandover

theorem timed_createSuccessor {t : HandoverTarget} {source : Container} :
    Timed state (c.createSuccessor h t source) := by
  refine timed_attempt (timed_of_looks (c.looks_mutate _)) (fun state created => ?_)
  cases created with
  | error err => exact c.timed_abortWith
  | ok successorID =>
    refine timed_attempt (timed_writeHandover (stamped_of_phase ⟨Phase.noConfusion, Phase.noConfusion⟩))
      (fun state written => ?_)
    cases written with
    | error err => exact c.timed_abortWith
    | ok _ => exact c.timed_proveSuccessor

theorem timed_handOver {t : HandoverTarget} : Timed state (c.handOver t) := by
  refine timed_call (fun _ => UpdaterCall.noConfusion) (fun answer after _ => ?_)
  cases answer with
  | error err => trivial
  | ok id =>
    change Timed after ((writeHandover (c.preparedHandover t id)).mapError _ >>= _)
    refine timed_bind (ensures_mapError (timed_writeHandover
      (stamped_of_phase ⟨Phase.noConfusion, Phase.noConfusion⟩)) (fun _ _ _ => trivial)) (fun state _ => ?_)
    refine timed_tries (looks_inspect _) (fun state found => ?_)
    split
    · exact c.timed_abortWith
    · split
      · exact c.timed_abortWith
      · exact c.timed_createSuccessor
    · exact c.timed_abortWith

theorem timed_reclaim {self : String} : Timed state (c.reclaim self h) := by
  refine timed_request (fun _ => UpdaterCall.noConfusion) (fun state tried => ?_)
  split
  · refine timed_bind ?_ (fun state moved => ?_)
    · refine timed_attempt timed_readHandover (fun state read => ?_)
      have unlocks : ∀ state, Timed state (unlockAnd (none : Option DockerHandover)) := fun state =>
        timed_request (fun _ => UpdaterCall.noConfusion) (fun _ _ => trivial)
      split
      · next journal =>
          split
          · change Timed state (clock >>= _)
            refine timed_clock (fun state => ?_)
            refine timed_attempt (timed_writeHandover (fun _ => rfl)) (fun state written => ?_)
            cases written with
            | ok _ => trivial
            | error err => exact unlocks state
          · exact unlocks state
      · exact unlocks state
    · split
      · trivial
      · exact timed_tries (c.looks_removeUpdater _) (fun _ _ => trivial)
  · trivial

end Controller

end Writers

section Log

def Succeeds (prev : DockerHandover) (entry : Int × DockerHandover) : Prop :=
  (handoverTerminal prev.phase = true ∧ entry.2.phase = .prepared ∧ numbered (some prev) entry.2 entry.1 = .ok ()) ∨
    Moved prev entry.2

structure Annotated (state : Ledger) : Prop where
  chain : state.log.IsChain (fun before entry => Succeeds before.2 entry)
  stamped : ∀ entry ∈ state.log, entry.2.Stamped entry.1
  valid : ∀ entry ∈ state.log, entry.2.validate = .ok ()
  last : ∀ entry ∈ state.log.getLast?, state.journal = some entry.2

variable {state : Ledger} {next : DockerHandover} {predecessorID imageID : String} {prev : DockerHandover} {time : Int}

theorem records_valid (records : Records state next) : next.validate = .ok () := by
  cases records <;> assumption

theorem records_stamped (records : Records state next) : next.Stamped state.clock := by
  cases records with
  | begins valid finished first counted =>
    refine stamped_of_phase ?_
    rw [first]
    exact ⟨Phase.noConfusion, Phase.noConfusion⟩
  | continues valid prev found moved stamped => exact stamped

theorem records_succeeds {prev : DockerHandover} (records : Records state next) (found : state.journal = some prev) :
    Succeeds prev (state.clock, next) := by
  cases records with
  | begins valid finished first counted => exact .inl ⟨finished prev found, first, found ▸ counted⟩
  | continues valid other same moved stamped =>
    rw [found] at same
    cases same
    exact .inr moved

theorem annotated_store (annotated : Annotated state) (records : Records state next) :
    Annotated ⟨some next, state.clock, state.log ++ [(state.clock, next)]⟩ := by
  refine ⟨?_, fun entry member => ?_, fun entry member => ?_, fun entry member => ?_⟩
  · refine List.isChain_append.mpr ⟨annotated.chain, List.isChain_singleton _, ?_⟩
    intro before last entry head
    cases Option.some.inj head
    exact records_succeeds records (annotated.last before last)
  · rcases List.mem_append.mp member with earlier | new
    · exact annotated.stamped entry earlier
    · cases List.mem_singleton.mp new
      exact records_stamped records
  · rcases List.mem_append.mp member with earlier | new
    · exact annotated.valid entry earlier
    · cases List.mem_singleton.mp new
      exact records_valid records
  · simp only [List.getLast?_append, List.getLast?_singleton, Option.some_or, Option.mem_def,
      Option.some.injEq] at member
    rw [← member]

theorem annotated_call {op : UpdaterCall} {answer : op.Answer} {after : Ledger} (annotated : Annotated state)
    (permitted : state.allows op) (answered : state.answers op answer after) : Annotated after := by
  cases op with
  | storeHandover h =>
    rcases answered with rfl | ⟨-, rfl⟩
    · exact annotated_store annotated (permitted h rfl)
    · exact annotated
  | loadHandover => exact answered.1 ▸ annotated
  | now =>
    rw [answered]
    exact ⟨annotated.chain, annotated.stamped, annotated.valid, annotated.last⟩
  | _ => exact answered ▸ annotated

theorem annotated_among {α : Type} {program rest : Updating α} {after : Ledger} (timed : Timed state program)
    (ran : Among ledger (state, program) (after, rest)) (annotated : Annotated state) : Annotated after := by
  have stable : Stable ledger Annotated := fun _ _ impossible => impossible.elim
  have keeps := ensures_invariant stable (fun _ _ _ _ held permitted answered => annotated_call held permitted answered)
    timed annotated
  exact among_holds stable ran (ensures_mono keeps (fun _ _ both => both.2) (fun _ _ both => both.2))

/-- A run of one of the functions that write the journal, as far as it has come. -/
inductive Wrote (before after : Ledger) : Prop where
  | handOver (c : Controller) (t : HandoverTarget) (rest : Updating Bool)
      (ran : Among ledger (before, c.handOver t) (after, rest))
  | abortHandover (c : Controller) (h : DockerHandover) (known : String) (byName : Bool) (reason : String)
      (rest : Updating Unit) (ran : Among ledger (before, c.abortHandover h known byName reason) (after, rest))
  | reclaim (c : Controller) (self : String) (h : DockerHandover) (rest : Updating Bool)
      (ran : Among ledger (before, c.reclaim self h) (after, rest))

theorem annotated_wrote {before after : Ledger} (annotated : Annotated before) (wrote : Wrote before after) :
    Annotated after := by
  cases wrote with
  | handOver c t rest ran => exact annotated_among c.timed_handOver ran annotated
  | abortHandover c h known byName reason rest ran => exact annotated_among c.timed_abortHandover ran annotated
  | reclaim c self h rest ran => exact annotated_among c.timed_reclaim ran annotated

theorem annotated_runs {initial state : Ledger} (unwritten : initial.log = [])
    (ran : ReflTransGen Wrote initial state) :
    Annotated state := by
  induction ran with
  | refl =>
    refine ⟨?_, ?_, ?_, ?_⟩ <;> rw [unwritten]
    · exact .nil
    · exact fun _ member => by cases member
    · exact fun _ member => by cases member
    · exact fun _ member => by cases member
  | tail _ wrote ih => exact annotated_wrote ih wrote

def DockerHandover.ended (h : DockerHandover) : Bool := decide (h.phase = .aborted) || decide (h.phase = .reverted)

def DockerHandover.failed (h : DockerHandover) : Bool := h.ended && decide (h.reason ≠ handoverPreemptedReason)

def DockerHandover.preempted (h : DockerHandover) : Bool := h.ended && decide (h.reason = handoverPreemptedReason)

def failures (segment : List (Int × DockerHandover)) : Nat := segment.countP (fun entry => entry.2.failed)

/-- A record of a handover of the pair that was not completed, abandoned or superseded. -/
structure OfPair (predecessorID imageID : String) (h : DockerHandover) : Prop where
  predecessor : h.predecessorID = predecessorID
  image : h.imageID = imageID
  uncompleted : h.phase ≠ .completed ∧ h.phase ≠ .abandoned ∧ h.phase ≠ .superseded

def DockerHandover.spent (h : DockerHandover) : Int := if h.failed then h.attempt else h.attempt - 1

theorem ended_of_terminal (pair : OfPair predecessorID imageID prev) (terminal : handoverTerminal prev.phase = true) :
    prev.ended = true := by
  obtain ⟨-, -, completed, abandoned, superseded⟩ := pair
  unfold DockerHandover.ended
  cases phase : prev.phase <;> simp_all [handoverTerminal]

theorem ended_iff : prev.ended = true ↔ prev.phase = .aborted ∨ prev.phase = .reverted := by
  simp [DockerHandover.ended]

theorem terminal_of_ended (ended : prev.ended = true) : handoverTerminal prev.phase = true := by
  rcases ended_iff.mp ended with phase | phase <;> rw [phase] <;> rfl

theorem failed_iff : prev.failed = true ↔ prev.ended = true ∧ prev.reason ≠ handoverPreemptedReason := by
  simp [DockerHandover.failed]

theorem not_failed_of_prepared (first : next.phase = .prepared) : next.failed = false := by
  simp [DockerHandover.failed, DockerHandover.ended, first]

theorem moved_attempt (moved : Moved prev next) : next.attempt = prev.attempt := by
  obtain ⟨-, same⟩ := movesOn_eq_ok.mp moved
  have identity := expectedAfter_identity prev next
  rw [← same] at identity
  have attempt := congrArg DockerHandover.attempt identity
  exact attempt

theorem not_failed_of_moved (moved : Moved prev next) : prev.failed = false := by
  by_contra failed
  have ended := (failed_iff.mp (Bool.not_eq_false _ ▸ failed)).1
  obtain ⟨allowed, -⟩ := movesOn_eq_ok.mp moved
  rw [transitions_of_terminal (terminal_of_ended ended)] at allowed
  cases allowed

theorem numbered_eq_ok (pair : OfPair predecessorID imageID prev) (same : OfPair predecessorID imageID next)
    (ended : prev.ended = true) (counted : numbered (some prev) next time = .ok ()) :
    (prev.reason = handoverPreemptedReason ∧ next.attempt = prev.attempt) ∨
    (prev.reason ≠ handoverPreemptedReason ∧ next.attempt = prev.attempt + 1 ∧ prev.notBeforeUnix ≤ unix time) := by
  unfold numbered at counted
  obtain ⟨attempt, numbers, agrees⟩ := bind_eq_ok.mp counted
  rw [rejectIf_eq_ok, not_or, not_not] at agrees
  have counts : ¬ ((prev.phase ≠ .aborted ∧ prev.phase ≠ .reverted) ∨ prev.predecessorID ≠ next.predecessorID ∨
      prev.imageID ≠ next.imageID) := by
    rw [pair.predecessor, pair.image, same.predecessor, same.image]
    rcases ended_iff.mp ended with phase | phase <;> simp [phase]
  simp only [nextHandoverAttempt, if_neg counts] at numbers
  split at numbers
  · next preempted => exact .inl ⟨preempted, agrees.1.trans (Except.ok.inj numbers).symm⟩
  · next counted =>
      split at numbers
      · cases numbers
      split at numbers
      · cases numbers
      · next due => exact .inr ⟨counted, agrees.1.trans (Except.ok.inj numbers).symm, by omega⟩

theorem failures_append (before after : List (Int × DockerHandover)) :
    failures (before ++ after) = failures before + failures after :=
  List.countP_append

theorem failures_of_failed (failed : next.failed = true) : failures [(time, next)] = 1 := by
  simp [failures, failed]

theorem failures_of_not_failed (unfailed : next.failed = false) : failures [(time, next)] = 0 := by
  simp [failures, unfailed]

theorem spent_of_failed (failed : prev.failed = true) : prev.spent = prev.attempt := if_pos failed

theorem spent_of_not_failed (unfailed : prev.failed = false) : prev.spent = prev.attempt - 1 := by
  simp [DockerHandover.spent, unfailed]

theorem spent_succeeds (pair : OfPair predecessorID imageID prev) (same : OfPair predecessorID imageID next)
    (succeeds : Succeeds prev (time, next)) : prev.spent + failures [(time, next)] ≤ next.spent := by
  rcases succeeds with ⟨terminal, first, counted⟩ | moved
  · have ended := ended_of_terminal pair terminal
    have going := not_failed_of_prepared first
    rw [failures_of_not_failed going, spent_of_not_failed going]
    rcases numbered_eq_ok pair same ended counted with ⟨preempted, attempt⟩ | ⟨other, attempt, -⟩
    · have unfailed : prev.failed = false := by simp [DockerHandover.failed, preempted]
      rw [spent_of_not_failed unfailed, attempt]
      omega
    · rw [spent_of_failed (failed_iff.mpr ⟨ended, other⟩), attempt]
      omega
  · have attempt : next.attempt = prev.attempt := moved_attempt moved
    rw [spent_of_not_failed (not_failed_of_moved moved)]
    cases failed : next.failed with
    | true =>
      rw [failures_of_failed failed, spent_of_failed failed]
      omega
    | false =>
      rw [failures_of_not_failed failed, spent_of_not_failed failed]
      omega

theorem attempt_of_valid (valid : next.validate = .ok ()) : 1 ≤ next.attempt ∧ next.attempt ≤ 3 := by
  simp only [DockerHandover.validate, bind_eq_ok] at valid
  obtain ⟨_, _, _, counted, _⟩ := valid
  rw [rejectIf_eq_ok, handoverMaxAttempts] at counted
  omega

theorem spent_of_valid (valid : next.validate = .ok ()) (time : Int) :
    failures [(time, next)] ≤ next.spent ∧ next.spent ≤ 3 := by
  have bounds := attempt_of_valid valid
  cases failed : next.failed with
  | true =>
    rw [failures_of_failed failed, spent_of_failed failed]
    omega
  | false =>
    rw [failures_of_not_failed failed, spent_of_not_failed failed]
    omega

end Log

section Segments

structure Segment (predecessorID imageID : String) (entries : List (Int × DockerHandover)) : Prop where
  chain : entries.IsChain (fun before entry => Succeeds before.2 entry)
  stamped : ∀ entry ∈ entries, entry.2.Stamped entry.1
  valid : ∀ entry ∈ entries, entry.2.validate = .ok ()
  pair : ∀ entry ∈ entries, OfPair predecessorID imageID entry.2

variable {predecessorID imageID : String} {entries before after : List (Int × DockerHandover)}
  {first entry next : Int × DockerHandover}

theorem Segment.within (segment : Segment predecessorID imageID entries) {part : List (Int × DockerHandover)}
    (inside : part <:+: entries) : Segment predecessorID imageID part :=
  ⟨ List.IsChain.infix segment.chain inside, fun _ member => segment.stamped _ (inside.subset member),
    fun _ member => segment.valid _ (inside.subset member), fun _ member => segment.pair _ (inside.subset member)⟩

theorem failures_le_spent (segment : Segment predecessorID imageID (before ++ [entry])) :
    failures (before ++ [entry]) ≤ entry.2.spent := by
  induction before using List.reverseRecOn generalizing entry with
  | nil => exact (spent_of_valid (segment.valid entry (.head _)) entry.1).1
  | append_singleton earlier previous ih =>
    have earlierSpent := ih (segment.within (List.prefix_append (earlier ++ [previous]) [entry]).isInfix)
    have follows := (List.isChain_append.mp segment.chain).2.2 previous (by simp) entry (by simp)
    have spent : previous.2.spent + failures [entry] ≤ entry.2.spent :=
      spent_succeeds (segment.pair previous (by simp)) (segment.pair entry (by simp)) follows
    rw [failures_append]
    push_cast
    omega

theorem failures_le_three (segment : Segment predecessorID imageID entries) : failures entries ≤ 3 := by
  rcases List.eq_nil_or_concat' entries with rfl | ⟨before, entry, rfl⟩
  · exact Nat.zero_le 3
  · have spent := failures_le_spent segment
    have bounded := (spent_of_valid (segment.valid entry (by simp)) entry.1).2
    omega

theorem segment_succeeds (segment : Segment predecessorID imageID (before ++ entry :: next :: after)) :
    Succeeds entry.2 next :=
  (List.isChain_append_cons_cons.mp segment.chain).2.1

theorem begins_after {prev : DockerHandover} (ended : prev.ended = true) (succeeds : Succeeds prev next) :
    next.2.phase = .prepared ∧ numbered (some prev) next.2 next.1 = .ok () := by
  rcases succeeds with ⟨-, first, counted⟩ | moved
  · exact ⟨first, counted⟩
  · obtain ⟨allowed, -⟩ := movesOn_eq_ok.mp moved
    rw [transitions_of_terminal (terminal_of_ended ended)] at allowed
    cases allowed

theorem unix_later (time : Int) (seconds : Int) : unix (time + seconds * second) = unix time + seconds := by
  unfold unix second
  omega

theorem spaced_after (segment : Segment predecessorID imageID (before ++ entry :: next :: after))
    (failed : entry.2.failed = true) :
    next.2.phase = .prepared ∧ (failures before = 0 → unix entry.1 + 600 ≤ unix next.1) ∧
    (1 ≤ failures before → unix entry.1 + 3600 ≤ unix next.1) := by
  obtain ⟨ended, reason⟩ := failed_iff.mp failed
  obtain ⟨first, counted⟩ := begins_after ended (segment_succeeds segment)
  have pair := segment.pair entry (by simp)
  have stamped := segment.stamped entry (by simp) (ended_iff.mp ended)
  have inside : before ++ [entry] <:+: before ++ entry :: next :: after := ⟨[], next :: after, by simp⟩
  have spent := failures_le_spent (segment.within inside)
  refine ⟨first, ?_⟩
  rcases numbered_eq_ok pair (segment.pair next (by simp)) ended counted with ⟨preempted, -⟩ | ⟨-, -, due⟩
  · exact (reason preempted).elim
  · rw [stamped, handoverNotBefore, if_neg reason, handoverFirstBackoff, handoverLaterBackoff, unix_later,
      unix_later] at due
    rw [failures_append, failures_of_failed failed, spent_of_failed failed] at spent
    push_cast at spent
    split at due <;> omega

theorem preempted_iff {h : DockerHandover} :
    h.preempted = true ↔ h.ended = true ∧ h.reason = handoverPreemptedReason := by
  simp [DockerHandover.preempted]

theorem attempt_after_preempted {h : DockerHandover} (pair : OfPair predecessorID imageID h)
    (preempted : h.preempted = true) (now : Int) :
    nextHandoverAttempt (some h) predecessorID imageID now = .ok h.attempt := by
  obtain ⟨ended, reason⟩ := preempted_iff.mp preempted
  have counts : ¬ ((h.phase ≠ .aborted ∧ h.phase ≠ .reverted) ∨ h.predecessorID ≠ predecessorID ∨
      h.imageID ≠ imageID) := by
    rw [pair.predecessor, pair.image]
    rcases ended_iff.mp ended with phase | phase <;> simp [phase]
  rw [nextHandoverAttempt, if_neg counts, if_pos reason]

theorem same_attempt_after (segment : Segment predecessorID imageID (before ++ entry :: next :: after))
    (preempted : entry.2.preempted = true) : next.2.phase = .prepared ∧ next.2.attempt = entry.2.attempt := by
  obtain ⟨ended, reason⟩ := preempted_iff.mp preempted
  obtain ⟨first, counted⟩ := begins_after ended (segment_succeeds segment)
  rcases numbered_eq_ok (segment.pair entry (by simp)) (segment.pair next (by simp)) ended counted with
    ⟨-, same⟩ | ⟨other, -⟩
  · exact ⟨first, same⟩
  · exact (other reason).elim

/-- At most three handovers fail, the next one begins ten minutes after the first failure and an hour after a
later one, and one that a request of the agent pre-empted costs neither an attempt nor a wait. -/
structure Spaced (predecessorID imageID : String) (entries : List (Int × DockerHandover)) : Prop where
  bounded : failures entries ≤ 3
  spaced : ∀ before entry next after, entries = before ++ entry :: next :: after → entry.2.failed = true →
    next.2.phase = .prepared ∧ (failures before = 0 → unix entry.1 + 600 ≤ unix next.1) ∧
      (1 ≤ failures before → unix entry.1 + 3600 ≤ unix next.1)
  undelayed : ∀ entry ∈ entries, entry.2.preempted = true →
    ∀ now, nextHandoverAttempt (some entry.2) predecessorID imageID now = .ok entry.2.attempt
  unspent : ∀ before entry next after, entries = before ++ entry :: next :: after → entry.2.preempted = true →
    next.2.phase = .prepared ∧ next.2.attempt = entry.2.attempt

theorem spaced_of_segment (segment : Segment predecessorID imageID entries) : Spaced predecessorID imageID entries := by
  refine ⟨failures_le_three segment, ?_, fun entry member => attempt_after_preempted (segment.pair entry member), ?_⟩
  · rintro before entry next after rfl failed
    exact spaced_after segment failed
  · rintro before entry next after rfl preempted
    exact same_attempt_after segment preempted

/-- Each entry of the log holds a record and the time at which it was made. -/
theorem handover_retries_spaced {initial state : Ledger} {entries : List (Int × DockerHandover)}
    (unwritten : initial.log = []) (ran : ReflTransGen Wrote initial state) (part : entries <:+: state.log)
    (pair : ∀ entry ∈ entries, OfPair predecessorID imageID entry.2) : Spaced predecessorID imageID entries := by
  have annotated := annotated_runs unwritten ran
  exact spaced_of_segment
    ⟨ List.IsChain.infix annotated.chain part, fun entry member => annotated.stamped entry (part.subset member),
    fun entry member => annotated.valid entry (part.subset member), pair⟩

section Example

variable {state : Ledger} {h : DockerHandover} {time : Int}

def Ledger.recorded (state : Ledger) (time : Int) (h : DockerHandover) : Ledger :=
  ⟨some h, time, state.log ++ [(time, h)]⟩

theorem among_loadHandover (state : Ledger) :
    Among ledger (state, loadHandover) (state, .done (.ok state.journal)) := by
  have loaded : ledger.answers state .loadHandover (state.journal.elim .absent .journal) state := ⟨rfl, .inl rfl⟩
  refine .head (.call loaded) ?_
  cases state.journal <;> exact .refl

theorem among_begins (valid : h.validate = .ok ()) (fresh : ∀ prev ∈ state.journal, prev.id ≠ h.id)
    (ready : replaces state.journal h = .ok ()) (counted : numbered state.journal h time = .ok ()) :
    Among ledger (state, writeHandover h) (state.recorded time h, .done (.ok ())) := by
  have read : ledger.answers state .now time { state with clock := time } := rfl
  have stored : ledger.answers { state with clock := time } (.storeHandover h) (.ok ()) (state.recorded time h) :=
    .inl rfl
  have other : state.journal.filter (fun prev => decide (prev.id = h.id)) = none := by
    simp only [Option.filter_eq_none_iff, decide_eq_true_eq]
    exact fresh
  rw [writeHandover, valid]
  refine (among_bind (among_loadHandover state)).trans ?_
  rw [other]
  simp only [beginHandover, ready]
  refine .head (.call read) ?_
  change Among ledger ({ state with clock := time }, Proc.done (numbered state.journal h time) >>= _) _
  rw [counted]
  exact .head (.call stored) .refl

theorem among_continues {prev : DockerHandover} (valid : h.validate = .ok ()) (found : state.journal = some prev)
    (same : prev.id = h.id) (moved : Moved prev h) :
    Among ledger (state, writeHandover h) (state.recorded state.clock h, .done (.ok ())) := by
  have stored : ledger.answers state (.storeHandover h) (.ok ()) (state.recorded state.clock h) := .inl rfl
  have kept : state.journal.filter (fun prev => decide (prev.id = h.id)) = some prev := by
    simp [found, Option.filter, same]
  rw [writeHandover, valid]
  refine (among_bind (among_loadHandover state)).trans ?_
  rw [kept]
  simp only [continueHandover, show movesOn prev h = .ok () from moved]
  exact .head (.call stored) .refl

variable (c : Controller)

theorem wrote_prepared (t : HandoverTarget) (id : String) (valid : (c.preparedHandover t id).validate = .ok ())
    (fresh : ∀ prev ∈ state.journal, prev.id ≠ id) (ready : replaces state.journal (c.preparedHandover t id) = .ok ())
    (counted : numbered state.journal (c.preparedHandover t id) time = .ok ()) :
    Wrote state (state.recorded time (c.preparedHandover t id)) := by
  have drawn : ledger.answers state .random (.ok id) state := rfl
  refine .handOver c t (c.carryOut (c.preparedHandover t id) t) (.head (.call drawn) ?_)
  exact among_bind (among_mapError (among_begins valid fresh ready counted))

theorem moved_aborted (first : h.phase = .prepared) (reason : String) (time : Int) :
    Moved h (Controller.abortedJournal h reason time) := by
  refine movesOn_eq_ok.mpr ⟨by simp [first, handoverTransitions, Controller.abortedJournal], ?_⟩
  simp [expectedAfter, Controller.abortedJournal, handoverTerminal]

theorem valid_aborted {reason : String} (valid : h.validate = .ok ())
    (short : DockerHandover.reasonValid reason = true) (positive : 0 ≤ time) :
    (Controller.abortedJournal h reason time).validate = .ok () := by
  have later : 0 ≤ handoverNotBefore h.attempt reason time := by
    unfold handoverNotBefore handoverFirstBackoff handoverLaterBackoff unix second
    split
    · exact Int.le_refl 0
    · split <;> omega
  simp only [DockerHandover.validate, DockerHandover.successorPlaced, bind_eq_ok, rejectIf_eq_ok] at valid ⊢
  obtain ⟨_, drawn, _, numbers, _, names, _, predecessor, _, image, _, evidence, _, request, rest⟩ := valid
  obtain ⟨_, -, _, -, _, -, _, -, placed⟩ := rest
  have counted : ¬ (h.attempt < 1 ∨ h.attempt > handoverMaxAttempts ∨ handoverNotBefore h.attempt reason time < 0) := by
    omega
  have plain : ¬ (reason = handoverPreemptedReason ∧ (Phase.aborted ≠ .aborted ∨
      handoverNotBefore h.attempt reason time ≠ 0)) := by
    rintro ⟨same, impossible | delayed⟩
    · exact impossible rfl
    · exact delayed (if_pos same)
  exact ⟨(), drawn, (), counted, (), names, (), predecessor, (), image, (), evidence, (), request, (),
    ne_false_of_eq_true short, (), plain, (), fun both => Phase.noConfusion both.1,
      (), fun both => both.2.2 rfl, placed⟩

theorem wrote_aborted (c : Controller) {reason : String} (found : state.journal = some h) (first : h.phase = .prepared)
    (valid : h.validate = .ok ()) (unplaced : h.successorID = "")
    (short : DockerHandover.reasonValid reason = true) (positive : 0 ≤ time) :
    Wrote state (state.recorded time (Controller.abortedJournal h reason time)) := by
  have read : ledger.answers state .now time { state with clock := time } := rfl
  refine .abortHandover c h "" false reason (.done (.ok ())) ?_
  rw [Controller.abortHandover, Controller.abortedSuccessor, if_neg (not_not.mpr unplaced)]
  refine .head (.call read) (among_mapError ?_)
  exact among_continues (valid_aborted valid short positive) found rfl (moved_aborted first reason time)

def plainRecord (attempt : Int) (digit : Char) : DockerHandover :=
  (Controller.plain "4.1.2").preparedHandover (.plain attempt) (digits 32 digit)

theorem plainRecord_valid {attempt : Int} {digit : Char} (few : 1 ≤ attempt ∧ attempt ≤ 3)
    (letter : digit = 'a' ∨ digit = 'b') : (plainRecord attempt digit).validate = .ok () := by
  have drawn : lowerHex (digits 32 digit) 32 = true := by rcases letter with rfl | rfl <;> decide +kernel
  have names : (plainRecord 1 digit).namesValid = true := by rcases letter with rfl | rfl <;> decide +kernel
  have predecessor : (plainRecord 1 'a').predecessorValid = true := by decide +kernel
  have image : (plainRecord 1 'a').imageValid = true := by decide +kernel
  have evidence : (plainRecord 1 'a').evidenceValid = true := by decide +kernel
  have silent : DockerHandover.reasonValid "" = true := by decide +kernel
  have given : "" ≠ handoverPreemptedReason := by decide
  have counted : ¬ (attempt < 1 ∨ attempt > handoverMaxAttempts ∨ (0 : Int) < 0) := by
    unfold handoverMaxAttempts
    omega
  simp only [DockerHandover.validate, DockerHandover.successorPlaced, bind_eq_ok, rejectIf_eq_ok]
  exact ⟨(), ne_false_of_eq_true drawn, (), counted, (), ne_false_of_eq_true names, (),
    ne_false_of_eq_true predecessor, (), ne_false_of_eq_true image, (), ne_false_of_eq_true evidence, (),
    fun both => both.1 rfl, (), ne_false_of_eq_true silent, (), fun both => given both.1, (),
    fun both => both.2 rfl, (), fun both => both.2.1 rfl, fun both => both.1 rfl⟩

/-- A handover is prepared, left, and aborted an hour later. -/
def Ledger.tries (state : Ledger) (attempt : Int) (digit : Char) (reason : String) (hour : Int) : Ledger :=
  (state.recorded (hour * 3600 * second) (plainRecord attempt digit)).recorded ((hour + 1) * 3600 * second)
    (Controller.abortedJournal (plainRecord attempt digit) reason ((hour + 1) * 3600 * second))

theorem wrote_tries {attempt : Int} {digit : Char} {reason : String} {hour : Int} (few : 1 ≤ attempt ∧ attempt ≤ 3)
    (letter : digit = 'a' ∨ digit = 'b') (short : DockerHandover.reasonValid reason = true) (positive : 0 ≤ hour)
    (fresh : ∀ prev ∈ state.journal, prev.id ≠ digits 32 digit)
    (ready : replaces state.journal (plainRecord attempt digit) = .ok ())
    (counted : numbered state.journal (plainRecord attempt digit) (hour * 3600 * second) = .ok ()) :
    ReflTransGen Wrote state (state.tries attempt digit reason hour) := by
  have valid := plainRecord_valid few letter
  have later : 0 ≤ (hour + 1) * 3600 * second := by
    unfold second
    omega
  exact .tail (.single (wrote_prepared (.plain "4.1.2") (.plain attempt) _ valid fresh ready counted))
    (wrote_aborted (.plain "4.1.2") rfl rfl valid rfl short later)

/-- Two failures, a handover that a request pre-empts, and a third failure. -/
def plainRetries : Ledger :=
  (((Ledger.mk none 0 []).tries 1 'a' "successor restarted" 1).tries 2 'b' "successor restarted" 3
    |>.tries 3 'a' handoverPreemptedReason 5).tries 3 'b' "successor restarted" 7

theorem plainRetries_spaced : plainRetries.log.map (fun entry => (unix entry.1, entry.2.phase, entry.2.attempt)) =
    [(3600, .prepared, 1), (7200, .aborted, 1), (10800, .prepared, 2), (14400, .aborted, 2),
      (18000, .prepared, 3), (21600, .aborted, 3), (25200, .prepared, 3), (28800, .aborted, 3)] ∧
    failures plainRetries.log = 3 ∧ Spaced (digits 64 '1') ("sha256:" ++ digits 64 '3') plainRetries.log := by
  have unwritten : (Ledger.mk none 0 []).log = [] := rfl
  have ran : ReflTransGen Wrote (Ledger.mk none 0 []) plainRetries := by
    refine .trans (.trans (.trans ?_ (wrote_tries ?_ ?_ ?_ ?_ ?_ ?_ ?_)) (wrote_tries ?_ ?_ ?_ ?_ ?_ ?_ ?_))
      (wrote_tries ?_ ?_ ?_ ?_ ?_ ?_ ?_)
    · exact wrote_tries (by decide) (by decide) (by decide) (by decide) (by decide) (by decide) (by decide +kernel)
    all_goals decide +kernel
  refine ⟨by decide +kernel, by decide +kernel, handover_retries_spaced unwritten ran (List.infix_refl _) ?_⟩
  intro entry member
  simp only [plainRetries, Ledger.tries, Ledger.recorded, List.nil_append, List.cons_append, List.mem_cons,
    List.not_mem_nil, or_false] at member
  rcases member with rfl | rfl | rfl | rfl | rfl | rfl | rfl | rfl <;> exact ⟨rfl, rfl, by decide⟩

end Example

end Segments

end PasswallNode.Handover
