import PasswallNode.Agent.TaskFence

/-! The verdict "expired before start". -/

namespace PasswallNode.Agent

open Foundation Protocol State Sqlite

def Expired (task : TaskExecution) (clock : TaskStartClock) : Prop :=
  0 < task.notAfterMS ∧ task.errorCode = taskErrorExpiredBeforeStart ∧
    ∃ bounds, Reads clock bounds ∧ task.notAfterMS ≤ bounds.lowerMS

def Ahead (clock : TaskStartClock) (notAfterMS : Int) : Prop :=
  ∃ bounds, Reads clock bounds ∧ bounds.upperMS < notAfterMS

section Verdicts

variable {pkg : Package} {system : TaskSystem} {task : TaskExecution} {entropy : Entropy} {done : WorkerStep} {u : Unit}
  {store next : Store} {atMS : Int} {clock : TaskStartClock} {id : String}

theorem expired_of_claimEvent {store next : Store} {worker : Option Nat} {nowMS : Int} {clock seen : TaskStartClock}
    {claimed : TaskExecution} (step : ClaimStep pkg store nowMS entropy clock next claimed)
    (event : claimEvent worker clock claimed = .expired task seen) : Expired task seen := by
  cases step with
  | expired row bounds next offer found received limited reads past settles =>
    cases event
    exact ⟨limited, rfl, bounds, reads, past⟩
  | started row token tasks found received drawn ahead sets => cases event

theorem expired_of_move {id : Nat} (move : WorkerMove pkg id system.store (system.workers id) done)
    {clock : TaskStartClock} (member : .expired task clock ∈ done.events) : Expired task clock := by
  cases move with
  | quiet => cases member
  | deferred => cases List.mem_singleton.mp member
  | admitted => cases List.mem_singleton.mp member
  | unlimited => cases member
  | claimed next claimed phase nowMS clock entropy step lets =>
    exact expired_of_claimEvent step (List.mem_singleton.mp member).symm
  | released => cases member
  | executed => cases List.mem_singleton.mp member

theorem expired_of_call {made : TaskCall} {clock : TaskStartClock}
    (member : .expired task clock ∈ callEvents pkg system.store made) : Expired task clock := by
  unfold callEvents at member
  split at member
  · rename_i atMS seen entropy
    unfold claimEvents at member
    split at member
    · cases member
    · rename_i next claim done
      exact expired_of_claimEvent (claimNextTaskFenced_ok done) (List.mem_singleton.mp member).symm
  · cases member

theorem taskStep_expired (pkg : Package) (system : TaskSystem) (action : TaskAction)
    (before : ∀ task clock, .expired task clock ∈ system.trace → Expired task clock) :
    ∀ task clock, .expired task clock ∈ (taskStep pkg system action).trace → Expired task clock := by
  intro task clock member
  cases action with
  | call made =>
    rcases List.mem_append.mp member with earlier | here
    · exact before task clock earlier
    · exact expired_of_call here
  | start id registry => exact before task clock member
  | stop id => exact before task clock member
  | work id input =>
    rcases List.mem_append.mp member with earlier | here
    · exact before task clock earlier
    · exact expired_of_move (workerStep_moves pkg id system.store (system.workers id) input) here

/-- The accepting transaction and a task that had no row: nothing was written and every occurrence was reported
back, or one was inserted on proof. -/
structure Accepting (store : Store) (clock : TaskStartClock) (atMS : Int) (id : String)
    (seen : List Task) (state : Acceptance) : Prop where
  reads : ∀ bounds, Reads state.clock bounds → Reads clock bounds
  outbox : state.store.outbox.table.find? (.taskResult, id) = store.outbox.table.find? (.taskResult, id)
  journal : (state.store.tasks.find? id = none ∧
      ∀ task ∈ seen, task.id = id → task ∈ state.accepted.replayFenced) ∨
    ∃ task ∈ seen, task.id = id ∧ state.store.tasks.find? id = some (receivedTask task atMS) ∧
      (0 < task.notAfterMS → Ahead clock task.notAfterMS)

theorem ahead_of_authorises {notAfterMS : Int}
    (authorised : authorises (taskBounds clock).1 notAfterMS = true) : Ahead clock notAfterMS := by
  cases read : taskBounds clock with
  | mk found rest =>
    rw [read] at authorised
    cases found with
    | none => cases authorised
    | some bounds => exact ⟨bounds, reads_of_taskBounds read, of_decide_eq_true authorised⟩

theorem Accepting.step {seen : List Task} {state after : Acceptance} {task : Task}
    (before : Accepting store clock atMS id seen state) (step : AcceptStep pkg atMS state task after) :
    Accepting store clock atMS id (seen ++ [task]) after := by
  have later : ∀ {bounds}, Reads (taskBounds state.clock).2 bounds → Reads clock bounds :=
    fun reads => before.reads _ (reads.earlier rfl)
  -- A task under another id changes nothing for this one.
  have apart : task.id ≠ id → ∀ {next : Acceptance},
      next.store.tasks.find? id = state.store.tasks.find? id →
      (∀ other ∈ state.accepted.replayFenced, other ∈ next.accepted.replayFenced) →
      ((next.store.tasks.find? id = none ∧
          ∀ other ∈ seen ++ [task], other.id = id → other ∈ next.accepted.replayFenced) ∨
        ∃ other ∈ seen ++ [task], other.id = id ∧
          next.store.tasks.find? id = some (receivedTask other atMS) ∧
          (0 < other.notAfterMS → Ahead clock other.notAfterMS)) := by
    intro different next same fenced
    rw [same]
    rcases before.journal with ⟨absent, reported⟩ | ⟨other, member, facts⟩
    · refine Or.inl ⟨absent, ?_⟩
      intro other member named
      rcases List.mem_append.mp member with earlier | here
      · exact fenced other (reported other earlier named)
      · rw [List.mem_singleton.mp here] at named
        exact absurd named different
    · exact Or.inr ⟨other, List.mem_append_left _ member, facts⟩
  cases step with
  | inserted tasks absent authorised sets =>
    refine ⟨?_, before.outbox, ?_⟩
    · intro bounds reads
      dsimp only at reads
      split at reads
      · exact later reads
      · exact before.reads bounds reads
    · by_cases here : task.id = id
      · refine Or.inr ⟨task, List.mem_append_right _ List.mem_cons_self, here, ?_, ?_⟩
        · exact (sets id).trans (if_pos here.symm)
        · intro limited
          obtain ⟨bounds, reads, below⟩ := ahead_of_authorises (authorised limited)
          exact ⟨bounds, before.reads bounds reads, below⟩
      · exact apart here ((sets id).trans (if_neg (fun same => here same.symm))) (fun _ member => member)
  | fenced absent limited unproved =>
    refine ⟨fun bounds reads => later reads, before.outbox, ?_⟩
    by_cases here : task.id = id
    · rcases before.journal with ⟨none, reported⟩ | ⟨other, member, _, found, _⟩
      · refine Or.inl ⟨none, ?_⟩
        intro other member named
        rcases List.mem_append.mp member with earlier | last
        · exact List.mem_append_left _ (reported other earlier named)
        · exact List.mem_append_right _ last
      · rw [here, found] at absent
        cases absent
    · exact apart here rfl (fun _ member => List.mem_append_left _ member)
  | rearmed current next row found same terminal settles =>
    have named : current.id = task.id := Table.key_of_find? found
    have different : task.id ≠ id := by
      intro here
      rw [here] at found
      rcases before.journal with ⟨absent, _⟩ | ⟨other, _, _, present, _⟩
      · rw [absent] at found
        cases found
      · rw [present] at found
        cases found
        cases terminal
    have other : id ≠ ({ current with resultDelivered := false } : TaskExecution).id := by
      intro same
      exact different (named.symm.trans same.symm)
    refine ⟨before.reads, ?_, apart different ((settles.sets id).trans (if_neg other)) (fun _ member => member)⟩
    refine ((settles.offers (.taskResult, id)).trans (if_neg ?_)).trans before.outbox
    intro same
    exact other (congrArg Prod.snd same)
  | held current found same unfinished =>
    refine ⟨before.reads, before.outbox, ?_⟩
    by_cases here : task.id = id
    · rw [here] at found
      rcases before.journal with ⟨absent, _⟩ | ⟨other, member, facts⟩
      · rw [absent] at found
        cases found
      · exact Or.inr ⟨other, List.mem_append_left _ member, facts⟩
    · exact apart here rfl (fun _ member => member)

theorem acceptTasksFenced_absent {tasks : List Task} {accepted : TaskAcceptance} {rest : TaskStartClock}
    (done : acceptTasksFenced pkg store tasks atMS clock = .ok (next, accepted, rest))
    (absent : store.tasks.find? id = none) :
    next.outbox.table.find? (.taskResult, id) = store.outbox.table.find? (.taskResult, id) ∧
    ((next.tasks.find? id = none ∧ ∀ task ∈ tasks, task.id = id → task ∈ accepted.replayFenced) ∨
      ∃ task ∈ tasks, task.id = id ∧ next.tasks.find? id = some (receivedTask task atMS) ∧
        (0 < task.notAfterMS → Ahead clock task.notAfterMS)) := by
  obtain ⟨_, _, timed⟩ := bind_eq_ok.mp done
  split at timed
  · cases timed
  · obtain ⟨final, looped, same⟩ := bind_eq_ok.mp timed
    cases same
    have initial : Accepting store clock atMS id [] ⟨store, ⟨false, false, []⟩, clock⟩ :=
      ⟨fun _ reads => reads, rfl, Or.inl ⟨absent, fun _ member => by cases member⟩⟩
    have finished := forEach_accumulates (Accepting store clock atMS id)
      (fun seen state task after before passed => before.step (acceptTask_ok passed)) initial looped
    rw [List.nil_append] at finished
    exact ⟨finished.outbox, finished.journal⟩

theorem claimEvent_of_verdict {row : TaskExecution} (step : ClaimStep pkg store atMS entropy clock next task)
    (found : next.tasks.find? id = some row) (verdict : row.errorCode = taskErrorExpiredBeforeStart)
    (fresh : ∀ old, store.tasks.find? id = some old → old.errorCode ≠ taskErrorExpiredBeforeStart)
    (worker : Option Nat) : task.id = id ∧ claimEvent worker clock task = .expired task clock := by
  cases step with
  | expired task bounds next offer held received limited reads past settles =>
    rw [settles.sets id] at found
    split at found
    · next same => exact ⟨same.symm, rfl⟩
    · exact absurd verdict (fresh row found)
  | started task token tasks held received drawn ahead sets =>
    rw [sets id] at found
    split at found
    · next same =>
        cases found
        exact absurd verdict (fresh task (same ▸ held))
    · exact absurd verdict (fresh row found)

theorem claimStep_addsNone (step : ClaimStep pkg store atMS entropy clock next task) :
    AddsNone store.tasks next.tasks := by
  cases step with
  | expired task bounds next row found received limited reads past settles =>
    exact addsNone_of_sets settles.sets found
  | started task token tasks found received drawn ahead sets => exact addsNone_of_sets sets found

theorem releaseTaskClaim_addsNone (done : releaseTaskClaim store task = .ok (next, u)) :
    AddsNone store.tasks next.tasks := by
  obtain ⟨row, tasks, found, _, _, _, sets, rfl⟩ := releaseTaskClaim_ok done
  exact addsNone_of_sets sets found

theorem ackOutbox_addsNone {ids : List Int} (done : ackOutbox store ids = .ok (next, u)) :
    AddsNone store.tasks next.tasks := by
  obtain ⟨final, looped, same⟩ := bind_eq_ok.mp done
  cases same
  refine forEach_invariant (fun state : Store => AddsNone store.tasks state.tasks) ?_
    (addsNone_refl _) looped
  intro state after number _ before passed id absent
  obtain ⟨tasks, outbox, rfl, _, acked, _⟩ := ackRow_ok passed
  show tasks.find? id = none
  rw [acked id, before id absent]
  rfl

theorem performTask_addsNone (store : Store) (made : TaskCall)
    (accepts : ∀ tasks atMS clock, made ≠ .acceptTasksFenced tasks atMS clock) :
    AddsNone store.tasks (performTask pkg store made).tasks := by
  have unchanged := addsNone_refl store.tasks
  have committed := fun {α : Type} {result : Except Error (Store × α)} =>
    @commit_invariant Store α store result (fun next => AddsNone store.tasks next.tasks) unchanged
  cases made with
  | acceptTasksFenced tasks atMS clock => exact absurd rfl (accepts tasks atMS clock)
  | claimNextTaskFenced atMS clock entropy =>
    exact committed (fun _ _ done => claimStep_addsNone (claimNextTaskFenced_ok done))
  | releaseTaskClaim task => exact committed (fun _ _ => releaseTaskClaim_addsNone)
  | completeTask id terminal result atMS => exact committed (fun _ _ => completeTask_addsNone)
  | enqueueIssue dedupeKey issue atMS =>
    refine committed (fun next _ done => ?_)
    obtain ⟨outbox, rfl, _, _⟩ := enqueueIssue_ok done
    exact unchanged
  | pendingOutbox limit => exact unchanged
  | ackOutbox ids => exact committed (fun _ _ => ackOutbox_addsNone)

theorem addsNone_of_move {id : Nat} {store : Store} {worker : TaskWorker}
    (move : WorkerMove pkg id store worker done) : AddsNone store.tasks done.store.tasks := by
  cases move with
  | quiet next phase quiet adds lets => exact adds
  | deferred => exact addsNone_refl _
  | admitted => exact addsNone_refl _
  | unlimited => exact addsNone_refl _
  | claimed next task phase nowMS clock entropy step lets => exact claimStep_addsNone step
  | released task next phase holding done lets => exact releaseTaskClaim_addsNone done
  | executed => exact addsNone_refl _

theorem taskStep_inserts {system : TaskSystem} {action : TaskAction} {id : String} {row : TaskExecution}
    (absent : system.store.tasks.find? id = none)
    (present : (taskStep pkg system action).store.tasks.find? id = some row) :
    ∃ tasks atMS clock, action = .call (.acceptTasksFenced tasks atMS clock) ∧
    (0 < row.notAfterMS → Ahead clock row.notAfterMS) := by
  have impossible : ∀ {after : TaskTable}, AddsNone system.store.tasks after →
      after.find? id = some row → False := by
    intro after adds found
    rw [adds id absent] at found
    cases found
  cases action with
  | start worker registry => exact (impossible (addsNone_refl _) present).elim
  | stop worker => exact (impossible (addsNone_refl _) present).elim
  | work worker input =>
    exact (impossible (addsNone_of_move
      (workerStep_moves pkg worker system.store (system.workers worker) input)) present).elim
  | call made =>
    by_cases accepts : ∃ tasks atMS clock, made = .acceptTasksFenced tasks atMS clock
    · obtain ⟨tasks, atMS, clock, rfl⟩ := accepts
      refine ⟨tasks, atMS, clock, rfl, ?_⟩
      replace present : (commit system.store
          (acceptTasksFenced pkg system.store tasks atMS clock)).tasks.find? id = some row := present
      cases done : acceptTasksFenced pkg system.store tasks atMS clock with
      | error err =>
        rw [done] at present
        exact (impossible (addsNone_refl _) present).elim
      | ok result =>
        obtain ⟨next, accepted, rest⟩ := result
        rw [done] at present
        obtain ⟨_, ⟨missing, _⟩ | ⟨task, _, _, found, ahead⟩⟩ := acceptTasksFenced_absent done absent
        · have same : (none : Option TaskExecution) = some row := missing.symm.trans present
          cases same
        · have same : some (receivedTask task atMS) = some row := found.symm.trans present
          cases same
          exact ahead
    · refine (impossible (performTask_addsNone system.store made ?_) present).elim
      intro tasks atMS clock same
      exact accepts ⟨tasks, atMS, clock, same⟩

end Verdicts

/-- Over every run on any database: a task that a claim declared expired was never passed to a
handler and never will be, and the verdict was passed on valid bounds past its deadline. A task
with a deadline that has no row gets one only from an acceptance that read valid bounds before
the deadline; else the acceptance reports it back and leaves journal and outbox as they are. A claim that writes
the verdict into a row declares the task expired. -/
theorem expired_before_start_sound (pkg : Package) (start : Store) (actions : List TaskAction)
    (own : Admits (taskStep pkg) SurrendersOwn (.boot start) actions) :
    let reached := run (taskStep pkg) (.boot start) actions
    (∀ task clock, .expired task clock ∈ reached.trace →
      executions reached.trace task.id = 0 ∧ Expired task clock ∧
        ∃ row, reached.store.tasks.find? task.id = some row ∧ row.errorCode = taskErrorExpiredBeforeStart) ∧
    (∀ action id row, reached.store.tasks.find? id = none →
      (taskStep pkg reached action).store.tasks.find? id = some row →
      ∃ tasks atMS clock, action = .call (.acceptTasksFenced tasks atMS clock) ∧
        (0 < row.notAfterMS → Ahead clock row.notAfterMS)) ∧
    (∀ atMS clock entropy next claim id row,
      claimNextTaskFenced pkg reached.store atMS clock entropy = .ok (next, claim) →
      next.tasks.find? id = some row → row.errorCode = taskErrorExpiredBeforeStart →
      (∀ old, reached.store.tasks.find? id = some old → old.errorCode ≠ taskErrorExpiredBeforeStart) →
      ∀ worker, ∃ task, task.id = id ∧ claimEvents worker clock (.ok (next, claim)) = [.expired task clock]) ∧
    ∀ tasks atMS clock next accepted rest id,
      acceptTasksFenced pkg reached.store tasks atMS clock = .ok (next, accepted, rest) →
      reached.store.tasks.find? id = none →
      next.outbox.table.find? (.taskResult, id) = reached.store.outbox.table.find? (.taskResult, id) ∧
        ((next.tasks.find? id = none ∧ ∀ task ∈ tasks, task.id = id → task ∈ accepted.replayFenced) ∨
          ∃ task ∈ tasks, task.id = id ∧ next.tasks.find? id = some (receivedTask task atMS) ∧
            (0 < task.notAfterMS → Ahead clock task.notAfterMS)) := by
  intro reached
  have invariant : Fenced reached ∧ ∀ task clock, .expired task clock ∈ reached.trace → Expired task clock := by
    refine run_invariant_of_admits
      (fun system => Fenced system ∧ ∀ task clock, .expired task clock ∈ system.trace → Expired task clock)
      ?_ ⟨boot_fenced start, fun _ _ member => by cases member⟩ own
    intro system action before permitted
    exact ⟨taskStep_fenced pkg system action before.1 permitted,
      taskStep_expired pkg system action before.2⟩
  refine ⟨?_, fun action id row => taskStep_inserts, ?_, ?_⟩
  · intro task clock member
    obtain ⟨unexecuted, _, row, found, _, verdict⟩ := invariant.1.expired task clock member
    exact ⟨unexecuted, invariant.2 task clock member, row, found, verdict⟩
  · intro atMS clock entropy next claim id row done found verdict fresh worker
    obtain ⟨same, declared⟩ := claimEvent_of_verdict (claimNextTaskFenced_ok done) found verdict fresh worker
    exact ⟨claim.task, same, congrArg (fun event => [event]) declared⟩
  · intro tasks atMS clock next accepted rest id done absent
    exact acceptTasksFenced_absent done absent

def exampleExpiry : List TaskAction :=
  [.call (.acceptTasksFenced [exampleTask] 1000 (some [.ok ⟨900, 1100⟩])),
    .call (.claimNextTaskFenced 6000 (some [.error "no anchor", .ok ⟨5000, 5200⟩]) (exampleEntropy 7)),
    .call (.claimNextTaskFenced 6001 (some [.ok ⟨5000, 5200⟩]) (exampleEntropy 8))]

theorem expired_before_start_sound_late :
    let reached := run (taskStep .transparent) (.boot Store.fresh) exampleExpiry
    (∃ task clock, .expired task clock ∈ reached.trace ∧ task.id = "upgrade-1" ∧
      executions reached.trace task.id = 0 ∧ Expired task clock) ∧
    ∀ next accepted rest,
      acceptTasksFenced .transparent reached.store [{ exampleTask with id := "upgrade-2" }] 6100 none =
        .ok (next, accepted, rest) →
      next.tasks.find? "upgrade-2" = none ∧
        { exampleTask with id := "upgrade-2" } ∈ accepted.replayFenced := by
  intro reached
  have own : Admits (taskStep .transparent) SurrendersOwn (.boot Store.fresh) exampleExpiry := by
    simp only [exampleExpiry, Admits, SurrendersOwn, and_self]
  obtain ⟨verdicts, _, _, accepts⟩ := expired_before_start_sound .transparent Store.fresh _ own
  constructor
  · have member : .expired (expiredTask 6001 (receivedTask exampleTask 1000)) (some [.ok ⟨5000, 5200⟩]) ∈
        reached.trace := by decide
    obtain ⟨unexecuted, proved, _⟩ := verdicts _ _ member
    exact ⟨_, _, member, rfl, unexecuted, proved⟩
  · intro next accepted rest done
    obtain ⟨_, ⟨absent, reported⟩ | ⟨task, member, _, _, ahead⟩⟩ :=
      accepts _ _ _ next accepted rest "upgrade-2" done (by decide)
    · exact ⟨absent, reported _ List.mem_cons_self rfl⟩
    · rw [List.mem_singleton.mp member] at ahead
      obtain ⟨bounds, ⟨samples, impossible, _⟩, _⟩ := ahead (by decide)
      cases impossible

end PasswallNode.Agent
