import PasswallNode.Agent.TaskFence

/-! At-most-once execution, and the sample that authorises a start. -/

namespace PasswallNode.Agent

open Foundation Protocol State Sqlite

def Unclaimed (id : String) (events : List TaskEvent) : Prop :=
  ∀ worker task, .claimed worker task ∈ events → task.id ≠ id

/-- The latest claim of the task is this one of the worker. -/
def Latest (trace : List TaskEvent) (worker : Nat) (claim : TaskExecution) : Prop :=
  ∃ past after, trace = past ++ .claimed (some worker) claim :: after ∧ Unclaimed claim.id after

/-- The history holds the claim of a worker and, after it, a sample by the same worker that proves the deadline
to lie ahead. The task is not claimed again. -/
def Authorised (trace : List TaskEvent) (worker : Nat) (claim : TaskExecution) : Prop :=
  ∃ past between after sample bounds,
    trace = past ++ .claimed (some worker) claim :: (between ++ .sampled worker sample :: after) ∧
      Unclaimed claim.id (between ++ after) ∧
      taskStartBounds sample = some bounds ∧ bounds.upperMS < claim.notAfterMS

def StartsAuthorised (past : List TaskEvent) (event : TaskEvent) : Prop :=
  ∀ worker task, event = .executed worker task → 0 < task.notAfterMS →
    ∃ claim, wireTask claim = task ∧ Authorised past worker claim

structure Sampled (system : TaskSystem) : Prop where
  latest : ∀ worker task, system.holds worker task → Latest system.trace worker task
  admitted : ∀ worker task, (system.workers worker).phase = .admitted task → 0 < task.notAfterMS →
    Authorised system.trace worker task
  executed : Always StartsAuthorised system.trace

variable {trace events : List TaskEvent} {worker : Nat} {claim : TaskExecution}

theorem Unclaimed.append {id : String} {later : List TaskEvent} (first : Unclaimed id events)
    (second : Unclaimed id later) : Unclaimed id (events ++ later) := by
  intro worker task member
  rcases List.mem_append.mp member with member | member
  · exact first worker task member
  · exact second worker task member

theorem Latest.append (before : Latest trace worker claim) (unclaimed : Unclaimed claim.id events) :
    Latest (trace ++ events) worker claim := by
  obtain ⟨past, after, rfl, kept⟩ := before
  refine ⟨past, after ++ events, ?_, kept.append unclaimed⟩
  simp only [List.append_assoc, List.cons_append]

theorem Authorised.append (before : Authorised trace worker claim) (unclaimed : Unclaimed claim.id events) :
    Authorised (trace ++ events) worker claim := by
  obtain ⟨past, between, after, sample, bounds, rfl, kept, read, ahead⟩ := before
  refine ⟨past, between, after ++ events, sample, bounds, ?_, ?_, read, ahead⟩
  · simp only [List.append_assoc, List.cons_append]
  · rw [← List.append_assoc]
    exact kept.append unclaimed

theorem authorised_of_sample {sample : Option Sample} {bounds : TaskTimeBounds}
    (latest : Latest trace worker claim) (read : taskStartBounds sample = some bounds)
    (ahead : bounds.upperMS < claim.notAfterMS) : Authorised (trace ++ [.sampled worker sample]) worker claim := by
  obtain ⟨past, between, rfl, kept⟩ := latest
  refine ⟨past, between, [], sample, bounds, ?_, ?_, read, ahead⟩
  · simp only [List.append_assoc, List.cons_append]
  · rw [List.append_nil]
    exact kept

theorem startsAuthorised_of_other {past : List TaskEvent} {event : TaskEvent}
    (other : ∀ worker task, event ≠ .executed worker task) : StartsAuthorised past event :=
  fun worker task same => absurd same (other worker task)

theorem claimEvent_not_executed (claimant : Option Nat) (clock : TaskStartClock) (task : TaskExecution) (id : Nat)
    (other : Task) : claimEvent claimant clock task ≠ .executed id other := by
  unfold claimEvent
  split <;> exact nofun

section Steps

variable {pkg : Package} {system : TaskSystem} {id : Nat} {cancelled : Bool} {done : WorkerStep} {phase : Phase}

theorem Sampled.grow {next : TaskSystem} (sampled : Sampled system)
    (grows : next.trace = system.trace ++ events)
    (free : ∀ claimant task, .claimed claimant task ∈ events → Free system task.id)
    (right : Always StartsAuthorised next.trace)
    (holders : ∀ worker task, next.holds worker task → system.holds worker task ∨ Latest next.trace worker task)
    (admits : ∀ worker task, (next.workers worker).phase = .admitted task →
    (system.workers worker).phase = .admitted task ∨
      (0 < task.notAfterMS → Authorised next.trace worker task)) : Sampled next := by
  have unclaimed : ∀ worker task, system.holds worker task → Unclaimed task.id events := by
    intro worker task holds claimant other member same
    exact (free claimant other member).unheld worker task holds same.symm
  refine ⟨?_, ?_, right⟩
  · intro worker task holds
    rcases holders worker task holds with before | new
    · rw [grows]
      exact (sampled.latest worker task before).append (unclaimed worker task before)
    · exact new
  · intro worker task phase limited
    rcases admits worker task phase with before | new
    · rw [grows]
      refine (sampled.admitted worker task before limited).append (unclaimed worker task ?_)
      unfold TaskSystem.holds
      rw [before]
      rfl
    · exact new limited

theorem claimEvent_free {nowMS : Int} {entropy : Entropy} {clock : TaskStartClock} {next : Store}
    {task : TaskExecution} (fenced : Fenced system) (step : ClaimStep pkg system.store nowMS entropy clock next task)
    (claimant other : Option Nat) (held : TaskExecution)
    (member : .claimed other held ∈ [claimEvent claimant clock task]) : Free system held.id := by
  cases step with
  | expired task bounds next row found received limited reads past settles => cases List.mem_singleton.mp member
  | started task token tasks found received drawn ahead sets =>
    cases List.mem_singleton.mp member
    exact fenced.free_of_received found received

theorem latest_of_claim {task : TaskExecution} (clock : TaskStartClock) (unfinished : task.state.terminal = false) :
    Latest (trace ++ [claimEvent (some worker) clock task]) worker task := by
  unfold claimEvent
  rw [unfinished]
  exact ⟨trace, [], rfl, nofun⟩

theorem phase_after {worker : Nat} (stands : ((system.after id cancelled done).workers worker).phase = phase) :
    worker = id ∧ done.phase = phase ∨ worker ≠ id ∧ (system.workers worker).phase = phase := by
  unfold TaskSystem.after at stands
  by_cases here : worker = id
  · simp only [if_pos here] at stands
    exact Or.inl ⟨here, stands⟩
  · simp only [if_neg here] at stands
    exact Or.inr ⟨here, stands⟩

theorem admitted_holds {task : TaskExecution} (lets : phase.holds = none) (admitted : phase = .admitted task) :
    False := by
  rw [admitted] at lets
  cases lets

theorem Sampled.after (sampled : Sampled system) (fenced : Fenced system)
    (move : WorkerMove pkg id system.store (system.workers id) done) :
    Sampled (system.after id cancelled done) := by
  have others : ∀ {done : WorkerStep},
      (∀ claimant task, .claimed claimant task ∈ done.events → Free system task.id) →
      (∀ task, done.phase.holds = some task → (system.workers id).phase.holds = some task ∨
        Latest (system.trace ++ done.events) id task) →
      (∀ task, done.phase = .admitted task → 0 < task.notAfterMS →
        Authorised (system.trace ++ done.events) id task) →
      Always StartsAuthorised (system.trace ++ done.events) →
      Sampled (system.after id cancelled done) := by
    intro done free keeps admits right
    refine sampled.grow rfl free right ?_ ?_
    · intro worker task holds
      rcases holds_after holds with ⟨rfl, here⟩ | ⟨_, before⟩
      · exact keeps task here
      · exact Or.inl before
    · intro worker task phase
      rcases phase_after phase with ⟨rfl, here⟩ | ⟨_, before⟩
      · exact Or.inr (admits task here)
      · exact Or.inl before
  have nothing : Always StartsAuthorised (system.trace ++ []) := by
    rw [List.append_nil]
    exact sampled.executed
  have sampling : ∀ sample, Always StartsAuthorised (system.trace ++ [.sampled id sample]) := fun sample =>
    always_concat sampled.executed (startsAuthorised_of_other (fun _ _ => nofun))
  cases move with
  | quiet next phase quiet adds lets =>
    refine others nofun ?_ (fun task admitted => (admitted_holds lets admitted).elim) nothing
    intro task holds
    rw [lets] at holds
    cases holds
  | deferred task sample holding =>
    refine others ?_ ?_ nofun (sampling sample)
    · intro claimant other member
      cases List.mem_singleton.mp member
    · intro other same
      exact Or.inl (by rw [holding]; exact same)
  | admitted task sample bounds holding read ahead =>
    have holds : system.holds id task := by unfold TaskSystem.holds; rw [holding]; rfl
    refine others ?_ ?_ ?_ (sampling sample)
    · intro claimant other member
      cases List.mem_singleton.mp member
    · intro other same
      exact Or.inl (by rw [holding]; exact same)
    · intro other same _
      cases same
      exact authorised_of_sample (sampled.latest id task holds) read ahead
  | unlimited task holding unlimited =>
    refine others nofun ?_ ?_ nothing
    · intro other same
      exact Or.inl (by rw [holding]; exact same)
    · intro other same limited
      cases same
      exact absurd limited unlimited
  | claimed next task phase nowMS clock entropy step lets =>
    refine others (claimEvent_free fenced step (some id)) ?_ ?_ (always_concat sampled.executed
      (startsAuthorised_of_other (claimEvent_not_executed (some id) clock task)))
    · intro other holds
      rcases lets with lets | ⟨rfl, unfinished⟩
      · rw [lets] at holds
        cases holds
      · cases holds
        exact Or.inr (latest_of_claim clock unfinished)
    · intro other admitted
      rcases lets with lets | ⟨rfl, _⟩
      · exact (admitted_holds lets admitted).elim
      · cases admitted
  | released task next phase holding done lets =>
    refine others nofun ?_ (fun task admitted => (admitted_holds lets admitted).elim) nothing
    intro task holds
    rw [lets] at holds
    cases holds
  | executed task holding =>
    refine others ?_ nofun nofun (always_concat sampled.executed ?_)
    · intro claimant other member
      cases List.mem_singleton.mp member
    · intro worker other same limited
      cases same
      exact ⟨task, rfl, sampled.admitted id task holding limited⟩

theorem Sampled.call (sampled : Sampled system) (fenced : Fenced system) (made : TaskCall) :
    Sampled (taskStep pkg system (.call made)) := by
  have kept : ∀ {events : List TaskEvent}, (∀ claimant task, .claimed claimant task ∈ events → Free system task.id) →
      Always StartsAuthorised (system.trace ++ events) →
      Sampled { system with store := performTask pkg system.store made, trace := system.trace ++ events } :=
    fun free right => sampled.grow rfl free right (fun _ _ holds => Or.inl holds) (fun _ _ phase => Or.inl phase)
  have nothing : Always StartsAuthorised (system.trace ++ []) := by
    rw [List.append_nil]
    exact sampled.executed
  show Sampled { system with
    store := performTask pkg system.store made, trace := system.trace ++ callEvents pkg system.store made }
  unfold callEvents
  split
  · rename_i atMS clock entropy
    unfold claimEvents
    split
    · exact kept nofun nothing
    · rename_i next claim done
      exact kept (claimEvent_free fenced (claimNextTaskFenced_ok done) none) (always_concat sampled.executed
        (startsAuthorised_of_other (claimEvent_not_executed none clock claim.task)))
  · exact kept nofun nothing

theorem Sampled.setWorker (sampled : Sampled system) (id : Nat) (worker : TaskWorker)
    (lets : worker.phase.holds = none) : Sampled (system.setWorker id worker) := by
  refine sampled.grow (List.append_nil _).symm nofun sampled.executed ?_ ?_
  · intro other task holds
    unfold TaskSystem.holds TaskSystem.setWorker at holds
    by_cases here : other = id
    · simp only [if_pos here, lets] at holds
      cases holds
    · simp only [if_neg here] at holds
      exact Or.inl holds
  · intro other task phase
    unfold TaskSystem.setWorker at phase
    by_cases here : other = id
    · simp only [if_pos here] at phase
      exact (admitted_holds lets phase).elim
    · simp only [if_neg here] at phase
      exact Or.inl phase

end Steps

theorem boot_sampled (store : Store) : Sampled (.boot store) := by
  refine ⟨?_, ?_, always_nil _⟩
  · intro worker task holds
    cases holds
  · intro worker task phase
    cases phase

theorem taskStep_sampled (pkg : Package) (system : TaskSystem) (action : TaskAction)
    (fenced : Fenced system) (sampled : Sampled system) : Sampled (taskStep pkg system action) := by
  cases action with
  | call made => exact sampled.call fenced made
  | start id registry => exact sampled.setWorker id ⟨registry, false, .starting⟩ rfl
  | stop id => exact sampled.setWorker id .off rfl
  | work id input =>
    exact sampled.after fenced (workerStep_moves pkg id system.store (system.workers id) input)

/-- Over every run on any database: a handler is called at most once for a task, and for a task with a deadline
only after a sample that was taken since its latest claim was committed, with its upper bound below the deadline. -/
theorem task_executed_at_most_once (pkg : Package) (start : Store) (actions : List TaskAction)
    (own : Admits (taskStep pkg) SurrendersOwn (.boot start) actions) :
    let reached := run (taskStep pkg) (.boot start) actions
    (∀ id, executions reached.trace id ≤ 1) ∧
    ∀ past worker task later, reached.trace = past ++ .executed worker task :: later →
      0 < task.notAfterMS → ∃ claim, wireTask claim = task ∧ Authorised past worker claim := by
  intro reached
  have invariant : Fenced reached ∧ Sampled reached := by
    refine run_invariant_of_admits (fun system => Fenced system ∧ Sampled system) ?_
      ⟨boot_fenced start, boot_sampled start⟩ own
    intro system action before permitted
    exact ⟨taskStep_fenced pkg system action before.1 permitted,
      taskStep_sampled pkg system action before.1 before.2⟩
  constructor
  · intro id
    rcases Nat.eq_zero_or_pos (executions reached.trace id) with none | some
    · omega
    · exact Nat.le_of_eq (invariant.1.once id some).1
  · intro past worker task later split limited
    exact invariant.2.executed past (.executed worker task) later split worker task rfl limited

def exampleInput : WorkerInput where
  cancelled := false
  nowMS := 1200
  clock := some [.ok ⟨1150, 1300⟩]
  entropy := exampleEntropy 7
  sample := some (.ok ⟨1160, 1310⟩)
  outcome := .returned none
  woken := true
  fault := .none

def exampleInterruption : List TaskAction :=
  [.call (.acceptTasksFenced [exampleTask] 1000 (some [.ok ⟨900, 1100⟩])),
    .start 0 (fun _ => some ⟨false⟩), .work 0 exampleInput, .work 0 exampleInput,
    .work 0 exampleInput, .work 0 { exampleInput with sample := some (.ok ⟨1160, 5000⟩) },
    .work 0 exampleInput, .work 0 exampleInput,
    .work 0 { exampleInput with entropy := exampleEntropy 8 }, .work 0 exampleInput,
    .work 0 exampleInput, .stop 0]

def exampleRestart : List TaskAction :=
  [.start 0 (fun _ => some ⟨false⟩), .work 0 exampleInput,
    .call (.acceptTasksFenced [exampleTask] 1400 (some [.ok ⟨1300, 1500⟩])), .work 0 exampleInput,
    .work 0 exampleInput, .work 0 exampleInput, .work 0 exampleInput]

theorem task_executed_at_most_once_interrupted :
    let reached := run (taskStep .transparent) (.boot Store.fresh) (exampleInterruption ++ exampleRestart)
    reached.trace.length = 5 ∧ executions reached.trace "upgrade-1" = 1 ∧
      (∀ id, executions reached.trace id ≤ 1) ∧
      ∃ claim, wireTask claim = exampleTask ∧ Authorised (reached.trace.take 4) 0 claim := by
  intro reached
  have own : Admits (taskStep .transparent) SurrendersOwn (.boot Store.fresh)
      (exampleInterruption ++ exampleRestart) := by
    simp only [exampleInterruption, exampleRestart, List.cons_append, List.nil_append, Admits,
      SurrendersOwn, and_self]
  obtain ⟨once, starts⟩ := task_executed_at_most_once .transparent Store.fresh _ own
  have split : reached.trace = reached.trace.take 4 ++ .executed 0 exampleTask :: [] := by decide
  exact ⟨by decide, by decide, once, starts _ 0 exampleTask [] split (by decide)⟩

end PasswallNode.Agent
