import PasswallNode.Agent.TaskSystem

/-! The invariant behind at-most-once execution. -/

namespace PasswallNode.Agent

open Foundation Protocol State Sqlite

/-- A row that a worker may hold or has executed: running under the token of its claim, or finished, and never
received. -/
def OwnedRow (system : TaskSystem) (id : String) : Prop :=
  ∃ row, system.store.tasks.find? id = some row ∧
    (row.state.terminal = true ∨ row.state = .running ∧
      ∃ worker claim, .claimed (some worker) claim ∈ system.trace ∧ claim.claimToken = row.claimToken)

structure Fenced (system : TaskSystem) : Prop where
  held : ∀ worker task, system.holds worker task →
    .claimed (some worker) task ∈ system.trace ∧ task.state = .running ∧
      executions system.trace task.id = 0 ∧ OwnedRow system task.id
  single : ∀ first second task other, system.holds first task → system.holds second other →
    task.id = other.id → first = second
  once : ∀ id, 0 < executions system.trace id → executions system.trace id = 1 ∧ OwnedRow system id
  expired : ∀ task clock, .expired task clock ∈ system.trace →
    executions system.trace task.id = 0 ∧ (∀ worker other, system.holds worker other → other.id ≠ task.id) ∧
      ∃ row, system.store.tasks.find? task.id = some row ∧ row.state.terminal = true ∧
        row.errorCode = taskErrorExpiredBeforeStart

structure Quiet (tasks next : TaskTable) : Prop where
  running : ∀ id row, tasks.find? id = some row → row.state = .running →
    ∃ after, next.find? id = some after ∧ (after.state.terminal = true ∨
      after.state = .running ∧ after.claimToken = row.claimToken)
  outcomes : KeepsOutcomes tasks next

theorem quiet_refl (tasks : TaskTable) : Quiet tasks tasks :=
  ⟨fun _ row found held => ⟨row, found, Or.inr ⟨held, rfl⟩⟩, keepsOutcomes_refl tasks⟩

theorem Quiet.trans {first second third : TaskTable} (one : Quiet first second)
    (two : Quiet second third) : Quiet first third := by
  refine ⟨?_, one.outcomes.trans two.outcomes⟩
  intro id row found held
  obtain ⟨middle, present, finished | ⟨still, token⟩⟩ := one.running id row found held
  · obtain ⟨after, last, kept⟩ := two.outcomes id middle present finished
    exact ⟨after, last, Or.inl (kept.1 ▸ finished)⟩
  · obtain ⟨after, last, ended | ⟨again, same⟩⟩ := two.running id middle present still
    · exact ⟨after, last, Or.inl ended⟩
    · exact ⟨after, last, Or.inr ⟨again, same.trans token⟩⟩

section Quiet

variable {pkg : Package} {store next : Store} {id : String} {atMS : Int} {u : Unit}

theorem quiet_of_sets {tasks after : TaskTable} {row : TaskExecution} (sets : Sets tasks after id row)
    (outcomes : KeepsOutcomes tasks after)
    (ended : ∀ old, tasks.find? id = some old → old.state = .running → row.state.terminal = true) :
    Quiet tasks after := by
  refine ⟨?_, outcomes⟩
  intro other old found held
  by_cases here : other = id
  · subst here
    exact ⟨row, (sets other).trans (if_pos rfl), Or.inl (ended old found held)⟩
  · exact ⟨old, ((sets other).trans (if_neg here)).trans found, Or.inr ⟨held, rfl⟩⟩

theorem quiet_of_settles {task : TaskExecution} {row : OutboxRow}
    (settles : Settles pkg store next task row) (outcomes : KeepsOutcomes store.tasks next.tasks) :
    Quiet store.tasks next.tasks :=
  quiet_of_sets settles.sets outcomes (fun _ _ _ => settles.terminal)

theorem acceptTask_quiet {state after : Acceptance} {task : Task}
    (done : acceptTask pkg atMS state task = .ok after) : Quiet state.store.tasks after.store.tasks := by
  have outcomes := (acceptTask_progresses done).outcomes
  cases acceptTask_ok done with
  | inserted tasks absent authorised sets =>
    refine quiet_of_sets sets outcomes ?_
    intro old found
    rw [absent] at found
    cases found
  | fenced absent limited unproved => exact quiet_refl _
  | rearmed current store row found same terminal settles => exact quiet_of_settles settles outcomes
  | held current found same unfinished => exact quiet_refl _

theorem acceptTasksFenced_quiet {tasks : List Task} {clock : TaskStartClock}
    {accepted : TaskAcceptance × TaskStartClock}
    (done : acceptTasksFenced pkg store tasks atMS clock = .ok (next, accepted)) :
    Quiet store.tasks next.tasks := by
  obtain ⟨_, _, timed⟩ := bind_eq_ok.mp done
  split at timed
  · cases timed
  · obtain ⟨final, looped, same⟩ := bind_eq_ok.mp timed
    cases same
    refine forEach_invariant (fun state : Acceptance => Quiet store.tasks state.store.tasks) ?_
      (quiet_refl _) looped
    intro state after task _ before passed
    exact before.trans (acceptTask_quiet passed)

theorem completeTask_quiet {terminal : TaskState} {result : TaskResult}
    (done : completeTask pkg store id terminal result atMS = .ok (next, u)) : Quiet store.tasks next.tasks := by
  have outcomes := (completeTask_progresses done).outcomes
  cases completeTask_ok done with
  | rearmed current row found ended same settles => exact quiet_of_settles settles outcomes
  | finished current row found running settles => exact quiet_of_settles settles outcomes

theorem enqueueIssue_quiet {dedupeKey : String} {issue : Issue} {inserted : Bool}
    (done : enqueueIssue pkg store dedupeKey issue atMS = .ok (next, inserted)) : Quiet store.tasks next.tasks := by
  obtain ⟨outbox, rfl, _, _⟩ := enqueueIssue_ok done
  exact quiet_refl _

theorem ackRow_quiet {id : Int} (done : ackRow store id = .ok next) : Quiet store.tasks next.tasks := by
  obtain ⟨tasks, outbox, rfl, _, acked, _⟩ := ackRow_ok done
  refine ⟨?_, keepsOutcomes_of_acked acked⟩
  intro other row found held
  have after := acked other
  rw [found, Option.map_some] at after
  refine ⟨_, after, Or.inr ?_⟩
  split
  · exact ⟨held, rfl⟩
  · exact ⟨held, rfl⟩

theorem ackOutbox_quiet {ids : List Int} (done : ackOutbox store ids = .ok (next, u)) :
    Quiet store.tasks next.tasks := by
  obtain ⟨final, looped, same⟩ := bind_eq_ok.mp done
  cases same
  refine forEach_invariant (fun state : Store => Quiet store.tasks state.tasks) ?_ (quiet_refl _) looped
  intro state after id _ before passed
  exact before.trans (ackRow_quiet passed)

end Quiet

def AddsNone (tasks after : TaskTable) : Prop := ∀ id, tasks.find? id = none → after.find? id = none

theorem addsNone_refl (tasks : TaskTable) : AddsNone tasks tasks := fun _ absent => absent

theorem addsNone_of_sets {tasks after : TaskTable} {key : String} {row old : TaskExecution}
    (sets : Sets tasks after key row) (found : tasks.find? key = some old) : AddsNone tasks after := by
  intro id absent
  refine ((sets id).trans (if_neg ?_)).trans absent
  rintro rfl
  rw [found] at absent
  cases absent

theorem completeTask_addsNone {pkg : Package} {store next : Store} {id : String} {terminal : TaskState}
    {result : TaskResult} {atMS : Int} {u : Unit}
    (done : completeTask pkg store id terminal result atMS = .ok (next, u)) : AddsNone store.tasks next.tasks := by
  cases completeTask_ok done with
  | rearmed current row found ended same settles =>
    have named : current.id = id := Table.key_of_find? found
    exact addsNone_of_sets settles.sets (named ▸ found)
  | finished current row found running settles =>
    have named : current.id = id := Table.key_of_find? found
    exact addsNone_of_sets settles.sets (named ▸ found)

section Histories

theorem executions_append (trace events : List TaskEvent) (id : String) :
    executions (trace ++ events) id = executions trace id + executions events id :=
  List.countP_append

def Silent (events : List TaskEvent) : Prop :=
  (∀ id, executions events id = 0) ∧ ∀ task clock, .expired task clock ∉ events

theorem silent_nil : Silent [] := ⟨fun _ => rfl, fun _ _ => List.not_mem_nil⟩

theorem silent_sampled (worker : Nat) (sample : Option Sample) : Silent [.sampled worker sample] := by
  refine ⟨fun _ => rfl, ?_⟩
  intro other clock member
  cases List.mem_singleton.mp member

variable {system next : TaskSystem} {events : List TaskEvent} {id : String} {row : TaskExecution} {worker : Nat}
  {task : TaskExecution}

theorem owned_of_quiet (owned : OwnedRow system id) (quiet : Quiet system.store.tasks next.store.tasks)
    (grows : next.trace = system.trace ++ events) : OwnedRow next id := by
  obtain ⟨row, found, finished | ⟨running, worker, claim, member, token⟩⟩ := owned
  · obtain ⟨after, present, kept⟩ := quiet.outcomes id row found finished
    exact ⟨after, present, Or.inl (kept.1 ▸ finished)⟩
  · obtain ⟨after, present, ended | ⟨still, same⟩⟩ := quiet.running id row found running
    · exact ⟨after, present, Or.inl ended⟩
    · refine ⟨after, present, Or.inr ⟨still, worker, claim, ?_, token.trans same.symm⟩⟩
      rw [grows]
      exact List.mem_append_left _ member

theorem owned_of_same (owned : OwnedRow system id) (same : next.store.tasks.find? id = system.store.tasks.find? id)
    (grows : next.trace = system.trace ++ events) : OwnedRow next id := by
  obtain ⟨row, found, facts⟩ := owned
  refine ⟨row, same.trans found, facts.imp_right ?_⟩
  rintro ⟨running, worker, claim, member, token⟩
  refine ⟨running, worker, claim, ?_, token⟩
  rw [grows]
  exact List.mem_append_left _ member

structure Free (system : TaskSystem) (id : String) : Prop where
  unexecuted : executions system.trace id = 0
  unheld : ∀ worker task, system.holds worker task → task.id ≠ id
  undecided : ∀ task clock, .expired task clock ∈ system.trace → task.id ≠ id

theorem Fenced.free_of_unowned (fenced : Fenced system) (found : system.store.tasks.find? id = some row)
    (unfinished : row.state.terminal = false) (unowned : ¬OwnedRow system id) : Free system id := by
  refine ⟨?_, ?_, ?_⟩
  · by_contra some
    exact unowned (fenced.once id (Nat.pos_of_ne_zero some)).2
  · rintro worker task holds rfl
    exact unowned (fenced.held worker task holds).2.2.2
  · rintro task clock member rfl
    obtain ⟨_, _, other, present, finished, _⟩ := fenced.expired task clock member
    rw [found] at present
    cases present
    rw [unfinished] at finished
    cases finished

theorem Fenced.free_of_received (fenced : Fenced system) (found : system.store.tasks.find? id = some row)
    (received : row.state = .received) : Free system id := by
  refine fenced.free_of_unowned found (by rw [received]; rfl) ?_
  rintro ⟨other, present, facts⟩
  rw [found] at present
  cases present
  rw [received] at facts
  rcases facts with finished | ⟨running, _⟩
  · cases finished
  · cases running

theorem Fenced.keep (fenced : Fenced system) (quiet : Quiet system.store.tasks next.store.tasks)
    (grows : next.trace = system.trace ++ events) (silent : Silent events)
    (holders : ∀ worker task, next.holds worker task → system.holds worker task) : Fenced next := by
  have counts : ∀ id, executions next.trace id = executions system.trace id := by
    intro id
    rw [grows, executions_append, silent.1 id, Nat.add_zero]
  constructor
  · intro worker task holds
    obtain ⟨member, running, unexecuted, owned⟩ := fenced.held worker task (holders worker task holds)
    refine ⟨?_, running, (counts task.id).trans unexecuted, owned_of_quiet owned quiet grows⟩
    rw [grows]
    exact List.mem_append_left _ member
  · intro first second task other one two
    exact fenced.single first second task other (holders first task one) (holders second other two)
  · intro id some
    rw [counts id] at some ⊢
    obtain ⟨once, owned⟩ := fenced.once id some
    exact ⟨once, owned_of_quiet owned quiet grows⟩
  · intro task clock member
    rw [grows, List.mem_append] at member
    obtain ⟨unexecuted, unheld, row, found, finished, verdict⟩ :=
      fenced.expired task clock (member.resolve_right (silent.2 task clock))
    obtain ⟨after, present, kept⟩ := quiet.outcomes task.id row found finished
    exact ⟨(counts task.id).trans unexecuted,
      fun worker other holds => unheld worker other (holders worker other holds),
      after, present, kept.1 ▸ finished, kept.2.2.1.trans verdict⟩

/-- Steps that rewrite the row of a task nobody holds afterwards. -/
theorem Fenced.write (fenced : Fenced system) (unexecuted : executions system.trace id = 0)
    (undecided : ∀ task clock, .expired task clock ∈ system.trace → task.id ≠ id)
    (others : ∀ other, other ≠ id → next.store.tasks.find? other = system.store.tasks.find? other)
    (grows : next.trace = system.trace ++ events) (silent : ∀ id, executions events id = 0)
    (verdicts : ∀ task clock, .expired task clock ∈ events → task.id = id ∧ ∃ row,
      next.store.tasks.find? id = some row ∧ row.state.terminal = true ∧ row.errorCode = taskErrorExpiredBeforeStart)
    (holders : ∀ worker task, next.holds worker task → system.holds worker task ∧ task.id ≠ id) : Fenced next := by
  have counts : ∀ id, executions next.trace id = executions system.trace id := by
    intro id
    rw [grows, executions_append, silent id, Nat.add_zero]
  constructor
  · intro worker task holds
    obtain ⟨before, apart⟩ := holders worker task holds
    obtain ⟨member, running, none, owned⟩ := fenced.held worker task before
    refine ⟨?_, running, (counts task.id).trans none, owned_of_same owned (others _ apart) grows⟩
    rw [grows]
    exact List.mem_append_left _ member
  · intro first second task other one two
    exact fenced.single first second task other (holders first task one).1 (holders second other two).1
  · intro other some
    rw [counts other] at some ⊢
    have apart : other ≠ id := by
      rintro rfl
      rw [unexecuted] at some
      cases some
    obtain ⟨once, owned⟩ := fenced.once other some
    exact ⟨once, owned_of_same owned (others other apart) grows⟩
  · intro task clock member
    rw [grows, List.mem_append] at member
    rcases member with earlier | here
    · obtain ⟨none, unheld, row, found, facts⟩ := fenced.expired task clock earlier
      exact ⟨(counts task.id).trans none,
        fun worker other holds => unheld worker other (holders worker other holds).1,
        row, (others _ (undecided task clock earlier)).trans found, facts⟩
    · obtain ⟨rfl, row⟩ := verdicts task clock here
      exact ⟨(counts task.id).trans unexecuted, fun worker other holds => (holders worker other holds).2, row⟩

theorem Fenced.acquire (fenced : Fenced system) (claimed : .claimed (some worker) task ∈ system.trace)
    (running : task.state = .running) (owned : OwnedRow system task.id) (free : Free system task.id)
    (store : next.store = system.store) (trace : next.trace = system.trace)
    (holders : ∀ other held, next.holds other held → other = worker ∧ held = task ∨ system.holds other held) :
    Fenced next := by
  have grows : next.trace = system.trace ++ [] := by rw [trace, List.append_nil]
  have sameRow : ∀ id, next.store.tasks.find? id = system.store.tasks.find? id := fun id => by rw [store]
  constructor
  · intro other held holds
    rw [trace]
    rcases holders other held holds with ⟨rfl, rfl⟩ | before
    · exact ⟨claimed, running, free.unexecuted, owned_of_same owned (sameRow _) grows⟩
    · obtain ⟨member, still, none, row⟩ := fenced.held other held before
      exact ⟨member, still, none, owned_of_same row (sameRow _) grows⟩
  · intro first second one two holdsOne holdsTwo same
    rcases holders first one holdsOne with ⟨rfl, rfl⟩ | before
    · rcases holders second two holdsTwo with ⟨rfl, rfl⟩ | earlier
      · rfl
      · exact absurd same.symm (free.unheld second two earlier)
    · rcases holders second two holdsTwo with ⟨rfl, rfl⟩ | earlier
      · exact absurd same (free.unheld first one before)
      · exact fenced.single first second one two before earlier same
  · intro id some
    rw [trace] at some ⊢
    obtain ⟨once, row⟩ := fenced.once id some
    exact ⟨once, owned_of_same row (sameRow _) grows⟩
  · intro decided clock member
    rw [trace] at member ⊢
    obtain ⟨none, unheld, row, found, facts⟩ := fenced.expired decided clock member
    refine ⟨none, ?_, row, (sameRow _).trans found, facts⟩
    intro other held holds
    rcases holders other held holds with ⟨rfl, rfl⟩ | before
    · exact (free.undecided decided clock member).symm
    · exact unheld other held before

theorem Fenced.execute (fenced : Fenced system) (holding : system.holds worker task)
    (store : next.store = system.store) (grows : next.trace = system.trace ++ [.executed worker (wireTask task)])
    (holders : ∀ other held, next.holds other held → system.holds other held ∧ other ≠ worker) : Fenced next := by
  obtain ⟨_, _, unexecuted, owned⟩ := fenced.held worker task holding
  have sameRow : ∀ id, next.store.tasks.find? id = system.store.tasks.find? id := fun id => by rw [store]
  have counts : ∀ id, executions next.trace id =
      executions system.trace id + if task.id = id then 1 else 0 := by
    intro id
    rw [grows, executions_append]
    simp [executions, executes, wireTask]
  constructor
  · intro other held holds
    obtain ⟨before, apart⟩ := holders other held holds
    obtain ⟨member, running, none, row⟩ := fenced.held other held before
    have different : task.id ≠ held.id :=
      fun same => apart (fenced.single other worker held task before holding same.symm)
    refine ⟨?_, running, ?_, owned_of_same row (sameRow _) grows⟩
    · rw [grows]
      exact List.mem_append_left _ member
    · rw [counts, none, if_neg different]
  · intro first second one two holdsOne holdsTwo
    exact fenced.single first second one two (holders first one holdsOne).1 (holders second two holdsTwo).1
  · intro id some
    by_cases here : task.id = id
    · subst here
      rw [counts, unexecuted, if_pos rfl]
      exact ⟨rfl, owned_of_same owned (sameRow _) grows⟩
    · rw [counts, if_neg here, Nat.add_zero] at some ⊢
      obtain ⟨once, row⟩ := fenced.once id some
      exact ⟨once, owned_of_same row (sameRow _) grows⟩
  · intro decided clock member
    rw [grows, List.mem_append] at member
    have earlier := member.resolve_right (fun here => by cases List.mem_singleton.mp here)
    obtain ⟨none, unheld, row, found, facts⟩ := fenced.expired decided clock earlier
    refine ⟨?_, fun other held holds => unheld other held (holders other held holds).1, row,
      (sameRow _).trans found, facts⟩
    rw [counts, none, if_neg (unheld worker task holding)]

end Histories

inductive WorkerMove (pkg : Package) (id : Nat) (store : Store) (worker : TaskWorker) :
    WorkerStep → Prop where
  | quiet (next : Store) (phase : Phase) (quiet : Quiet store.tasks next.tasks)
      (adds : AddsNone store.tasks next.tasks) (lets : phase.holds = none) :
        WorkerMove pkg id store worker ⟨next, phase, []⟩
  | deferred (task : TaskExecution) (sample : Option Sample) (holding : worker.phase = .claimed task) :
      WorkerMove pkg id store worker ⟨store, .deferring task, [.sampled id sample]⟩
  | admitted (task : TaskExecution) (sample : Option Sample) (bounds : TaskTimeBounds)
      (holding : worker.phase = .claimed task) (read : taskStartBounds sample = some bounds)
      (ahead : bounds.upperMS < task.notAfterMS) :
      WorkerMove pkg id store worker ⟨store, .admitted task, [.sampled id sample]⟩
  | unlimited (task : TaskExecution) (holding : worker.phase = .claimed task)
      (unlimited : ¬0 < task.notAfterMS) : WorkerMove pkg id store worker ⟨store, .admitted task, []⟩
  | claimed (next : Store) (task : TaskExecution) (phase : Phase) (nowMS : Int) (clock : TaskStartClock)
      (entropy : Entropy) (step : ClaimStep pkg store nowMS entropy clock next task)
      (lets : phase.holds = none ∨ phase = .claimed task ∧ task.state.terminal = false) :
      WorkerMove pkg id store worker ⟨next, phase, [claimEvent (some id) clock task]⟩
  | released (task : TaskExecution) (next : Store) (phase : Phase)
      (holding : worker.phase = .deferring task) (done : releaseTaskClaim store task = .ok (next, ()))
      (lets : phase.holds = none) : WorkerMove pkg id store worker ⟨next, phase, []⟩
  | executed (task : TaskExecution) (holding : worker.phase = .admitted task) :
      WorkerMove pkg id store worker ⟨store, .executing task, [.executed id (wireTask task)]⟩

section Moves

variable {pkg : Package} {id : Nat} {store : Store} {worker : TaskWorker} {input : WorkerInput}
  {system next : TaskSystem} {task : TaskExecution} {nowMS : Int} {entropy : Entropy} {clock : TaskStartClock}
  {cancelled : Bool} {done : WorkerStep}

theorem attempt_cases {α : Type} {fault : Fault} {result : Except Error (Store × α)} {next : Store}
    {seen : Except Error α} (done : attempt fault store result = (next, seen)) :
    next = store ∨ ∃ value, result = .ok (next, value) := by
  cases fault with
  | before err =>
    cases done
    exact Or.inl rfl
  | after err =>
    cases done
    cases result with
    | error failed => exact Or.inl rfl
    | ok pair => exact Or.inr ⟨pair.2, rfl⟩
  | none =>
    cases result with
    | error failed =>
      cases done
      exact Or.inl rfl
    | ok pair =>
      cases done
      exact Or.inr ⟨pair.2, rfl⟩

theorem afterDrain_holds (worked : Bool) : (afterDrain worked).holds = none := by
  cases worked <;> rfl

theorem recoverNext_holds (registry : TaskRegistry) (task : TaskExecution) (rest : List TaskExecution) :
    (recoverNext pkg registry task rest).holds = none := by
  unfold recoverNext
  split
  · rfl
  · split <;> rfl

theorem resumePhase_holds (resume : Resume) : (resumePhase resume).holds = none := by
  cases resume <;> rfl

theorem drainFailed_holds (err : Error) (cancelled worked : Bool) :
    (drainFailed err cancelled worked).holds = none := by
  unfold drainFailed
  split
  · exact afterDrain_holds worked
  · split
    · exact afterDrain_holds worked
    · rfl

theorem drainClaim_moves (cancelled worked : Bool) :
    WorkerMove pkg id store worker (drainClaim pkg id store cancelled worked input) := by
  unfold drainClaim
  cases done : claimNextTaskFenced pkg store input.nowMS input.clock input.entropy with
  | error err =>
    cases input.fault with
    | none => exact .quiet store _ (quiet_refl _) (addsNone_refl _) (drainFailed_holds err cancelled worked)
    | before lost => exact .quiet store _ (quiet_refl _) (addsNone_refl _) (drainFailed_holds lost cancelled worked)
    | after lost => exact .quiet store _ (quiet_refl _) (addsNone_refl _) (drainFailed_holds lost cancelled worked)
  | ok pair =>
    obtain ⟨next, claim⟩ := pair
    have step := claimNextTaskFenced_ok done
    cases input.fault with
    | before err => exact .quiet store _ (quiet_refl _) (addsNone_refl _) (drainFailed_holds err cancelled worked)
    | after err =>
      exact .claimed next claim.task _ input.nowMS input.clock input.entropy step
        (Or.inl (drainFailed_holds err cancelled worked))
    | none =>
      simp only [attempt, claimEvents]
      split
      · exact .claimed next claim.task _ input.nowMS input.clock input.entropy step (Or.inl rfl)
      · rename_i unfinished
        exact .claimed next claim.task _ input.nowMS input.clock input.entropy step
          (Or.inr ⟨rfl, Bool.not_eq_true _ ▸ unfinished⟩)

theorem admitClaim_moves {task : TaskExecution} (holding : worker.phase = .claimed task) :
    WorkerMove pkg id store worker (admitClaim pkg id store worker.registry task input) := by
  unfold admitClaim
  split
  · exact .quiet store _ (quiet_refl _) (addsNone_refl _) rfl
  · split
    · split
      · exact .deferred task input.sample holding
      · rename_i bounds read
        split
        · exact .deferred task input.sample holding
        · rename_i ahead
          exact .admitted task input.sample bounds holding read (Int.not_le.mp ahead)
    · rename_i unlimited
      exact .unlimited task holding unlimited

theorem workerStep_moves (pkg : Package) (id : Nat) (store : Store) (worker : TaskWorker)
    (input : WorkerInput) : WorkerMove pkg id store worker (workerStep pkg id store worker input) := by
  have still : ∀ phase : Phase, phase.holds = none → WorkerMove pkg id store worker ⟨store, phase, []⟩ :=
    fun phase lets => .quiet store phase (quiet_refl _) (addsNone_refl _) lets
  unfold workerStep
  dsimp only
  cases at_ : worker.phase with
  | down => exact still _ rfl
  | starting =>
    dsimp only
    split
    · exact still _ rfl
    · exact still _ (by split <;> rfl)
    · exact still _ (by split <;> rfl)
  | recovering rest =>
    cases rest with
    | nil => exact still _ rfl
    | cons task rest => exact still _ (recoverNext_holds _ _ _)
  | resolving task rest =>
    dsimp only
    split
    · exact still _ rfl
    · exact still _ rfl
  | draining worked =>
    dsimp only
    split
    · exact still _ (afterDrain_holds worked)
    · exact drainClaim_moves _ worked
  | claimed task => exact admitClaim_moves at_
  | deferring task =>
    dsimp only
    split
    · rename_i next err called
      rcases attempt_cases called with rfl | ⟨u, done⟩
      · exact still _ rfl
      · exact .released task next _ at_ done rfl
    · rename_i next value called
      rcases attempt_cases called with rfl | ⟨u, done⟩
      · exact still _ rfl
      · exact .released task next _ at_ done rfl
  | admitted task => exact .executed task at_
  | executing task =>
    dsimp only
    split
    · exact still _ rfl
    · exact still _ rfl
  | completing task completion resume =>
    dsimp only
    split
    · rename_i next err called
      rcases attempt_cases called with rfl | ⟨u, done⟩
      · exact still _ rfl
      · exact .quiet next _ (completeTask_quiet done) (completeTask_addsNone done) rfl
    · rename_i next value called
      rcases attempt_cases called with rfl | ⟨u, done⟩
      · exact still _ (resumePhase_holds resume)
      · exact .quiet next _ (completeTask_quiet done) (completeTask_addsNone done) (resumePhase_holds resume)
  | waiting =>
    dsimp only
    split
    · exact still _ rfl
    · split
      · exact still _ rfl
      · exact still _ rfl

theorem Fenced.claim (fenced : Fenced system) {worker : Option Nat}
    (step : ClaimStep pkg system.store nowMS entropy clock next.store task)
    (grows : next.trace = system.trace ++ [claimEvent worker clock task])
    (holders : ∀ worker task, next.holds worker task → system.holds worker task) : Fenced next := by
  generalize stored : next.store = after at step
  cases step with
  | expired task bounds after row found received limited reads past settles =>
    have free := fenced.free_of_received found received
    refine fenced.write free.unexecuted free.undecided ?_ grows (fun _ => rfl) ?_
      (fun worker held holds => ⟨holders worker held holds, free.unheld worker held (holders worker held holds)⟩)
    · intro other apart
      rw [stored]
      exact (settles.sets other).trans (if_neg apart)
    · intro decided other member
      cases List.mem_singleton.mp member
      refine ⟨rfl, _, ?_, settles.terminal, rfl⟩
      rw [stored]
      exact (settles.sets _).trans (if_pos rfl)
  | started task token tasks found received drawn ahead sets =>
    have free := fenced.free_of_received found received
    refine fenced.write free.unexecuted free.undecided ?_ grows (fun _ => rfl) ?_
      (fun worker held holds => ⟨holders worker held holds, free.unheld worker held (holders worker held holds)⟩)
    · intro other apart
      rw [stored]
      exact (sets other).trans (if_neg apart)
    · intro decided other member
      cases List.mem_singleton.mp member

theorem Fenced.claim_held (fenced : Fenced system) {worker : Nat}
    (step : ClaimStep pkg system.store nowMS entropy clock next.store task)
    (unfinished : task.state.terminal = false)
    (grows : next.trace = system.trace ++ [claimEvent (some worker) clock task])
    (holders : ∀ worker task, next.holds worker task → system.holds worker task) :
    .claimed (some worker) task ∈ next.trace ∧ task.state = .running ∧ OwnedRow next task.id ∧
    Free next task.id := by
  generalize stored : next.store = after at step
  cases step with
  | expired task bounds after row found received limited reads past settles => cases unfinished
  | started task token tasks found received drawn ahead sets =>
    have free := fenced.free_of_received found received
    have member : TaskEvent.claimed (some worker) (startedTask nowMS token task) ∈ next.trace := by
      rw [grows]
      exact List.mem_append_right _ List.mem_cons_self
    refine ⟨member, rfl, ⟨startedTask nowMS token task, ?_, Or.inr ⟨rfl, worker, _, member, rfl⟩⟩, ?_, ?_, ?_⟩
    · rw [stored]
      exact (sets _).trans (if_pos rfl)
    · rw [grows, executions_append]
      exact free.unexecuted
    · intro other held holds
      exact free.unheld other held (holders other held holds)
    · intro decided other inside
      rw [grows, List.mem_append] at inside
      exact free.undecided decided other (inside.resolve_right (fun here => by
        cases List.mem_singleton.mp here))

theorem Fenced.release (fenced : Fenced system) {u : Unit}
    (done : releaseTaskClaim system.store task = .ok (next.store, u))
    (own : ∀ worker claim, .claimed (some worker) claim ∈ system.trace → claim.claimToken ≠ task.claimToken)
    (trace : next.trace = system.trace) (holders : ∀ worker task, next.holds worker task → system.holds worker task) :
    Fenced next := by
  obtain ⟨row, tasks, found, running, token, _, sets, stored⟩ := releaseTaskClaim_ok done
  have free : Free system task.id := by
    refine fenced.free_of_unowned found (by rw [running]; rfl) ?_
    rintro ⟨other, present, finished | ⟨_, worker, claim, member, same⟩⟩
    · rw [found] at present
      cases present
      rw [running] at finished
      cases finished
    · rw [found] at present
      cases present
      exact own worker claim member (same.trans token)
  have grows : next.trace = system.trace ++ [] := by rw [trace, List.append_nil]
  refine fenced.write free.unexecuted free.undecided ?_ grows (fun _ => rfl)
    (fun _ _ member => by cases member)
    (fun worker held holds => ⟨holders worker held holds, free.unheld worker held (holders worker held holds)⟩)
  intro other apart
  rw [stored]
  exact (sets other).trans (if_neg apart)

theorem Fenced.surrender (fenced : Fenced system) {worker : Nat} {u : Unit}
    (done : releaseTaskClaim system.store task = .ok (next.store, u)) (holding : system.holds worker task)
    (trace : next.trace = system.trace)
    (holders : ∀ other held, next.holds other held → system.holds other held ∧ other ≠ worker) : Fenced next := by
  obtain ⟨row, tasks, found, running, token, _, sets, stored⟩ := releaseTaskClaim_ok done
  obtain ⟨_, _, unexecuted, _⟩ := fenced.held worker task holding
  have undecided : ∀ decided clock, .expired decided clock ∈ system.trace → decided.id ≠ task.id :=
    fun decided clock member => ((fenced.expired decided clock member).2.1 worker task holding).symm
  have grows : next.trace = system.trace ++ [] := by rw [trace, List.append_nil]
  refine fenced.write unexecuted undecided ?_ grows (fun _ => rfl) (fun _ _ member => by cases member) ?_
  · intro other apart
    rw [stored]
    exact (sets other).trans (if_neg apart)
  · intro other held holds
    obtain ⟨before, apart⟩ := holders other held holds
    exact ⟨before, fun same => apart (fenced.single other worker held task before holding same)⟩

theorem holds_after {id : Nat} {worker : Nat} (holds : (system.after id cancelled done).holds worker task) :
    worker = id ∧ done.phase.holds = some task ∨ worker ≠ id ∧ system.holds worker task := by
  unfold TaskSystem.holds TaskSystem.after at holds
  by_cases here : worker = id
  · simp only [if_pos here] at holds
    exact Or.inl ⟨here, holds⟩
  · simp only [if_neg here] at holds
    exact Or.inr ⟨here, holds⟩

theorem holds_after_other {id : Nat} {worker : Nat} (apart : worker ≠ id) (holds : system.holds worker task) :
    (system.after id cancelled done).holds worker task := by
  unfold TaskSystem.holds TaskSystem.after
  simp only [if_neg apart]
  exact holds

theorem holds_after_let {id : Nat} (lets : done.phase.holds = none) (worker : Nat) (task : TaskExecution)
    (holds : (system.after id cancelled done).holds worker task) : system.holds worker task ∧ worker ≠ id := by
  rcases holds_after holds with ⟨_, impossible⟩ | ⟨apart, before⟩
  · rw [lets] at impossible
    cases impossible
  · exact ⟨before, apart⟩

theorem holds_after_keep {id : Nat} (kept : done.phase.holds = (system.workers id).phase.holds) (worker : Nat)
    (task : TaskExecution) (holds : (system.after id cancelled done).holds worker task) :
    system.holds worker task := by
  rcases holds_after holds with ⟨rfl, same⟩ | ⟨_, before⟩
  · exact kept.symm.trans same
  · exact before

theorem Fenced.after_claim (fenced : Fenced system) {id : Nat} {next : Store} {phase : Phase}
    (step : ClaimStep pkg system.store nowMS entropy clock next task)
    (lets : phase.holds = none ∨ phase = .claimed task ∧ task.state.terminal = false) :
    Fenced (system.after id cancelled ⟨next, phase, [claimEvent (some id) clock task]⟩) := by
  let dropped := system.after id cancelled ⟨next, .down, [claimEvent (some id) clock task]⟩
  have lost : ∀ worker held, dropped.holds worker held → system.holds worker held :=
    fun worker held holds => (holds_after_let rfl worker held holds).1
  have committed : Fenced dropped := fenced.claim step rfl lost
  rcases lets with lets | ⟨rfl, unfinished⟩
  · refine committed.keep (quiet_refl _) (List.append_nil _).symm silent_nil ?_
    intro worker held holds
    obtain ⟨before, apart⟩ := holds_after_let lets worker held holds
    exact holds_after_other apart before
  · have own : .claimed (some id) task ∈ dropped.trace ∧ task.state = .running ∧
        OwnedRow dropped task.id ∧ Free dropped task.id := fenced.claim_held step unfinished rfl lost
    refine committed.acquire own.1 own.2.1 own.2.2.1 own.2.2.2 rfl rfl ?_
    intro worker held holds
    rcases holds_after holds with ⟨here, same⟩ | ⟨apart, before⟩
    · cases same
      exact Or.inl ⟨here, rfl⟩
    · exact Or.inr (holds_after_other apart before)

theorem Fenced.after (fenced : Fenced system) {id : Nat}
    (move : WorkerMove pkg id system.store (system.workers id) done) : Fenced (system.after id cancelled done) := by
  cases move with
  | quiet next phase quiet adds lets =>
    exact fenced.keep quiet rfl silent_nil (fun worker task holds => (holds_after_let lets worker task holds).1)
  | deferred task sample holding =>
    exact fenced.keep (quiet_refl _) rfl (silent_sampled id sample) (holds_after_keep (by rw [holding]; rfl))
  | admitted task sample bounds holding read ahead =>
    exact fenced.keep (quiet_refl _) rfl (silent_sampled id sample) (holds_after_keep (by rw [holding]; rfl))
  | unlimited task holding unlimited =>
    exact fenced.keep (quiet_refl _) rfl silent_nil (holds_after_keep (by rw [holding]; rfl))
  | claimed next task phase nowMS clock entropy step lets => exact fenced.after_claim step lets
  | released task next phase holding done lets =>
    have holds : system.holds id task := by unfold TaskSystem.holds; rw [holding]; rfl
    exact fenced.surrender done holds (List.append_nil _) (holds_after_let lets)
  | executed task holding =>
    have holds : system.holds id task := by unfold TaskSystem.holds; rw [holding]; rfl
    exact fenced.execute holds rfl rfl (holds_after_let rfl)

theorem boot_fenced (store : Store) : Fenced (.boot store) := by
  constructor
  · intro worker task holds
    cases holds
  · intro first second task other holds
    cases holds
  · intro id some
    cases some
  · intro task clock member
    cases member

theorem Fenced.setWorker (fenced : Fenced system) (id : Nat) (worker : TaskWorker)
    (lets : worker.phase.holds = none) : Fenced (system.setWorker id worker) := by
  refine fenced.keep (quiet_refl _) (List.append_nil _).symm silent_nil ?_
  intro other task holds
  unfold TaskSystem.holds TaskSystem.setWorker at holds
  by_cases here : other = id
  · simp only [if_pos here, lets] at holds
    cases holds
  · simp only [if_neg here] at holds
    exact holds

theorem performTask_quiet (pkg : Package) (store : Store) (made : TaskCall)
    (claims : ∀ atMS clock entropy, made ≠ .claimNextTaskFenced atMS clock entropy)
    (releases : ∀ task, made ≠ .releaseTaskClaim task) : Quiet store.tasks (performTask pkg store made).tasks := by
  have unchanged := quiet_refl store.tasks
  have committed := fun {α : Type} {result : Except Error (Store × α)} =>
    @commit_invariant Store α store result (fun next => Quiet store.tasks next.tasks) unchanged
  cases made with
  | acceptTasksFenced tasks atMS clock => exact committed (fun _ _ => acceptTasksFenced_quiet)
  | claimNextTaskFenced atMS clock entropy => exact absurd rfl (claims atMS clock entropy)
  | releaseTaskClaim task => exact absurd rfl (releases task)
  | completeTask id terminal result atMS => exact committed (fun _ _ => completeTask_quiet)
  | enqueueIssue dedupeKey issue atMS => exact committed (fun _ _ => enqueueIssue_quiet)
  | pendingOutbox limit => exact unchanged
  | ackOutbox ids => exact committed (fun _ _ => ackOutbox_quiet)

theorem Fenced.call (fenced : Fenced system) (made : TaskCall) (own : SurrendersOwn system (.call made)) :
    Fenced (taskStep pkg system (.call made)) := by
  have unchanged : ∀ events, events = [] → Fenced { system with trace := system.trace ++ events } := by
    rintro events rfl
    rw [List.append_nil]
    exact fenced
  by_cases claims : ∃ atMS clock entropy, made = .claimNextTaskFenced atMS clock entropy
  · obtain ⟨atMS, clock, entropy, rfl⟩ := claims
    show Fenced { system with
      store := commit system.store (claimNextTaskFenced pkg system.store atMS clock entropy)
      trace := system.trace ++ claimEvents none clock (claimNextTaskFenced pkg system.store atMS clock entropy) }
    cases done : claimNextTaskFenced pkg system.store atMS clock entropy with
    | error err => exact unchanged _ rfl
    | ok pair => exact fenced.claim (claimNextTaskFenced_ok done) rfl (fun _ _ holds => holds)
  by_cases releases : ∃ task, made = .releaseTaskClaim task
  · obtain ⟨task, rfl⟩ := releases
    show Fenced { system with
      store := commit system.store (releaseTaskClaim system.store task)
      trace := system.trace ++ [] }
    cases done : releaseTaskClaim system.store task with
    | error err => exact unchanged _ rfl
    | ok pair => exact fenced.release done own (List.append_nil _) (fun _ _ holds => holds)
  · have events : callEvents pkg system.store made = [] := by
      unfold callEvents
      split
      · exact absurd ⟨_, _, _, rfl⟩ claims
      · rfl
    refine fenced.keep (performTask_quiet pkg system.store made ?_ ?_) rfl (events ▸ silent_nil)
      (fun _ _ holds => holds)
    · intro atMS clock entropy same
      exact claims ⟨atMS, clock, entropy, same⟩
    · intro task same
      exact releases ⟨task, same⟩

theorem taskStep_fenced (pkg : Package) (system : TaskSystem) (action : TaskAction)
    (fenced : Fenced system) (own : SurrendersOwn system action) : Fenced (taskStep pkg system action) := by
  cases action with
  | call made => exact fenced.call made own
  | start id registry => exact fenced.setWorker id ⟨registry, false, .starting⟩ rfl
  | stop id => exact fenced.setWorker id .off rfl
  | work id input =>
    exact fenced.after (workerStep_moves pkg id system.store (system.workers id) input)

end Moves

end PasswallNode.Agent
