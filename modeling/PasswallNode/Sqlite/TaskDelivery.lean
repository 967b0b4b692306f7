import PasswallNode.Foundation.Runs
import PasswallNode.Sqlite.TaskSpecs

/-! Results are delivered without loss. -/

namespace PasswallNode.Sqlite

open Foundation Protocol State

inductive TaskCall where
  | acceptTasksFenced (tasks : List Task) (atMS : Int) (clock : TaskStartClock)
  | claimNextTaskFenced (atMS : Int) (clock : TaskStartClock) (entropy : Entropy)
  | releaseTaskClaim (task : TaskExecution)
  | completeTask (id : String) (terminal : TaskState) (result : TaskResult) (atMS : Int)
  | enqueueIssue (dedupeKey : String) (issue : Issue) (atMS : Int)
  | pendingOutbox (limit : Int)
  | ackOutbox (ids : List Int)

def performTask (pkg : Package) (store : Store) : TaskCall → Store
  | .acceptTasksFenced tasks atMS clock => commit store (acceptTasksFenced pkg store tasks atMS clock)
  | .claimNextTaskFenced atMS clock entropy =>
    commit store (claimNextTaskFenced pkg store atMS clock entropy)
  | .releaseTaskClaim task => commit store (releaseTaskClaim store task)
  | .completeTask id terminal result atMS => commit store (completeTask pkg store id terminal result atMS)
  | .enqueueIssue dedupeKey issue atMS => commit store (enqueueIssue pkg store dedupeKey issue atMS)
  | .pendingOutbox _ => store
  | .ackOutbox ids => commit store (ackOutbox store ids)

structure Delivery (pkg : Package) (store : Store) : Prop where
  offered : ∀ id row, store.outbox.table.find? (.taskResult, id) = some row →
    ∃ task, store.tasks.find? id = some task ∧ task.state.terminal = true ∧
      task.resultDelivered = false ∧ row.delivered = false ∧
      pkg.encodeTaskResult (taskResult task) = .ok row.payload
  waiting : ∀ id task, store.tasks.find? id = some task → task.state.terminal = true →
    task.resultDelivered = false → ∃ row, store.outbox.table.find? (.taskResult, id) = some row

def SameOutcome (task after : TaskExecution) : Prop :=
  after.state = task.state ∧ after.result = task.result ∧ after.errorCode = task.errorCode ∧
    after.error = task.error ∧ after.finishedAtMS = task.finishedAtMS

def KeepsOutcomes (tasks next : TaskTable) : Prop :=
  ∀ id task, tasks.find? id = some task → task.state.terminal = true →
    ∃ after, next.find? id = some after ∧ SameOutcome task after

structure Progresses (pkg : Package) (store next : Store) : Prop where
  delivery : Delivery pkg store → Delivery pkg next
  outcomes : KeepsOutcomes store.tasks next.tasks
  numbers : Numbers store.outbox next.outbox

theorem SameOutcome.trans {first second third : TaskExecution} (one : SameOutcome first second)
    (two : SameOutcome second third) : SameOutcome first third :=
  ⟨two.1.trans one.1, two.2.1.trans one.2.1, two.2.2.1.trans one.2.2.1,
    two.2.2.2.1.trans one.2.2.2.1, two.2.2.2.2.trans one.2.2.2.2⟩

theorem keepsOutcomes_refl (tasks : TaskTable) : KeepsOutcomes tasks tasks :=
  fun _ task found _ => ⟨task, found, rfl, rfl, rfl, rfl, rfl⟩

theorem KeepsOutcomes.trans {first second third : TaskTable} (one : KeepsOutcomes first second)
    (two : KeepsOutcomes second third) : KeepsOutcomes first third := by
  intro id task found terminal
  obtain ⟨middle, present, kept⟩ := one id task found terminal
  obtain ⟨after, last, again⟩ := two id middle present (kept.1 ▸ terminal)
  exact ⟨after, last, kept.trans again⟩

theorem progresses_refl (pkg : Package) (store : Store) : Progresses pkg store store :=
  ⟨id, keepsOutcomes_refl _, numbers_refl _⟩

theorem Progresses.trans {pkg : Package} {first second third : Store}
    (one : Progresses pkg first second) (two : Progresses pkg second third) :
    Progresses pkg first third :=
  ⟨fun before => two.delivery (one.delivery before), one.outcomes.trans two.outcomes, one.numbers.trans two.numbers⟩

section Steps

variable {pkg : Package} {store next : Store} {tasks : TaskTable} {id : String} {task : TaskExecution} {row : OutboxRow}
  {atMS : Int} {u : Unit} {current : TaskExecution} {clock : TaskStartClock}

theorem keepsOutcomes_of_sets {after : TaskTable} {row : TaskExecution} (sets : Sets tasks after id row)
    (kept : ∀ old, tasks.find? id = some old → old.state.terminal = true → SameOutcome old row) :
    KeepsOutcomes tasks after := by
  intro other task found terminal
  have written := sets other
  by_cases here : other = id
  · subst here
    rw [if_pos rfl] at written
    exact ⟨row, written, kept task found terminal⟩
  · rw [if_neg here, found] at written
    exact ⟨task, written, rfl, rfl, rfl, rfl, rfl⟩

theorem progresses_of_settles (settles : Settles pkg store next task row)
    (kept : ∀ old, store.tasks.find? task.id = some old → old.state.terminal = true → SameOutcome old task) :
    Progresses pkg store next := by
  refine ⟨?_, keepsOutcomes_of_sets settles.sets kept, settles.numbers⟩
  intro before
  constructor
  · intro id other found
    have offered := settles.offers (.taskResult, id)
    have written := settles.sets id
    by_cases here : id = task.id
    · subst here
      rw [if_pos rfl, found] at offered
      rw [if_pos rfl] at written
      cases offered
      exact ⟨task, written, settles.terminal, settles.unsent, settles.undelivered, settles.encoded⟩
    · rw [if_neg (fun same => here (congrArg Prod.snd same)), found] at offered
      rw [if_neg here] at written
      obtain ⟨old, present, facts⟩ := before.offered id other offered.symm
      exact ⟨old, written.trans present, facts⟩
  · intro id other found terminal unsent
    have offered := settles.offers (.taskResult, id)
    have written := settles.sets id
    by_cases here : id = task.id
    · subst here
      rw [if_pos rfl] at offered
      exact ⟨row, offered⟩
    · rw [if_neg here, found] at written
      rw [if_neg (fun same => here (congrArg Prod.snd same))] at offered
      obtain ⟨old, present⟩ := before.waiting id other written.symm terminal unsent
      exact ⟨old, offered.trans present⟩

theorem progresses_of_unfinished {row : TaskExecution} (sets : Sets store.tasks tasks id row)
    (unfinished : row.state.terminal = false)
    (started : ∀ old, store.tasks.find? id = some old → old.state.terminal = false) :
    Progresses pkg store { store with tasks := tasks } := by
  have never : ∀ old, store.tasks.find? id = some old → old.state.terminal = true → False := by
    intro old found terminal
    rw [started old found] at terminal
    cases terminal
  refine ⟨?_, keepsOutcomes_of_sets sets (fun old found ended => (never old found ended).elim), numbers_refl _⟩
  intro before
  constructor
  · intro other offer found
    obtain ⟨task, present, terminal, facts⟩ := before.offered other offer found
    have apart : other ≠ id := by
      rintro rfl
      exact never task present terminal
    exact ⟨task, ((sets other).trans (if_neg apart)).trans present, terminal, facts⟩
  · intro other task found terminal unsent
    have apart : other ≠ id := by
      rintro rfl
      rw [(sets other).trans (if_pos rfl)] at found
      cases found
      rw [unfinished] at terminal
      cases terminal
    rw [(sets other).trans (if_neg apart)] at found
    exact before.waiting other task found terminal unsent

theorem progresses_of_rearm (found : store.tasks.find? id = some current)
    (settles : Settles pkg store next { current with resultDelivered := false } row) :
    Progresses pkg store next := by
  refine progresses_of_settles settles ?_
  intro old present _
  have named : current.id = id := Table.key_of_find? found
  have same : store.tasks.find? current.id = some old := present
  rw [named, found] at same
  cases same
  exact ⟨rfl, rfl, rfl, rfl, rfl⟩

theorem progresses_of_finish (settles : Settles pkg store next task row)
    (found : store.tasks.find? task.id = some current) (unfinished : current.state.terminal = false) :
    Progresses pkg store next := by
  refine progresses_of_settles settles ?_
  intro old present terminal
  rw [found] at present
  cases present
  rw [unfinished] at terminal
  cases terminal

theorem acceptTask_progresses {state after : Acceptance} {task : Task}
    (done : acceptTask pkg atMS state task = .ok after) : Progresses pkg state.store after.store := by
  cases acceptTask_ok done with
  | inserted tasks absent authorised sets =>
    refine progresses_of_unfinished sets rfl ?_
    intro old found
    rw [absent] at found
    cases found
  | fenced absent limited unproved => exact progresses_refl pkg state.store
  | rearmed current store row found same terminal settles => exact progresses_of_rearm found settles
  | held current found same unfinished => exact progresses_refl pkg state.store

theorem acceptTasksFenced_progresses {tasks : List Task} {accepted : TaskAcceptance × TaskStartClock}
    (done : acceptTasksFenced pkg store tasks atMS clock = .ok (next, accepted)) : Progresses pkg store next := by
  obtain ⟨_, _, timed⟩ := bind_eq_ok.mp done
  split at timed
  · cases timed
  · obtain ⟨final, looped, same⟩ := bind_eq_ok.mp timed
    cases same
    refine forEach_invariant (fun state => Progresses pkg store state.store) ?_
      (progresses_refl pkg store) looped
    intro state after task _ before passed
    exact before.trans (acceptTask_progresses passed)

theorem claimNextTaskFenced_progresses {entropy : Entropy} {claim : Claim}
    (done : claimNextTaskFenced pkg store atMS clock entropy = .ok (next, claim)) : Progresses pkg store next := by
  have waiting : ∀ task : TaskExecution, task.state = .received → task.state.terminal = false := by
    intro task received
    rw [received]
    rfl
  have step := claimNextTaskFenced_ok done
  generalize claim.task = claimed at step
  cases step with
  | expired task bounds next row found received limited reads past settles =>
    exact progresses_of_finish settles found (waiting task received)
  | started task token tasks found received drawn ahead sets =>
    refine progresses_of_unfinished sets rfl ?_
    intro old present
    rw [found] at present
    cases present
    exact waiting task received

theorem releaseTaskClaim_progresses (done : releaseTaskClaim store task = .ok (next, u)) :
    Progresses pkg store next := by
  obtain ⟨row, tasks, found, running, _, _, sets, rfl⟩ := releaseTaskClaim_ok done
  refine progresses_of_unfinished sets rfl ?_
  intro old present
  rw [found] at present
  cases present
  rw [running]
  rfl

theorem completeTask_progresses {terminal : TaskState} {result : TaskResult}
    (done : completeTask pkg store id terminal result atMS = .ok (next, u)) : Progresses pkg store next := by
  cases completeTask_ok done with
  | rearmed current row found ended same settles => exact progresses_of_rearm found settles
  | finished current row found running settles =>
    have named : current.id = id := Table.key_of_find? found
    refine progresses_of_finish settles (named ▸ found) ?_
    rw [running]
    rfl

theorem enqueueIssue_progresses {dedupeKey : String} {issue : Issue} {inserted : Bool}
    (done : enqueueIssue pkg store dedupeKey issue atMS = .ok (next, inserted)) : Progresses pkg store next := by
  obtain ⟨outbox, rfl, numbers, same⟩ := enqueueIssue_ok done
  refine ⟨?_, keepsOutcomes_refl _, numbers⟩
  intro before
  constructor
  · intro id row found
    exact before.offered id row ((same id).symm.trans found)
  · intro id task found terminal unsent
    obtain ⟨row, present⟩ := before.waiting id task found terminal unsent
    exact ⟨row, (same id).trans present⟩

theorem keepsOutcomes_of_acked {id : Int} (acked : AckedTasks store id tasks) :
    KeepsOutcomes store.tasks tasks := by
  intro other task found terminal
  have after := acked other
  rw [found, Option.map_some] at after
  refine ⟨_, after, ?_⟩
  split
  · exact ⟨rfl, rfl, rfl, rfl, rfl⟩
  · exact ⟨rfl, rfl, rfl, rfl, rfl⟩

theorem delivery_of_acked {id : Int} {outbox : Outbox} (before : Delivery pkg store)
    (acked : AckedTasks store id tasks)
    (rows : ∀ key, outbox.table.find? key = (store.outbox.table.find? key).bind (ackedRow store.tasks id)) :
    Delivery pkg { store with tasks := tasks, outbox := outbox } := by
  constructor
  · intro other row found
    rw [rows] at found
    obtain ⟨old, present, kept⟩ := Option.bind_eq_some_iff.mp found
    obtain ⟨task, listed, facts⟩ := before.offered other old present
    have named := (key_of_found present).2
    have apart : old.id ≠ id := by
      intro same
      have removed : ackedRow store.tasks id old = none := by
        simp [ackedRow, same, (key_of_found present).1, named, listed]
      rw [removed] at kept
      cases kept
    have same : old = row := by simpa [ackedRow, apart] using kept
    subst same
    have unmarked : resultAt store.outbox other id = false := by simp [resultAt, present, apart]
    refine ⟨task, ?_, facts⟩
    rw [acked other, listed, unmarked]
    rfl
  · intro other task found terminal unsent
    rw [acked other] at found
    obtain ⟨old, listed, same⟩ := Option.map_eq_some_iff.mp found
    have unmarked : resultAt store.outbox other id = false := by
      cases marked : resultAt store.outbox other id with
      | false => rfl
      | true =>
        rw [marked] at same
        rw [← same] at unsent
        cases unsent
    rw [unmarked] at same
    have equal : old = task := same
    subst equal
    obtain ⟨row, present⟩ := before.waiting other old listed terminal unsent
    have apart : row.id ≠ id := by simpa [resultAt, present] using unmarked
    refine ⟨row, ?_⟩
    rw [rows, present]
    simp [ackedRow, apart]

theorem ackRow_progresses {id : Int} (done : ackRow store id = .ok next) : Progresses pkg store next := by
  obtain ⟨tasks, outbox, rfl, numbers, acked, rows⟩ := ackRow_ok done
  exact ⟨fun before => delivery_of_acked before acked rows, keepsOutcomes_of_acked acked, numbers⟩

theorem ackOutbox_progresses {ids : List Int} (done : ackOutbox store ids = .ok (next, u)) :
    Progresses pkg store next := by
  obtain ⟨final, looped, same⟩ := bind_eq_ok.mp done
  cases same
  refine forEach_invariant (fun state => Progresses pkg store state) ?_ (progresses_refl pkg store) looped
  intro state after id _ before passed
  exact before.trans (ackRow_progresses passed)

end Steps

theorem performTask_progresses (pkg : Package) (store : Store) (call : TaskCall) :
    Progresses pkg store (performTask pkg store call) := by
  have unchanged := progresses_refl pkg store
  cases call with
  | acceptTasksFenced tasks atMS clock =>
    exact commit_invariant (Progresses pkg store) unchanged (fun _ _ => acceptTasksFenced_progresses)
  | claimNextTaskFenced atMS clock entropy =>
    exact commit_invariant (Progresses pkg store) unchanged (fun _ _ => claimNextTaskFenced_progresses)
  | releaseTaskClaim task =>
    exact commit_invariant (Progresses pkg store) unchanged (fun _ _ => releaseTaskClaim_progresses)
  | completeTask id terminal result atMS =>
    exact commit_invariant (Progresses pkg store) unchanged (fun _ _ => completeTask_progresses)
  | enqueueIssue dedupeKey issue atMS =>
    exact commit_invariant (Progresses pkg store) unchanged (fun _ _ => enqueueIssue_progresses)
  | pendingOutbox limit => exact unchanged
  | ackOutbox ids =>
    exact commit_invariant (Progresses pkg store) unchanged (fun _ _ => ackOutbox_progresses)

theorem run_performTask_progresses (pkg : Package) (store : Store) (calls : List TaskCall) :
    Progresses pkg store (run (performTask pkg) store calls) := by
  refine run_relation (fun _ => True) (Progresses pkg) (fun _ _ _ => trivial) (progresses_refl pkg)
    (fun _ _ _ => Progresses.trans) ?_ trivial calls
  intro state call _
  exact performTask_progresses pkg state call

def undeliveredResults (store : Store) (id : String) : List OutboxRow :=
  store.outbox.table.rows.filter (fun row =>
    decide ((row.kind, row.dedupeKey) = (.taskResult, id)) && !row.delivered)

section Agreement

variable {pkg : Package} {store : Store} {next : Store}

theorem undeliveredResults_eq (store : Store) (id : String) : undeliveredResults store id =
    (store.outbox.table.find? (.taskResult, id)).toList.filter (fun row => !row.delivered) := by
  rw [← Table.filter_key, List.filter_filter, undeliveredResults]
  congr 1
  funext row
  exact Bool.and_comm _ _

theorem Delivery.exactly_one (agree : Delivery pkg store) {id : String} {task : TaskExecution}
    (found : store.tasks.find? id = some task) (terminal : task.state.terminal = true)
    (unsent : task.resultDelivered = false) : ∃ row, undeliveredResults store id = [row] ∧
    pkg.encodeTaskResult (taskResult task) = .ok row.payload := by
  obtain ⟨row, present⟩ := agree.waiting id task found terminal unsent
  obtain ⟨other, same, _, _, undelivered, encoded⟩ := agree.offered id row present
  rw [found] at same
  cases same
  refine ⟨row, ?_, encoded⟩
  rw [undeliveredResults_eq, present]
  simp [undelivered]

theorem Delivery.none (agree : Delivery pkg store) {id : String}
    (settled : ∀ task, store.tasks.find? id = some task →
    ¬(task.state.terminal = true ∧ task.resultDelivered = false)) : undeliveredResults store id = [] := by
  have absent : store.outbox.table.find? (.taskResult, id) = Option.none := by
    cases present : store.outbox.table.find? (.taskResult, id) with
    | none => rfl
    | some row =>
      obtain ⟨task, found, terminal, unsent, _⟩ := agree.offered id row present
      exact absurd ⟨terminal, unsent⟩ (settled task found)
  rw [undeliveredResults_eq, absent]
  rfl

def NotConflict (err : Error) : Prop := err.isSentinel .taskTerminalConflict = false

theorem putImmutableTaskResult_noConflict {outbox : Outbox} {id : String} {body : Bytes} {atMS : Int}
    (same : ∀ row, outbox.table.find? (.taskResult, id) = some row → row.payload = body) :
    FailsWith NotConflict (putImmutableTaskResult outbox id body atMS) := by
  unfold putImmutableTaskResult
  split
  · exact failsWith_orError rfl
  · rename_i row present
    rw [if_neg (fun differs => differs (same row present))]
    exact failsWith_orError rfl

theorem rearmTaskResult_noConflict (agree : Delivery pkg store) {id : String} {task : TaskExecution}
    (found : store.tasks.find? id = some task) (atMS : Int) :
    FailsWith NotConflict (rearmTaskResult pkg store task atMS) := by
  have named : task.id = id := Table.key_of_find? found
  refine failsWith_bind ?_ ?_
  · unfold marshalResult
    split
    · exact failsWith_error rfl
    · exact failsWith_ok _
  · intro body marshalled
    refine failsWith_bind (putImmutableTaskResult_noConflict ?_) ?_
    · intro row present
      obtain ⟨other, same, _, _, _, encoded⟩ := agree.offered task.id row present
      rw [named, found] at same
      cases same
      rw [marshalResult_ok marshalled] at encoded
      exact (Except.ok.inj encoded).symm
    · intro outbox _
      exact failsWith_bind (failsWith_orError rfl) (fun _ _ => failsWith_ok _)

theorem acceptTask_noConflict {state : Acceptance} (agree : Delivery pkg state.store) (atMS : Int)
    (task : Task) : FailsWith NotConflict (acceptTask pkg atMS state task) := by
  have insert : ∀ clock, FailsWith NotConflict (insertTask state task atMS clock) :=
    fun clock => failsWith_bind (failsWith_orError rfl) (fun _ _ => failsWith_ok _)
  unfold acceptTask
  split
  · unfold acceptUnknown
    split
    · dsimp only
      split
      · exact insert _
      · exact failsWith_ok _
    · exact insert _
  · rename_i current found
    refine failsWith_bind (failsWith_rejectIf rfl) ?_
    intro _ _
    split
    · exact failsWith_bind (rearmTaskResult_noConflict agree found atMS) (fun _ _ => failsWith_ok _)
    · exact failsWith_ok _

theorem acceptTasksFenced_noConflict (agree : Delivery pkg store) (tasks : List Task) (atMS : Int)
    (clock : TaskStartClock) : FailsWith NotConflict (acceptTasksFenced pkg store tasks atMS clock) := by
  refine failsWith_bind (failsWith_rejectIf rfl) ?_
  intro _ _
  split
  · exact failsWith_error rfl
  · refine failsWith_bind ?_ (fun _ _ => failsWith_ok _)
    exact (failsWith_forEach (fun state : Acceptance => Delivery pkg state.store) (fun state task _ agreed =>
      ⟨acceptTask_noConflict agreed atMS task, fun after passed => (acceptTask_progresses passed).delivery agreed⟩)
        agree).1

theorem collectRow_ids {batch after : OutboxBatch} {row : OutboxRow}
    (done : collectRow pkg batch row = .ok after) {id : Int} (listed : id ∈ after.ids) :
    id ∈ batch.ids ∨ id = row.id := by
  unfold collectRow at done
  repeat' split at done
  all_goals cases done
  all_goals first
    | exact Or.inl listed
    | exact (List.mem_append.mp listed).imp_right List.mem_singleton.mp

theorem pendingOutbox_ids {limit : Int} {batch : OutboxBatch} (done : pendingOutbox pkg store limit = .ok batch) :
    ∀ id ∈ batch.ids, ∃ row ∈ store.outbox.table.rows, row.id = id := by
  obtain ⟨_, _, looped⟩ := bind_eq_ok.mp done
  refine forEach_invariant (fun batch => ∀ id ∈ batch.ids, ∃ row ∈ store.outbox.table.rows, row.id = id)
    ?_ (fun id member => by cases member) looped
  intro before after row member listed passed id inside
  rcases collectRow_ids passed inside with earlier | rfl
  · exact listed id earlier
  · have pending := List.mem_of_mem_take member
    rw [List.mem_insertionSort, List.mem_filter] at pending
    exact ⟨row, pending.1, rfl⟩

theorem ackRow_keeps {id : Int} (done : ackRow store id = .ok next) {row : OutboxRow}
    (member : row ∈ store.outbox.table.rows) (apart : row.id ≠ id) : row ∈ next.outbox.table.rows := by
  obtain ⟨tasks, outbox, rfl, _, _, rows⟩ := ackRow_ok done
  have kept := rows (row.kind, row.dedupeKey)
  rw [Table.find?_of_mem member] at kept
  have same : ackedRow store.tasks id row = some row := if_pos apart
  exact Table.mem_of_find? (kept.trans same)

theorem ackOutbox_keeps {ids : List Int} {u : Unit} (done : ackOutbox store ids = .ok (next, u))
    {row : OutboxRow} (member : row ∈ store.outbox.table.rows) (apart : ∀ id ∈ ids, row.id ≠ id) :
    row ∈ next.outbox.table.rows := by
  obtain ⟨final, looped, same⟩ := bind_eq_ok.mp done
  cases same
  refine forEach_invariant (fun state : Store => row ∈ state.outbox.table.rows) ?_ member looped
  intro state after id listed present passed
  exact ackRow_keeps passed present (apart id listed)

end Agreement

/-- Over every run from a database without task results: outcomes never change, every finished
task waits in the outbox exactly until it is acknowledged, in the bytes the journal rebuilds,
and an acknowledgement that comes too late removes nothing. -/
theorem task_results_lossless (pkg : Package) (start : Store)
    (unfinished : ∀ row ∈ start.tasks.rows, row.state.terminal = false)
    (clean : ∀ row ∈ start.outbox.table.rows, row.kind ≠ .taskResult) (calls : List TaskCall) :
    let reached := run (performTask pkg) start calls
    (∀ more, KeepsOutcomes reached.tasks (run (performTask pkg) reached more).tasks) ∧
    (∀ id task, reached.tasks.find? id = some task →
      if task.state.terminal = true ∧ task.resultDelivered = false then
        ∃ row, undeliveredResults reached id = [row] ∧
          pkg.encodeTaskResult (taskResult task) = .ok row.payload
      else undeliveredResults reached id = []) ∧
    (∀ id task atMS, reached.tasks.find? id = some task →
      FailsWith NotConflict (rearmTaskResult pkg reached task atMS)) ∧
    (∀ tasks atMS clock, FailsWith NotConflict (acceptTasksFenced pkg reached tasks atMS clock)) ∧
    ∀ limit batch id middle, pendingOutbox pkg reached limit = .ok batch → id ∈ batch.ids →
      (∀ row ∈ (run (performTask pkg) reached middle).outbox.table.rows, row.id ≠ id) →
      ∀ later ids, ∀ row ∈ (run (performTask pkg) reached (middle ++ later)).outbox.table.rows,
        (∀ n ∈ ids, n ≠ id → n ≠ row.id) →
        row ∈ (performTask pkg (run (performTask pkg) reached (middle ++ later))
          (.ackOutbox ids)).outbox.table.rows := by
  intro reached
  have initial : Delivery pkg start := by
    constructor
    · intro id row found
      exact absurd (key_of_found found).1 (clean row (Table.mem_of_find? found))
    · intro id task found terminal
      rw [unfinished task (Table.mem_of_find? found)] at terminal
      cases terminal
  have agree : Delivery pkg reached := (run_performTask_progresses pkg start calls).delivery initial
  refine ⟨?_, ?_, ?_, acceptTasksFenced_noConflict agree, ?_⟩
  · intro more
    exact (run_performTask_progresses pkg reached more).outcomes
  · intro id task found
    split
    · rename_i waits
      exact agree.exactly_one found waits.1 waits.2
    · rename_i settled
      refine agree.none ?_
      intro other same
      rw [found] at same
      cases same
      exact settled
  · intro id task atMS found
    exact rearmTaskResult_noConflict agree found atMS
  · intro limit batch id middle read listed gone later ids row member others
    obtain ⟨old, present, rfl⟩ := pendingOutbox_ids read id listed
    have first := (run_performTask_progresses pkg reached middle).numbers
    have second := (run_performTask_progresses pkg (run (performTask pkg) reached middle) later).numbers
    have issued := Int.le_trans (reached.outbox.issued old present) first.sequence
    -- The number of the removed row is never given out again, so no row bears it now.
    have apart : row.id ≠ old.id := by
      rw [run_append] at member
      exact second.retired issued gone row member
    refine commit_invariant (fun state : Store => row ∈ state.outbox.table.rows) member ?_
    intro next u done
    refine ackOutbox_keeps done member ?_
    intro n inside same
    exact others n inside (fun stale => apart (same.trans stale)) same.symm

def exampleResult : TaskResult :=
  ⟨"upgrade-1", "node.upgrade", exampleTask.inputSHA256, 5000, true, false, none, "", ""⟩

def exampleCompletion : List TaskCall :=
  [.acceptTasksFenced [exampleTask] 1000 (some [.ok ⟨900, 1100⟩]),
    .claimNextTaskFenced 1200 (some [.ok ⟨1150, 1300⟩]) (exampleEntropy 7),
    .completeTask "upgrade-1" .succeeded exampleResult 1500]

def exampleReached : Store := run (performTask .transparent) Store.fresh exampleCompletion

def exampleRedispatch : List TaskCall :=
  [.ackOutbox [1]] ++ [.acceptTasksFenced [exampleTask] 2000 none]

/-- A result is acknowledged, the task is dispatched again, and the acknowledgement arrives a second time. -/
theorem task_results_lossless_redispatched :
    (∃ row, undeliveredResults exampleReached "upgrade-1" = [row]) ∧
    (run (performTask .transparent) exampleReached exampleRedispatch).outbox.table.rows.map
      OutboxRow.id = [2] ∧
    ∀ row ∈ (run (performTask .transparent) exampleReached exampleRedispatch).outbox.table.rows,
      row ∈ (performTask .transparent (run (performTask .transparent) exampleReached exampleRedispatch)
        (.ackOutbox [1])).outbox.table.rows := by
  obtain ⟨_, waits, _, _, stale⟩ :=
    task_results_lossless .transparent Store.fresh (by decide) (by decide) exampleCompletion
  refine ⟨?_, by decide, ?_⟩
  · have finished : ∀ row ∈ exampleReached.tasks.rows,
      row.id = "upgrade-1" ∧ row.state.terminal = true ∧ row.resultDelivered = false := by decide
    obtain ⟨task, member⟩ : ∃ task, task ∈ exampleReached.tasks.rows :=
      List.exists_mem_of_ne_nil _ (by decide)
    obtain ⟨named, waiting⟩ := finished task member
    have one := waits "upgrade-1" task (named ▸ Table.find?_of_mem member)
    rw [if_pos waiting] at one
    obtain ⟨row, only, _⟩ := one
    exact ⟨row, only⟩
  · have read : pendingOutbox .transparent exampleReached 10 =
        .ok ⟨[1], [], [⟨"upgrade-1,,", "", "", 0, true, false, none, "", ""⟩]⟩ := by decide
    have gone : ∀ row ∈ (run (performTask .transparent) exampleReached [.ackOutbox [1]]).outbox.table.rows,
        row.id ≠ 1 := by decide
    intro row member
    unfold exampleRedispatch exampleReached at *
    refine stale 10 _ 1 [.ackOutbox [1]] read List.mem_cons_self gone
      [.acceptTasksFenced [exampleTask] 2000 none] [1] row member ?_
    intro n listed other
    exact absurd (List.mem_singleton.mp listed) other

end PasswallNode.Sqlite
