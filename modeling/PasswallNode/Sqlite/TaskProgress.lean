import PasswallNode.Sqlite.TaskDelivery

/-! Work without a deadline is not starved. -/

namespace PasswallNode.Sqlite

open Foundation Protocol State

/-- The deadline of a task that waits to be claimed; zero is none. -/
def waiting (tasks : TaskTable) (id : String) : Option Int :=
  ((tasks.find? id).filter (fun t => decide (t.state = .received))).map TaskExecution.notAfterMS

variable {tasks : TaskTable} {id : String}

theorem waiting_eq_some {deadline : Int} : waiting tasks id = some deadline ↔
    ∃ task, tasks.find? id = some task ∧ task.state = .received ∧ task.notAfterMS = deadline := by
  simp only [waiting, Option.map_eq_some_iff, Option.filter_eq_some_iff, decide_eq_true_eq, and_assoc]

theorem waiting_of_find? {task : TaskExecution} (found : tasks.find? id = some task) :
    waiting tasks id = if task.state = .received then some task.notAfterMS else none := by
  unfold waiting
  rw [found]
  by_cases received : task.state = .received
  · simp [received]
  · simp [received]

def waitingIDs (store : Store) : List String :=
  (store.tasks.rows.filter (fun t => decide (t.state = .received))).map TaskExecution.id

theorem waitingIDs_nodup (store : Store) : (waitingIDs store).Nodup :=
  store.tasks.unique.sublist (List.filter_sublist.map _)

theorem mem_waitingIDs {store : Store} :
    id ∈ waitingIDs store ↔ ∃ deadline, waiting store.tasks id = some deadline := by
  simp only [waitingIDs, List.mem_map, List.mem_filter, decide_eq_true_eq, waiting_eq_some]
  constructor
  · rintro ⟨task, ⟨member, received⟩, rfl⟩
    exact ⟨task.notAfterMS, task, Table.find?_of_mem member, received, rfl⟩
  · rintro ⟨_, task, found, received, _⟩
    exact ⟨task, ⟨Table.mem_of_find? found, received⟩, Table.key_of_find? found⟩

section Candidates

variable {store : Store}

variable {id : String} {tasks : TaskTable} {pkg : Package} {atMS : Int} {candidates : List TaskExecution}
  {after : TaskTable} {row claimed : TaskExecution} {task : TaskExecution} {entropy : Entropy} {token : String}
  {next : Store}

theorem mem_receivedTasks_of (cond : TaskExecution → Bool) {task : TaskExecution}
    (found : store.tasks.find? id = some task) (received : task.state = .received) (selected : cond task = true) :
    task ∈ receivedTasks store cond := by
  rw [receivedTasks, List.mem_insertionSort, List.mem_filter]
  exact ⟨Table.mem_of_find? found, by simp [received, selected]⟩

theorem exists_unlimited_in_front (count : Nat) (positive : 0 < count) (waits : waiting store.tasks id = some 0) :
    ∃ task ∈ (receivedTasks store (fun t => decide (t.notAfterMS = 0))).take count, task.notAfterMS = 0 := by
  obtain ⟨task, found, received, unlimited⟩ := waiting_eq_some.mp waits
  have member := mem_receivedTasks_of (fun t => decide (t.notAfterMS = 0)) found received
    (decide_eq_true unlimited)
  have nonempty : (receivedTasks store (fun t => decide (t.notAfterMS = 0))).take count ≠ [] := by
    intro none
    rcases List.take_eq_nil_iff.mp none with zero | empty
    · omega
    · rw [empty] at member
      cases member
  obtain ⟨front, inside⟩ := List.exists_mem_of_ne_nil _ nonempty
  refine ⟨front, inside, ?_⟩
  have listed := List.mem_of_mem_take inside
  rw [receivedTasks, List.mem_insertionSort, List.mem_filter, Bool.and_eq_true] at listed
  exact of_decide_eq_true listed.2.2

theorem exists_unlimited_candidate (waits : waiting store.tasks id = some 0) (clock : TaskStartClock) :
    ∃ task ∈ claimCandidates store clock, task.notAfterMS = 0 := by
  unfold claimCandidates
  split
  · exact exists_unlimited_in_front 64 (by decide) waits
  · dsimp only
    split
    · obtain ⟨task, member, unlimited⟩ := exists_unlimited_in_front 1 (by decide) waits
      exact ⟨task, List.mem_append_right _ member, unlimited⟩
    · rename_i page
      by_cases listed : ((receivedTasks store (fun _ => true)).take 64).any (fun t => decide (t.notAfterMS = 0)) = true
      · obtain ⟨task, member, unlimited⟩ := List.any_eq_true.mp listed
        exact ⟨task, member, of_decide_eq_true unlimited⟩
      · -- A page that is not full holds every task that waits.
        have short : (receivedTasks store (fun _ => true)).length ≤ 64 := by
          have partly : ((receivedTasks store (fun _ => true)).take 64).length ≠ 64 :=
            fun full => page ⟨full, listed⟩
          rw [List.length_take] at partly
          omega
        obtain ⟨task, found, received, unlimited⟩ := waiting_eq_some.mp waits
        refine ⟨task, ?_, unlimited⟩
        rw [List.take_of_length_le short]
        exact mem_receivedTasks_of _ found received rfl

def NotMissing (err : Error) : Prop := err.isSentinel .notFound = false

theorem startTask_notMissing (task : TaskExecution) (entropy : Entropy) (clock : TaskStartClock) :
    FailsWith NotMissing (startTask store task atMS entropy clock) := by
  refine failsWith_bind ?_ (fun _ _ => failsWith_bind (failsWith_orError rfl) (fun _ _ => failsWith_ok _))
  unfold newTaskClaimToken
  split
  · exact failsWith_error rfl
  · split
    · exact failsWith_error rfl
    · exact failsWith_ok _

theorem expireTask_notMissing (task : TaskExecution) (clock : TaskStartClock) :
    FailsWith NotMissing (expireTask pkg store task atMS clock) := by
  have validated : FailsWith NotMissing (validateResult pkg (expiredResult task)) := by
    unfold validateResult
    split
    · exact failsWith_error rfl
    · exact failsWith_ok _
  have marshalled : FailsWith NotMissing
      (marshalResult pkg (expiredResult task) "encode unstarted task expiry") := by
    unfold marshalResult
    split
    · exact failsWith_error rfl
    · exact failsWith_ok _
  have stored : ∀ body, FailsWith NotMissing (putImmutableTaskResult store.outbox task.id body atMS) := by
    intro body
    unfold putImmutableTaskResult
    split
    · exact failsWith_orError rfl
    · split
      · exact failsWith_error rfl
      · exact failsWith_orError rfl
  exact failsWith_bind validated fun _ _ => failsWith_bind (failsWith_orError rfl) fun _ _ =>
    failsWith_bind marshalled fun body _ => failsWith_bind (stored body) fun _ _ => failsWith_ok _

theorem unlimited_later {head : TaskExecution} {rest : List TaskExecution} (limited : 0 < head.notAfterMS)
    (listed : ∃ task ∈ head :: rest, task.notAfterMS = 0) : ∃ task ∈ rest, task.notAfterMS = 0 := by
  obtain ⟨task, member, unlimited⟩ := listed
  rcases List.mem_cons.mp member with rfl | inside
  · omega
  · exact ⟨task, inside, unlimited⟩

theorem claimFrom_notMissing (entropy : Entropy) (clock : TaskStartClock)
    (listed : ∃ task ∈ candidates, task.notAfterMS = 0) :
    FailsWith NotMissing (claimFrom pkg store atMS entropy candidates clock) := by
  induction candidates generalizing clock with
  | nil =>
    obtain ⟨task, member, _⟩ := listed
    cases member
  | cons head rest ih =>
    unfold claimFrom
    split
    · rename_i limited
      have later := unlimited_later limited listed
      split
      · exact ih _ later
      · split
        · exact expireTask_notMissing head _
        · split
          · exact ih _ later
          · exact startTask_notMissing head entropy _
    · exact startTask_notMissing head entropy _

theorem claimNextTaskFenced_notMissing (waits : waiting store.tasks id = some 0) (atMS : Int)
    (clock : TaskStartClock) (entropy : Entropy) :
    FailsWith NotMissing (claimNextTaskFenced pkg store atMS clock entropy) :=
  failsWith_bind (failsWith_rejectIf rfl)
    (fun _ _ => claimFrom_notMissing entropy clock (exists_unlimited_candidate waits clock))

structure Unhindered (pkg : Package) (store : Store) : Prop where
  delivery : Delivery pkg store
  valid : ∀ task ∈ store.tasks.rows, task.state = .received → 0 < task.notAfterMS →
    pkg.validateTaskResults [expiredResult task] = .ok () ∧
      ∃ body, pkg.encodeTaskResult (expiredResult task) = .ok body
  numbers : store.outbox.sequence < maxInt64

theorem updateTask_succeeds (set : TaskExecution → TaskExecution) (keeps : ∀ t, (set t).id = t.id)
    (found : tasks.find? task.id = some task) (passes : checkTask (set task) = true) :
    ∃ next, updateTask tasks task.id task.state set keeps = some next := by
  have all : ∀ row ∈ tasks.rows, (decide (row.id = task.id) && decide (row.state = task.state)) = true →
      checkTask (set row) = true := by
    intro row member selected
    rw [Bool.and_eq_true, decide_eq_true_eq] at selected
    rw [Table.eq_of_key member (Table.mem_of_find? found) selected.1]
    exact passes
  unfold updateTask Table.update
  rw [dif_pos all]
  exact ⟨_, rfl⟩

theorem checkTask_startedTask (token : String) (checked : checkTask task = true) (received : task.state = .received)
    (positive : 0 < atMS) : checkTask (startedTask atMS token task) = true := by
  simp_all [checkTask, startedTask]
  omega

theorem checkTask_expiredTask (checked : checkTask task = true) (received : task.state = .received)
    (limited : 0 < task.notAfterMS) (positive : 0 < atMS) :
    checkTask { expiredTask atMS task with resultDelivered := false } = true := by
  simp_all [checkTask, expiredTask, taskErrorExpiredBeforeStart]
  omega

theorem startTask_succeeds (clock : TaskStartClock) (drawn : newTaskClaimToken entropy = .ok token)
    (positive : 0 < atMS) (found : store.tasks.find? task.id = some task) (received : task.state = .received) :
    ∃ next claim, startTask store task atMS entropy clock = .ok (next, claim) := by
  obtain ⟨tasks, updated⟩ := updateTask_succeeds (startedTask atMS token) (fun _ => rfl) found
    (checkTask_startedTask token (Table.check_of_find? found) received positive)
  rw [received] at updated
  exact ⟨_, _, bind_eq_ok.mpr ⟨token, drawn, bind_eq_ok.mpr ⟨tasks, orError_eq_ok.mpr updated, rfl⟩⟩⟩

theorem expireTask_succeeds (clock : TaskStartClock) (ready : Unhindered pkg store) (positive : 0 < atMS)
    (found : store.tasks.find? task.id = some task) (received : task.state = .received)
    (limited : 0 < task.notAfterMS) : ∃ next claim, expireTask pkg store task atMS clock = .ok (next, claim) := by
  obtain ⟨valid, body, encoded⟩ := ready.valid task (Table.mem_of_find? found) received limited
  obtain ⟨tasks, updated⟩ := updateTask_succeeds
    (fun t => { expiredTask atMS t with resultDelivered := false }) (fun _ => rfl) found
    (checkTask_expiredTask (Table.check_of_find? found) received limited positive)
  rw [received] at updated
  have absent : store.outbox.table.find? (.taskResult, task.id) = none := by
    cases offered : store.outbox.table.find? (.taskResult, task.id) with
    | none => rfl
    | some row =>
      obtain ⟨other, same, terminal, _⟩ := ready.delivery.offered task.id row offered
      rw [found] at same
      cases same
      rw [received] at terminal
      cases terminal
  obtain ⟨outbox, pushed⟩ := Queue.push_of_absent
    (newOutboxRow .taskResult task.id body atMS) (fun _ => rfl) absent
    (decide_eq_true (Int.le_of_lt positive)) ready.numbers
  have put : putImmutableTaskResult store.outbox task.id body atMS = .ok outbox := by
    unfold putImmutableTaskResult
    rw [absent]
    exact orError_eq_ok.mpr pushed
  refine ⟨_, _, bind_eq_ok.mpr ⟨(), by rw [validateResult, valid], bind_eq_ok.mpr
    ⟨tasks, orError_eq_ok.mpr updated, bind_eq_ok.mpr ⟨body, by rw [marshalResult, encoded],
      bind_eq_ok.mpr ⟨outbox, put, rfl⟩⟩⟩⟩⟩

abbrev Missing (err : Error) : Prop := err.isSentinel .notFound = true

theorem claimFrom_missing (clock : TaskStartClock) (ready : Unhindered pkg store)
    (drawn : newTaskClaimToken entropy = .ok token) (positive : 0 < atMS)
    (held : ∀ task ∈ candidates, store.tasks.find? task.id = some task ∧ task.state = .received) :
    FailsWith Missing (claimFrom pkg store atMS entropy candidates clock) := by
  induction candidates generalizing clock with
  | nil => exact failsWith_error rfl
  | cons head rest ih =>
    obtain ⟨found, received⟩ := held head List.mem_cons_self
    have others := fun task member => held task (List.mem_cons_of_mem _ member)
    have starts (clock : TaskStartClock) : FailsWith Missing (startTask store head atMS entropy clock) := by
      obtain ⟨next, claim, started⟩ := startTask_succeeds clock drawn positive found received
      rw [started]
      exact failsWith_ok _
    unfold claimFrom
    split
    · rename_i limited
      split
      · exact ih _ others
      · next clock _ =>
          split
          · obtain ⟨next, claim, expires⟩ := expireTask_succeeds clock ready positive found received limited
            rw [expires]
            exact failsWith_ok _
          · split
            · exact ih _ others
            · exact starts _
    · exact starts _

theorem claimNextTaskFenced_missing (ready : Unhindered pkg store) (positive : 0 < atMS)
    (drawn : (newTaskClaimToken entropy).isOk = true) (clock : TaskStartClock) :
    FailsWith Missing (claimNextTaskFenced pkg store atMS clock entropy) := by
  cases token : newTaskClaimToken entropy with
  | error err =>
    rw [token] at drawn
    cases drawn
  | ok text =>
    refine failsWith_bind (fun err refused => ?_) (fun _ _ =>
      claimFrom_missing clock ready token positive (fun _ => mem_claimCandidates))
    exact absurd (rejectIf_eq_error.mp refused).1 (Int.not_le.mpr positive)

theorem claimNextTaskFenced_succeeds (ready : Unhindered pkg store) (waits : waiting store.tasks id = some 0)
    (positive : 0 < atMS) (drawn : (newTaskClaimToken entropy).isOk = true) (clock : TaskStartClock) :
    ∃ next claim, claimNextTaskFenced pkg store atMS clock entropy = .ok (next, claim) := by
  cases claim : claimNextTaskFenced pkg store atMS clock entropy with
  | error err =>
    have missing := claimNextTaskFenced_missing ready positive drawn clock err claim
    cases missing.symm.trans (claimNextTaskFenced_notMissing waits atMS clock entropy err claim)
  | ok pair => exact ⟨pair.1, pair.2, rfl⟩

theorem waiting_of_sets (sets : Sets tasks after id row) (other : String) : waiting after other =
    if other = id then (if row.state = .received then some row.notAfterMS else none) else waiting tasks other := by
  by_cases here : other = id
  · rw [if_pos here, waiting_of_find? ((sets other).trans (if_pos here))]
  · unfold waiting
    rw [sets other, if_neg here, if_neg here]

structure Takes (store next : Store) (claimed : TaskExecution) : Prop where
  waited : waiting store.tasks claimed.id = some claimed.notAfterMS
  after : ∀ id, waiting next.tasks id = if id = claimed.id then none else waiting store.tasks id
  started : claimed.notAfterMS = 0 → claimed.state = .running
  outcome : claimed.state = .running ∨
    claimed.state = .failed ∧ claimed.errorCode = taskErrorExpiredBeforeStart

theorem ClaimStep.takes {atMS : Int} {entropy : Entropy} {clock : TaskStartClock}
    (step : ClaimStep pkg store atMS entropy clock next claimed) : Takes store next claimed := by
  cases step with
  | expired task bounds next row found received limited reads past settles =>
    refine ⟨waiting_eq_some.mpr ⟨task, found, received, rfl⟩, fun id => ?_, fun unlimited => ?_, Or.inr ⟨rfl, rfl⟩⟩
    · rw [waiting_of_sets settles.sets]
      rfl
    · have deadline : task.notAfterMS = 0 := unlimited
      omega
  | started task token tasks found received drawn ahead sets =>
    refine ⟨waiting_eq_some.mpr ⟨task, found, received, rfl⟩, fun id => ?_, fun _ => rfl, Or.inl rfl⟩
    rw [waiting_of_sets sets]
    rfl

def TaskCall.settling : TaskCall → Bool
  | .completeTask _ _ _ _ | .enqueueIssue _ _ _ | .pendingOutbox _ | .ackOutbox _ => true
  | .acceptTasksFenced _ _ _ | .claimNextTaskFenced _ _ _ | .releaseTaskClaim _ => false

theorem waiting_of_finished {current : TaskExecution} (sets : Sets tasks after id row)
    (found : tasks.find? id = some current) (ended : row.state ≠ .received) (begun : current.state ≠ .received) :
    waiting after = waiting tasks := by
  funext other
  rw [waiting_of_sets sets]
  by_cases here : other = id
  · rw [if_pos here, if_neg ended, here, waiting_of_find? found, if_neg begun]
  · rw [if_neg here]

theorem ackRow_waiting {id : Int} (done : ackRow store id = .ok next) :
    waiting next.tasks = waiting store.tasks := by
  obtain ⟨tasks, outbox, rfl, _, acked, _⟩ := ackRow_ok done
  funext other
  cases found : store.tasks.find? other with
  | none =>
    have after := acked other
    rw [found] at after
    simp only [waiting, found]
    rw [show tasks.find? other = none from after]
  | some task =>
    have after := acked other
    rw [found, Option.map_some] at after
    rw [waiting_of_find? found, waiting_of_find? after]
    split <;> rfl

theorem ne_received_of_terminal {state : TaskState} (terminal : state.terminal = true) : state ≠ .received := by
  rintro rfl
  cases terminal

theorem completeTask_waiting {terminal : TaskState} {result : TaskResult} {atMS : Int} {u : Unit}
    (done : completeTask pkg store id terminal result atMS = .ok (next, u)) :
    waiting next.tasks = waiting store.tasks := by
  cases completeTask_ok done with
  | rearmed current row found ended same settles =>
    have named : current.id = id := Table.key_of_find? found
    have past := ne_received_of_terminal ended
    exact waiting_of_finished settles.sets (named ▸ found) past past
  | finished current row found running settles =>
    have named : current.id = id := Table.key_of_find? found
    refine waiting_of_finished settles.sets (named ▸ found) (ne_received_of_terminal settles.terminal) ?_
    rw [running]
    exact TaskState.noConfusion

theorem performTask_waiting (store : Store) (call : TaskCall) (settling : call.settling = true) :
    waiting (performTask pkg store call).tasks = waiting store.tasks := by
  cases call with
  | acceptTasksFenced tasks atMS clock => cases settling
  | claimNextTaskFenced atMS clock entropy => cases settling
  | releaseTaskClaim task => cases settling
  | completeTask id terminal result atMS =>
    exact commit_invariant (fun next : Store => waiting next.tasks = waiting store.tasks) rfl
      (fun _ _ => completeTask_waiting)
  | enqueueIssue dedupeKey issue atMS =>
    refine commit_invariant (fun next : Store => waiting next.tasks = waiting store.tasks) rfl ?_
    intro next inserted done
    obtain ⟨outbox, rfl, _, _⟩ := enqueueIssue_ok done
    rfl
  | pendingOutbox limit => rfl
  | ackOutbox ids =>
    refine commit_invariant (fun next : Store => waiting next.tasks = waiting store.tasks) rfl ?_
    intro next _ done
    obtain ⟨final, looped, same⟩ := bind_eq_ok.mp done
    cases same
    exact forEach_invariant (fun next : Store => waiting next.tasks = waiting store.tasks)
      (fun _ _ _ _ before passed => (ackRow_waiting passed).trans before) rfl looped

theorem run_performTask_waiting (store : Store) {calls : List TaskCall}
    (settling : ∀ call ∈ calls, call.settling = true) :
    waiting (run (performTask pkg) store calls).tasks = waiting store.tasks :=
  run_invariant_of_forall (fun next : Store => waiting next.tasks = waiting store.tasks)
    (fun next call settles before => (performTask_waiting next call settles).trans before) rfl settling

structure Turn where
  atMS : Int
  clock : TaskStartClock
  entropy : Entropy
  between : List TaskCall

def Turn.play (pkg : Package) (store : Store) (turn : Turn) : Store × Except Error TaskExecution :=
  match claimNextTaskFenced pkg store turn.atMS turn.clock turn.entropy with
  | .ok (next, claim) => (run (performTask pkg) next turn.between, .ok claim.task)
  | .error err => (run (performTask pkg) store turn.between, .error err)

def answers (pkg : Package) : Store → List Turn → List (Except Error TaskExecution)
  | _, [] => []
  | store, turn :: rest => (turn.play pkg store).2 :: answers pkg (turn.play pkg store).1 rest

theorem waitingIDs_of_takes {after : Store} (takes : Takes store next claimed)
    (same : waiting after.tasks = waiting next.tasks) :
    (waitingIDs after).length + 1 ≤ (waitingIDs store).length := by
  have listed : claimed.id ∈ waitingIDs store := mem_waitingIDs.mpr ⟨_, takes.waited⟩
  have inside : waitingIDs after ⊆ (waitingIDs store).erase claimed.id := by
    intro id member
    obtain ⟨deadline, waits⟩ := mem_waitingIDs.mp member
    rw [same, takes.after] at waits
    split at waits
    · cases waits
    · rename_i apart
      exact (List.mem_erase_of_ne apart).mpr (mem_waitingIDs.mpr ⟨deadline, waits⟩)
  have fewer := (List.subperm_of_subset (waitingIDs_nodup after) inside).length_le
  rw [List.length_erase_of_mem listed] at fewer
  have nonempty := List.length_pos_of_mem listed
  omega

def Clear (pkg : Package) : Store → List Turn → Prop
  | _, [] => True
  | store, turn :: rest => Unhindered pkg store ∧ 0 < turn.atMS ∧ (newTaskClaimToken turn.entropy).isOk = true ∧
      Clear pkg (turn.play pkg store).1 rest

theorem answers_of_clear {turns : List Turn} {store : Store} (clear : Clear pkg store turns) :
    ∀ answer ∈ answers pkg store turns, FailsWith Missing answer := by
  induction turns generalizing store with
  | nil => exact fun _ member => absurd member List.not_mem_nil
  | cons turn rest ih =>
    obtain ⟨ready, positive, drawn, later⟩ := clear
    intro answer member
    rcases List.mem_cons.mp member with rfl | member
    · intro err failed
      unfold Turn.play at failed
      split at failed
      · cases failed
      · next refused =>
          cases failed
          exact claimNextTaskFenced_missing ready positive drawn turn.clock err refused
    · exact ih later answer member

theorem claimed_among_answers {turns : List Turn} {store : Store} (waits : waiting store.tasks id = some 0)
    (calm : ∀ turn ∈ turns, ∀ call ∈ turn.between, call.settling = true)
    (sound : ∀ answer ∈ answers pkg store turns, FailsWith Missing answer)
    (enough : (waitingIDs store).length ≤ turns.length) :
    ∃ claimed, .ok claimed ∈ answers pkg store turns ∧ claimed.id = id ∧ claimed.state = .running := by
  induction turns generalizing store with
  | nil =>
    have listed : id ∈ waitingIDs store := mem_waitingIDs.mpr ⟨0, waits⟩
    have nonempty := List.length_pos_of_mem listed
    simp only [List.length_nil] at enough
    omega
  | cons turn rest ih =>
    cases claim : claimNextTaskFenced pkg store turn.atMS turn.clock turn.entropy with
    | error err =>
      have failed : (turn.play pkg store).2 = .error err := by rw [Turn.play, claim]
      have missing := sound _ List.mem_cons_self err failed
      have other := claimNextTaskFenced_notMissing waits turn.atMS turn.clock turn.entropy err claim
      rw [NotMissing, missing] at other
      cases other
    | ok pair =>
      obtain ⟨next, claimed⟩ := pair
      have played : turn.play pkg store = (run (performTask pkg) next turn.between, .ok claimed.task) := by
        rw [Turn.play, claim]
      have takes := (claimNextTaskFenced_ok claim).takes
      have same : waiting (run (performTask pkg) next turn.between).tasks = waiting next.tasks :=
        run_performTask_waiting next (calm turn List.mem_cons_self)
      have fewer := waitingIDs_of_takes takes same
      by_cases here : id = claimed.task.id
      · refine ⟨claimed.task, ?_, here.symm, takes.started ?_⟩
        · rw [answers, played]
          exact List.mem_cons_self
        · have deadline := takes.waited
          rw [← here, waits] at deadline
          exact (Option.some.inj deadline).symm
      · obtain ⟨found, listed, facts⟩ := @ih (run (performTask pkg) next turn.between)
          (by rw [same, takes.after, if_neg here]; exact waits)
          (fun other member => calm other (List.mem_cons_of_mem _ member))
          (by
            intro answer member
            refine sound answer ?_
            rw [answers, played]
            exact List.mem_cons_of_mem _ member)
          (by rw [List.length_cons] at enough; omega)
        refine ⟨found, ?_, facts⟩
        rw [answers, played]
        exact List.mem_cons_of_mem _ listed

end Candidates

/-- From every journal in which a task without a deadline waits, with every clock: a claim
never answers that there is nothing to do; where nothing keeps an expiry from being recorded
it claims a task or expires one; and as many calls as tasks wait claim that very task. -/
theorem unlimited_task_not_starved (pkg : Package) (store : Store) (id : String)
    (waits : waiting store.tasks id = some 0) :
    (∀ atMS clock entropy, FailsWith NotMissing (claimNextTaskFenced pkg store atMS clock entropy)) ∧
    (∀ atMS clock entropy, Unhindered pkg store → 0 < atMS → (newTaskClaimToken entropy).isOk = true →
      ∃ next claim, claimNextTaskFenced pkg store atMS clock entropy = .ok (next, claim) ∧
        Takes store next claim.task) ∧
    ∀ turns : List Turn, (∀ turn ∈ turns, ∀ call ∈ turn.between, call.settling = true) →
      ((∀ answer ∈ answers pkg store turns, FailsWith Missing answer) ∨ Clear pkg store turns) →
      (waitingIDs store).length ≤ turns.length →
      ∃ claimed, .ok claimed ∈ answers pkg store turns ∧ claimed.id = id ∧ claimed.state = .running := by
  refine ⟨claimNextTaskFenced_notMissing waits, ?_, ?_⟩
  · intro atMS clock entropy ready positive drawn
    obtain ⟨next, claim, claimed⟩ := claimNextTaskFenced_succeeds ready waits positive drawn clock
    exact ⟨next, claim, claimed, (claimNextTaskFenced_ok claimed).takes⟩
  · intro turns calm sound enough
    exact claimed_among_answers waits calm (sound.elim (fun sound => sound) answers_of_clear) enough

def exampleHeld : Store :=
  run (performTask .transparent) Store.fresh
    [.acceptTasksFenced [exampleTask, { exampleTask with id := "upgrade-2", notAfterMS := 0 }] 1000
      (some [.ok ⟨900, 1100⟩])]

def exampleTurns : List Turn :=
  [⟨1200, some [.error "no fresh anchor"], exampleEntropy 7, []⟩,
    ⟨1300, some [.ok ⟨4000, 6000⟩], exampleEntropy 8, [.enqueueIssue "held" ⟨"held", "", ""⟩ 1300]⟩]

theorem unlimited_task_not_starved_behind_held :
    waitingIDs exampleHeld = ["upgrade-1", "upgrade-2"] ∧
    ∃ claimed, .ok claimed ∈ answers .transparent exampleHeld exampleTurns ∧ claimed.id = "upgrade-2" ∧
      claimed.state = .running := by
  have waits : waiting exampleHeld.tasks "upgrade-2" = some 0 := by decide
  have fails : (answers .transparent exampleHeld exampleTurns).all
      (fun answer => match answer with
        | .ok _ => true
        | .error err => err.isSentinel .notFound) = true := by decide
  refine ⟨by decide, (unlimited_task_not_starved .transparent exampleHeld "upgrade-2" waits).2.2
    exampleTurns (by decide) (.inl ?_) (by decide)⟩
  intro answer member err failed
  have holds := List.all_eq_true.mp fails answer member
  rw [failed] at holds
  exact holds

end PasswallNode.Sqlite
