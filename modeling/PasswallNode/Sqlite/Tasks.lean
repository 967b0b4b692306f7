import PasswallNode.Sqlite.Outbox

/-! The task journal: a task is claimed before its handler is called. -/

namespace PasswallNode.Sqlite

open Foundation Protocol State

abbrev Sample := Except String TaskTimeBounds

abbrev TaskStartClock := Option (List Sample)

def Sample.valid? : Sample → Option TaskTimeBounds
  | .error _ => none
  | .ok bounds =>
    match bounds.validate with
    | .error _ => none
    | .ok _ => some bounds

/-- The valid bounds of the next sample, if it has any, and the clock after it. -/
def taskBounds : TaskStartClock → Option TaskTimeBounds × TaskStartClock
  | none => (none, none)
  | some [] => (none, some [])
  | some (sample :: rest) => (sample.valid?, some rest)

def taskResult (task : TaskExecution) : TaskResult where
  id := task.id
  kind := task.kind
  inputSHA256 := task.inputSHA256
  notAfterMS := task.notAfterMS
  ok := decide (task.state = .succeeded)
  indeterminate := decide (task.state = .indeterminate)
  result := some task.result
  errorCode := task.errorCode
  error := task.error

def resultMatchesState (terminal : TaskState) (result : TaskResult) : Bool :=
  match terminal with
  | .succeeded => result.ok && !result.indeterminate
  | .failed => !result.ok && !result.indeterminate
  | .indeterminate => !result.ok && result.indeterminate
  | .received | .running => false

/-- `bytes.Equal` does not tell a nil result from an empty one. -/
def sameTerminal (current : TaskExecution) (terminal : TaskState) (result : TaskResult) : Bool :=
  decide (current.state = terminal) && decide (current.result = result.result.getD []) &&
    decide (current.errorCode = result.errorCode) && decide (current.error = result.error)

/-- `UPDATE task_executions SET … WHERE task_id = ? AND state = ?`. -/
def updateTask (tasks : TaskTable) (id : String) (state : TaskState)
    (set : TaskExecution → TaskExecution) (keeps : ∀ t, (set t).id = t.id) : Option TaskTable :=
  tasks.update (fun t => decide (t.id = id) && decide (t.state = state)) set keeps

section Journal

variable (pkg : Package)

def marshalResult (result : TaskResult) (context : String) : Except Error Bytes :=
  match pkg.encodeTaskResult result with
  | .error text => .error (Error.within context (.new text))
  | .ok body => .ok body

def validateResult (result : TaskResult) : Except Error Unit :=
  match pkg.validateTaskResults [result] with
  | .error text => .error (.new text)
  | .ok _ => .ok ()

def rearmTaskResult (store : Store) (task : TaskExecution) (atMS : Int) : Except Error Store := do
  let body ← marshalResult pkg (taskResult task) s!"encode cached task result {task.id}"
  let outbox ← putImmutableTaskResult store.outbox task.id body atMS
  let tasks ← orError
    (store.tasks.updateKey task.id (fun t => { t with resultDelivered := false }) (fun _ => rfl))
    (constraintFailed.within s!"rearm task journal result {task.id}")
  .ok { store with tasks := tasks, outbox := outbox }

def receivedTask (task : Task) (atMS : Int) : TaskExecution where
  id := task.id
  kind := task.kind
  args := task.args
  inputSHA256 := task.inputSHA256
  notAfterMS := task.notAfterMS
  claimToken := ""
  state := .received
  result := []
  errorCode := ""
  error := ""
  receivedAtMS := atMS
  startedAtMS := 0
  finishedAtMS := 0
  resultDelivered := false

structure Acceptance where
  store : Store
  accepted : TaskAcceptance
  clock : TaskStartClock

/-- The start of the task is proved authorised: some bounds end before its deadline. -/
def authorises (bounds : Option TaskTimeBounds) (notAfterMS : Int) : Bool :=
  bounds.any (fun b => decide (b.upperMS < notAfterMS))

def insertTask (state : Acceptance) (task : Task) (atMS : Int) (clock : TaskStartClock) :
    Except Error Acceptance := do
  let (tasks, _) ← orError (state.store.tasks.insertIgnore (receivedTask task atMS))
    (constraintFailed.within s!"accept task {task.id}")
  .ok { state with
    store := { state.store with tasks := tasks }
    accepted := { state.accepted with workAvailable := true }
    clock := clock }

/-- A task without a journal row. Without proof that its start is authorised it is only reported back. -/
def acceptUnknown (state : Acceptance) (task : Task) (atMS : Int) : Except Error Acceptance :=
  if 0 < task.notAfterMS then
    let (bounds, clock) := taskBounds state.clock
    if authorises bounds task.notAfterMS then insertTask state task atMS clock
    else .ok { state with
      accepted := { state.accepted with replayFenced := state.accepted.replayFenced ++ [task] }
      clock := clock }
  else insertTask state task atMS state.clock

def acceptKnown (state : Acceptance) (current : TaskExecution) (task : Task) (atMS : Int) :
    Except Error Acceptance := do
  rejectIf (current.kind ≠ task.kind ∨ current.inputSHA256 ≠ task.inputSHA256 ∨
      current.notAfterMS ≠ task.notAfterMS ∨ current.args ≠ task.args)
    (taskIdentityConflictError task.id task.inputSHA256)
  if current.state.terminal then do
    let store ← rearmTaskResult pkg state.store current atMS
    .ok { state with store := store, accepted := { state.accepted with resultAvailable := true } }
  else .ok state

def acceptTask (atMS : Int) (state : Acceptance) (task : Task) : Except Error Acceptance :=
  match state.store.tasks.find? task.id with
  | none => acceptUnknown state task atMS
  | some current => acceptKnown pkg state current task atMS

/-- The whole batch is one transaction. The result also says which samples of the clock the transaction left. -/
def acceptTasksFenced (store : Store) (tasks : List Task) (atMS : Int) (clock : TaskStartClock) :
    Except Error (Store × TaskAcceptance × TaskStartClock) := do
  rejectIf (atMS ≤ 0) (.new "task acceptance timestamp must be after Unix epoch")
  match pkg.validateTasks tasks with
  | .error text => .error (.new text)
  | .ok _ => do
      let final ← forEach (acceptTask pkg atMS) ⟨store, ⟨false, false, []⟩, clock⟩ tasks
      .ok (final.store, final.accepted, final.clock)

def startedBefore (a b : TaskExecution) : Prop :=
  a.startedAtMS < b.startedAtMS ∨ (a.startedAtMS = b.startedAtMS ∧ a.id ≤ b.id)

instance (a b : TaskExecution) : Decidable (startedBefore a b) := inferInstanceAs (Decidable (_ ∨ _))

def runningTasks (store : Store) : List TaskExecution :=
  (store.tasks.rows.filter (fun t => decide (t.state = .running))).insertionSort startedBefore

def receivedBefore (a b : TaskExecution) : Prop :=
  a.receivedAtMS < b.receivedAtMS ∨ (a.receivedAtMS = b.receivedAtMS ∧ a.id ≤ b.id)

instance (a b : TaskExecution) : Decidable (receivedBefore a b) := inferInstanceAs (Decidable (_ ∨ _))

def receivedTasks (store : Store) (cond : TaskExecution → Bool) : List TaskExecution :=
  (store.tasks.rows.filter (fun t => decide (t.state = .received) && cond t)).insertionSort receivedBefore

/-- The first 64 received tasks, and one without a deadline behind a page that holds none, so that held tasks
cannot hide it. Without a clock only tasks without a deadline are candidates. -/
def claimCandidates (store : Store) (clock : TaskStartClock) : List TaskExecution :=
  match clock with
  | none => (receivedTasks store (fun t => decide (t.notAfterMS = 0))).take 64
  | some _ =>
    let page := (receivedTasks store (fun _ => true)).take 64
    if page.length = 64 ∧ ¬page.any (fun t => decide (t.notAfterMS = 0)) then
      page ++ (receivedTasks store (fun t => decide (t.notAfterMS = 0))).take 1
    else page

def hexDigits (byte : UInt8) : List Char :=
  [Nat.digitChar (byte.toNat / 16), Nat.digitChar (byte.toNat % 16)]

def hexEncode (bytes : Bytes) : String := String.ofList (bytes.flatMap hexDigits)

/-- What the entropy source gives for one token: the bytes read, or the text of its error. -/
abbrev Entropy := Except String Bytes

def newTaskClaimToken (entropy : Entropy) : Except Error String :=
  match entropy with
  | .error text => .error (Error.within "generate task claim token" (.new text))
  | .ok random =>
    if random.length < 32 then .error (Error.within "generate task claim token" (.new "unexpected EOF"))
    else .ok (hexEncode (random.take 32))

/-- A claim: the row as committed, and the samples of the clock the transaction left. -/
structure Claim where
  task : TaskExecution
  clock : TaskStartClock

def expiredResult (task : TaskExecution) : TaskResult where
  id := task.id
  kind := task.kind
  inputSHA256 := task.inputSHA256
  notAfterMS := task.notAfterMS
  ok := false
  indeterminate := false
  result := none
  errorCode := taskErrorExpiredBeforeStart
  error := "task authorization expired before execution started"

def expiredTask (atMS : Int) (task : TaskExecution) : TaskExecution :=
  { task with
    state := .failed
    errorCode := taskErrorExpiredBeforeStart
    error := "task authorization expired before execution started"
    finishedAtMS := atMS }

/-- An expired task fails without ever having started. -/
def expireTask (store : Store) (task : TaskExecution) (atMS : Int) (clock : TaskStartClock) :
    Except Error (Store × Claim) := do
  validateResult pkg (expiredResult task)
  let tasks ← orError
    (updateTask store.tasks task.id .received
      (fun t => { expiredTask atMS t with resultDelivered := false }) (fun _ => rfl))
    (constraintFailed.within "expire unstarted task")
  let body ← marshalResult pkg (expiredResult task) "encode unstarted task expiry"
  let outbox ← putImmutableTaskResult store.outbox task.id body atMS
  .ok ({ store with tasks := tasks, outbox := outbox }, ⟨expiredTask atMS task, clock⟩)

def startedTask (atMS : Int) (token : String) (task : TaskExecution) : TaskExecution :=
  { task with state := .running, startedAtMS := atMS, claimToken := token }

def startTask (store : Store) (task : TaskExecution) (atMS : Int) (entropy : Entropy)
    (clock : TaskStartClock) : Except Error (Store × Claim) := do
  let token ← newTaskClaimToken entropy
  let tasks ← orError
    (updateTask store.tasks task.id .received (startedTask atMS token) (fun _ => rfl))
    (constraintFailed.within "claim next task")
  .ok ({ store with tasks := tasks }, ⟨startedTask atMS token task, clock⟩)

/-- The first candidate whose deadline is decided. Bounds are taken for each candidate anew. -/
def claimFrom (store : Store) (atMS : Int) (entropy : Entropy) :
    List TaskExecution → TaskStartClock → Except Error (Store × Claim)
  | [], _ => .error (Error.ofSentinel .notFound)
  | task :: rest, clock =>
    if 0 < task.notAfterMS then
      match taskBounds clock with
      | (none, clock) => claimFrom store atMS entropy rest clock
      | (some bounds, clock) =>
        if bounds.lowerMS ≥ task.notAfterMS then expireTask pkg store task atMS clock
        else if bounds.upperMS ≥ task.notAfterMS then claimFrom store atMS entropy rest clock
        else startTask store task atMS entropy clock
    else startTask store task atMS entropy clock

def claimNextTaskFenced (store : Store) (atMS : Int) (clock : TaskStartClock) (entropy : Entropy) :
    Except Error (Store × Claim) := do
  rejectIf (atMS ≤ 0) (.new "task claim timestamp must be after Unix epoch")
  claimFrom pkg store atMS entropy (claimCandidates store clock) clock

def matchesClaim (task row : TaskExecution) : Bool :=
  decide (row.id = task.id) && decide (row.kind = task.kind) &&
    decide (row.inputSHA256 = task.inputSHA256) && decide (row.notAfterMS = task.notAfterMS) &&
    decide (row.state = .running) && decide (row.startedAtMS = task.startedAtMS) &&
    decide (row.claimToken = task.claimToken)

def releasedTask (task : TaskExecution) : TaskExecution :=
  { task with state := .received, startedAtMS := 0, claimToken := "" }

def releaseTaskClaim (store : Store) (task : TaskExecution) : Except Error (Store × Unit) := do
  rejectIf (task.id = "" ∨ task.state ≠ .running ∨ task.startedAtMS ≤ 0 ∨ task.claimToken = "")
    ((Error.ofSentinel .invalidState).followedBy "task release requires the exact nonempty running claim")
  let tasks ← orError (store.tasks.update (matchesClaim task) releasedTask (fun _ => rfl))
    (constraintFailed.within "release task claim")
  rejectIf (store.tasks.rows.countP (matchesClaim task) ≠ 1)
    ((Error.ofSentinel .invalidState).followedBy "task running claim no longer matches")
  .ok ({ store with tasks := tasks }, ())

def completedTask (terminal : TaskState) (result : TaskResult) (atMS : Int) (task : TaskExecution) :
    TaskExecution :=
  { task with
    state := terminal
    result := result.result.getD []
    errorCode := result.errorCode
    error := result.error
    finishedAtMS := atMS
    resultDelivered := false }

def finishTask (store : Store) (id : String) (terminal : TaskState) (result : TaskResult)
    (atMS : Int) : Except Error Store := do
  let tasks ← orError
    (updateTask store.tasks id .running (completedTask terminal result atMS) (fun _ => rfl))
    (constraintFailed.within s!"complete task {id}")
  let body ← marshalResult pkg result s!"encode task result {id}"
  let outbox ← putImmutableTaskResult store.outbox id body atMS
  .ok { store with tasks := tasks, outbox := outbox }

def completeTask (store : Store) (id : String) (terminal : TaskState) (result : TaskResult)
    (atMS : Int) : Except Error (Store × Unit) := do
  rejectIf (terminal.terminal = false ∨ atMS ≤ 0)
    (.new "task completion requires a terminal state and timestamp after Unix epoch")
  validateResult pkg result
  rejectIf (id ≠ result.id ∨ resultMatchesState terminal result = false)
    (.new "task completion state and result do not agree")
  let current ← orError (store.tasks.find? id) (Error.ofSentinel .notFound)
  rejectIf (current.kind ≠ result.kind ∨ current.inputSHA256 ≠ result.inputSHA256 ∨
      current.notAfterMS ≠ result.notAfterMS)
    (taskIdentityConflictError id result.inputSHA256)
  if current.state.terminal then do
    rejectIf (sameTerminal current terminal result = false)
      ((Error.ofSentinel .taskTerminalConflict).followedBy id)
    let next ← rearmTaskResult pkg store current atMS
    .ok (next, ())
  else do
    rejectIf (current.state ≠ .running)
      ((Error.ofSentinel .invalidState).followedBy s!"task {id} is {current.state.text}, not running")
    let next ← finishTask pkg store id terminal result atMS
    .ok (next, ())

end Journal

def exampleTask : Task where
  id := "upgrade-1"
  kind := "node.upgrade"
  args := [123, 125]
  inputSHA256 := "e3b0c44298fc1c149afbf4c8996fb92427ae41e4649b934ca495991b7852b855"
  notAfterMS := 5000

def exampleEntropy (seed : UInt8) : Entropy := .ok (List.replicate 32 seed)

end PasswallNode.Sqlite
