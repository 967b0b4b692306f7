import PasswallNode.ErrorText
import PasswallNode.Sqlite.TaskDelivery

/-! The task worker resolves what an earlier process left running, then claims received tasks one by one. -/

namespace PasswallNode.Agent

open Foundation Protocol State Sqlite

def taskErrorUnsupportedKind : String := "unsupported_task_kind"
def taskErrorExecutionFailed : String := "task_execution_failed"
def taskErrorExecutionIndeterminate : String := "task_execution_indeterminate"
def taskErrorRecoveryUnsupported : String := "task_recovery_unsupported"
def taskErrorResultInvalid : String := "task_result_invalid"

structure TaskError where
  code : String
  indeterminate : Bool
  deriving DecidableEq, Repr

/-- An error of a handler. `interrupted` says whether it is a cancelled or expired context. -/
structure CallError where
  text : String
  classified : Option TaskError
  interrupted : Bool
  deriving DecidableEq, Repr

inductive Outcome where
  | returned (payload : Option Bytes)
  | failed (err : CallError)
  | panicked (value : String)
  deriving DecidableEq, Repr

/-- A handler without `Recover` cannot resolve a task that another process left running. -/
structure TaskHandler where
  recovers : Bool
  deriving DecidableEq, Repr

abbrev TaskRegistry := String → Option TaskHandler

/-- The call of a handler, with a panic turned into an error under its context. -/
def invoke (context : String) : Outcome → Except CallError (Option Bytes)
  | .returned payload => .ok payload
  | .failed err => .error err
  | .panicked value =>
    .error ⟨context ++ value, some ⟨taskErrorExecutionIndeterminate, true⟩, false⟩

def invokeHandler : Outcome → Except CallError (Option Bytes) := invoke "task handler panic: "

def invokeRecoverer : Outcome → Except CallError (Option Bytes) := invoke "task recovery panic: "

def executionInterrupted (cancelled : Bool) (called : Except CallError (Option Bytes)) : Bool :=
  match called with
  | .ok _ => false
  | .error err => cancelled && err.interrupted

section Worker

variable (pkg : Package)

def boundedError (cause : String) : String :=
  ErrorText.onText (fun bytes => ErrorText.boundedError pkg.maxTaskErrorBytes (some bytes)) cause

def validWorkerErrorCode (code : String) : Bool :=
  !(decide (code = "") || decide (code.utf8ByteSize > pkg.maxTaskErrorCodeBytes)) &&
    (pkg.validateTaskResults
      [⟨"validation", "validation.v1", pkg.computeTaskInputSHA256 "validation.v1" [], 0, false, false,
        none, code, "validation"⟩]).isOk

structure Completion where
  terminal : TaskState
  result : TaskResult
  deriving DecidableEq, Repr

def finishError (task : TaskExecution) (code : String) (indeterminate : Bool) (cause : String) :
    Completion where
  terminal := if indeterminate then .indeterminate else .failed
  result :=
    { id := task.id
      kind := task.kind
      inputSHA256 := task.inputSHA256
      notAfterMS := task.notAfterMS
      ok := false
      indeterminate := indeterminate
      result := none
      errorCode := if validWorkerErrorCode pkg code then code else taskErrorExecutionFailed
      error := boundedError pkg cause }

def succeededResult (task : TaskExecution) (payload : Option Bytes) : TaskResult where
  id := task.id
  kind := task.kind
  inputSHA256 := task.inputSHA256
  notAfterMS := task.notAfterMS
  ok := true
  indeterminate := false
  result := payload
  errorCode := ""
  error := ""

/-- An ordinary error of `Recover` leaves the outcome open: the crash window was entered. -/
def finishInvocation (task : TaskExecution) (called : Except CallError (Option Bytes))
    (recovering : Bool) : Completion :=
  match called with
  | .error err =>
    match err.classified with
    | none => finishError pkg task taskErrorExecutionFailed recovering err.text
    | some known =>
      finishError pkg task (if known.code = "" then taskErrorExecutionFailed else known.code)
        known.indeterminate err.text
  | .ok payload =>
    match pkg.validateTaskResults [succeededResult task payload] with
    | .error text => finishError pkg task taskErrorResultInvalid false text
    | .ok _ => ⟨.succeeded, succeededResult task payload⟩

end Worker

/-- The bounds a start is decided by: none without a clock, and none unless they are valid. -/
def taskStartBounds (sample : Option Sample) : Option TaskTimeBounds :=
  sample.bind Sample.valid?

inductive Resume where
  | recovering (rest : List TaskExecution)
  | draining

/-- Where `Run` stands. `claimed`, `deferring` and `admitted` hold a claim whose handler has
not been called. -/
inductive Phase where
  | down
  | starting
  | recovering (rest : List TaskExecution)
  | resolving (task : TaskExecution) (rest : List TaskExecution)
  | draining (worked : Bool)
  | claimed (task : TaskExecution)
  | deferring (task : TaskExecution)
  | admitted (task : TaskExecution)
  | executing (task : TaskExecution)
  | completing (task : TaskExecution) (completion : Completion) (resume : Resume)
  | waiting

structure TaskWorker where
  registry : TaskRegistry
  cancelled : Bool
  phase : Phase

/-- How a call of the database can fail besides: before anything was written, or with the answer lost after the
commit. -/
inductive Fault where
  | none
  | before (err : Error)
  | after (err : Error)

/-- Everything the environment decides in one step of a worker. `cancelled` says whether its
context ends during the step. -/
structure WorkerInput where
  cancelled : Bool
  nowMS : Int
  clock : TaskStartClock
  entropy : Entropy
  sample : Option Sample
  outcome : Outcome
  woken : Bool
  fault : Fault

inductive TaskEvent where
  /-- received → running was committed, by a worker or by another caller. -/
  | claimed (worker : Option Nat) (task : TaskExecution)
  /-- received → failed was committed by a claim with these answers of the clock. -/
  | expired (task : TaskExecution) (clock : TaskStartClock)
  | sampled (worker : Nat) (sample : Option Sample)
  /-- `TaskHandler.Execute` was called. -/
  | executed (worker : Nat) (task : Task)
  deriving DecidableEq

def attempt {α : Type} (fault : Fault) (store : Store) (result : Except Error (Store × α)) :
    Store × Except Error α :=
  match fault with
  | .before err => (store, .error err)
  | .after err => (commit store result, .error err)
  | .none =>
    match result with
    | .ok (next, value) => (next, .ok value)
    | .error err => (store, .error err)

def claimEvent (worker : Option Nat) (clock : TaskStartClock) (task : TaskExecution) : TaskEvent :=
  if task.state.terminal then .expired task clock else .claimed worker task

def claimEvents (worker : Option Nat) (clock : TaskStartClock) (result : Except Error (Store × Claim)) :
    List TaskEvent :=
  match result with
  | .error _ => []
  | .ok (_, claim) => [claimEvent worker clock claim.task]

def afterDrain (worked : Bool) : Phase := if worked then .draining false else .waiting

def wireTask (task : TaskExecution) : Task :=
  ⟨task.id, task.kind, task.args, task.inputSHA256, task.notAfterMS⟩

structure WorkerStep where
  store : Store
  phase : Phase
  events : List TaskEvent

section Run

variable (pkg : Package)

def recoverNext (registry : TaskRegistry) (task : TaskExecution) (rest : List TaskExecution) : Phase :=
  match registry task.kind with
  | none =>
    .completing task (finishError pkg task taskErrorRecoveryUnsupported true
      s!"task kind {task.kind.quote} is no longer registered") (.recovering rest)
  | some handler =>
    if handler.recovers then .resolving task rest
    else .completing task (finishError pkg task taskErrorExecutionIndeterminate true
      "task was running when the agent stopped and handler has no recovery contract") (.recovering rest)

/-- Where `drain` leaves the worker when its claim failed. A cancelled context ends the round without an error.
-/
def drainFailed (err : Error) (cancelled worked : Bool) : Phase :=
  if err.isSentinel .notFound then afterDrain worked
  else if cancelled then afterDrain worked
  else .down

/-- The claiming transaction of `drain`. A task that expired was committed as such and is never
passed to `Execute`. -/
def drainClaim (id : Nat) (store : Store) (cancelled worked : Bool) (input : WorkerInput) : WorkerStep :=
  let result := claimNextTaskFenced pkg store input.nowMS input.clock input.entropy
  let (next, seen) := attempt input.fault store result
  let events := match input.fault with
    | .before _ => []
    | .none | .after _ => claimEvents (some id) input.clock result
  match seen with
  | .error err => ⟨next, drainFailed err cancelled worked, events⟩
  | .ok claim =>
    if claim.task.state.terminal then ⟨next, .draining true, events⟩
    else ⟨next, .claimed claim.task, events⟩

/-- Between the committed claim and the handler: an authorised start needs a new sample. -/
def admitClaim (id : Nat) (store : Store) (registry : TaskRegistry) (task : TaskExecution)
    (input : WorkerInput) : WorkerStep :=
  match registry task.kind with
  | none =>
    ⟨store, .completing task (finishError pkg task taskErrorUnsupportedKind false
      s!"task kind {task.kind.quote} is unsupported") .draining, []⟩
  | some _ =>
    if 0 < task.notAfterMS then
      match taskStartBounds input.sample with
      | none => ⟨store, .deferring task, [.sampled id input.sample]⟩
      | some bounds =>
        if bounds.upperMS ≥ task.notAfterMS then ⟨store, .deferring task, [.sampled id input.sample]⟩
        else ⟨store, .admitted task, [.sampled id input.sample]⟩
    else ⟨store, .admitted task, []⟩

def resumePhase : Resume → Phase
  | .recovering rest => .recovering rest
  | .draining => .draining true

def workerStep (id : Nat) (store : Store) (worker : TaskWorker) (input : WorkerInput) : WorkerStep :=
  let cancelled := worker.cancelled || input.cancelled
  match worker.phase with
  | .down => ⟨store, .down, []⟩
  | .starting =>
    match input.fault with
    | .none => ⟨store, .recovering (runningTasks store), []⟩
    | .before _ | .after _ => ⟨store, if cancelled then .draining false else .down, []⟩
  | .recovering [] => ⟨store, .draining false, []⟩
  | .recovering (task :: rest) => ⟨store, recoverNext pkg worker.registry task rest, []⟩
  | .resolving task rest =>
    let called := invokeRecoverer input.outcome
    if executionInterrupted cancelled called then ⟨store, .draining false, []⟩
    else ⟨store, .completing task (finishInvocation pkg task called true) (.recovering rest), []⟩
  | .draining worked =>
    if worker.cancelled then ⟨store, afterDrain worked, []⟩
    else drainClaim pkg id store cancelled worked input
  | .claimed task => admitClaim pkg id store worker.registry task input
  | .deferring task =>
    match attempt input.fault store (releaseTaskClaim store task) with
    | (next, .error _) => ⟨next, .down, []⟩
    | (next, .ok _) => ⟨next, .waiting, []⟩
  | .admitted task => ⟨store, .executing task, [.executed id (wireTask task)]⟩
  | .executing task =>
    let called := invokeHandler input.outcome
    if executionInterrupted cancelled called then ⟨store, afterDrain true, []⟩
    else ⟨store, .completing task (finishInvocation pkg task called false) .draining, []⟩
  | .completing task completion resume =>
    match attempt input.fault store
        (completeTask pkg store task.id completion.terminal completion.result input.nowMS) with
    | (next, .error _) => ⟨next, .down, []⟩
    | (next, .ok _) => ⟨next, resumePhase resume, []⟩
  | .waiting =>
    if input.woken then ⟨store, .draining false, []⟩
    else if worker.cancelled then ⟨store, .down, []⟩
    else ⟨store, .waiting, []⟩

end Run

def Phase.holds : Phase → Option TaskExecution
  | .claimed task | .deferring task | .admitted task => some task
  | _ => none

end PasswallNode.Agent
