import Mathlib.Data.List.Sort
import PasswallNode.Foundation.Fallible
import PasswallNode.Sqlite.Store

/-! The report outbox: issues and task results wait here until a report that carried them
is acknowledged. A task result is kept once, under its task's id. -/

namespace PasswallNode.Sqlite

open Foundation Protocol State

def maxOutboxBatch : Int := 1000

def newOutboxRow (kind : OutboxKind) (dedupeKey : String) (payload : Bytes) (atMS id : Int) :
    OutboxRow :=
  ⟨id, kind, dedupeKey, payload, atMS, false⟩

section Outbox

variable (pkg : Package)

def enqueue (store : Store) (kind : OutboxKind) (dedupeKey : String) (body : Bytes) (atMS : Int) :
    Except Error (Store × Bool) := do
  let failed := constraintFailed.within s!"enqueue {kind.text} {dedupeKey}"
  rejectIf (checkOutbox (newOutboxRow kind dedupeKey body atMS 0) = false) failed
  match store.outbox.table.find? (kind, dedupeKey) with
  | some _ => .ok (store, false)
  | none => do
      let outbox ← orError (store.outbox.push (newOutboxRow kind dedupeKey body atMS) (fun _ => rfl)) failed
      .ok ({ store with outbox := outbox }, true)

def enqueueIssue (store : Store) (dedupeKey : String) (issue : Issue) (atMS : Int) :
    Except Error (Store × Bool) := do
  rejectIf (isBlank dedupeKey ∨ isBlank issue.code ∨ atMS < 0)
    (.new "issue requires a dedupe key, code, and non-negative timestamp")
  rejectIf (issue.code.utf8ByteSize > pkg.maxIssueCodeBytes ∨
      issue.key.utf8ByteSize > pkg.maxIssueKeyBytes ∨
      issue.detail.utf8ByteSize > pkg.maxIssueDetailBytes)
    (.new s!"issue {issue.code.quote} exceeds protocol field size limits")
  match pkg.encodeIssue issue with
  | .error text => .error (.new s!"encode issue outbox item: {text}")
  | .ok body => enqueue store .issue dedupeKey body atMS

def OutboxKind.rank : OutboxKind → Nat
  | .taskResult => 0
  | .issue => 1

def deliversBefore (a b : OutboxRow) : Prop :=
  a.kind.rank < b.kind.rank ∨ (a.kind.rank = b.kind.rank ∧
    (a.createdAtMS < b.createdAtMS ∨ (a.createdAtMS = b.createdAtMS ∧ a.id ≤ b.id)))

instance (a b : OutboxRow) : Decidable (deliversBefore a b) := inferInstanceAs (Decidable (_ ∨ _))

def taskResultBytes : List TaskResult → Nat
  | [] => 0
  | result :: rest => (result.result.getD []).length + taskResultBytes rest

/-- One row of the scan. A row that does not fit into the report any more is skipped. -/
def collectRow (batch : OutboxBatch) (row : OutboxRow) : Except Error OutboxBatch :=
  match row.kind with
  | .issue =>
    if batch.issues.length ≥ pkg.maxIssuesPerReport then .ok batch
    else
      match pkg.decodeIssue row.payload with
      | .error text => .error (.new s!"decode issue outbox row {row.id}: {text}")
      | .ok issue =>
        .ok { batch with issues := batch.issues ++ [issue], ids := batch.ids ++ [row.id] }
  | .taskResult =>
    if batch.taskResults.length ≥ pkg.maxTaskResultsPerReport then .ok batch
    else
      match pkg.decodeTaskResult row.payload with
      | .error text => .error (.new s!"decode task result outbox row {row.id}: {text}")
      | .ok result =>
        if (result.result.getD []).length + taskResultBytes batch.taskResults >
            pkg.maxTaskResultBytesPerReport then .ok batch
        else .ok { batch with
          taskResults := batch.taskResults ++ [result], ids := batch.ids ++ [row.id] }

def pendingOutbox (store : Store) (limit : Int) : Except Error OutboxBatch := do
  rejectIf (limit ≤ 0 ∨ limit > maxOutboxBatch)
    (.new s!"outbox limit must be between 1 and {maxOutboxBatch}")
  let pending := (store.outbox.table.rows.filter (fun row => !row.delivered)).insertionSort deliversBefore
  forEach (collectRow pkg) ⟨[], [], []⟩ (pending.take limit.toNat)

end Outbox

/-- `UPDATE task_executions SET result_delivered = 1` for the task whose result is row `id`. -/
def markDelivered (tasks : TaskTable) (outbox : Outbox) (id : Int) : Except Error TaskTable :=
  match outbox.at? id with
  | none => .ok tasks
  | some row =>
    if row.kind = .taskResult then
      orError (tasks.updateKey row.dedupeKey (fun t => { t with resultDelivered := true }) (fun _ => rfl))
        (constraintFailed.within s!"acknowledge task journal result for outbox row {id}")
    else .ok tasks

/-- The acknowledgement of one row. A journalled task result is compacted away: the journal
can rebuild it. -/
def ackRow (store : Store) (id : Int) : Except Error Store := do
  rejectIf (id ≤ 0) (.new "outbox id must be positive")
  let outbox ← orError
    (store.outbox.update (fun row => decide (row.id = id)) (fun row => { row with delivered := true })
      (fun _ => rfl) (fun _ => rfl))
    (constraintFailed.within s!"acknowledge report outbox row {id}")
  let tasks ← markDelivered store.tasks outbox id
  .ok { store with
    tasks := tasks
    outbox := outbox.deleteWhere (fun row =>
      decide (row.id = id) && decide (row.kind = .taskResult) && (tasks.find? row.dedupeKey).isSome) }

def ackOutbox (store : Store) (ids : List Int) : Except Error (Store × Unit) := do
  let next ← forEach ackRow store ids
  .ok (next, ())

/-- Stores a task's result under its id, or finds the same bytes there and offers them again. -/
def putImmutableTaskResult (outbox : Outbox) (id : String) (body : Bytes) (atMS : Int) :
    Except Error Outbox :=
  match outbox.table.find? (.taskResult, id) with
  | none =>
    orError (outbox.push (newOutboxRow .taskResult id body atMS) (fun _ => rfl))
      (constraintFailed.within s!"enqueue task result {id}")
  | some row =>
    if row.payload ≠ body then .error ((Error.ofSentinel .taskTerminalConflict).followedBy id)
    else
      orError
        (outbox.update (fun row => decide (row.kind = .taskResult) && decide (row.dedupeKey = id))
          (fun row => { row with delivered := false }) (fun _ => rfl) (fun _ => rfl))
        (constraintFailed.within s!"rearm task result outbox {id}")

end PasswallNode.Sqlite
