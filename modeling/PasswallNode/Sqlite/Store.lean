import PasswallNode.Foundation.Queue
import PasswallNode.Foundation.Text
import PasswallNode.State

/-! The database of the agent, one field a table, with the constraints of schema version 9. -/

namespace PasswallNode.Sqlite

open Foundation Protocol State

def constraintFailed : Error := Error.new "constraint failed"

def checkClient (c : ClientRuntime) : Bool :=
  decide (0 ≤ c.upBytes) && decide (0 ≤ c.downBytes) && decide (0 ≤ c.updatedAtMS) &&
    c.baselineBytes.all (0 ≤ ·) && c.headroomBytes.all (0 ≤ ·) &&
    c.nextPeriodHeadroomBytes.all (0 ≤ ·) &&
    (decide (c.gate = .unconfigured) || (c.baselineBytes.isSome && c.headroomBytes.isSome)) &&
    ((decide (c.periodEndsAtMS = 0) && c.nextPeriodHeadroomBytes.isNone) ||
      (decide (0 < c.periodEndsAtMS) && c.nextPeriodHeadroomBytes.isSome))

def checkListener (l : ListenerRuntime) : Bool :=
  decide (0 ≤ l.upBytes) && decide (0 ≤ l.downBytes) && decide (0 ≤ l.updatedAtMS)

structure StoredObject where
  status : ObjectStatus
  updatedAtMS : Int
  deriving DecidableEq, Repr

def checkObject (o : StoredObject) : Bool :=
  decide (0 ≤ o.status.firstFailedAtMS) && decide (0 ≤ o.updatedAtMS)

structure StoredStream where
  document : StreamDocument
  epochFloor : Nat
  deriving DecidableEq, Repr

def checkStream (s : StoredStream) : Bool := decide (0 ≤ s.document.acceptedAtMS)

structure ReferenceSkew where
  kind : String
  referenceKey : String
  version : Version
  rounds : Int
  deriving DecidableEq, Repr

def checkSkew (s : ReferenceSkew) : Bool := decide (0 < s.rounds)

/-- The two table-level checks of `task_executions`, with those of its columns. -/
def checkTask (t : TaskExecution) : Bool :=
  decide (t.inputSHA256.length = 64) && decide (0 ≤ t.notAfterMS) && decide (0 ≤ t.receivedAtMS) &&
    decide (0 ≤ t.startedAtMS) && decide (0 ≤ t.finishedAtMS) &&
    (match t.state with
      | .received => decide (t.startedAtMS = 0 ∧ t.finishedAtMS = 0 ∧ t.claimToken = "")
      | .running => decide (0 < t.startedAtMS ∧ t.finishedAtMS = 0)
      | .succeeded | .indeterminate => decide (0 < t.finishedAtMS ∧ 0 < t.startedAtMS)
      | .failed => decide (0 < t.finishedAtMS ∧
          (0 < t.startedAtMS ∨ (t.startedAtMS = 0 ∧ 0 < t.notAfterMS ∧ t.claimToken = "" ∧
            t.errorCode = taskErrorExpiredBeforeStart)))) &&
    (match t.state with
      | .succeeded => decide (t.errorCode = "" ∧ t.error = "")
      | .failed | .indeterminate => decide (t.result = [] ∧ t.errorCode ≠ "" ∧ t.error ≠ "")
      | .received | .running => decide (t.result = [] ∧ t.errorCode = "" ∧ t.error = ""))

inductive OutboxKind where
  | issue
  | taskResult
  deriving DecidableEq, Repr

def OutboxKind.text : OutboxKind → String
  | .issue => "issue"
  | .taskResult => "task_result"

structure OutboxRow where
  id : Int
  kind : OutboxKind
  dedupeKey : String
  payload : Bytes
  createdAtMS : Int
  delivered : Bool
  deriving DecidableEq, Repr

def checkOutbox (row : OutboxRow) : Bool := decide (0 ≤ row.createdAtMS)

abbrev ClientTable := Table ClientRuntime.key checkClient
abbrev ListenerTable := Table ListenerRuntime.key checkListener
abbrev ObjectTable := Table (fun o : StoredObject => (o.status.stream, o.status.key)) checkObject
abbrev StreamTable := Table (fun s : StoredStream => s.document.stream) checkStream
abbrev SkewTable := Table (fun s : ReferenceSkew => (s.kind, s.referenceKey)) checkSkew
abbrev TaskTable := Table TaskExecution.id checkTask
abbrev Outbox := Queue OutboxRow.id (fun row : OutboxRow => (row.kind, row.dedupeKey)) checkOutbox

structure Store where
  streams : StreamTable
  objects : ObjectTable
  clients : ClientTable
  listeners : ListenerTable
  tasks : TaskTable
  outbox : Outbox
  skews : SkewTable

/-- The database `Open` creates. -/
def Store.fresh : Store := ⟨.empty, .empty, .empty, .empty, .empty, .empty, .empty⟩

/-- Library functions the store calls and this development does not look into. -/
structure Library where
  /-- The hexadecimal SHA-256 digest. -/
  sha256Hex : Bytes → String
  sha256Hex_ne_empty : ∀ payload, sha256Hex payload ≠ ""
  /-- `netip.ParseAddr`, unmapped and printed again; nothing for an invalid address. -/
  canonicalAddr : String → Option String

/-- A library to evaluate examples with: the digest is a checksum, and every address is canonical. -/
def Library.transparent : Library where
  sha256Hex := checksum
  sha256Hex_ne_empty := by
    intro payload same
    have marked : '#' ∈ ("" : String).toList := by rw [← same, checksum, String.toList_append]; simp
    cases marked
  canonicalAddr := some

def commit {σ α : Type} (state : σ) (result : Except Error (σ × α)) : σ :=
  match result with
  | .ok (next, _) => next
  | .error _ => state

theorem commit_invariant {σ α : Type} {state : σ} {result : Except Error (σ × α)} (holds : σ → Prop)
    (before : holds state) (kept : ∀ next value, result = .ok (next, value) → holds next) :
    holds (commit state result) := by
  cases result with
  | error err => exact before
  | ok pair => exact kept pair.1 pair.2 rfl

theorem eq_ok_of_isOk {σ : Type} (state : σ) {result : Except Error (σ × Unit)}
    (succeeds : result.isOk = true) : result = .ok (commit state result, ()) := by
  cases result with
  | error err => cases succeeds
  | ok pair => rfl

end PasswallNode.Sqlite
