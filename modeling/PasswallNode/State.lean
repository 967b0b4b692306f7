import PasswallNode.Protocol
import PasswallNode.Foundation.Int64

/-! The durable-state boundary: the rows the agent keeps and the errors it tells apart. -/

namespace PasswallNode.State

open Protocol

inductive Sentinel where
  | notFound
  | staleVersion
  | versionConflict
  | counterRollback
  | invalidState
  | taskIdentityConflict
  | taskTerminalConflict
  | taskClockUnavailable
  | coreTrafficGap
  deriving DecidableEq, Repr

def Sentinel.text : Sentinel → String
  | .notFound => "state not found"
  | .staleVersion => "stale stream version"
  | .versionConflict => "stream version has different content"
  | .counterRollback => "counter moved backwards without a new epoch"
  | .invalidState => "invalid durable state"
  | .taskIdentityConflict => "task id was reused with different input"
  | .taskTerminalConflict => "task terminal result is immutable"
  | .taskClockUnavailable => "task control-plane clock is unavailable"
  | .coreTrafficGap => "core traffic stream has an unrecoverable event gap"

/-- An error as its caller sees it: the text, the sentinel `errors.Is` finds, and the
identity a `TaskIdentityConflictError` carries. -/
structure Error where
  text : String
  sentinel : Option Sentinel
  conflict : Option (String × String)
  deriving DecidableEq, Repr

def Error.new (text : String) : Error := ⟨text, none, none⟩

def Error.ofSentinel (sentinel : Sentinel) : Error := ⟨sentinel.text, some sentinel, none⟩

/-- `fmt.Errorf("context: %w", err)`. -/
def Error.within (context : String) (err : Error) : Error :=
  { err with text := context ++ ": " ++ err.text }

/-- `fmt.Errorf("%w: detail", err)`. -/
def Error.followedBy (err : Error) (detail : String) : Error :=
  { err with text := err.text ++ ": " ++ detail }

/-- `errors.Join(err, other)`. -/
def Error.join (err other : Error) : Error :=
  ⟨err.text ++ "\n" ++ other.text, err.sentinel.or other.sentinel, err.conflict.or other.conflict⟩

def Error.isSentinel (err : Error) (sentinel : Sentinel) : Bool := err.sentinel = some sentinel

def taskIdentityConflictError (id inputSHA256 : String) : Error :=
  ⟨Sentinel.taskIdentityConflict.text ++ ": " ++ id, some .taskIdentityConflict,
    some (id, inputSHA256)⟩

/-- The durable execution state. A task is claimed by committing received → running
before its handler is called. -/
inductive TaskState where
  | received
  | running
  | succeeded
  | failed
  | indeterminate
  deriving DecidableEq, Repr

def TaskState.text : TaskState → String
  | .received => "received"
  | .running => "running"
  | .succeeded => "succeeded"
  | .failed => "failed"
  | .indeterminate => "indeterminate"

def TaskState.terminal : TaskState → Bool
  | .succeeded | .failed | .indeterminate => true
  | .received | .running => false

structure TaskExecution where
  id : String
  kind : String
  args : Bytes
  inputSHA256 : String
  notAfterMS : Int
  claimToken : String
  state : TaskState
  result : Bytes
  errorCode : String
  error : String
  receivedAtMS : Int
  startedAtMS : Int
  finishedAtMS : Int
  resultDelivered : Bool
  deriving DecidableEq, Repr

structure TaskAcceptance where
  workAvailable : Bool
  resultAvailable : Bool
  replayFenced : List Task
  deriving DecidableEq, Repr

/-- Bounds on control-plane time: an upper bound below a deadline authorises a start, a lower bound at or past
it proves expiry. -/
structure TaskTimeBounds where
  lowerMS : Int
  upperMS : Int
  deriving DecidableEq, Repr

def TaskTimeBounds.validate (b : TaskTimeBounds) : Except Error Unit :=
  if b.lowerMS ≤ 0 ∨ b.upperMS ≤ 0 ∨ b.lowerMS > b.upperMS then
    .error ((Error.ofSentinel .invalidState).followedBy "task time bounds must be positive and ordered")
  else .ok ()

structure StreamDocument where
  stream : Stream
  version : Version
  etag : String
  body : Bytes
  acceptedAtMS : Int
  deriving DecidableEq, Repr

structure ClientIdentity where
  key : String
  subject : String
  deriving DecidableEq, Repr

structure ClientRuntime where
  key : String
  subject : String
  present : Bool
  upBytes : Int
  downBytes : Int
  counterEpoch : Nat
  liveIPs : List String
  gate : GateState
  baselineBytes : Option Int
  headroomBytes : Option Int
  periodEndsAtMS : Int
  nextPeriodHeadroomBytes : Option Int
  /-- The digest of the last directive applied. It survives a local rollover, so an
  unchanged document cannot bring the superseded grant back. -/
  quotaFingerprint : String
  updatedAtMS : Int
  deriving DecidableEq, Repr

structure QuotaGrant where
  baselineBytes : Int
  headroomBytes : Option Int
  periodEndsAtMS : Int
  nextPeriodHeadroomBytes : Option Int
  deriving DecidableEq, Repr

structure CounterUpdate where
  key : String
  present : Bool
  upBytes : Int
  downBytes : Int
  counterEpoch : Nat
  liveIPs : List String
  deriving DecidableEq, Repr

structure ListenerRuntime where
  key : String
  present : Bool
  upBytes : Int
  downBytes : Int
  counterEpoch : Nat
  updatedAtMS : Int
  deriving DecidableEq, Repr

structure ListenerCounterUpdate where
  key : String
  present : Bool
  upBytes : Int
  downBytes : Int
  counterEpoch : Nat
  deriving DecidableEq, Repr

structure CounterBatch where
  clients : List CounterUpdate
  listeners : List ListenerCounterUpdate
  deriving DecidableEq, Repr

/-- One change of the connection ledger. Absolute events are snapshots that may be repeated;
increments count from what is stored. -/
structure CoreTrafficEvent where
  connectionID : String
  clientKey : String
  listenerKey : String
  sourceIP : String
  absolute : Bool
  upBytes : Int
  downBytes : Int
  closed : Bool
  closedAtMS : Int
  deriving DecidableEq, Repr

structure CoreTrafficValue where
  upBytes : Int
  downBytes : Int
  liveIPs : List String
  deriving DecidableEq, Repr

structure CoreTrafficSnapshot where
  ready : Bool
  clients : String → Option CoreTrafficValue
  listeners : String → Option CoreTrafficValue

/-- The desired snapshot last confirmed running, as opposed to the stream documents: those
advance before convergence. -/
structure CoreDeployment where
  engine : String
  version : String
  configDigest : String
  artifact : Bytes
  configBody : Bytes
  rosterBody : Bytes
  appliedAtMS : Int
  deriving DecidableEq, Repr

structure OutboxBatch where
  ids : List Int
  issues : List Issue
  taskResults : List TaskResult
  deriving DecidableEq, Repr

end PasswallNode.State
