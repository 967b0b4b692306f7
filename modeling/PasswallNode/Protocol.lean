import Mathlib.Data.List.Basic

/-! Wire types of the protocol package, as far as the agent reads them; its pure functions are stated as it
documents them. Byte slices are lists, and an absent slice or pointer is `none`. -/

namespace PasswallNode.Protocol

abbrev Bytes := List UInt8

/-- A stream version. Versions are ordered by epoch, then by number within it. -/
structure Version where
  epoch : Nat
  version : Nat
  deriving DecidableEq, Repr

def Version.zero (v : Version) : Bool := v.epoch = 0 ∧ v.version = 0

def Version.committed (v : Version) : Bool := 0 < v.epoch ∧ 0 < v.version

def Version.newer (v other : Version) : Bool :=
  other.epoch < v.epoch ∨ (v.epoch = other.epoch ∧ other.version < v.version)

inductive Stream where
  | config
  | roster
  | directives
  deriving DecidableEq, Repr

def Stream.text : Stream → String
  | .config => "config"
  | .roster => "roster"
  | .directives => "directives"

inductive ObjectState where
  | applied
  | pending
  | rejected
  | blocked
  deriving DecidableEq, Repr

structure ObjectStatus where
  stream : Stream
  key : String
  state : ObjectState
  sinceVersion : Version
  firstFailedAtMS : Int
  issueCode : String
  blockedOn : String
  deriving DecidableEq, Repr

structure Task where
  id : String
  kind : String
  args : Bytes
  inputSHA256 : String
  notAfterMS : Int
  deriving DecidableEq, Repr

/-- `result` is `none` for a nil slice: only the encoder can tell it from an empty one. -/
structure TaskResult where
  id : String
  kind : String
  inputSHA256 : String
  notAfterMS : Int
  ok : Bool
  indeterminate : Bool
  result : Option Bytes
  errorCode : String
  error : String
  deriving DecidableEq, Repr

def taskErrorExpiredBeforeStart : String := "task_expired_before_start"

structure Issue where
  code : String
  key : String
  detail : String
  deriving DecidableEq, Repr

inductive GateState where
  | unconfigured
  | armed
  | closed
  deriving DecidableEq, Repr

structure QuotaEntry where
  client : String
  baselineBytes : Int
  headroomBytes : Option Int
  periodEndsAtMS : Int
  nextPeriodHeadroomBytes : Option Int
  deriving DecidableEq, Repr

/-- A scheduled refresh is due once its deadline has been reached. -/
def QuotaEntry.refreshDue (periodEndsAtMS : Int) (nextPeriodHeadroomBytes : Option Int)
    (nowMS : Int) : Bool :=
  nextPeriodHeadroomBytes.isSome && decide (periodEndsAtMS ≤ nowMS)

structure AgentUpgradeArgs where
  version : String
  expectedVersion : String
  deriving DecidableEq, Repr

structure AgentUpgradeResult where
  version : String
  previousVersion : String
  binarySHA256 : String
  restarted : Bool
  deriving DecidableEq, Repr

structure Package where
  validateTasks : List Task → Except String Unit
  validateTaskResults : List TaskResult → Except String Unit
  encodeTaskResult : TaskResult → Except String Bytes
  decodeTaskResult : Bytes → Except String TaskResult
  encodeIssue : Issue → Except String Bytes
  decodeIssue : Bytes → Except String Issue
  computeTaskInputSHA256 : String → Bytes → String
  taskKindAgentUpgradeV1 : String
  decodeAgentUpgradeArgs : Bytes → Except String AgentUpgradeArgs
  encodeAgentUpgradeResult : AgentUpgradeResult → Bytes
  maxTaskErrorCodeBytes : Nat
  maxTaskErrorBytes : Nat
  maxIssuesPerReport : Nat
  maxTaskResultsPerReport : Nat
  maxTaskResultBytesPerReport : Nat
  maxIssueCodeBytes : Nat
  maxIssueKeyBytes : Nat
  maxIssueDetailBytes : Nat
  /-- An absent result and an empty one have the same encoding. -/
  encodeTaskResult_nil : ∀ r : TaskResult,
    encodeTaskResult { r with result := none } = encodeTaskResult { r with result := some [] }

/-- A package to evaluate examples with: it accepts everything and encodes a result as its id, error code and
bytes. -/
def Package.transparent : Package where
  validateTasks := fun _ => .ok ()
  validateTaskResults := fun _ => .ok ()
  encodeTaskResult := fun r => .ok
    ((r.id ++ "," ++ r.errorCode ++ ",").toList.map (fun c => UInt8.ofNat c.toNat) ++ r.result.getD [])
  decodeTaskResult := fun body => .ok
    ⟨String.ofList (body.map (fun b => Char.ofNat b.toNat)), "", "", 0, true, false, none, "", ""⟩
  encodeIssue := fun issue => .ok (issue.code.toList.map (fun c => UInt8.ofNat c.toNat))
  decodeIssue := fun body => .ok ⟨String.ofList (body.map (fun b => Char.ofNat b.toNat)), "", ""⟩
  computeTaskInputSHA256 := fun _ _ => ""
  taskKindAgentUpgradeV1 := "agent.upgrade.v1"
  decodeAgentUpgradeArgs := fun _ => .ok ⟨"4.1.4", "4.1.3"⟩
  encodeAgentUpgradeResult := fun result => result.version.toList.map (fun c => UInt8.ofNat c.toNat)
  maxTaskErrorCodeBytes := 64
  maxTaskErrorBytes := 256
  maxIssuesPerReport := 100
  maxTaskResultsPerReport := 100
  maxTaskResultBytesPerReport := 1000
  maxIssueCodeBytes := 64
  maxIssueKeyBytes := 64
  maxIssueDetailBytes := 64
  encodeTaskResult_nil := fun _ => rfl

end PasswallNode.Protocol
