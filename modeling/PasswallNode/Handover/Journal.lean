import PasswallNode.Upgrade.Types

/-! The journal of a handover between two updaters and the role that it gives to a container. -/

namespace PasswallNode.Handover

open Foundation
open Upgrade (Failure dockerObjectName dockerImageRepository validSHA256)

/-- A phase with another text does not validate: such a journal is read like one that does not
decode. -/
inductive Phase where
  | prepared
  | created
  | committed
  | completed
  | aborted
  | reverted
  | abandoned
  | superseded
  deriving DecidableEq, Repr

def Phase.text : Phase → String
  | .prepared => "prepared"
  | .created => "created"
  | .committed => "committed"
  | .completed => "completed"
  | .aborted => "aborted"
  | .reverted => "reverted"
  | .abandoned => "abandoned"
  | .superseded => "superseded"

def handoverTransitions : Phase → List Phase
  | .prepared => [.created, .aborted]
  | .created => [.committed, .aborted, .abandoned]
  | .committed => [.completed, .reverted, .superseded]
  | _ => []

def handoverTerminal : Phase → Bool
  | .prepared | .created | .committed => false
  | _ => true

structure DockerHandover where
  id : String
  phase : Phase
  attempt : Int
  notBeforeUnix : Int
  canonicalName : String
  successorName : String
  retiredName : String
  predecessorID : String
  predecessorImageID : String
  predecessorVersion : String
  successorID : String
  imageID : String
  imageReference : String
  version : String
  agentContainerID : String
  agentBinarySHA256 : String
  evidenceTaskID : String
  requestSHA256 : String
  reason : String
  deriving DecidableEq, Repr

structure DockerStandbyProof where
  handoverID : String
  successorID : String
  version : String
  binarySHA256 : String
  deriving DecidableEq, Repr

def handoverMaxAttempts : Int := 3
def handoverMaxReasonSize : Nat := 256
def handoverPreemptedReason : String := "preempted by agent request"

section Texts

def isLowerHex (c : Char) : Bool := c.isDigit || (decide ('a' ≤ c) && decide (c ≤ 'f'))

def lowerHex (value : String) (n : Nat) : Bool := decide (value.utf8ByteSize = n) && value.toList.all isLowerHex

def dockerImageID (value : String) : Bool :=
  startsWith "sha256:" value && lowerHex (String.ofList (value.toList.drop 7)) 64

/-- The protocol's rule for a task ID, which names files in `receipts/`. -/
def validReceiptTaskID (value : String) : Bool :=
  let plain (c : Char) : Bool := (decide ('a' ≤ c) && decide (c ≤ 'z')) || c.isDigit
  match value.toList with
  | [] => false
  | first :: rest =>
    decide (value.utf8ByteSize ≤ 128) && plain first &&
      rest.all (fun c => plain c || c ∈ ['_', '-', '.', ':'])

def printable (value : String) : Bool := value.toList.all (fun c => decide (0x20 ≤ c.toNat) && decide (c.toNat ≠ 0x7f))

def shortHandoverID (id : String) : String := String.ofList (id.toList.take 8)

end Texts

namespace DockerHandover

variable (h : DockerHandover)

def namesValid : Bool :=
  dockerObjectName h.canonicalName && dockerObjectName h.successorName && dockerObjectName h.retiredName &&
    decide (h.successorName = h.canonicalName ++ "-next-" ++ shortHandoverID h.id) &&
    decide (h.retiredName = h.canonicalName ++ "-retired-" ++ shortHandoverID h.id)

def predecessorValid : Bool :=
  lowerHex h.predecessorID 64 && dockerImageID h.predecessorImageID && Releaseid.validVersion h.predecessorVersion

def imageValid : Bool :=
  dockerImageID h.imageID && Releaseid.validVersion h.version &&
    decide (h.imageReference = dockerImageRepository ++ ":" ++ h.version)

def evidenceValid : Bool :=
  lowerHex h.agentContainerID 64 && validSHA256 h.agentBinarySHA256 && validReceiptTaskID h.evidenceTaskID

def reasonValid (reason : String) : Bool :=
  decide (reason.utf8ByteSize ≤ handoverMaxReasonSize) && printable reason

def successorPlaced : Except Failure Unit := do
  rejectIf (h.phase = .prepared ∧ h.successorID ≠ "") (.text "a prepared handover has no successor yet")
  rejectIf (h.successorID = "" ∧ h.phase ≠ .prepared ∧ h.phase ≠ .aborted) (.text "handover successor is missing")
  rejectIf (h.successorID ≠ "" ∧ (lowerHex h.successorID 64 = false ∨ h.successorID = h.predecessorID))
    (.text "handover successor identity is invalid")

def validate : Except Failure Unit := do
  rejectIf (lowerHex h.id 32 = false) (.text "handover id is invalid")
  rejectIf (h.attempt < 1 ∨ h.attempt > handoverMaxAttempts ∨ h.notBeforeUnix < 0)
    (.text "handover attempt or back-off is invalid")
  rejectIf (h.namesValid = false) (.text "handover container names are invalid")
  rejectIf (h.predecessorValid = false) (.text "handover predecessor identity is invalid")
  rejectIf (h.imageValid = false) (.text "handover image identity is invalid")
  rejectIf (h.evidenceValid = false) (.text "handover evidence is invalid")
  rejectIf (h.requestSHA256 ≠ "" ∧ validSHA256 h.requestSHA256 = false) (.text "handover request digest is invalid")
  rejectIf (reasonValid h.reason = false) (.text "handover reason is invalid")
  rejectIf (h.reason = handoverPreemptedReason ∧ (h.phase ≠ .aborted ∨ h.notBeforeUnix ≠ 0))
    (.text "a pre-empted handover is an abort without a back-off")
  h.successorPlaced

end DockerHandover

def DockerStandbyProof.validate (proof : DockerStandbyProof) : Except Failure Unit :=
  rejectIf (lowerHex proof.handoverID 32 = false ∨ lowerHex proof.successorID 64 = false ∨
    Releaseid.validVersion proof.version = false ∨ validSHA256 proof.binarySHA256 = false)
    (.text "standby proof is invalid")

section Time

/-- Times are nanoseconds since the Unix epoch, durations nanoseconds. -/
def second : Int := 1000000000

/-- `Time.Unix`. -/
def unix (time : Int) : Int := time / second

def handoverFirstBackoff : Int := 600 * second
def handoverLaterBackoff : Int := 3600 * second

/-- Only a failure of the same predecessor and image counts as an attempt. -/
def nextHandoverAttempt (prev : Option DockerHandover) (predecessorID imageID : String) (now : Int) :
    Except Failure Int :=
  match prev with
  | none => .ok 1
  | some prev =>
    if (prev.phase ≠ .aborted ∧ prev.phase ≠ .reverted) ∨ prev.predecessorID ≠ predecessorID ∨
        prev.imageID ≠ imageID then .ok 1
    else if prev.reason = handoverPreemptedReason then .ok prev.attempt
    else if prev.attempt ≥ handoverMaxAttempts then
      .error (.text "handover attempts for this predecessor and image are exhausted")
    else if unix now < prev.notBeforeUnix then
      .error (.text "handover is backing off after a failed attempt")
    else .ok (prev.attempt + 1)

def handoverNotBefore (attempt : Int) (reason : String) (now : Int) : Int :=
  if reason = handoverPreemptedReason then 0
  else if attempt ≤ 1 then unix (now + handoverFirstBackoff)
  else unix (now + handoverLaterBackoff)

def replaces (prev : Option DockerHandover) (next : DockerHandover) : Except Failure Unit := do
  rejectIf (prev.any (fun prev => !handoverTerminal prev.phase))
    (.text "a handover in progress cannot be replaced")
  rejectIf (next.phase ≠ .prepared) (.text "a new handover begins prepared")

def numbered (prev : Option DockerHandover) (next : DockerHandover) (now : Int) : Except Failure Unit := do
  let attempt ← nextHandoverAttempt prev next.predecessorID next.imageID now
  rejectIf (next.attempt ≠ attempt ∨ next.notBeforeUnix ≠ 0 ∨ next.reason ≠ "")
    (.text s!"a new handover is attempt {attempt}, with no back-off and no reason")

/-- What may change beside the phase: the successor when it is created, and why and for how long
a handover ended. -/
def expectedAfter (prev next : DockerHandover) : DockerHandover :=
  let moved := { prev with phase := next.phase }
  let recorded := if next.phase = .created ∧ prev.successorID = "" then { moved with successorID := next.successorID }
    else moved
  if handoverTerminal next.phase then
    let ended := { recorded with reason := next.reason }
    if next.phase = .aborted ∨ next.phase = .reverted then { ended with notBeforeUnix := next.notBeforeUnix }
    else ended
  else recorded

def movesOn (prev next : DockerHandover) : Except Failure Unit := do
  rejectIf (next.phase ∉ handoverTransitions prev.phase)
    (.text s!"handover cannot move from {prev.phase.text} to {next.phase.text}")
  rejectIf (next ≠ expectedAfter prev next) (.text "handover identity cannot change")

end Time

end PasswallNode.Handover
