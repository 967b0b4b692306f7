import PasswallNode.Handover.Calls

/-! The handover of the updater role, from the predecessor's side. -/

namespace PasswallNode.Handover

open Foundation Protocol State
open Upgrade (Failure DockerImage dockerObjectName dockerImageRepository officialNodeImage dockerSocket
  dockerControlDir)

def durationOr (value otherwise : Int) : Int := if value > 0 then value else otherwise

structure DockerEvidence where
  taskID : String
  binarySHA256 : String
  deriving DecidableEq, Repr

structure HandoverTarget where
  self : Container
  agent : Container
  image : DockerImage
  version : String
  reference : String
  evidence : DockerEvidence
  canonical : String
  attempt : Int
  requestSHA256 : String
  deriving DecidableEq, Repr

inductive Mutation where
  | create (name : String) (source : Container) (image : DockerImage) (reference : String)
  | start (target : String)
  | stop (target : String)
  | rename (target newName : String)
  | remove (target : String) (force : Bool)
  deriving DecidableEq, Repr

def Mutation.op : Mutation → String
  | .create _ _ _ _ => "create"
  | .start _ => "start"
  | .stop _ => "stop"
  | .rename _ _ => "rename"
  | .remove _ _ => "remove"

def Mutation.target : Mutation → String
  | .create name _ _ _ => name
  | .start target => target
  | .stop target => target
  | .rename target _ => target
  | .remove target _ => target

def Mutation.refused (m : Mutation) (why : String) : Failure :=
  .text s!"updater mutation refused: {m.op} {m.target}: {why}"

def Mutation.issue (m : Mutation) (id : String) : Updating Unit :=
  match m with
  | .create _ _ _ _ => return ()
  | .start _ => .call (.startContainer id) .done
  | .stop _ => .call (.stopContainer id) .done
  | .rename _ newName => .call (.renameContainer id newName) .done
  | .remove _ force => .call (.removeContainer id force) .done

def unlockAnd {α : Type} (result : α) : Updating α := do
  request .unlock
  return result

namespace Controller

variable (c : Controller)

section Mutations

def createUpdater (m : Mutation) (agent : Container) (name : String) (source : Container) (image : DockerImage)
    (reference : String) : Updating String := do
  rejectIf (dockerObjectName name = false) (m.refused "the name is invalid")
  rejectIf (officialNodeImage reference = false) (m.refused "the image is not an official release")
  (c.isUpdaterContainer source agent).mapError
    (fun err => m.refused ("the clone's source is not an updater: " ++ err.message))
  .call (.createReplacement name source image reference) .done

def renameRefused : Mutation → Bool
  | .rename _ newName => !dockerObjectName newName || decide (newName = c.targetName)
  | _ => false

def actOnUpdater (m : Mutation) (agent : Container) : Updating String := do
  rejectIf (c.renameRefused m = true) (m.refused "the new name is invalid or the agent's")
  let current ← inspect m.target
  (c.isUpdaterContainer current agent).mapError
    (fun err => m.refused ("not an updater; left alone: " ++ err.message))
  m.issue current.id
  return ""

/-- The only way in which handover code changes anything in the engine: never the agent, and only
one of its updaters. -/
def mutate (m : Mutation) : Updating String := do
  let agent ← (inspect c.targetName).orThrow (m.refused "the agent cannot be identified")
  rejectIf (m.target = c.targetName ∨ m.target = agent.id) (m.refused "it is the agent")
  match m with
  | .create name source image reference => c.createUpdater m agent name source image reference
  | _ => c.actOnUpdater m agent

/-- Gone is success; a container that still runs is removed by force. -/
def removeUpdater (target : String) : Updating Unit := do
  let _ ← (c.mutate (.stop target)).attempt
  match ← (c.mutate (.remove target false)).attempt with
  | .ok _ => return ()
  | .error .dockerNotFound => return ()
  | .error (.dockerStatus 409) =>
    match ← (c.mutate (.remove target true)).attempt with
    | .ok _ => return ()
    | .error .dockerNotFound => return ()
    | .error err => throw err
  | .error err => throw err

def unmistakable (h : DockerHandover) (found : Container) : Bool :=
  decide (found.image = h.imageID) &&
    decide ((found.config.elim [] Config.cmd) = [dockerHelperCommand]) && found.startedAt.isNone && !found.running

/-- The successor to remove: the one recorded, one this process knows, or one found by its name. -/
def abortedSuccessor (h : DockerHandover) (known : String) (byName : Bool) : Updating String :=
  if h.successorID ≠ "" then return h.successorID
  else if known ≠ "" then return known
  else if byName then .call (.inspectContainer h.successorName) (fun found => .done (.ok (
    match found with
    | .ok found => if unmistakable h found then found.id else ""
    | .error _ => "")))
  else return ""

def removeSuccessor (successor : String) : Updating Unit := do
  if successor ≠ "" then
    let _ ← (c.removeUpdater successor).attempt

def abortedJournal (h : DockerHandover) (reason : String) (now : Int) : DockerHandover :=
  { h with phase := .aborted, reason := reason, notBeforeUnix := handoverNotBefore h.attempt reason now }

/-- The abort is recorded even if the successor could not be removed. -/
def abortHandover (h : DockerHandover) (known : String) (byName : Bool) (reason : String) : Updating Unit := do
  let successor ← abortedSuccessor h known byName
  c.removeSuccessor successor
  let now ← clock
  (writeHandover (abortedJournal h reason now)).mapError (fun err =>
    .text s!"handover {shortHandoverID h.id}: the abort could not be recorded: {err.message}")

def commitHandover (h : DockerHandover) : Updating Bool := do
  match ← (writeHandover { h with phase := .committed }).attempt with
  | .ok _ => return true
  | .error _ => do
      c.abortHandover h "" false "the commit could not be recorded"
      return false

def dockerStabilityWindow : Int := 10 * second

structure Watching where
  firstRunning : Option (Int × Option Int)
  proven : Bool
  deriving DecidableEq, Repr

def successorState (watching : Watching) (s : Container) : Except String Bool := do
  rejectIf (s.restartCount > 0 ∨ watching.firstRunning.any (fun first => decide (s.startedAt ≠ first.2)))
    "successor restarted"
  rejectIf (s.paused = true) "successor paused"
  rejectIf (watching.firstRunning.isSome ∧ (s.running = false ∨ s.restarting = true)) "successor stopped"
  return s.running && !s.restarting

def markRunning (watching : Watching) (s : Container) : Updating Watching :=
  match watching.firstRunning with
  | some _ => return watching
  | none => do
      let now ← request .monotonic
      return { watching with firstRunning := some (now, s.startedAt) }

def lookAtSuccessor (h : DockerHandover) (watching : Watching) : Updating (Except String (Watching × Bool)) :=
  .call (.inspectContainer h.successorID) (fun found =>
    match found with
    | .error .dockerNotFound => return .error "successor disappeared"
    -- A missed answer is asked again in the next pass.
    | .error _ => return .ok (watching, false)
    | .ok s =>
      match successorState watching s with
      | .error reason => return .error reason
      | .ok false => return .ok (watching, false)
      | .ok true => do
          let watching ← markRunning watching s
          return .ok (watching, true))

def lookAtAgent (h : DockerHandover) : Updating (Except String Bool) :=
  .call (.inspectContainer c.targetName) (fun found => .done (.ok (
    match found with
    | .error .dockerNotFound => .error "the agent was replaced"
    | .error _ => .ok false
    | .ok a => if a.id ≠ h.agentContainerID ∨ a.image ≠ h.imageID then .error "the agent was replaced" else .ok true)))

def isProofOf (h : DockerHandover) (proof : DockerStandbyProof) : Bool :=
  decide (proof.handoverID = h.id) && decide (proof.successorID = h.successorID) &&
    decide (proof.version = h.version) && decide (proof.binarySHA256 = h.agentBinarySHA256)

def readStandbyProof : Updating DockerStandbyProof :=
  .call .readStandbyProof (fun read => .done (read.bind (fun proof => proof.validate.map (fun _ => proof))))

def lookForProof (h : DockerHandover) : Updating Bool := do
  let proof ← readStandbyProof.attempt
  return proof.toOption.any (isProofOf h)

def requestDigest : Updating String :=
  .call .readRequest (fun read => .done (match read with
    | .ok data => .ok (c.texts.digest data)
    | .error (.notExist _) => .ok ""
    | .error err => .error err))

def requestChanged (h : DockerHandover) : Updating Bool := do
  let digest ← c.requestDigest.attempt
  return decide (digest.toOption ≠ some h.requestSHA256)

/-- `time.Since` of the first time that the successor was seen running. -/
def stableFor (watching : Watching) : Updating Bool := do
  let now ← request .monotonic
  return watching.firstRunning.any (fun first =>
    decide (now - first.1 ≥ durationOr c.stabilityWindow dockerStabilityWindow))

inductive Passed where
  | ends (reason : String)
  | commits
  | again (watching : Watching)
  deriving DecidableEq, Repr

def settlePass (watching : Watching) (up agentSame : Bool) : Updating Passed :=
  if watching.proven && up && agentSame then do
    let stable ← c.stableFor watching
    return if stable then .commits else .again watching
  else return .again watching

/-- The request is read first and last in every pass. -/
def endPass (h : DockerHandover) (watching : Watching) (up agentSame : Bool) : Updating Passed := do
  let found ← lookForProof h
  let changed ← c.requestChanged h
  if changed then return .ends handoverPreemptedReason
  else c.settlePass { watching with proven := watching.proven || found } up agentSame

def lookAround (h : DockerHandover) (watching : Watching) : Updating Passed := do
  match ← lookAtSuccessor h watching with
  | .error reason => return .ends reason
  | .ok (watching, up) =>
    match ← c.lookAtAgent h with
    | .error reason => return .ends reason
    | .ok agentSame => c.endPass h watching up agentSame

def waitPass (h : DockerHandover) (watching : Watching) : Updating Passed := do
  let changed ← c.requestChanged h
  if changed then return .ends handoverPreemptedReason
  else c.lookAround h watching

def outOfTime (watching : Watching) : String :=
  if watching.proven then "successor not stable by the deadline" else "no proof by the deadline"

def waitPasses (h : DockerHandover) : Nat → Watching → Updating (Option String)
  | 0, watching => return some (outOfTime watching)
  | passes + 1, watching => do
      match ← c.waitPass h watching with
      | .ends reason => return some reason
      | .commits => return none
      | .again watching =>
        match ← request .waitPoll with
        | .stopped => return some "interrupted"
        | .deadline => return some (outOfTime watching)
        | .poll => waitPasses h passes watching

def waitStandby (h : DockerHandover) : Updating (Option String) := do
  let passes ← request .passes
  c.waitPasses h (passes + 1) ⟨none, false⟩

def preparedHandover (t : HandoverTarget) (id : String) : DockerHandover where
  id := id
  phase := .prepared
  attempt := t.attempt
  notBeforeUnix := 0
  canonicalName := t.canonical
  successorName := t.canonical ++ "-next-" ++ shortHandoverID id
  retiredName := t.canonical ++ "-retired-" ++ shortHandoverID id
  predecessorID := t.self.id
  predecessorImageID := t.self.image
  predecessorVersion := c.version
  successorID := ""
  imageID := t.image.id
  imageReference := t.reference
  version := t.version
  agentContainerID := t.agent.id
  agentBinarySHA256 := t.evidence.binarySHA256
  evidenceTaskID := t.evidence.taskID
  requestSHA256 := t.requestSHA256
  reason := ""

def abortWith (h : DockerHandover) (known : String) (byName : Bool) (reason : String) : Updating Bool := do
  c.abortHandover h known byName reason
  return false

/-- Once the journal names the successor, a stop of this process leaves both as they are. -/
def abortUnlessStopping (h : DockerHandover) (reason : String) : Updating Bool := do
  if ← request .stopping then return false
  else c.abortWith h "" false reason

def verifySuccessor (h : DockerHandover) (t : HandoverTarget) : Updating Unit := do
  let s ← (inspect h.successorID).mapError (fun err => .text ("it cannot be inspected: " ++ err.message))
  c.verifies h t.self t.agent s

def proveSuccessor (h : DockerHandover) (t : HandoverTarget) : Updating Bool := do
  match ← (c.verifySuccessor h t).attempt with
  | .error err => c.abortUnlessStopping h ("successor differs from this updater: " ++ err.message)
  | .ok _ =>
    match ← (c.mutate (.start h.successorID)).attempt with
    | .error _ => c.abortUnlessStopping h "successor could not be started"
    | .ok _ =>
      match ← c.waitStandby h with
      | some reason => c.abortUnlessStopping h reason
      | none => c.commitHandover h

def createSuccessor (h : DockerHandover) (t : HandoverTarget) (source : Container) : Updating Bool := do
  match ← (c.mutate (.create h.successorName source t.image t.reference)).attempt with
  | .error _ => c.abortWith h "" true "successor could not be created"
  | .ok successorID =>
    let created := { h with phase := .created, successorID := successorID }
    match ← (writeHandover created).attempt with
    | .error _ => c.abortWith h successorID true "successor could not be recorded"
    | .ok _ => c.proveSuccessor created t

def carryOut (h : DockerHandover) (t : HandoverTarget) : Updating Bool := do
  match ← (inspect h.successorName).attempt with
  | .ok _ => c.abortWith h "" false "successor name occupied"
  | .error .dockerNotFound =>
    match successorSource t.self with
    | .error _ => c.abortWith h "" false "successor configuration could not be derived"
    | .ok source => c.createSuccessor h t source
  | .error _ => c.abortWith h "" false "successor name could not be checked"

/-- `true` if the role was committed to a successor; an error if the handover or its abort could
not be recorded. -/
def handOver (t : HandoverTarget) : Updating Bool := do
  let id ← (Proc.call .random .done : Updating String).mapError
    (fun err => .text ("handover identity could not be generated: " ++ err.message))
  let h := c.preparedHandover t id
  (writeHandover h).mapError
    (fun err => .text s!"handover {shortHandoverID id} could not be prepared: {err.message}")
  c.carryOut h t

def moveUnderLock (expected : Option DockerHandover → Bool) (move : DockerHandover → Updating DockerHandover) :
    Updating (Option DockerHandover) := do
  match ← (readHandover true).attempt with
  | .ok (some journal) =>
    if expected (some journal) then do
      let next ← move journal
      match ← (writeHandover next).attempt with
      | .ok _ => return some journal
      | .error _ => unlockAnd none
    else unlockAnd none
  | _ => unlockAnd none

def stillCommitted (self : String) (h : DockerHandover) (journal : Option DockerHandover) : Bool :=
  journal.any (fun journal => decide (journal.id = h.id) && decide (journal.phase = .committed) &&
    decide (journal.predecessorID = self))

def revertedJournal (journal : DockerHandover) (now : Int) : DockerHandover :=
  { journal with
    phase := .reverted
    reason := "successor never took over"
    notBeforeUnix := handoverNotBefore journal.attempt "successor never took over" now }

def reclaim (self : String) (h : DockerHandover) : Updating Bool := do
  match ← request .tryLock with
  | .held => do
      let moved ← moveUnderLock (stillCommitted self h) (fun journal => do
        let now ← clock
        return revertedJournal journal now)
      match moved with
      | none => return false
      | some journal => do
          let _ ← (c.removeUpdater journal.successorID).attempt
          return true
  | _ => return false

end Mutations

end Controller

section Plain

def digits (count : Nat) (digit : Char) : String := String.ofList (List.replicate count digit)

/-- The agent, an updater of it and the target of a handover, to evaluate examples with. -/
def Container.agent : Container :=
  ⟨digits 64 '4', "sha256:" ++ digits 64 '3', "/agent", 0, none, none, none, none,
    [⟨"volume", "control", dockerControlDir, true⟩], true, false, false, some 0⟩

def Container.updater (id name : String) (started : Bool) : Container where
  id := id
  image := "sha256:" ++ digits 64 '3'
  name := name
  restartCount := 0
  config := some ⟨dockerImageRepository ++ ":4.1.3", "", [dockerHelperCommand],
    [dockerTargetContainerEnv ++ "=agent", dockerTargetAgentIDEnv ++ "=agent"], []⟩
  hostnameField := some none
  hostConfig := some ⟨"none", false, true⟩
  hostFields := some []
  mounts := [⟨"bind", dockerSocket, dockerSocket, true⟩, ⟨"volume", "control", dockerControlDir, true⟩]
  running := started
  paused := false
  restarting := false
  startedAt := if started then some 0 else none

def HandoverTarget.plain (attempt : Int) : HandoverTarget where
  self := .updater (digits 64 '1') "/updater" true
  agent := .agent
  image := ⟨"sha256:" ++ digits 64 '3', "amd64", "linux", []⟩
  version := "4.1.3"
  reference := dockerImageRepository ++ ":4.1.3"
  evidence := ⟨"task-1", digits 64 '5'⟩
  canonical := "updater"
  attempt := attempt
  requestSHA256 := ""

end Plain

end PasswallNode.Handover
