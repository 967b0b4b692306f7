import PasswallNode.Agent.Issues
import PasswallNode.Agent.Receive

/-! The processor: a response is received, the clients and grants it names are written, and every listener and
client is converged through the runtime. The agent may stop between any two of its calls. -/

namespace PasswallNode.Agent

open Foundation Protocol State

inductive RuntimeOp where
  | upsertListener (listener : Listener)
  | removeListener (key : String)
  | upsertClient (client : Client)
  | removeClient (key : String)
  | finalize
  deriving DecidableEq, Repr

/-- An error of the runtime, with the code of the `RejectedError` in it. -/
structure RuntimeError where
  text : String
  rejected : Option String
  deriving DecidableEq, Repr

def rejectionCode (err : RuntimeError) : Option String := err.rejected.filter (fun code => decide (code ≠ ""))

inductive RoundScope where
  | unscoped
  | missing
  | shared
  deriving DecidableEq, Repr

inductive ProcessCall where
  | store (call : StoreCall)
  | acceptTasksFenced (tasks : List Task) (atMS : Int)
  | taskWake
  | record (issue : LocalIssue)
  | newRound
  | runtime (op : RuntimeOp)
  deriving DecidableEq, Repr

abbrev ProcessCall.Answer : ProcessCall → Type
  | .store call => call.Answer
  | .acceptTasksFenced _ _ => Except Error TaskAcceptance
  | .taskWake => Unit
  | .record _ => Except Error Bool
  | .newRound => RoundScope
  | .runtime _ => Except RuntimeError Unit

/-- An error together with the `ReportImmediately` that `Process` returns beside it. -/
structure ProcessFailure where
  err : Error
  reportImmediately : Bool
  deriving DecidableEq, Repr

abbrev Round (α : Type) : Type := Proc ProcessCall ProcessCall.Answer ProcessFailure α

/-- What `AdvanceObject` advances: a status, or nothing yet known of an object. -/
inductive TrackedObject where
  | unknown (stream : Stream) (key : String)
  | known (status : ObjectStatus)
  deriving DecidableEq, Repr

inductive Transition where
  | accepted (version : Version) (atMS : Int)
  | applied
  | rejected (atMS : Int) (issueCode : String)
  | dependencyBlocked (atMS : Int) (blockedOn : String)
  | dependencyReady
  | retryableFailure (atMS : Int)
  deriving DecidableEq, Repr

structure AttachmentInput where
  clientKey : String
  listenerKey : String
  rosterMinConfig : Version
  appliedConfig : Version
  listenerKnown : Bool
  listenerState : Option ObjectState
  aheadRounds : Int
  escalateAfterRounds : Int
  deriving DecidableEq, Repr

inductive Disposition where
  | ready
  | unknownListener
  | blockedByListener
  | waiting
  deriving DecidableEq, Repr

structure AttachmentDecision where
  disposition : Disposition
  issue : Option Issue
  deriving DecidableEq, Repr

/-- The conformance package, and the codes of issues that the protocol package names. -/
structure Conformance where
  advanceObject : TrackedObject → Transition → Except Error ObjectStatus
  evaluateAttachment : AttachmentInput → Except Error AttachmentDecision
  timeoutIssue : ObjectStatus → (nowMS timeoutMS : Int) → Except Error (Option Issue)
  issueTaskIdentityConflict : String
  issueTaskReplayFenced : String
  issueAttachmentUnknownListener : String
  issueDirectivesAheadOfRoster : String
  issueDirectiveUnknownClient : String

/-- The options of a processor and what it calls without effect. -/
structure Processor where
  catalog : Corecatalog.Catalog
  wire : Wire
  conformance : Conformance
  skewToleranceRounds : Int
  objectIssueTimeoutMS : Int
  hasTaskWake : Bool
  hasTaskClock : Bool

def skewRosterConfig : String := "roster_config"
def skewDirectivesRoster : String := "directives_roster"

section Calls

variable (result : Bool)

def orReturn {α : Type} (call : Except Error α) : Round α :=
  .done (match call with
    | .ok a => .ok a
    | .error err => .error ⟨err, result⟩)

def onStore (call : StoreCall) : Round call.Value := .call (.store call) (orReturn result)

def onRuntime (op : RuntimeOp) : Round (Except RuntimeError Unit) :=
  .call (.runtime op) (fun answer => .done (.ok answer))

def taskWake : Round Unit := .call .taskWake (fun _ => .done (.ok ()))

def wakeWhen (available : Bool) : Round Unit := if available then taskWake else pure ()

def onTransactions {α : Type} (program : Transactions α) : Round α :=
  (program.lift ProcessCall.store (fun _ answer => answer)).mapError (fun err => ⟨err, result⟩)

def recordIssue (issue : LocalIssue) : Round Bool :=
  .call (.record issue) (fun answer =>
    .done (match answer with
      | .ok created => .ok (result || created)
      | .error err => .error ⟨err.within s!"record local issue {issue.kind}", result⟩))

def optionalObject (stream : Stream) (key : String) : Round (Option ObjectStatus) :=
  .call (.store (.object stream key)) (fun answer =>
    .done (match answer with
      | .ok status => .ok (some status)
      | .error err => if err.isSentinel .notFound then .ok none else .error ⟨err, result⟩))

def optionalStreamVersion (stream : Stream) : Round Version :=
  .call (.store (.stream stream)) (fun answer =>
    .done (match answer with
      | .ok document => .ok document.version
      | .error err => if err.isSentinel .notFound then .ok ⟨0, 0⟩ else .error ⟨err, result⟩))

end Calls

/-- `listenerMap(body)[key]`: the last listener of a key is the one the map keeps. -/
def listenerIn (body : Option ConfigBody) (key : String) : Option Listener :=
  (body.elim [] ConfigBody.listeners).reverse.find? (fun listener => decide (listener.key = key))

def clientIn (body : Option RosterBody) (key : String) : Option Client :=
  (body.elim [] RosterBody.clients).reverse.find? (fun client => decide (client.key = key))

section Tasks

variable (p : Processor)

def identityConflictIssue (err : Error) : LocalIssue :=
  let (taskID, inputDigest) := err.conflict.getD ("unknown", "unknown")
  { kind := p.conformance.issueTaskIdentityConflict
    stream := ""
    key := taskID
    dedupeKey := "task-identity-conflict:" ++ taskID ++ ":" ++ inputDigest
    detail := err.text }

def replayFencedIssue (task : Task) : LocalIssue where
  kind := p.conformance.issueTaskReplayFenced
  stream := ""
  key := task.id
  dedupeKey := s!"task-replay-fenced:{task.id}:{task.inputSHA256}:{task.notAfterMS}"
  detail := "no local task journal and fresh start authorization cannot be proven; no result was fabricated"

def refuseTasks (err : Error) : Round Bool :=
  if err.isSentinel .taskIdentityConflict then
    .call (.record (identityConflictIssue p err)) (fun answer =>
      .done (.error (match answer with
        | .ok _ => ⟨err.within "accept tasks", false⟩
        | .error issueErr => ⟨(err.within "accept tasks").join
            (issueErr.within "record task identity conflict"), false⟩)))
  else throw ⟨err.within "accept tasks", false⟩

def takeAcceptance (accepted : TaskAcceptance) : Round Bool := do
  let result ← Proc.each (fun result task => recordIssue result (replayFencedIssue p task))
    accepted.resultAvailable accepted.replayFenced
  wakeWhen accepted.workAvailable
  return result

def acceptTasks (tasks : List Task) (nowMS : Int) : Round Bool :=
  if tasks = [] then return false
  else if p.hasTaskWake = false then throw ⟨.new "task worker is not configured", false⟩
  else .call (.acceptTasksFenced tasks nowMS) (fun answer =>
    match answer with
    | .ok accepted => takeAcceptance p accepted
    | .error err => refuseTasks p err)

def acceptObject (current : Option ObjectStatus) (stream : Stream) (key : String) (version : Version)
    (nowMS : Int) : Except Error ObjectStatus :=
  p.conformance.advanceObject (current.elim (.unknown stream key) .known) (.accepted version nowMS)

def applyRuntimeResult (status : ObjectStatus) (answer : Except RuntimeError Unit) (nowMS : Int) :
    Except Error ObjectStatus :=
  match answer with
  | .ok _ => p.conformance.advanceObject (.known status) .applied
  | .error err =>
    match rejectionCode err with
    | some code => p.conformance.advanceObject (.known status) (.rejected nowMS code)
    | none => p.conformance.advanceObject (.known status) (.retryableFailure nowMS)

/-- `fmt.Errorf("converge listener %s: %w", …)` and the like. -/
def converging {α : Type} (what key : String) (call : Except Error α) : Except Error α :=
  withError (.within s!"converge {what} {key}") call

variable (result : Bool)

/-- The next status of a listener: an unchanged applied one is not written again, and one
rejected at this version stays rejected. -/
def convergeListener (old : Option ConfigBody) (listener : Listener) (version : Version) (nowMS : Int)
    (current : Option ObjectStatus) (status : ObjectStatus) : Round ObjectStatus :=
  if (listenerIn old listener.key).any (fun previous => decide (previous.config = listener.config)) ∧
      current.any (fun known => decide (known.state = .applied)) then
    orReturn result (converging "listener" listener.key (p.conformance.advanceObject (.known status) .applied))
  else
    match current.filter (fun known => decide (known.state = .rejected ∧ known.sinceVersion = version)) with
    | some known => return known
    | none => do
        let answer ← onRuntime (.upsertListener listener)
        orReturn result (converging "listener" listener.key (applyRuntimeResult p status answer nowMS))

def upsertListener (old : Option ConfigBody) (version : Version) (nowMS : Int) (listener : Listener) :
    Round Unit := do
  onStore result (.ensureListener listener.key nowMS)
  let current ← optionalObject result .config listener.key
  let status ← orReturn result (acceptObject p current .config listener.key version nowMS)
  let next ← convergeListener p result old listener version nowMS current status
  onStore result (.saveObject next nowMS)

def upsertListeners (old : Option ConfigBody) (body : ConfigBody) (version : Version) (nowMS : Int) :
    Round Unit :=
  Proc.each (fun _ listener => upsertListener p result old version nowMS listener) () body.listeners

def removeObject (stream : Stream) (key : String) (version : Version) (nowMS : Int) (remove : RuntimeOp)
    (delete : StoreCall) : Round Bool := do
  let current ← optionalObject result stream key
  let status ← orReturn result (acceptObject p current stream key version nowMS)
  let answer ← onRuntime remove
  let next ← orReturn result (applyRuntimeResult p status answer nowMS)
  if next.state = .applied then do
    let _ ← onStore result delete
    return true
  else do
    onStore result (.saveObject next nowMS)
    return false

def pruneOrphanObjectStates (stream : Stream) (desired kept : List String) : Round Unit := do
  let objects ← onStore result .objects
  Proc.each (fun _ status =>
      if status.stream ≠ stream ∨ status.key ∈ desired ∨ status.key ∈ kept then return ()
      else onStore result (.deleteObject stream status.key))
    () objects

def removeListeners (body : ConfigBody) (version : Version) (nowMS : Int) : Round Unit := do
  let desired := body.listeners.map Listener.key
  let rows ← onStore result .listeners
  let kept ← Proc.each (fun kept row =>
      if row.key ∈ desired then return kept ++ [row.key]
      else do
        let removed ← removeObject p result .config row.key version nowMS (.removeListener row.key)
          (.deleteListener row.key)
        return if removed then kept else kept ++ [row.key])
    [] rows
  pruneOrphanObjectStates result .config desired kept

structure Attachments where
  ready : List String
  unknown : Option String
  blocked : Option String
  waiting : Bool
  deriving DecidableEq, Repr

structure Intake where
  oldConfig : Option ConfigBody
  oldRoster : Option RosterBody
  received : ReceivedDocuments
  configVersion : Version
  rosterVersion : Version
  deriving DecidableEq, Repr

/-- Rounds for which an attachment has been ahead of the stored config. -/
def observeSkew (result : Bool) (ahead : Bool) (referenceKey : String) (version : Version) : Round Int :=
  if ahead then onStore result (.observeReferenceSkew skewRosterConfig referenceKey version)
  else do
    onStore result (.clearReferenceSkew skewRosterConfig referenceKey)
    return 0

def attachmentIssue (client : Client) (referenceKey : String) (version : Version) (issue : Issue) :
    LocalIssue where
  kind := issue.code
  stream := Stream.roster.text
  key := client.key
  dedupeKey := s!"{issue.code}:{referenceKey}:{p.wire.versionText version}"
  detail := issue.detail

def noteIssue (result : Bool) (issue : Option LocalIssue) : Round Bool :=
  match issue with
  | none => return result
  | some issue => recordIssue result issue

def Attachments.add (attachments : Attachments) (key : String) : Disposition → Attachments
  | .ready => { attachments with ready := attachments.ready ++ [key] }
  | .unknownListener => { attachments with unknown := some key }
  | .blockedByListener => { attachments with blocked := some key }
  | .waiting => { attachments with waiting := true }

variable (intake : Intake) (body : RosterBody) (states : List (String × ObjectState))

def evaluateAttachment (client : Client) (state : Attachments × Bool) (key : String) :
    Round (Attachments × Bool) := do
  let referenceKey := client.key ++ "/" ++ key
  let rounds ← observeSkew state.2 (body.minConfigVersion.newer intake.configVersion) referenceKey
    intake.rosterVersion
  let decision ← orReturn state.2 (p.conformance.evaluateAttachment
    { clientKey := client.key
      listenerKey := key
      rosterMinConfig := body.minConfigVersion
      appliedConfig := intake.configVersion
      listenerKnown := (listenerIn intake.received.config key).isSome
      listenerState := (states.find? (fun known => decide (known.1 = key))).map (·.2)
      aheadRounds := rounds
      escalateAfterRounds := p.skewToleranceRounds })
  let result ← noteIssue state.2
    (decision.issue.map (attachmentIssue p client referenceKey intake.rosterVersion))
  return (state.1.add key decision.disposition, result)

def stableClient (client : Client) (status : ObjectStatus) (attachments : Attachments) : Bool :=
  decide (clientIn intake.oldRoster client.key = some client) && !intake.received.configChanged &&
    decide (status.state = .applied) && attachments.unknown.isNone && attachments.blocked.isNone &&
    !attachments.waiting

def appliedClient (status : ObjectStatus) : Except Error ObjectStatus :=
  if status.state = .blocked then do
    let ready ← p.conformance.advanceObject (.known status) .dependencyReady
    p.conformance.advanceObject (.known ready) .applied
  else p.conformance.advanceObject (.known status) .applied

def clientStatus (status : ObjectStatus) (attachments : Attachments) (answer : Except RuntimeError Unit)
    (nowMS : Int) : Except Error ObjectStatus :=
  let failed := match answer with
    | .ok _ => none
    | .error err => some (rejectionCode err)
  match failed, attachments.unknown, attachments.blocked with
  | some (some code), _, _ => p.conformance.advanceObject (.known status) (.rejected nowMS code)
  | _, some _, _ => p.conformance.advanceObject (.known status)
      (.rejected nowMS p.conformance.issueAttachmentUnknownListener)
  | _, none, some key => p.conformance.advanceObject (.known status) (.dependencyBlocked nowMS key)
  | some none, none, none => p.conformance.advanceObject (.known status) (.retryableFailure nowMS)
  | none, none, none =>
    if attachments.waiting then p.conformance.advanceObject (.known status) (.retryableFailure nowMS)
    else appliedClient p status

def upsertClient (client : Client) (status : ObjectStatus) (attachments : Attachments) :
    Round (Except RuntimeError Unit) :=
  if stableClient intake client status attachments then pure (.ok ())
  else onRuntime (.upsertClient { client with listeners := attachments.ready })

def convergeClient (client : Client) (nowMS : Int) (status : ObjectStatus) (result : Bool) : Round Bool := do
  let (attachments, result) ← Proc.each (evaluateAttachment p intake body states client)
    (⟨[], none, none, false⟩, result) client.listeners
  let answer ← upsertClient intake client status attachments
  let next ← orReturn result (converging "client" client.key (clientStatus p status attachments answer nowMS))
  onStore result (.saveObject next nowMS)
  return result

def applyClient (nowMS : Int) (result : Bool) (client : Client) : Round Bool := do
  onStore result (.ensureClient ⟨client.key, client.subject⟩ nowMS)
  let current ← optionalObject result .roster client.key
  let status ← orReturn result (acceptObject p current .roster client.key intake.rosterVersion nowMS)
  if status.state = .rejected ∧ status.sinceVersion = intake.rosterVersion then do
    onStore result (.saveObject status nowMS)
    return result
  else convergeClient p intake body states client nowMS status result

/-- The states of the listeners, in the order of the document; the source ranges over a map. -/
def listenerStates (result : Bool) : Round (List (String × ObjectState)) :=
  Proc.each (fun states listener => do
      let status ← optionalObject result .config listener.key
      return states ++ [(listener.key, status.elim .pending ObjectStatus.state)])
    [] (intake.received.config.elim [] ConfigBody.listeners)

def removeClients (nowMS : Int) (result : Bool) : Round Unit := do
  let desired := body.clients.map Client.key
  let rows ← onStore result .clients
  let kept ← Proc.each (fun kept row =>
      if row.key ∈ desired then return kept ++ [row.key]
      else do
        let removed ← removeObject p result .roster row.key intake.rosterVersion nowMS
          (.removeClient row.key) (.deleteClient row.key)
        return if removed then kept else kept ++ [row.key])
    [] rows
  pruneOrphanObjectStates result .roster desired kept

def applyRoster (nowMS : Int) (result : Bool) : Round Bool := do
  let states ← listenerStates intake result
  let result ← Proc.each (applyClient p intake body states nowMS) result body.clients
  removeClients p intake body nowMS result
  return result

def directivesAheadIssue (body : DirectivesBody) (rosterVersion : Version) (rounds : Int) : LocalIssue where
  kind := "directives_ahead_of_roster"
  stream := Stream.directives.text
  key := ""
  dedupeKey := s!"{p.conformance.issueDirectivesAheadOfRoster}:{p.wire.versionText body.forRosterVersion}"
  detail := s!"directives require roster {p.wire.versionText body.forRosterVersion}; agent has " ++
    s!"{p.wire.versionText rosterVersion} after {rounds} rounds"

def directiveUnknownClientIssue (body : DirectivesBody) (quota : QuotaEntry) : LocalIssue where
  kind := "directive_unknown_client"
  stream := Stream.directives.text
  key := quota.client
  dedupeKey := s!"{p.conformance.issueDirectiveUnknownClient}:{quota.client}:{p.wire.versionText body.forRosterVersion}"
  detail := s!"quota directive names client {quota.client} absent from roster " ++
    p.wire.versionText body.forRosterVersion

def grantOf (quota : QuotaEntry) : QuotaGrant :=
  ⟨quota.baselineBytes, quota.headroomBytes, quota.periodEndsAtMS, quota.nextPeriodHeadroomBytes⟩

def applyQuotaEntry (body : DirectivesBody) (roster : Option RosterBody) (nowMS : Int) (result : Bool)
    (quota : QuotaEntry) : Round Bool :=
  match clientIn roster quota.client with
  | none => recordIssue result (directiveUnknownClientIssue p body quota)
  | some _ => do
      onStore result (.applyQuota quota.client (grantOf quota) nowMS)
      return result

def applyDirectives (body : DirectivesBody) (rosterVersion : Version) (roster : Option RosterBody)
    (nowMS : Int) (result : Bool) : Round Bool :=
  if body.forRosterVersion.newer rosterVersion then do
    let rounds ← onStore result
      (.observeReferenceSkew skewDirectivesRoster Stream.directives.text body.forRosterVersion)
    if rounds > p.skewToleranceRounds then recordIssue result (directivesAheadIssue p body rosterVersion rounds)
    else return result
  else do
    onStore result (.clearReferenceSkew skewDirectivesRoster Stream.directives.text)
    Proc.each (applyQuotaEntry p body roster nowMS) result body.quota

def responseVersion (response : SyncResponse) : Stream → Version
  | .config => response.config.version
  | .roster => response.roster.version
  | .directives => response.directives.version

def segmentIssue (response : SyncResponse) (failure : SegmentFailure) : LocalIssue where
  kind := "segment_rejected"
  stream := failure.stream.text
  key := ""
  dedupeKey := s!"segment:{failure.stream.text}:{p.wire.versionText (responseVersion response failure.stream)}"
  detail := failure.err.text

def openRound (response : SyncResponse) (nowMS : Int) (result : Bool) : Round (Intake × Bool) := do
  let oldConfig ← onTransactions false (optionalStoredBody p.wire.config .config)
  let oldRoster ← onTransactions false (optionalStoredBody p.wire.roster .roster)
  let received ← onTransactions false (receive p.catalog p.wire (fun _ => nowMS) response)
  let result ← Proc.each (fun result failure => recordIssue result (segmentIssue p response failure))
    (result || received.needImmediatePoll) received.failures
  let configVersion ← optionalStreamVersion result .config
  let rosterVersion ← optionalStreamVersion result .roster
  return (⟨oldConfig, oldRoster, received, configVersion, rosterVersion⟩, result)

def materialiseClients (intake : Intake) (nowMS : Int) (result : Bool) : Round Unit :=
  match intake.received.roster with
  | none => return ()
  | some roster =>
    if intake.rosterVersion.zero then return ()
    else Proc.each (fun _ client => onStore result (.ensureClient ⟨client.key, client.subject⟩ nowMS))
      () roster.clients

def grantQuotas (intake : Intake) (nowMS : Int) (result : Bool) : Round Bool :=
  match intake.received.directives with
  | none => return result
  | some directives => applyDirectives p directives intake.rosterVersion intake.received.roster nowMS result

def newRound (result : Bool) : Round Bool :=
  .call .newRound (fun scope => .done (match scope with
    | .unscoped => .ok false
    | .missing => .error ⟨.new "round-scoped runtime returned a nil round", result⟩
    | .shared => .ok true))

def configDocument (intake : Intake) : Option ConfigBody :=
  if intake.configVersion.zero then none else intake.received.config

def rosterDocument (intake : Intake) : Option RosterBody :=
  if intake.rosterVersion.zero then none else intake.received.roster

def convergenceIssue (intake : Intake) (err : RuntimeError) : LocalIssue where
  kind := "core_convergence_failed"
  stream := Stream.config.text
  key := ""
  dedupeKey := s!"core:{p.wire.versionText intake.configVersion}:{p.wire.versionText intake.rosterVersion}"
  detail := err.text

def finalizeRound (intake : Intake) (inRound : Bool) (result : Bool) : Round Bool :=
  if inRound = false then pure result
  else .call (.runtime .finalize) (fun answer =>
    match answer with
    | .ok _ => pure result
    | .error err => recordIssue result (convergenceIssue p intake err))

def upsertConfig (intake : Intake) (nowMS : Int) (result : Bool) : Round Unit :=
  match configDocument intake with
  | none => pure ()
  | some config => upsertListeners p result intake.oldConfig config intake.configVersion nowMS

def convergeRoster (intake : Intake) (nowMS : Int) (result : Bool) : Round Bool :=
  match rosterDocument intake with
  | none => pure result
  | some roster => applyRoster p intake roster nowMS result

def removeConfig (intake : Intake) (nowMS : Int) (result : Bool) : Round Unit :=
  match configDocument intake with
  | none => pure ()
  | some config => removeListeners p result config intake.configVersion nowMS

def convergeDocuments (intake : Intake) (nowMS : Int) (result : Bool) : Round Bool := do
  upsertConfig p intake nowMS result
  let result ← convergeRoster p intake nowMS result
  removeConfig p intake nowMS result
  return result

def timeoutLocalIssue (status : ObjectStatus) (issue : Issue) : LocalIssue where
  kind := issue.code
  stream := status.stream.text
  key := status.key
  dedupeKey := s!"{issue.code}:{status.stream.text}:{status.key}:{p.wire.versionText status.sinceVersion}"
  detail := issue.detail

def recordObjectTimeouts (nowMS : Int) (result : Bool) : Round Bool := do
  let objects ← .call (.store .objects) (fun answer => orReturn result
    (withError (.within "list objects for timeout escalation") answer))
  Proc.each (fun result status => do
      let issue ← orReturn result
        (p.conformance.timeoutIssue status nowMS p.objectIssueTimeoutMS)
      noteIssue result (issue.map (timeoutLocalIssue p status)))
    result objects

def runRound (intake : Intake) (nowMS : Int) (result : Bool) : Round Bool := do
  let inRound ← newRound result
  let result ← convergeDocuments p intake nowMS result
  let result ← finalizeRound p intake inRound result
  recordObjectTimeouts p nowMS result

def wakeHeldTasks : Round Unit := wakeWhen (p.hasTaskClock && p.hasTaskWake)

def requireClock (nowMS : Int) : Except Error Unit :=
  rejectIf (nowMS ≤ 0) (.new "processor clock must be after Unix epoch")

/-- `Process` at a clock reading; it returns `ReportImmediately`. -/
def process (nowMS : Int) (response : SyncResponse) : Round Bool := do
  orReturn false (requireClock nowMS)
  let result ← acceptTasks p response.tasks nowMS
  wakeHeldTasks p
  let (intake, result) ← openRound p response nowMS result
  materialiseClients intake nowMS result
  let result ← grantQuotas p intake nowMS result
  runRound p intake nowMS result

end Tasks

end PasswallNode.Agent
