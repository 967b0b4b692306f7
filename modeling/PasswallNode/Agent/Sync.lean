import PasswallNode.Agent.NodeReport
import PasswallNode.Agent.Report
import PasswallNode.Foundation.Interference
import PasswallNode.Sqlite.Transactions

/-! One sync round: a report is built from the database, sent, and what it carried is acknowledged once a
validated response has come back. Anything may happen between two of its calls. -/

namespace PasswallNode.Agent

open Foundation Protocol State Sqlite

structure Envelope where
  computedAtMS : Int
  deriving DecidableEq, Repr

structure Reply where
  envelope : Envelope
  response : SyncResponse
  deriving DecidableEq, Repr

structure CoreStatus where
  engine : String
  version : String
  state : String
  deriving DecidableEq, Repr

/-- `ReportBuilder`; a flag says whether an optional function is set. -/
structure ReportBuilder where
  agentID : String
  agentVersion : String
  coreEngine : String
  coreVersion : String
  coreState : String
  coreStatus : Bool
  capabilities : List String
  capabilitySource : Bool
  outboxLimit : Int
  maxBodyBytes : Int
  deriving DecidableEq, Repr

/-- `Synchronizer`; a flag says whether an optional component is set. -/
structure Synchronizer where
  reports : ReportBuilder
  taskClock : Bool
  onTaskClockError : Bool
  observer : Bool
  localConverger : Bool
  onSynced : Bool
  host : Bool
  stats : Bool
  deriving DecidableEq, Repr

structure SyncResult where
  envelope : Option Envelope
  reportWasFull : Bool
  reportImmediately : Bool
  deriving DecidableEq, Repr

def SyncResult.zero : SyncResult := ⟨none, false, false⟩

inductive SyncCall where
  | now
  | store (call : StoreCall)
  | applyScheduledQuotas (nowMS : Int)
  | pendingOutbox (limit : Int)
  | ackOutbox (ids : List Int)
  | coreStatus
  | capabilitySource
  | collect
  | observe
  | converge
  | capture
  | sync (report : NodeReport)
  | reportWireLimitDropped
  | markSent (sampleID : String)
  | observeClock (computedAtMS requestStarted : Int)
  | taskClockError (err : Error)
  | process (response : SyncResponse)
  | onSynced
  | cancelled
  | recordSuccess
  | recordFailure
  deriving DecidableEq, Repr

abbrev SyncCall.Answer : SyncCall → Type
  | .now => Int
  | .store call => call.Answer
  | .pendingOutbox _ => Except Error OutboxBatch
  | .coreStatus => CoreStatus
  | .capabilitySource => List String
  | .collect => Except Error (Option HostObservation)
  | .observe => Except Error Bool
  | .capture => Except Error Int
  | .sync _ => Except Error Reply
  | .process _ => Bool × Except Error Unit
  | .cancelled => Bool
  | .applyScheduledQuotas _ | .ackOutbox _ | .converge | .observeClock _ _ | .onSynced => Except Error Unit
  | .reportWireLimitDropped | .markSent _ | .taskClockError _ | .recordSuccess | .recordFailure => Unit

abbrev Syncing (α : Type) : Type := Proc SyncCall SyncCall.Answer Error α

/-- An error of a round, what is returned beside it, and whether the round counts as synced. -/
structure SyncFailure where
  err : Error
  result : SyncResult
  synced : Bool
  deriving DecidableEq, Repr

abbrev SyncRound (α : Type) : Type := Proc SyncCall SyncCall.Answer SyncFailure α

def ask {ε : Type} (call : SyncCall) : Proc SyncCall SyncCall.Answer ε call.Answer :=
  .call call (fun answer => .done (.ok answer))

/-- Functions and constants of the protocol package and of `encoding/json` that a round uses. -/
structure SyncLibrary where
  marshal : NodeReport → Except String Bytes
  validateNodeReport : NodeReport → Except String Unit
  validateSyncResponse : Reply → Except String Unit
  maxSyncBodyBytes : Int
  protocolVersion1 : Int
  capabilityTaskExecutionV1 : String

def defaultOutboxBatch : Int := 256

def sortedUniqueStrings (values : List String) : List String :=
  (values.insertionSort (· ≤ ·)).dedup

section Program

variable (lib : SyncLibrary)

def ReportBuilder.bodyLimit (b : ReportBuilder) : Int :=
  if 0 < b.maxBodyBytes then b.maxBodyBytes else lib.maxSyncBodyBytes

def ReportBuilder.limit (b : ReportBuilder) : Int :=
  if b.outboxLimit = 0 then defaultOutboxBatch else b.outboxLimit

def listenerCounters (listener : ListenerRuntime) : ListenerCounters :=
  ⟨listener.key, listener.present, listener.upBytes, listener.downBytes, listener.counterEpoch⟩

def clientCounters (client : ClientRuntime) : ClientCounters :=
  ⟨client.key, client.present, client.upBytes, client.downBytes, client.counterEpoch, client.gate, client.liveIPs⟩

def reportStream (held : List (Stream × StreamState)) (name : Stream) :
    Syncing (List (Stream × StreamState)) := do
  match ← ask (.store (.stream name)) with
  | .ok doc => return held ++ [(name, ⟨doc.version, doc.etag⟩)]
  | .error err =>
    if err.isSentinel .notFound then return held ++ [(name, ⟨⟨0, 0⟩, ""⟩)]
    else throw (err.within s!"build report have.{name.text}")

def enumerate (report : NodeReport) : Syncing NodeReport := do
  let objects ← .done (withError (.within "build report objects") (← ask (.store .objects)))
  let clients ← .done (withError (.within "build report clients") (← ask (.store .clients)))
  let listeners ← .done (withError (.within "build report listeners") (← ask (.store .listeners)))
  return { report with
    objects := some objects
    listenerCounters := some (listeners.map listenerCounters)
    clients := some (clients.map clientCounters) }

def offeredCapabilities (b : ReportBuilder) : Syncing (List String) :=
  if b.capabilitySource then ask .capabilitySource else pure []

def reportedCore (b : ReportBuilder) : Syncing CoreStatus :=
  if b.coreStatus then ask .coreStatus else pure ⟨b.coreEngine, b.coreVersion, b.coreState⟩

def assembleState (b : ReportBuilder) (isPartial : Bool) (nowMS : Int) : Syncing NodeReport := do
  let offered ← offeredCapabilities b
  let status ← reportedCore b
  let held ← Proc.each reportStream [] [Stream.config, .roster, .directives]
  let report : NodeReport :=
    { agentID := b.agentID, protocolVersion := lib.protocolVersion1, reportedAtMS := nowMS
      agentVersion := b.agentVersion
      coreEngine := status.engine, coreVersion := status.version, coreState := status.state
      isPartial := isPartial, held := held
      capabilities := sortedUniqueStrings (lib.capabilityTaskExecutionV1 :: b.capabilities ++ offered)
      objects := none, listenerCounters := none, clients := none, subjects := none
      issues := [], taskResults := [], host := none }
  if isPartial then return report else enumerate report

def attachOutbox (report : NodeReport) (batch : OutboxBatch) (host : Option HostObservation) : NodeReport :=
  { report with issues := distinctIssues batch.issues, taskResults := batch.taskResults, host := host }

def assembleReport (b : ReportBuilder) (isPartial : Bool) (host : Option HostObservation) (nowMS : Int) :
    Syncing BuiltReport := do
  let report ← assembleState lib b isPartial nowMS
  let batch ← .done (withError (.within "build report outbox") (← ask (.pendingOutbox b.limit)))
  let (sent, dropped) ← .done
    (fitReportToWire lib.marshal (attachOutbox report batch host) (!batch.ids.isEmpty) (b.bodyLimit lib))
  return ⟨sent, batch.ids, dropped⟩

/-- `ReportBuilder.Build`. -/
def buildReport (b : ReportBuilder) (isPartial : Bool) (host : Option HostObservation) : Syncing BuiltReport := do
  .done (rejectIf (b.agentID = "") (.new "agent id is required"))
  let nowMS ← ask .now
  .done (withError (.within "advance scheduled quotas") (← ask (.applyScheduledQuotas nowMS)))
  assembleReport lib b isPartial host nowMS

def unsynced {α : Type} (err : Error) : SyncRound α := throw ⟨err, .zero, false⟩

def withOfflineConvergence {α : Type} (s : Synchronizer) (err : Error) : SyncRound α := do
  if s.localConverger = false then unsynced err
  else
    let stopped ← ask .cancelled
    if stopped then unsynced err
    else
      match ← ask .converge with
      | .ok () => unsynced err
      | .error failed => unsynced (err.join (failed.within "converge durable state while PSP is unavailable"))

def hostSample (s : Synchronizer) (includeHost : Bool) : SyncRound (Option HostObservation) := do
  if includeHost && s.host then
    match ← ask .collect with
    | .ok sample => return sample
    | .error err => unsynced err
  else return none

def observeCore (s : Synchronizer) (isPartial : Bool) : SyncRound Unit := do
  if isPartial = false ∧ s.observer then
    match ← ask .observe with
    | .error err => unsynced (err.within "observe core before full report")
    | .ok gateChanged =>
      if gateChanged && s.localConverger then
        match ← ask .converge with
        | .ok () => return ()
        | .error err => unsynced (err.within "converge observed local quota gate")
      else return ()
  else return ()

def settleHost (s : Synchronizer) (built : BuiltReport) (sample : Option HostObservation) : SyncRound Unit := do
  if s.host then
    if built.hostDropped then ask .reportWireLimitDropped
    else
      match sample with
      | some observed => ask (.markSent observed.sampleID)
      | none => return ()
  else return ()

def captureClock (s : Synchronizer) : SyncRound (Except Error Int) :=
  if s.taskClock then ask .capture else pure (.ok 0)

def observeClock (captured : Except Error Int) (computedAtMS : Int) : SyncRound (Except Error Unit) :=
  match captured with
  | .ok started => ask (.observeClock computedAtMS started)
  | .error err => pure (.error err)

def settleClock (s : Synchronizer) (captured : Except Error Int) (computedAtMS : Int) : SyncRound Unit := do
  if s.taskClock then
    match ← observeClock captured computedAtMS with
    | .ok () => return ()
    | .error err => if s.onTaskClockError then ask (.taskClockError err) else return ()
  else return ()

def processReply (s : Synchronizer) (built : BuiltReport) (reply : Reply) : SyncRound SyncResult := do
  let (immediately, outcome) ← ask (.process reply.response)
  let result : SyncResult := ⟨some reply.envelope, !built.report.isPartial, immediately⟩
  match outcome with
  | .error err => throw ⟨err.within "process sync response", result, true⟩
  | .ok () =>
    if s.onSynced then
      match ← ask .onSynced with
      | .error err => throw ⟨err.within "record successful sync", .zero, true⟩
      | .ok () => return result
    else return result

def acknowledge (s : Synchronizer) (built : BuiltReport) : SyncRound Unit := do
  match ← ask (.ackOutbox built.outboxIDs) with
  | .ok () => return ()
  | .error err => withOfflineConvergence s (err.within "acknowledge delivered report outbox")

def exchange (s : Synchronizer) (built : BuiltReport) : SyncRound Reply := do
  match ← ask (.sync built.report) with
  | .error err => withOfflineConvergence s err
  | .ok reply =>
    match lib.validateSyncResponse reply with
    | .ok () => return reply
    | .error text => withOfflineConvergence s (.new s!"validate sync response: {text}")

def syncRound (s : Synchronizer) (isPartial includeHost : Bool) : SyncRound SyncResult := do
  let sample ← hostSample s includeHost
  observeCore s isPartial
  let built ← (buildReport lib s.reports isPartial sample).mapError (fun err => ⟨err, .zero, false⟩)
  match lib.validateNodeReport built.report with
  | .error text => unsynced (.new s!"validate local node report: {text}")
  | .ok () => do
      let captured ← captureClock s
      let reply ← exchange lib s built
      settleHost s built sample
      settleClock s captured reply.envelope.computedAtMS
      acknowledge s built
      processReply s built reply

def syncedBy : Except SyncFailure SyncResult → Bool
  | .ok _ => true
  | .error failure => failure.synced

def recordRound (s : Synchronizer) (outcome : Except SyncFailure SyncResult) : SyncRound Unit := do
  if s.stats then
    if syncedBy outcome then ask .recordSuccess
    else
      let stopped ← ask .cancelled
      if stopped then return () else ask .recordFailure
  else return ()

/-- `SyncOnce`. -/
def syncOnce (s : Synchronizer) (isPartial includeHost : Bool) : SyncRound SyncResult := do
  let outcome ← (syncRound lib s isPartial includeHost).attempt
  recordRound s outcome
  .done outcome

end Program

end PasswallNode.Agent
