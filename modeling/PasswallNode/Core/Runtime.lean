import PasswallNode.Singbox.Compiler
import PasswallNode.State.Calls
import PasswallNode.Xray.Compiler

/-! The core runtime: the durable documents and the local gates become one snapshot, which is
compiled and deployed. -/

namespace PasswallNode.Core

open Foundation Protocol State

inductive Compiler where
  | xray (compiler : Xray.Compiler)
  | singbox (compiler : Singbox.Compiler)
  deriving DecidableEq, Repr

inductive ProcessState where
  | stopped
  | starting
  | running
  | degraded
  deriving DecidableEq, Repr

structure Status where
  state : ProcessState
  engine : String
  version : String
  configDigest : String
  deriving DecidableEq, Repr

structure InstallRequest where
  engine : String
  version : String
  acceptRestricted : Bool
  currentConfiguration : Bytes
  deriving DecidableEq, Repr

structure Installation where
  engine : String
  version : String
  binaryPath : String
  deriving DecidableEq, Repr

structure Deployment where
  artifact : Artifact
  engine : String
  binaryPath : String
  version : String
  deriving DecidableEq, Repr

structure Options where
  catalog : Corecatalog.Catalog
  std : Stdlib
  wire : Wire
  compilerFactory : CoreSelection → Except String Compiler

def defaultCompilerFactory (selection : CoreSelection) : Except String Compiler :=
  if selection.engine ≠ "xray" then .error s!"core engine {selection.engine.quote} is unsupported"
  else .ok (.xray ⟨"", "", "", "", selection.version, selection.allowRestrictedReality⟩)

/-- Options to evaluate examples with, for the listed documents; the factory builds the
Xray compiler. -/
def Options.transparent (configs : List ConfigBody) (rosters : List RosterBody)
    (directives : List DirectivesBody) : Options where
  catalog := ⟨.ok [⟨"xray", "1.0.0", Corecatalog.tierRecommended, true, false,
    Corecatalog.supportSupported, Corecatalog.supportSupported, ""⟩], id⟩
  std := .transparent
  wire := .ofTables configs rosters directives
  compilerFactory := defaultCompilerFactory

inductive RuntimeCall where
  | store (call : StoreCall)
  | coreDeployment
  | saveCoreDeployment (deployment : CoreDeployment)
  | now
  | status
  | install (request : InstallRequest)
  | deploy (deployment : Deployment)
  | wakeExpirySchedule
  deriving DecidableEq, Repr

abbrev RuntimeCall.Answer : RuntimeCall → Type
  | .store call => call.Answer
  | .coreDeployment => Except Error CoreDeployment
  | .saveCoreDeployment _ => Except Error Unit
  | .now => Int
  | .status => Status
  | .install _ => Except String Installation
  | .deploy _ => Except String Unit
  | .wakeExpirySchedule => Unit

abbrev Convergence (α : Type) : Type := Proc RuntimeCall RuntimeCall.Answer Failure α

def ask (call : RuntimeCall) : Convergence call.Answer := .call call (fun answer => .done (.ok answer))

def Failure.ofError (context : String) (err : Error) : Failure := .new (context ++ ": " ++ err.text)

def Failure.ofText (context text : String) : Failure := .new (context ++ ": " ++ text)

section Compile

variable (options : Options)

def Compiler.compile : Compiler → Snapshot → Except Failure Artifact
  | .xray c, snapshot => Xray.compile options.catalog options.std options.wire c snapshot
  | .singbox c, snapshot => Singbox.compile options.std options.wire c snapshot

def resolveSelection (selection : CoreSelection) : Except Failure CoreSelection :=
  if selection.engine = "" ∧ selection.version = "" ∧ selection.allowRestrictedReality = false then do
    let recommended ← failWith (fun err => .new err.text) (Corecatalog.recommended options.catalog "xray")
    .ok ⟨recommended.engine, recommended.version, false⟩
  else do
    rejectIf (trimSpace selection.engine ≠ selection.engine ∨ trimSpace selection.version ≠ selection.version)
      (.new "core engine and version must be canonical")
    let release ← failWith (Failure.ofError "resolve desired core")
      (Corecatalog.resolve options.catalog selection.engine selection.version)
    rejectIf (release.requiresConfirmation ≠ selection.allowRestrictedReality)
      (.new "restricted core acknowledgement does not match the catalog")
    .ok ⟨release.engine, release.version, selection.allowRestrictedReality⟩

def chooseCompiler (config : ConfigBody) : Except Failure (CoreSelection × Compiler) := do
  let selection ← resolveSelection options config.core
  let compiler ← failWith (Failure.ofText s!"construct {selection.engine} compiler")
    (options.compilerFactory selection)
  .ok (selection, compiler)

/-- A closed gate is a local deny; so is a retained grant that the counters have lost. -/
def gateDenies (row : ClientRuntime) : Bool :=
  decide (row.gate = .closed) || (decide (row.gate = .unconfigured) && row.headroomBytes.isSome)

/-- The client as the snapshot has it. The last row of a key is the one the map keeps. -/
def gated (rows : List ClientRuntime) (client : Client) : Client :=
  match rows.reverse.find? (fun row => decide (row.key = client.key)) with
  | none => client
  | some row => if gateDenies row then { client with enabled := false } else client

def snapshotOf (config : ConfigBody) (roster : Option RosterBody) (rows : List ClientRuntime)
    (nowMS : Int) : Snapshot where
  listeners := config.listeners
  clients := (roster.elim [] RosterBody.clients).map (gated rows)
  nowMS := nowMS

def validateArtifact (artifact : Artifact) : Except Failure Unit := do
  rejectIf (artifact.config = []) (.ofText "compiler returned invalid artifact" "configuration is empty")
  rejectIf (artifact.digest ≠ options.std.sha256Hex artifact.config)
    (.ofText "compiler returned invalid artifact"
      s!"digest {artifact.digest.quote} does not match {(options.std.sha256Hex artifact.config).quote}")

def compileSnapshot (compiler : Compiler) (snapshot : Snapshot) : Except Failure Artifact := do
  let artifact ← compiler.compile options snapshot
  validateArtifact options artifact
  .ok artifact

def bodyOf {T : Type} (codec : Codec T) (name : Stream) (stored : Except Error StreamDocument) :
    Except Error T := do
  let document ← stored
  failWith (fun text => .new s!"decode {name.text} body: {text}") (codec.unmarshal document.body)

def optionally {T : Type} : Except Error T → Except Error (Option T)
  | .ok body => .ok (some body)
  | .error err => if err.isSentinel .notFound then .ok none else .error err

def loadBody {T : Type} (codec : Codec T) (name : Stream) : Convergence (Except Error T) := do
  let stored ← ask (.store (.stream name))
  return bodyOf codec name stored

def optionalBody {T : Type} (codec : Codec T) (name : Stream) : Convergence (Except Error (Option T)) := do
  let body ← loadBody codec name
  return optionally body

def loadDesired : Convergence (ConfigBody × Option RosterBody) := do
  let config ← failWith (Failure.ofError "load desired config") (← loadBody options.wire.config .config)
  let roster ← failWith (Failure.ofError "load desired roster") (← optionalBody options.wire.roster .roster)
  return (config, roster)

def takeSnapshot (config : ConfigBody) (roster : Option RosterBody) : Convergence Snapshot := do
  let nowMS ← ask .now
  match roster with
  | none => return snapshotOf config none [] nowMS
  | some roster => do
      let rows ← failWith (Failure.ofError "load local client gates") (← ask (.store .clients))
      return snapshotOf config (some roster) rows nowMS

/-- The documents are encoded again, and the clock is read again. -/
def saveDeployment (selection : CoreSelection) (artifact : Artifact) (config : ConfigBody)
    (roster : Option RosterBody) : Convergence Unit := do
  let configBody ← failWith (Failure.ofText "encode applied config body") (options.wire.config.marshal config)
  let rosterBody ← failWith (Failure.ofText "encode applied roster body")
    (options.wire.roster.marshal (roster.getD ⟨⟨0, 0⟩, [], ⟨0, 0, 0⟩⟩))
  let appliedAtMS ← ask .now
  (rejectIf (appliedAtMS ≤ 0) (.new "runtime clock must be after Unix epoch") : Except Failure Unit)
  failWith (Failure.ofError "record confirmed core deployment")
    (← ask (.saveCoreDeployment ⟨selection.engine, selection.version, artifact.digest, artifact.config,
      configBody, rosterBody, appliedAtMS⟩))
  ask .wakeExpirySchedule

def installAndDeploy (selection : CoreSelection) (artifact : Artifact) : Convergence Unit := do
  let installed ← failWith (Failure.ofText s!"install {selection.engine} {selection.version}")
    (← ask (.install ⟨selection.engine, selection.version, selection.allowRestrictedReality,
      artifact.config⟩))
  (rejectIf (installed.engine ≠ selection.engine ∨ installed.version ≠ selection.version ∨
      installed.binaryPath = "")
    (.new "core installer returned a mismatched installation") : Except Failure Unit)
  failWith (Failure.ofText s!"deploy {selection.engine} {selection.version}")
    (← ask (.deploy ⟨artifact, installed.engine, installed.binaryPath, installed.version⟩))

def alreadyRunning (status : Status) (selection : CoreSelection) (artifact : Artifact) : Bool :=
  decide (status = ⟨.running, selection.engine, selection.version, artifact.digest⟩)

def deployArtifact (selection : CoreSelection) (artifact : Artifact) (config : ConfigBody)
    (roster : Option RosterBody) : Convergence Unit := do
  let status ← ask .status
  if alreadyRunning status selection artifact then
    saveDeployment options selection artifact config roster
  else do
    installAndDeploy selection artifact
    saveDeployment options selection artifact config roster

def converge : Convergence Unit := do
  let (config, roster) ← loadDesired options
  let (selection, compiler) ← chooseCompiler options config
  let snapshot ← takeSnapshot config roster
  let artifact ← compileSnapshot options compiler snapshot
  deployArtifact options selection artifact config roster

/-- The earliest deadline of an enabled client beyond what is processed; zero if there is none. -/
def earliestExpiry (processedThrough : Int) (clients : List Client) : Int :=
  clients.foldl (fun earliest client =>
    if client.enabled = false ∨ client.expiresAtMS ≤ processedThrough then earliest
    else if earliest = 0 ∨ client.expiresAtMS < earliest then client.expiresAtMS
    else earliest) 0

def processedThrough (body : Bytes) : Except Error CoreDeployment → Except Failure Int
  | .ok deployment => .ok (if body = deployment.rosterBody then deployment.appliedAtMS else 0)
  | .error err => if err.isSentinel .notFound then .ok 0 else .error (.new err.text)

def scheduleOf (wire : Wire) (document : StreamDocument) : Convergence (Option Int) := do
  let roster ← failWith (Failure.ofText "decode desired roster") (wire.roster.unmarshal document.body)
  let processed ← processedThrough document.body (← ask .coreDeployment)
  let earliest := earliestExpiry processed roster.clients
  return if earliest = 0 then none else some earliest

def nextExpiry (wire : Wire) : Convergence (Option Int) := do
  match ← ask (.store (.stream .roster)) with
  | .error err => if err.isSentinel .notFound then return none else throw (.new err.text)
  | .ok document => scheduleOf wire document

end Compile

end PasswallNode.Core
