import PasswallNode.Handover.Journal

/-! What an updater is, and what its successor has to be: a clone of it on the agent's image. -/

namespace PasswallNode.Handover

open Foundation Protocol State
open Upgrade (Failure DockerHostConfig officialNodeImage envValue dockerSocket dockerControlDir)

structure Mount where
  type : String
  source : String
  destination : String
  rw : Bool
  deriving DecidableEq, Repr

structure Config where
  image : String
  hostname : String
  cmd : List String
  env : List String
  labels : List (String × String)
  deriving DecidableEq, Repr

/-- `Config` and `HostConfig` are raw JSON, which the source decodes into records and into maps. The records are
`none` where that fails; `hostnameField` is `none` unless `Config` is an object and then holds its `Hostname`
text; `hostFields` are the raw fields of `HostConfig`. A zero `StartedAt` is `none`. -/
structure Container where
  id : String
  image : String
  name : String
  restartCount : Int
  config : Option Config
  hostnameField : Option (Option String)
  hostConfig : Option DockerHostConfig
  hostFields : Option (List (String × String))
  mounts : List Mount
  running : Bool
  paused : Bool
  restarting : Bool
  startedAt : Option Int
  deriving DecidableEq, Repr

/-- Library functions on texts that this development does not look into. -/
structure Texts where
  /-- `filepath.Clean`. -/
  clean : String → String
  /-- `json.Compact`; `none` for a text that is no JSON. -/
  compact : String → Option String
  /-- The hexadecimal SHA-256 digest. -/
  digest : Bytes → String

/-- The options of an updater; a duration that is not positive stands for its default. -/
structure Controller where
  texts : Texts
  docker : Upgrade.DockerHelperController
  version : String
  stabilityWindow : Int
  /-- `runtime.GOARCH`. -/
  architecture : String

def Controller.plain (version : String) : Controller where
  texts := ⟨id, some, fun _ => ""⟩
  docker := ⟨"agent", "agent", 1, 0, id⟩
  version := version
  stabilityWindow := 0
  architecture := "amd64"

def Controller.targetName (c : Controller) : String := c.docker.targetName

def dockerHelperCommand : String := "--run-docker-upgrade-helper"
def dockerTargetContainerEnv : String := "PSP_NODE_UPGRADE_TARGET_CONTAINER"
def dockerTargetAgentIDEnv : String := "PSP_NODE_UPGRADE_TARGET_AGENT_ID"

def containsEnv (values : List String) (key expected : String) : Bool := decide (envValue values key = some expected)

section Paths

variable (texts : Texts)

/-- One host path is, or contains, the other; an empty source overlaps nothing. -/
def pathsOverlap (a b : String) : Bool :=
  let within (inner outer : String) : Bool :=
    decide (inner = outer) || decide (outer = "/") || startsWith (outer ++ "/") inner
  if a = "" ∨ b = "" then false
  else within (texts.clean a) (texts.clean b) || within (texts.clean b) (texts.clean a)

/-- The mounts in order: the first source shared with the agent ends the walk; the last mount at a destination
decides. -/
def walkMounts (agent : List Mount) (agentControl : String) :
    Bool × Bool → List Mount → Except Failure (Bool × Bool)
  | found, [] => .ok found
  | (socket, control), mount :: rest =>
    let socket := if mount.destination = dockerSocket then decide (mount.type = "bind") else socket
    let control := if mount.destination = dockerControlDir then
      (decide (mount.type = "bind") || decide (mount.type = "volume")) && mount.rw &&
        decide (mount.source = agentControl) else control
    match agent.find? (fun theirs => decide (theirs.destination ≠ dockerControlDir) &&
        pathsOverlap texts mount.source theirs.source) with
    | some theirs => .error (.text s!"it shares the agent's {theirs.destination}")
    | none => walkMounts agent agentControl (socket, control) rest

end Paths

namespace Controller

variable (c : Controller)

def isUpdaterContainer (container agent : Container) : Except Failure Unit := do
  let config ← orError container.config (.text "its metadata is invalid")
  let host ← orError container.hostConfig (.text "its metadata is invalid")
  rejectIf (container.id = "" ∨ container.id = agent.id ∨ container.name = "/" ++ c.targetName)
    (.text "it is the agent")
  rejectIf (config.cmd ≠ [dockerHelperCommand]) (.text "it does not run the updater command")
  rejectIf (containsEnv config.env dockerTargetContainerEnv c.targetName = false ∨
    containsEnv config.env dockerTargetAgentIDEnv c.docker.agentID = false) (.text "it does not name this agent")
  rejectIf (host.privileged ∨ host.networkMode = "host") (.text "it is privileged or on the host network")
  rejectIf (officialNodeImage config.image = false) (.text "it does not run the official image")
  -- The source keeps the last mount at the control directory.
  let agentControl := ((agent.mounts.filter (fun mount => mount.destination = dockerControlDir)).getLast?.map
    Mount.source).getD ""
  rejectIf (agentControl = "") (.text "the agent has no control directory to compare with")
  let (socket, control) ← walkMounts c.texts agent.mounts agentControl (false, false) container.mounts
  rejectIf (socket = false) (.text "it does not hold the Docker socket")
  rejectIf (control = false) (.text "it does not bind this agent's control directory, writable")

end Controller

/-- The first twelve bytes. The journal's encoder turns each byte of a character they cut into a replacement
character. -/
def shortID (id : String) : String :=
  if id.utf8ByteSize ≤ 12 then id
  else
    let kept := (dropToBytes 12 id.toList.reverse).reverse
    String.ofList (kept ++ List.replicate (12 - (kept.map Char.utf8Size).foldl Nat.add 0) (Char.ofNat 0xFFFD))

def shortImageID (id : String) : String :=
  shortID (if startsWith "sha256:" id then String.ofList (id.toList.drop 7) else id)

/-- The predecessor's own inspect as the successor's create will clone it: without the hostname
that Docker gave it. -/
def successorSource (self : Container) : Except Failure Container :=
  match self.hostnameField with
  | none => .error (.text "own container configuration is invalid")
  | some hostname =>
    if hostname.isNone ∨ self.id.utf8ByteSize < 12 ∨ hostname ≠ some (shortID self.id) then .ok self
    else .ok { self with
      hostnameField := some none
      config := self.config.map (fun config => { config with hostname := "" }) }

def dockerSecuritySubset : List String :=
  ["Privileged", "NetworkMode", "CapAdd", "CapDrop", "SecurityOpt", "ReadonlyRootfs",
    "PidMode", "IpcMode", "UTSMode", "UsernsMode", "CgroupnsMode",
    "Devices", "DeviceRequests", "Binds", "Mounts", "Tmpfs", "GroupAdd", "RestartPolicy"]

def sameJSON (texts : Texts) (a b : String) : Bool :=
  match texts.compact a, texts.compact b with
  | some left, some right => decide (left = right)
  | _, _ => decide (a = b)

/-- The first security field in which the second `HostConfig` differs from the first. -/
def securitySubsetEqual (texts : Texts) (a b : Container) : Except Failure Unit := do
  let left ← orError a.hostFields (.text "HostConfig is invalid")
  let right ← orError b.hostFields (.text "HostConfig is invalid")
  match dockerSecuritySubset.find? (fun key =>
      match left.lookup key, right.lookup key with
      | some l, some r => !sameJSON texts l r
      | none, none => false
      | _, _ => true) with
  | some key => .error (.text s!"HostConfig.{key} differs")
  | none => .ok ()

def mountKey (mount : Mount) : String :=
  String.intercalate (String.singleton (Char.ofNat 0)) [mount.type, mount.source, mount.destination, toString mount.rw]

def sameMounts (a b : List Mount) : Bool :=
  (a.map mountKey).all (· ∈ b.map mountKey) && (b.map mountKey).all (· ∈ a.map mountKey)

def envKey (entry : String) : String := String.ofList (cut '=' entry.toList).1

def Controller.verifies (c : Controller) (h : DockerHandover) (self agent s : Container) : Except Failure Unit := do
  let config ← orError s.config (.text "its configuration is invalid")
  let selfConfig ← orError self.config (.text "its configuration is invalid")
  rejectIf (s.id ≠ h.successorID ∨ s.name ≠ "/" ++ h.successorName)
    (.text "it is not the container that was created")
  rejectIf (s.image ≠ h.imageID) (.text s!"it runs image {shortImageID s.image}")
  rejectIf (config.cmd ≠ [dockerHelperCommand]) (.text "it does not run the updater command")
  rejectIf (s.startedAt.isSome ∨ s.running) (.text "it has already been started")
  c.isUpdaterContainer s agent
  match selfConfig.env.find? (fun entry => decide (entry ∉ config.env)) with
  | some entry => .error (.text s!"its environment lacks {envKey entry}")
  | none => .ok ()
  securitySubsetEqual c.texts self s
  rejectIf (sameMounts self.mounts s.mounts = false) (.text "its mounts differ")

end PasswallNode.Handover
