import PasswallNode.State
import PasswallNode.Releaseid
import PasswallNode.Foundation.Fallible
import PasswallNode.Foundation.Proc

/-! What the managed upgrade of an agent and the handover of its updater share. -/

namespace PasswallNode.Upgrade

open Foundation Protocol State

/-- An error as the upgrade code tells them apart. -/
inductive Failure where
  | text (message : String)
  | notExist (message : String)
  | cancelled
  | deadlineExceeded
  | task (code : String) (indeterminate : Bool) (message : String)
  | dockerNotFound
  | dockerUnavailable
  | dockerInvalidResponse
  | dockerStatus (code : Nat)
  deriving DecidableEq, Repr

def Failure.message : Failure → String
  | .text message => message
  | .notExist message => message
  | .cancelled => "context canceled"
  | .deadlineExceeded => "context deadline exceeded"
  | .task _ _ message => message
  | .dockerNotFound => "Docker object not found"
  | .dockerUnavailable => "Docker Engine request failed"
  | .dockerInvalidResponse => "Docker Engine response was invalid"
  | .dockerStatus code => "Docker Engine returned HTTP " ++ Nat.repr code

structure DockerHostConfig where
  networkMode : String
  privileged : Bool
  readonlyRootfs : Bool
  deriving DecidableEq, Repr

structure DockerImage where
  id : String
  architecture : String
  os : String
  labels : List (String × String)
  deriving DecidableEq, Repr

def validSHA256 (s : String) : Bool :=
  s.utf8ByteSize = 64 &&
    s.toList.all (fun r => r.isDigit || (decide ('a' ≤ r) && decide (r ≤ 'f')))

structure DockerHelperController where
  targetName : String
  agentID : String
  schema : Int
  /-- How often a wait looks at most before its context ends. -/
  polls : Nat
  /-- `strconv.Quote`. -/
  quote : String → String

def dockerImageRepository : String := "ghcr.io/kazuhahub/passwall-node"
def dockerSocket : String := "/var/run/docker.sock"
def dockerControlDir : String := "/run/passwall-node-upgrades"

def startsWith (start text : String) : Bool := start.toList.isPrefixOf text.toList

def officialNodeImage (reference : String) : Bool :=
  startsWith (dockerImageRepository ++ ":") reference || startsWith (dockerImageRepository ++ "@") reference

/-- `^[A-Za-z0-9][A-Za-z0-9_.-]{0,127}$`. -/
def dockerObjectName (name : String) : Bool :=
  match name.toList with
  | [] => false
  | first :: rest =>
    first.isAlphanum && decide (rest.length ≤ 127) &&
      rest.all (fun c => c.isAlphanum || c = '_' || c = '.' || c = '-')

/-- The value of the first entry for the key, which is the one a process sees. -/
def envValue (values : List String) (key : String) : Option String :=
  values.findSome? fun value =>
    if startsWith (key ++ "=") value then
      some (String.ofList (value.toList.drop (key ++ "=").toList.length))
    else none

end PasswallNode.Upgrade
