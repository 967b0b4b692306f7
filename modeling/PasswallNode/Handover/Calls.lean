import PasswallNode.Handover.Updaters

/-! Every step by which an updater touches the control directory, the lock, the engine and its clocks. -/

namespace PasswallNode.Handover

open Foundation Protocol State
open Upgrade (Failure DockerImage)

/-- What the journal file gives: nothing, a journal, one that does not decode or validate, or
another error of the read. -/
inductive Loaded where
  | absent
  | journal (h : DockerHandover)
  | invalid
  | failed (err : Failure)
  deriving DecidableEq, Repr

/-- `tryLock`, which opens the lock first if it is not open. -/
inductive TriedLock where
  | held
  | busy
  | unusable (err : Failure)
  | failed (err : Failure)
  deriving DecidableEq, Repr

inductive Waited where
  | stopped
  | deadline
  | poll
  deriving DecidableEq, Repr

inductive UpdaterCall where
  -- the engine
  | inspectContainer (name : String)
  | createReplacement (name : String) (source : Container) (image : DockerImage) (reference : String)
  | startContainer (id : String)
  | stopContainer (id : String)
  | renameContainer (id newName : String)
  | removeContainer (id : String) (force : Bool)
  -- the updater directory
  | loadHandover
  | storeHandover (h : DockerHandover)
  | quarantine
  | readStandbyProof
  | tryLock
  | unlock
  -- the agent's request
  | readRequest
  -- this process
  | random
  | now
  | monotonic
  | stopping
  | passes
  | waitPoll
  deriving DecidableEq, Repr

abbrev UpdaterCall.Answer : UpdaterCall → Type
  | .inspectContainer _ => Except Failure Container
  | .createReplacement _ _ _ _ => Except Failure String
  | .startContainer _ | .stopContainer _ | .renameContainer _ _ | .removeContainer _ _ => Except Failure Unit
  | .loadHandover => Loaded
  | .storeHandover _ | .quarantine => Except Failure Unit
  | .readStandbyProof => Except Failure DockerStandbyProof
  | .tryLock => TriedLock
  | .unlock => Unit
  | .readRequest => Except Failure Bytes
  | .random => Except Failure String
  | .now | .monotonic => Int
  | .stopping => Bool
  | .passes => Nat
  | .waitPoll => Waited

def UpdaterCall.refused : (call : UpdaterCall) → call.Answer
  | .inspectContainer _ | .createReplacement _ _ _ _ => .error .dockerUnavailable
  | .startContainer _ | .stopContainer _ | .renameContainer _ _ | .removeContainer _ _ => .error .dockerUnavailable
  | .loadHandover => .failed .cancelled
  | .storeHandover _ | .quarantine | .readStandbyProof | .readRequest | .random => .error .cancelled
  | .tryLock => .busy
  | .unlock => ()
  | .now | .monotonic => 0
  | .stopping => false
  | .passes => 1
  | .waitPoll => .stopped

abbrev Updating (α : Type) : Type := Proc UpdaterCall UpdaterCall.Answer Failure α

def request (call : UpdaterCall) : Updating call.Answer := .call call (fun answer => .done (.ok answer))

def inspect (name : String) : Updating Container := .call (.inspectContainer name) .done

def clock : Updating Int := request .now

section Journal

/-- An unreadable journal counts as none; the lock holder moves it aside. -/
def readHandover (quarantine : Bool) : Updating (Option DockerHandover) :=
  .call .loadHandover (fun loaded =>
    match loaded with
    | .absent => .done (.ok none)
    | .journal h => .done (.ok (some h))
    | .failed err => .done (.error err)
    | .invalid =>
      if quarantine then .call .quarantine (fun moved => .done (moved.map (fun _ => none)))
      else .done (.ok none))

def storeHandover (h : DockerHandover) : Updating Unit := .call (.storeHandover h) .done

def loadHandover : Updating (Option DockerHandover) :=
  .call .loadHandover (fun loaded => .done (match loaded with
    | .absent => .ok none
    | .journal h => .ok (some h)
    | .failed err => .error err
    | .invalid => .error (.text "handover journal is invalid")))

def beginHandover (prev : Option DockerHandover) (next : DockerHandover) : Updating Unit := do
  replaces prev next
  let now ← clock
  numbered prev next now
  storeHandover next

def continueHandover (prev next : DockerHandover) : Updating Unit := do
  movesOn prev next
  storeHandover next

def writeHandover (next : DockerHandover) : Updating Unit := do
  next.validate.mapError (fun err => Failure.text ("handover journal refused: " ++ err.message))
  let prev ← loadHandover
  match prev.filter (fun prev => decide (prev.id = next.id)) with
  | some same => continueHandover same next
  | none => beginHandover prev next

end Journal

end PasswallNode.Handover
