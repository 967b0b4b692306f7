import PasswallNode.Agent.Validate
import PasswallNode.State.Calls

/-! The receiver: each segment of a response is checked and durably accepted by itself, and
only bytes of this response become a stored version. -/

namespace PasswallNode.Agent

open Foundation Protocol State

structure SegmentFailure where
  stream : Stream
  err : Error
  deriving DecidableEq, Repr

structure ReceivedDocuments where
  config : Option ConfigBody
  roster : Option RosterBody
  directives : Option DirectivesBody
  configChanged : Bool
  rosterChanged : Bool
  directivesChanged : Bool
  needImmediatePoll : Bool
  failures : List SegmentFailure
  deriving DecidableEq, Repr

structure ReceivedSegment (T : Type) where
  body : Option T
  changed : Bool
  needFull : Bool
  failure : Option SegmentFailure
  deriving DecidableEq, Repr

def isValidationError (err : Error) : Bool :=
  err.isSentinel .staleVersion || err.isSentinel .versionConflict || err.isSentinel .invalidState

section Segment

variable {T : Type} (wire : Wire) (codec : Codec T) (validate : Option T → Except Error Unit) (name : Stream)

def loadStoredBody : Transactions T := do
  let doc ← transact (.stream name)
  match codec.unmarshal doc.body with
  | .ok body => return body
  | .error text => throw (.new s!"decode persisted {name.text} body: {text}")

def optionalStoredBody : Transactions (Option T) :=
  tryCatch (do
      let body ← loadStoredBody codec name
      return some body)
    (fun err => if err.isSentinel .notFound then return none else throw err)

variable (segment : Segment T) (current : Option T)

def refused (err : Error) : ReceivedSegment T := ⟨current, false, false, some ⟨name, err⟩⟩

def receiveUnchanged : Transactions (ReceivedSegment T) := do
  let doc ← transact (.stream name)
  if doc.version.epoch < segment.version.epoch then do
    transact (.clearStreamForHigherEpoch name segment.version.epoch)
    return ⟨current, false, true, none⟩
  else if doc.version.newer segment.version then
    return refused name current (.new
      s!"response version {wire.versionText segment.version} is behind applied {wire.versionText doc.version}")
  else if wire.converged doc.etag segment.etag = false then
    return refused name current (.new
      s!"unchanged etag {segment.etag.quote} differs from applied {doc.etag.quote}")
  else return ⟨current, false, false, none⟩

def receiveChanged (body : T) (acceptedAtMS : Int) : Transactions (ReceivedSegment T) :=
  match validate (some body) with
  | .error err => return refused name current err
  | .ok _ =>
    match codec.marshal body with
    | .error text => return refused name current (.new s!"encode body: {text}")
    | .ok bytes =>
      tryCatch (do
          transact (.saveStream ⟨name, segment.version, segment.etag, bytes, acceptedAtMS⟩)
          return ⟨some body, true, false, none⟩)
        (fun err =>
          if err.isSentinel .staleVersion || err.isSentinel .versionConflict ||
              isValidationError err then return refused name current err
          else throw err)

def receiveSegment (acceptedAtMS : Int) : Transactions (ReceivedSegment T) := do
  let current ← optionalStoredBody codec name
  if segment.version.committed = false then
    return refused name current (.new "version must contain a positive epoch and version")
  else if segment.etag = "" then return refused name current (.new "etag is required")
  else if segment.unchanged then
    match segment.body, current with
    | some _, _ => return refused name current (.new "unchanged segment must not carry a body")
    | none, none => return refused name current (.new "unchanged segment has no locally persisted body")
    | none, some _ => receiveUnchanged wire name segment current
  else
    match segment.body with
    | none => return refused name current (.new "changed segment must carry a body")
    | some body => receiveChanged codec validate name segment current body acceptedAtMS

end Segment

variable (catalog : Corecatalog.Catalog) (wire : Wire)

/-- `nowMS` is the reading of the clock for each stream. -/
def receive (nowMS : Stream → Int) (response : SyncResponse) : Transactions ReceivedDocuments := do
  let config ← receiveSegment wire wire.config (validateConfig catalog wire) .config response.config
    (nowMS .config)
  let roster ← receiveSegment wire wire.roster (validateRoster wire) .roster response.roster
    (nowMS .roster)
  let directives ← receiveSegment wire wire.directives (validateDirectives wire) .directives
    response.directives (nowMS .directives)
  return ⟨config.body, roster.body, directives.body, config.changed, roster.changed,
    directives.changed, config.needFull || roster.needFull || directives.needFull,
    config.failure.toList ++ roster.failure.toList ++ directives.failure.toList⟩

end PasswallNode.Agent
