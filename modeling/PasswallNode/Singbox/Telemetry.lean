import PasswallNode.Sqlite.CoreTraffic

/-! The subscription of the node to the connection events of sing-box. -/

namespace PasswallNode.Singbox

open Foundation Protocol State Sqlite

structure Connection where
  inbound : String
  user : String
  source : String
  uplinkTotal : Int
  downlinkTotal : Int
  closedAt : Int
  deriving DecidableEq, Repr

structure ConnectionEvent where
  kind : Int
  id : String
  connection : Option Connection
  uplinkDelta : Int
  downlinkDelta : Int
  closedAt : Int
  deriving DecidableEq, Repr

def connectionEventNew : Int := 0
def connectionEventUpdate : Int := 1
def connectionEventClosed : Int := 2

structure ConnectionEvents where
  events : List (Option ConnectionEvent)
  reset : Bool
  deriving DecidableEq, Repr

/-- Whose traffic an inbound tag and a user name stand for in the confirmed deployment. -/
structure TelemetryMapping where
  listenerByTag : String → Option String
  clientByName : String → Option String

structure ConnectionIdentity where
  client : String
  listener : String
  sourceIP : String
  deriving DecidableEq, Repr

abbrev Connections := String → Option ConnectionIdentity

def firstPositive : List Int → Int
  | [] => 0
  | value :: rest => if value > 0 then value else firstPositive rest

/-- What is not looked into: the keys of the protocol, the address in an event, and the unmapped address of a
`host:port` source. -/
structure Parsers where
  wire : Wire
  parseAddr : String → Option String
  sourceAddr : String → Except String String

section Translate

variable (parsers : Parsers) (mapping : TelemetryMapping)

def identifyConnection (value : Connection) : Except Error ConnectionIdentity := do
  let listener ← orError (mapping.listenerByTag value.inbound)
    (.new s!"unknown managed inbound {value.inbound.quote}")
  let client ← orError (mapping.clientByName value.user)
    (.new s!"unknown managed user {value.user.quote}")
  match parsers.sourceAddr value.source with
  | .error text => .error (.new text)
  | .ok sourceIP => .ok ⟨client, listener, sourceIP⟩

def eventIdentity (current : Connections) (event : ConnectionEvent) :
    Except Error ConnectionIdentity :=
  match event.connection with
  | some value =>
    withError (.within s!"connection {event.id}") (identifyConnection parsers mapping value)
  | none => orError (current event.id) (.new s!"connection {event.id} event arrived without metadata")

def absoluteCounters (event : ConnectionEvent) (reason : String) : Except Error Connection := do
  let value ← orError event.connection (.new reason)
  rejectIf (value.uplinkTotal < 0 ∨ value.downlinkTotal < 0) (.new reason)
  .ok value

def translateCounters (event : ConnectionEvent) (identity : ConnectionIdentity) :
    Except Error CoreTrafficEvent :=
  if event.kind = connectionEventNew then do
    let value ← absoluteCounters event
      s!"connection {event.id} new event lacks valid absolute counters"
    .ok ⟨event.id, identity.client, identity.listener, identity.sourceIP, true, value.uplinkTotal,
      value.downlinkTotal, decide (value.closedAt > 0), value.closedAt⟩
  else if event.kind = connectionEventUpdate then
    .ok ⟨event.id, identity.client, identity.listener, identity.sourceIP, false, event.uplinkDelta,
      event.downlinkDelta, false, 0⟩
  else if event.kind = connectionEventClosed then do
    let value ← absoluteCounters event
      s!"connection {event.id} close event lacks valid absolute counters"
    let closedAtMS := firstPositive [event.closedAt, value.closedAt]
    rejectIf (closedAtMS ≤ 0) (.new s!"connection {event.id} close event lacks timestamp")
    .ok ⟨event.id, identity.client, identity.listener, identity.sourceIP, true, value.uplinkTotal,
      value.downlinkTotal, true, closedAtMS⟩
  else .error (.new s!"connection {event.id} has unknown event type {event.kind}")

def remember (current : Connections) (translated : CoreTrafficEvent) (identity : ConnectionIdentity) :
    Connections :=
  fun id => if id = translated.connectionID then
    (if translated.closed then none else some identity) else current id

def translateEvent (current : Connections) (event : Option ConnectionEvent) :
    Except Error (CoreTrafficEvent × Connections) :=
  match event with
  | none => .error (.new "sing-box returned an invalid connection event")
  | some event => do
      rejectIf (trimSpace event.id = "" ∨ event.uplinkDelta < 0 ∨ event.downlinkDelta < 0)
        (.new "sing-box returned an invalid connection event")
      let identity ← eventIdentity parsers mapping current event
      let translated ← translateCounters event identity
      .ok (translated, remember current translated identity)

def translateEvents : Connections → List (Option ConnectionEvent) →
    Except Error (List CoreTrafficEvent × Connections)
  | current, [] => .ok ([], current)
  | current, event :: rest => do
      let (translated, next) ← translateEvent parsers mapping current event
      let (later, final) ← translateEvents next rest
      .ok (translated :: later, final)

def translateConnectionEvents (message : ConnectionEvents) (current : Connections) :
    Except Error (List CoreTrafficEvent × Connections) :=
  translateEvents parsers mapping (if message.reset then fun _ => none else current) message.events

end Translate

structure Subscription where
  identity : String
  mapping : TelemetryMapping
  connections : Connections
  first : Bool

def subscribe (identity : String) (mapping : TelemetryMapping) : Subscription :=
  ⟨identity, mapping, fun _ => none, true⟩

/-- One pass of the loop of `stream`; `running` says whether the status still shows the process. -/
def receiveMessage (parsers : Parsers) (store : TrafficStore) (subscription : Subscription)
    (running : Bool) (message : ConnectionEvents) : Except Error (TrafficStore × Subscription) := do
  rejectIf (subscription.first = true ∧ message.reset = false)
    (.new "initial connection event batch is not a reset snapshot")
  rejectIf (running = false) (.new "running core changed during telemetry stream")
  let (events, next) ←
    translateConnectionEvents parsers subscription.mapping message subscription.connections
  let (store, _) ← applyCoreTrafficEvents parsers.wire parsers.parseAddr store subscription.identity
    message.reset events
  .ok (store, { subscription with connections := next, first := false })

end PasswallNode.Singbox
