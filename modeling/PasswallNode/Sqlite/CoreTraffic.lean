import Mathlib.Data.List.Dedup
import Mathlib.Data.List.Sort
import PasswallNode.Foundation.Fallible
import PasswallNode.Foundation.Weights
import PasswallNode.Protocol.Documents
import PasswallNode.Sqlite.Store

/-! The traffic journal of a streaming core: a ledger of connections, and totals that outlive it. -/

namespace PasswallNode.Sqlite

open Foundation Protocol State

def retainedClosedCoreConnections : Nat := 2000

structure TrafficStream where
  processIdentity : String
  ready : Bool
  deriving DecidableEq, Repr

structure Connection where
  processIdentity : String
  connectionID : String
  clientKey : String
  listenerKey : String
  sourceIP : String
  upBytes : Int
  downBytes : Int
  closed : Bool
  closedAtMS : Int
  deriving DecidableEq, Repr

def checkConnection (row : Connection) : Bool :=
  decide (0 ≤ row.upBytes) && decide (0 ≤ row.downBytes) && decide (0 ≤ row.closedAtMS)

structure Aggregate where
  processIdentity : String
  key : String
  upBytes : Int
  downBytes : Int
  deriving DecidableEq, Repr

def checkAggregate (row : Aggregate) : Bool :=
  decide (0 ≤ row.upBytes) && decide (0 ≤ row.downBytes)

abbrev ConnectionTable :=
  Table (fun row : Connection => (row.processIdentity, row.connectionID)) checkConnection
abbrev AggregateTable :=
  Table (fun row : Aggregate => (row.processIdentity, row.key)) checkAggregate

structure TrafficStore where
  stream : Option TrafficStream
  connections : ConnectionTable
  clients : AggregateTable
  listeners : AggregateTable

def TrafficStore.fresh : TrafficStore := ⟨none, .empty, .empty, .empty⟩

def validateProcessIdentity (identity : String) : Except Error Unit :=
  rejectIf (trimSpace identity = "" ∨ trimSpace identity ≠ identity ∨ identity.utf8ByteSize > 512)
    (.new "core process identity must contain 1..512 canonical bytes")

def addNonNegative (left right : Int) : Option Int := addChecked left right

section Events

-- The wire parses the keys; `parseAddr` prints a parsed address again.
variable (wire : Wire) (parseAddr : String → Option String)

def validateCoreTrafficEvent (event : CoreTrafficEvent) : Except Error Unit := do
  rejectIf (trimSpace event.connectionID = "" ∨ trimSpace event.connectionID ≠ event.connectionID ∨
      event.connectionID.utf8ByteSize > 128)
    (.new "connection ID must contain 1..128 canonical bytes")
  match wire.clientRowID event.clientKey with
  | .error text => .error (Error.within "client key" (.new text))
  | .ok _ =>
    match wire.listenerRowID event.listenerKey with
    | .error text => .error (Error.within "listener key" (.new text))
    | .ok _ => do
        rejectIf (parseAddr event.sourceIP ≠ some event.sourceIP)
          (.new "source IP must be canonical")
        rejectIf (event.upBytes < 0 ∨ event.downBytes < 0 ∨ event.closedAtMS < 0 ∨
            event.closed ≠ decide (event.closedAtMS > 0))
          (.new "traffic counters and closed timestamp are invalid")

def validateCoreTrafficEvents (reset : Bool) : Nat → List CoreTrafficEvent → Except Error Unit
  | _, [] => .ok ()
  | index, event :: rest => do
      withError (.within s!"core traffic event {index}")
        (validateCoreTrafficEvent wire parseAddr event)
      rejectIf (reset = true ∧ event.absolute = false)
        (.new s!"core traffic event {index}: reset snapshots require absolute events")
      validateCoreTrafficEvents reset (index + 1) rest

end Events

def openConnections (store : TrafficStore) (identity : String) : List Connection :=
  store.connections.rows.filter
    (fun row => decide (row.processIdentity = identity) && !row.closed)

/-- A process that is already followed must list every connection the ledger holds open. -/
def verifyCoreTrafficResetCoverage (store : TrafficStore) (identity : String)
    (events : List CoreTrafficEvent) : Except Error Unit :=
  match store.stream with
  | none => .ok ()
  | some current =>
    if current.processIdentity ≠ identity ∨ current.ready = false then .ok ()
    else
      match (openConnections store identity).find?
          (fun row => decide (row.connectionID ∉ events.map (·.connectionID))) with
      | some row => .error ((Error.ofSentinel .coreTrafficGap).followedBy
          s!"open connection {row.connectionID} is absent from the reset snapshot")
      | none => .ok ()

/-- `INSERT … SELECT … ON CONFLICT DO UPDATE`: the totals of one process under the name of
another. -/
def carryForward (identity : String) (table : AggregateTable) (rows : List Aggregate) :
    Option AggregateTable :=
  rows.foldlM (fun table row => table.put { row with processIdentity := identity }) table

def rowsOf (table : AggregateTable) (identity : String) : List Aggregate :=
  table.rows.filter (fun row => decide (row.processIdentity = identity))

/-- The statements of one table when a process replaces another. -/
def replaceAggregates (table : AggregateTable) (current identity : String) : Option AggregateTable :=
  (carryForward identity table (rowsOf table current)).map
    (fun carried => carried.deleteWhere (fun row => decide (row.processIdentity ≠ identity)))

def prepareCoreTrafficStream (store : TrafficStore) (identity : String) (reset : Bool) :
    Except Error TrafficStore :=
  match store.stream with
  | none =>
    if reset = false then .error (.new "core traffic stream requires an initial reset")
    else .ok { store with stream := some ⟨identity, false⟩ }
  | some current =>
    if current.processIdentity = identity then
      if reset = false ∧ current.ready = false then
        .error (.new "core traffic stream is not initialized")
      else .ok store
    else if reset = false then
      .error (.new "new core process traffic stream requires an initial reset")
    else do
      let clients ← orError (replaceAggregates store.clients current.processIdentity identity)
        (constraintFailed.within "carry forward core client traffic")
      let listeners ← orError (replaceAggregates store.listeners current.processIdentity identity)
        (constraintFailed.within "carry forward core listener traffic")
      .ok ⟨some ⟨identity, false⟩, .empty, clients, listeners⟩

def currentCounters (row : Option Aggregate) : Int × Int :=
  match row with
  | some row => (row.upBytes, row.downBytes)
  | none => (0, 0)

def incrementCoreAggregate (table : AggregateTable) (identity key : String) (up down : Int) :
    Except Error AggregateTable := do
  let current := currentCounters (table.find? (identity, key))
  let newUp ← orError (addNonNegative current.1 up) (.new "core uplink aggregate overflow")
  let newDown ← orError (addNonNegative current.2 down) (.new "core downlink aggregate overflow")
  orError (table.put ⟨identity, key, newUp, newDown⟩)
    (constraintFailed.within "write core traffic aggregate")

/-- Whom a connection belongs to: client, listener and source address. A stored row decides. -/
def connectionOwner (stored : Option Connection) (event : CoreTrafficEvent) :
    Except Error (String × String × String) :=
  match stored with
  | none => .ok (event.clientKey, event.listenerKey, event.sourceIP)
  | some row => do
      rejectIf ((event.clientKey ≠ "" ∧ event.clientKey ≠ row.clientKey) ∨
          (event.listenerKey ≠ "" ∧ event.listenerKey ≠ row.listenerKey) ∨
          (event.sourceIP ≠ "" ∧ event.sourceIP ≠ row.sourceIP))
        (.new "connection identity metadata changed")
      rejectIf (row.closed = true ∧ event.closed = false)
        (.new "closed connection received a later open event")
      .ok (row.clientKey, row.listenerKey, row.sourceIP)

def storedCounters (stored : Option Connection) : Int × Int :=
  match stored with
  | some row => (row.upBytes, row.downBytes)
  | none => (0, 0)

def nextCounters (stored : Option Connection) (event : CoreTrafficEvent) : Except Error (Int × Int) :=
  if event.absolute = false then do
    let up ← orError (addNonNegative (storedCounters stored).1 event.upBytes)
      (.new "connection uplink counter overflow")
    let down ← orError (addNonNegative (storedCounters stored).2 event.downBytes)
      (.new "connection downlink counter overflow")
    .ok (up, down)
  else do
    rejectIf (stored.isSome = true ∧ (event.upBytes < (storedCounters stored).1 ∨
        event.downBytes < (storedCounters stored).2))
      (.new "absolute connection counter moved backwards")
    .ok (event.upBytes, event.downBytes)

def connectionRow (identity : String) (stored : Option Connection) (event : CoreTrafficEvent)
    (owner : String × String × String) (counters : Int × Int) : Connection where
  processIdentity := identity
  connectionID := event.connectionID
  clientKey := owner.1
  listenerKey := owner.2.1
  sourceIP := owner.2.2
  upBytes := counters.1
  downBytes := counters.2
  closed := event.closed || (match stored with | some row => row.closed | none => false)
  closedAtMS :=
    match stored with
    | some row => if event.closedAtMS = 0 ∧ row.closed = true then row.closedAtMS else event.closedAtMS
    | none => event.closedAtMS

def applyCoreTrafficEvent (store : TrafficStore) (identity : String) (event : CoreTrafficEvent) :
    Except Error TrafficStore := do
  let stored := store.connections.find? (identity, event.connectionID)
  rejectIf (stored = none ∧ event.absolute = false)
    (.new "delta arrived before absolute connection metadata")
  let owner ← connectionOwner stored event
  let (up, down) ← nextCounters stored event
  let deltaUp := up - (storedCounters stored).1
  let deltaDown := down - (storedCounters stored).2
  let clients ← incrementCoreAggregate store.clients identity owner.1 deltaUp deltaDown
  let listeners ← incrementCoreAggregate store.listeners identity owner.2.1 deltaUp deltaDown
  let connections ← orError
    (store.connections.put (connectionRow identity stored event owner (up, down)))
    (constraintFailed.within "write connection ledger")
  .ok { store with clients := clients, listeners := listeners, connections := connections }

def applyEvents (store : TrafficStore) (identity : String) (events : List CoreTrafficEvent) :
    Except Error TrafficStore :=
  forEach
    (fun store event =>
      withError (.within s!"apply core traffic connection {event.connectionID}")
        (applyCoreTrafficEvent store identity event))
    store events

/-- `UPDATE core_traffic_stream SET ready = 1 WHERE id = 1 AND process_identity = ?`. -/
def markReady (store : TrafficStore) (identity : String) : TrafficStore :=
  { store with
    stream := store.stream.map
      (fun row => if row.processIdentity = identity then { row with ready := true } else row) }

/-- The closed rows retention keeps: the last ones closed, of equal times the last inserted. -/
def retainedConnections (connections : ConnectionTable) (identity : String) : List Connection :=
  ((connections.rows.filter (fun row => decide (row.processIdentity = identity) && row.closed)).reverse
    |>.insertionSort (fun a b => a.closedAtMS ≥ b.closedAtMS)).take retainedClosedCoreConnections

def pruneConnections (store : TrafficStore) (identity : String) : TrafficStore :=
  let retained := retainedConnections store.connections identity
  { store with
    connections := store.connections.deleteWhere
      (fun row => decide (row.processIdentity = identity) && row.closed && decide (row ∉ retained)) }

def applyCoreTrafficEvents (wire : Wire) (parseAddr : String → Option String) (store : TrafficStore)
    (identity : String) (reset : Bool) (events : List CoreTrafficEvent) :
    Except Error (TrafficStore × Unit) := do
  validateProcessIdentity identity
  validateCoreTrafficEvents wire parseAddr reset 0 events
  if reset = true then verifyCoreTrafficResetCoverage store identity events
  let prepared ← prepareCoreTrafficStream store identity reset
  let applied ← applyEvents prepared identity events
  let marked := if reset = true then markReady applied identity else applied
  .ok (pruneConnections marked identity, ())

def liveIPs (store : TrafficStore) (identity key : String) : List String :=
  (((openConnections store identity).filter (fun row => decide (row.clientKey = key))).map
    (·.sourceIP)).dedup.insertionSort (· ≤ ·)

def notReadySnapshot : CoreTrafficSnapshot := ⟨false, fun _ => none, fun _ => none⟩

def readySnapshot (store : TrafficStore) (identity : String) : CoreTrafficSnapshot where
  ready := true
  clients := fun key =>
    match store.clients.find? (identity, key), liveIPs store identity key with
    | some row, addresses => some ⟨row.upBytes, row.downBytes, addresses⟩
    | none, [] => none
    | none, addresses => some ⟨0, 0, addresses⟩
  listeners := fun key =>
    (store.listeners.find? (identity, key)).map (fun row => ⟨row.upBytes, row.downBytes, []⟩)

def coreTrafficSnapshot (store : TrafficStore) (identity : String) :
    Except Error CoreTrafficSnapshot := do
  validateProcessIdentity identity
  match store.stream with
  | none => .ok notReadySnapshot
  | some current =>
    if current.processIdentity ≠ identity ∨ current.ready = false then .ok notReadySnapshot
    else .ok (readySnapshot store identity)

end PasswallNode.Sqlite
