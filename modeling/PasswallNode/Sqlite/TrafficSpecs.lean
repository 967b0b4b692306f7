import PasswallNode.Sqlite.CoreTraffic

/-! What an accepted event, a change of process and an accepted batch do to the journal. -/

namespace PasswallNode.Sqlite

open Foundation Protocol State

inductive Direction where
  | up
  | down
  deriving DecidableEq, Repr

def Direction.of (direction : Direction) (up down : Int) : Int :=
  match direction with
  | .up => up
  | .down => down

def Connection.bytes (direction : Direction) (row : Connection) : Int :=
  direction.of row.upBytes row.downBytes

def Aggregate.bytes (direction : Direction) (row : Aggregate) : Int :=
  direction.of row.upBytes row.downBytes

def eventBytes (direction : Direction) (event : CoreTrafficEvent) : Int :=
  direction.of event.upBytes event.downBytes

theorem Aggregate.bytes_nonneg {row : Aggregate} (passes : checkAggregate row = true)
    (direction : Direction) : 0 ≤ row.bytes direction := by
  simp only [checkAggregate, Bool.and_eq_true, decide_eq_true_eq] at passes
  cases direction
  · exact passes.1
  · exact passes.2

theorem Connection.bytes_nonneg {row : Connection} (passes : checkConnection row = true)
    (direction : Direction) : 0 ≤ row.bytes direction := by
  simp only [checkConnection, Bool.and_eq_true, decide_eq_true_eq] at passes
  cases direction
  · exact passes.1.1
  · exact passes.1.2

def stored (table : AggregateTable) (direction : Direction) (identity key : String) : Int :=
  table.weightAt (Aggregate.bytes direction) (identity, key)

def ledgered (connections : ConnectionTable) (direction : Direction) (identity id : String) : Int :=
  connections.weightAt (Connection.bytes direction) (identity, id)

section Increment

structure Gains (table next : AggregateTable) (identity key : String) (delta : Direction → Int) :
    Prop where
  nonneg : ∀ direction, 0 ≤ delta direction
  bounded : ∀ direction, stored table direction identity key + delta direction ≤ maxInt64
  put : ∃ row, table.put row = some next ∧ row.processIdentity = identity ∧ row.key = key ∧
    ∀ direction, row.bytes direction = stored table direction identity key + delta direction

variable {table next : AggregateTable} {identity key : String} {up down : Int} {delta : Direction → Int}
  {store after : TrafficStore} {event : CoreTrafficEvent}

theorem currentCounters_eq (table : AggregateTable) (direction : Direction) (identity key : String) :
    direction.of (currentCounters (table.find? (identity, key))).1
    (currentCounters (table.find? (identity, key))).2 = stored table direction identity key := by
  unfold stored Table.weightAt currentCounters
  cases table.find? (identity, key) <;> cases direction <;> rfl

theorem incrementCoreAggregate_ok (done : incrementCoreAggregate table identity key up down = .ok next) :
    Gains table next identity key (fun direction => direction.of up down) := by
  unfold incrementCoreAggregate at done
  simp only [bind_eq_ok, orError_eq_ok] at done
  obtain ⟨newUp, uplink, newDown, downlink, put⟩ := done
  obtain ⟨_, upNonneg, upFits, rfl⟩ := addChecked_eq_some.mp uplink
  obtain ⟨_, downNonneg, downFits, rfl⟩ := addChecked_eq_some.mp downlink
  constructor
  · intro direction
    cases direction
    · exact upNonneg
    · exact downNonneg
  · intro direction
    rw [← currentCounters_eq]
    cases direction
    · exact upFits
    · exact downFits
  · refine ⟨_, put, rfl, rfl, ?_⟩
    intro direction
    rw [← currentCounters_eq]
    cases direction <;> rfl

theorem Gains.stored_eq (gains : Gains table next identity key delta) (direction : Direction)
    (other : String) : stored next direction identity other =
    stored table direction identity other + if other = key then delta direction else 0 := by
  obtain ⟨row, put, rfl, rfl, bytes⟩ := gains.put
  have found := Table.find?_put put (row.processIdentity, other)
  by_cases here : other = row.key
  · subst here
    rw [if_pos rfl, ← bytes direction, stored, Table.weightAt, found, if_pos rfl]
  · have apart : (row.processIdentity, row.key) ≠ (row.processIdentity, other) :=
      fun same => here (Prod.mk.inj same).2.symm
    rw [if_neg here, Int.add_zero, stored, stored, Table.weightAt, Table.weightAt, found, if_neg apart]

theorem Gains.weight_eq (gains : Gains table next identity key delta) (direction : Direction) :
    next.weight (Aggregate.bytes direction) = table.weight (Aggregate.bytes direction) + delta direction := by
  obtain ⟨row, put, rfl, rfl, bytes⟩ := gains.put
  have total := Table.weight_put put (Aggregate.bytes direction)
  have moved := bytes direction
  rw [stored] at moved
  omega

theorem Gains.belongs (gains : Gains table next identity key delta)
    (before : ∀ row ∈ table.rows, row.processIdentity = identity) :
    ∀ row ∈ next.rows, row.processIdentity = identity := by
  obtain ⟨written, put, process, _, _⟩ := gains.put
  intro row member
  have found := Table.find?_put put (row.processIdentity, row.key)
  rw [Table.find?_of_mem member] at found
  split at found
  · cases found; exact process
  · exact before row (Table.mem_of_find? found.symm)

/-- An accepted event: the ledger row it writes, and the bytes the two totals gain. -/
structure EventApplied (identity : String) (event : CoreTrafficEvent) (before after : TrafficStore)
    (row : Connection) : Prop where
  stream : after.stream = before.stream
  ledger : before.connections.put row = some after.connections
  process : row.processIdentity = identity
  id : row.connectionID = event.connectionID
  closed : row.closed = event.closed
  clients : Gains before.clients after.clients identity row.clientKey (fun direction =>
    row.bytes direction - ledgered before.connections direction identity event.connectionID)
  listeners : Gains before.listeners after.listeners identity row.listenerKey (fun direction =>
    row.bytes direction - ledgered before.connections direction identity event.connectionID)
  counters : ∀ direction, row.bytes direction = eventBytes direction event +
    if event.absolute then 0 else ledgered before.connections direction identity event.connectionID
  created : before.connections.find? (identity, event.connectionID) = none →
    event.absolute = true ∧ row.clientKey = event.clientKey ∧ row.listenerKey = event.listenerKey
  changed : ∀ old, before.connections.find? (identity, event.connectionID) = some old →
    row.clientKey = old.clientKey ∧ row.listenerKey = old.listenerKey ∧
      (event.clientKey ≠ "" → event.clientKey = old.clientKey) ∧
      (event.listenerKey ≠ "" → event.listenerKey = old.listenerKey) ∧
      (old.closed = true → event.closed = true)
  written : ∃ owner counters,
    connectionOwner (before.connections.find? (identity, event.connectionID)) event = .ok owner ∧
      row = connectionRow identity (before.connections.find? (identity, event.connectionID)) event owner
        counters

theorem connectionOwner_ok {row : Option Connection} {owner : String × String × String}
    (done : connectionOwner row event = .ok owner) :
    (row = none → owner = (event.clientKey, event.listenerKey, event.sourceIP)) ∧
    ∀ old, row = some old → owner = (old.clientKey, old.listenerKey, old.sourceIP) ∧
      (event.clientKey ≠ "" → event.clientKey = old.clientKey) ∧
      (event.listenerKey ≠ "" → event.listenerKey = old.listenerKey) ∧
      (event.sourceIP ≠ "" → event.sourceIP = old.sourceIP) ∧ (old.closed = true → event.closed = true) := by
  unfold connectionOwner at done
  cases row with
  | none =>
    cases done
    exact ⟨fun _ => rfl, fun old impossible => by cases impossible⟩
  | some found =>
    simp only [bind_eq_ok, rejectIf_eq_ok] at done
    obtain ⟨_, same, _, stays, result⟩ := done
    cases result
    refine ⟨fun impossible => (by cases impossible), ?_⟩
    rintro old ⟨⟩
    refine ⟨rfl, ?_, ?_, ?_, ?_⟩
    · intro named
      by_contra differs
      exact same (Or.inl ⟨named, differs⟩)
    · intro named
      by_contra differs
      exact same (Or.inr (Or.inl ⟨named, differs⟩))
    · intro named
      by_contra differs
      exact same (Or.inr (Or.inr ⟨named, differs⟩))
    · intro closed
      by_contra later
      exact stays ⟨closed, by simpa using later⟩

theorem storedCounters_eq (connections : ConnectionTable) (direction : Direction) (identity id : String) :
    direction.of (storedCounters (connections.find? (identity, id))).1
    (storedCounters (connections.find? (identity, id))).2 = ledgered connections direction identity id := by
  unfold ledgered Table.weightAt storedCounters
  cases connections.find? (identity, id) <;> cases direction <;> rfl

theorem nextCounters_ok {connections : ConnectionTable} {counters : Int × Int}
    (done : nextCounters (connections.find? (identity, event.connectionID)) event = .ok counters)
    (direction : Direction) : direction.of counters.1 counters.2 = eventBytes direction event +
    if event.absolute then 0 else ledgered connections direction identity event.connectionID := by
  rw [← storedCounters_eq]
  unfold nextCounters at done
  cases absolute : event.absolute with
  | true =>
    rw [if_neg (by simp [absolute])] at done
    simp only [bind_eq_ok, rejectIf_eq_ok] at done
    obtain ⟨_, _, result⟩ := done
    cases result
    cases direction <;> simp [eventBytes, Direction.of]
  | false =>
    rw [if_pos absolute] at done
    simp only [bind_eq_ok, orError_eq_ok] at done
    obtain ⟨_, uplink, _, downlink, result⟩ := done
    cases result
    obtain ⟨_, _, _, rfl⟩ := addChecked_eq_some.mp uplink
    obtain ⟨_, _, _, rfl⟩ := addChecked_eq_some.mp downlink
    cases direction <;> simp [eventBytes, Direction.of, Int.add_comm]

theorem applyCoreTrafficEvent_ok (done : applyCoreTrafficEvent store identity event = .ok after) :
    ∃ row, EventApplied identity event store after row := by
  unfold applyCoreTrafficEvent at done
  simp only [bind_eq_ok, rejectIf_eq_ok, orError_eq_ok] at done
  obtain ⟨_, known, owner, owned, counters, counted, clients, client, listeners, listener,
    connections, put, result⟩ := done
  cases result
  obtain ⟨fresh, kept⟩ := connectionOwner_ok owned
  have gained : (fun direction : Direction => direction.of
      (counters.1 - (storedCounters (store.connections.find? (identity, event.connectionID))).1)
      (counters.2 - (storedCounters (store.connections.find? (identity, event.connectionID))).2)) =
      fun direction => direction.of counters.1 counters.2 -
        ledgered store.connections direction identity event.connectionID := by
    funext direction
    rw [← storedCounters_eq]
    cases direction <;> rfl
  refine ⟨_, rfl, put, rfl, rfl, ?_, ?_, ?_, nextCounters_ok counted, ?_, ?_, owner, counters, owned, rfl⟩
  · cases found : store.connections.find? (identity, event.connectionID) with
    | none => simp [connectionRow]
    | some old =>
      cases was : old.closed with
      | false => simp [connectionRow, was]
      | true => simp [connectionRow, was, (kept old found).2.2.2.2 was]
  · exact gained ▸ incrementCoreAggregate_ok client
  · exact gained ▸ incrementCoreAggregate_ok listener
  · intro missing
    refine ⟨?_, ?_, ?_⟩
    · by_contra increment
      exact known ⟨missing, by simpa using increment⟩
    · exact congrArg (·.1) (fresh missing)
    · exact congrArg (·.2.1) (fresh missing)
  · intro old found
    obtain ⟨same, client, listener, _, stays⟩ := kept old found
    exact ⟨congrArg (·.1) same, congrArg (·.2.1) same, client, listener, stays⟩

theorem EventApplied.growth_nonneg {row : Connection} (applied : EventApplied identity event store after row)
    (direction : Direction) :
    ledgered store.connections direction identity event.connectionID ≤ row.bytes direction := by
  have gains := applied.clients.nonneg direction
  omega

theorem EventApplied.find_connection {row : Connection}
    (applied : EventApplied identity event store after row) (process id : String) :
    after.connections.find? (process, id) = if process = identity ∧ id = event.connectionID then some row
    else store.connections.find? (process, id) := by
  rw [Table.find?_put applied.ledger, applied.process, applied.id]
  by_cases here : process = identity ∧ id = event.connectionID
  · rw [if_pos here, if_pos (by rw [here.1, here.2])]
  · rw [if_neg here, if_neg]
    intro same
    cases same
    exact here ⟨rfl, rfl⟩

end Increment

section Replacement

variable {table next : AggregateTable} {current identity : String}

def relabel (identity : String) (row : Aggregate) : Aggregate := { row with processIdentity := identity }

theorem carryForward_rows {rows : List Aggregate} (distinct : (rows.map (·.key)).Nodup)
    (free : ∀ row ∈ rows, table.find? (identity, row.key) = none)
    (done : carryForward identity table rows = some next) :
    next.rows = table.rows ++ rows.map (relabel identity) := by
  induction rows generalizing table with
  | nil =>
    cases done
    rw [List.map_nil, List.append_nil]
  | cons row rest ih =>
    obtain ⟨middle, put, continued⟩ := Option.bind_eq_some_iff.mp done
    rw [List.map_cons, List.nodup_cons] at distinct
    have absent : table.find? (identity, row.key) = none := free row List.mem_cons_self
    have appended : middle.rows = table.rows ++ [relabel identity row] := by
      rcases Table.put_rows put with ⟨_, rows⟩ | ⟨old, found, _⟩
      · exact rows
      · cases absent.symm.trans found
    have later : ∀ other ∈ rest, middle.find? (identity, other.key) = none := by
      intro other member
      have apart : (identity, row.key) ≠ (identity, other.key) :=
        fun same => distinct.1 (List.mem_map.mpr ⟨other, member, (Prod.mk.inj same).2.symm⟩)
      rw [Table.find?_put put, if_neg apart]
      exact free other (List.mem_cons_of_mem _ member)
    rw [ih distinct.2 later continued, appended, List.append_assoc, List.map_cons]
    rfl

theorem replaceAggregates_rows (differs : current ≠ identity)
    (belongs : ∀ row ∈ table.rows, row.processIdentity = current)
    (done : replaceAggregates table current identity = some next) :
    next.rows = table.rows.map (relabel identity) := by
  obtain ⟨carried, moved, rfl⟩ := Option.map_eq_some_iff.mp done
  have all : rowsOf table current = table.rows :=
    List.filter_eq_self.mpr (fun row member => decide_eq_true (belongs row member))
  rw [all] at moved
  have distinct : (table.rows.map (·.key)).Nodup := by
    refine List.Nodup.of_map (fun key => (current, key)) ?_
    have same : (table.rows.map (·.key)).map (fun key => (current, key)) =
        table.rows.map (fun row => (row.processIdentity, row.key)) := by
      rw [List.map_map]
      exact List.map_congr_left (fun row member => by simp [belongs row member])
    rw [same]
    exact table.unique
  have free : ∀ row ∈ table.rows, table.find? (identity, row.key) = none := by
    intro row _
    rw [Table.find?_eq_none]
    intro other member same
    exact differs ((belongs other member).symm.trans (Prod.mk.inj same).1)
  have gone : table.rows.filter (fun row => !decide (row.processIdentity ≠ identity)) = [] := by
    rw [List.filter_eq_nil_iff]
    intro row member
    simp [belongs row member, differs]
  have kept : (table.rows.map (relabel identity)).filter
      (fun row => !decide (row.processIdentity ≠ identity)) = table.rows.map (relabel identity) := by
    rw [List.filter_eq_self]
    intro row member
    obtain ⟨old, _, rfl⟩ := List.mem_map.mp member
    simp [relabel]
  simp only [Table.deleteWhere]
  rw [carryForward_rows distinct free moved, List.filter_append, gone, kept, List.nil_append]

variable (differs : current ≠ identity)
  (belongs : ∀ row ∈ table.rows, row.processIdentity = current)
  (done : replaceAggregates table current identity = some next)

include differs belongs done

theorem replaceAggregates_belongs : ∀ row ∈ next.rows, row.processIdentity = identity := by
  intro row member
  rw [replaceAggregates_rows differs belongs done] at member
  obtain ⟨old, _, rfl⟩ := List.mem_map.mp member
  rfl

theorem replaceAggregates_weight (direction : Direction) :
    next.weight (Aggregate.bytes direction) = table.weight (Aggregate.bytes direction) := by
  rw [Table.weight, replaceAggregates_rows differs belongs done, total_map]
  rfl

theorem replaceAggregates_stored (direction : Direction) (key : String) :
    stored next direction identity key = stored table direction current key := by
  have rows := replaceAggregates_rows differs belongs done
  unfold stored Table.weightAt
  cases found : table.find? (current, key) with
  | none =>
    have absent : next.find? (identity, key) = none := by
      rw [Table.find?_eq_none]
      intro row member same
      rw [rows] at member
      obtain ⟨old, present, rfl⟩ := List.mem_map.mp member
      refine Table.find?_eq_none.mp found old present ?_
      rw [belongs old present, ← (Prod.mk.inj same).2]
      rfl
    rw [absent]
  | some row =>
    obtain ⟨member, named⟩ := Table.find?_eq_some.mp found
    have moved : next.find? (identity, key) = some (relabel identity row) := by
      rw [Table.find?_eq_some]
      refine ⟨?_, ?_⟩
      · rw [rows]; exact List.mem_map.mpr ⟨row, member, rfl⟩
      · rw [← (Prod.mk.inj named).2]; rfl
    rw [moved]
    rfl

end Replacement

section Batch

variable {wire : Wire} {parseAddr : String → Option String} {store prepared next : TrafficStore}
  {identity : String} {reset : Bool} {events : List CoreTrafficEvent}

/-- How a batch finds the stream of its process. -/
inductive Prepared (store : TrafficStore) (identity : String) (reset : Bool) : TrafficStore → Prop
  | created : store.stream = none → reset = true →
      Prepared store identity reset { store with stream := some ⟨identity, false⟩ }
  | continued (current : TrafficStream) : store.stream = some current →
      current.processIdentity = identity → (reset = false → current.ready = true) →
      Prepared store identity reset store
  | replaced (current : TrafficStream) (clients listeners : AggregateTable) :
      store.stream = some current → current.processIdentity ≠ identity → reset = true →
      replaceAggregates store.clients current.processIdentity identity = some clients →
      replaceAggregates store.listeners current.processIdentity identity = some listeners →
      Prepared store identity reset ⟨some ⟨identity, false⟩, .empty, clients, listeners⟩

theorem prepareCoreTrafficStream_ok (done : prepareCoreTrafficStream store identity reset = .ok prepared) :
    Prepared store identity reset prepared := by
  unfold prepareCoreTrafficStream at done
  cases stream : store.stream with
  | none =>
    simp only [stream] at done
    split at done
    · cases done
    · rename_i resets
      cases done
      exact .created stream (by simpa using resets)
  | some current =>
    simp only [stream] at done
    split at done
    · rename_i same
      split at done
      · cases done
      · rename_i starts
        cases done
        refine .continued current stream same ?_
        intro follows
        by_contra unready
        exact starts ⟨follows, by simpa using unready⟩
    · rename_i differs
      split at done
      · cases done
      · rename_i resets
        simp only [bind_eq_ok, orError_eq_ok] at done
        obtain ⟨clients, carried, listeners, moved, result⟩ := done
        cases result
        exact .replaced current clients listeners stream differs (by simpa using resets) carried moved

theorem Prepared.follows (ready : Prepared store identity reset prepared) :
    ∃ stream, prepared.stream = some stream ∧ stream.processIdentity = identity := by
  cases ready with
  | created _ _ => exact ⟨_, rfl, rfl⟩
  | continued current stream same _ => exact ⟨current, stream, same⟩
  | replaced current clients listeners _ _ _ _ _ => exact ⟨_, rfl, rfl⟩

def finishBatch (store : TrafficStore) (identity : String) (reset : Bool) : TrafficStore :=
  pruneConnections (if reset = true then markReady store identity else store) identity

theorem applyCoreTrafficEvents_ok
    (done : applyCoreTrafficEvents wire parseAddr store identity reset events = .ok (next, ())) :
    ∃ prepared applied, validateCoreTrafficEvents wire parseAddr reset 0 events = .ok () ∧
    (reset = true → verifyCoreTrafficResetCoverage store identity events = .ok ()) ∧
    Prepared store identity reset prepared ∧ applyEvents prepared identity events = .ok applied ∧
    next = finishBatch applied identity reset := by
  unfold applyCoreTrafficEvents at done
  simp only [bind_eq_ok] at done
  obtain ⟨_, _, _, valid, rest⟩ := done
  cases reset with
  | true =>
    rw [if_pos rfl] at rest
    simp only [bind_eq_ok] at rest
    obtain ⟨_, covered, prepared, prepares, applied, applies, result⟩ := rest
    cases result
    exact ⟨prepared, applied, valid, fun _ => covered, prepareCoreTrafficStream_ok prepares, applies, rfl⟩
  | false =>
    simp only [Bool.false_eq_true, if_false, bind_eq_ok] at rest
    obtain ⟨prepared, prepares, applied, applies, result⟩ := rest
    cases result
    exact ⟨prepared, applied, valid, fun impossible => (by cases impossible),
      prepareCoreTrafficStream_ok prepares, applies, rfl⟩

theorem finishBatch_stream (store : TrafficStore) (identity : String) (reset : Bool) :
    (finishBatch store identity reset).stream =
    (if reset = true then markReady store identity else store).stream := rfl

theorem finishBatch_clients (store : TrafficStore) (identity : String) (reset : Bool) :
    (finishBatch store identity reset).clients = store.clients := by
  cases reset <;> rfl

theorem finishBatch_listeners (store : TrafficStore) (identity : String) (reset : Bool) :
    (finishBatch store identity reset).listeners = store.listeners := by
  cases reset <;> rfl

theorem finishBatch_connections (store : TrafficStore) (identity : String) (reset : Bool) :
    ∃ cond : Connection → Bool, (∀ row, cond row = true → row.closed = true) ∧
    (finishBatch store identity reset).connections = store.connections.deleteWhere cond := by
  cases reset <;> exact ⟨_, fun row dropped => (Bool.and_eq_true_iff.mp (Bool.and_eq_true_iff.mp dropped).1).2, rfl⟩

theorem finishBatch_follows {stream : TrafficStream} (follows : store.stream = some stream)
    (reset : Bool) : ∃ after, (finishBatch store stream.processIdentity reset).stream = some after ∧
    after.processIdentity = stream.processIdentity ∧ after.ready = (stream.ready || reset) := by
  cases reset with
  | false => exact ⟨stream, follows, rfl, by simp⟩
  | true =>
    refine ⟨{ stream with ready := true }, ?_, rfl, by simp⟩
    simp [finishBatch_stream, markReady, follows]

theorem validateCoreTrafficEvent_ok {event : CoreTrafficEvent}
    (valid : validateCoreTrafficEvent wire parseAddr event = .ok ()) :
    event.clientKey ≠ "" ∧ event.listenerKey ≠ "" ∧ ¬(event.upBytes < 0 ∨ event.downBytes < 0 ∨
    event.closedAtMS < 0 ∨ event.closed ≠ decide (event.closedAtMS > 0)) := by
  obtain ⟨_, _, keys⟩ := bind_eq_ok.mp valid
  cases client : wire.clientRowID event.clientKey with
  | error text => rw [client] at keys; cases keys
  | ok clientID =>
    cases listener : wire.listenerRowID event.listenerKey with
    | error text => simp only [client, listener] at keys; cases keys
    | ok listenerID =>
      simp only [client, listener, bind_eq_ok, rejectIf_eq_ok] at keys
      obtain ⟨_, _, counters⟩ := keys
      refine ⟨?_, ?_, counters⟩
      · intro empty
        exact wire.clientRowID_empty clientID (empty ▸ client)
      · intro empty
        exact wire.listenerRowID_empty listenerID (empty ▸ listener)

theorem validateCoreTrafficEvents_ok {reset : Bool} {index : Nat} {events : List CoreTrafficEvent}
    (valid : validateCoreTrafficEvents wire parseAddr reset index events = .ok ()) : ∀ event ∈ events,
    validateCoreTrafficEvent wire parseAddr event = .ok () ∧ (reset = true → event.absolute = true) := by
  induction events generalizing index with
  | nil => intro event member; cases member
  | cons head rest ih =>
    simp only [validateCoreTrafficEvents, bind_eq_ok, withError_eq_ok, rejectIf_eq_ok] at valid
    obtain ⟨_, checked, _, absolute, later⟩ := valid
    intro event member
    rcases List.mem_cons.mp member with rfl | inside
    · exact ⟨checked, by simpa using absolute⟩
    · exact ih later event inside

end Batch

end PasswallNode.Sqlite
