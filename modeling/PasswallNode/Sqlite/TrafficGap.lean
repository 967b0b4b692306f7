import PasswallNode.Sqlite.TrafficConservation

/-! When a process that keeps running can be followed again after its subscription broke. -/

namespace PasswallNode.Sqlite

open Foundation Protocol State

/-- What the core can still tell of its connections: those open now, and closed ones it has
not forgotten. -/
structure CoreView where
  live : List CoreTrafficEvent
  remembered : List CoreTrafficEvent

structure FaithfulReset (view : CoreView) (events : List CoreTrafficEvent) : Prop where
  live : ∀ event ∈ view.live, event ∈ events
  told : ∀ event ∈ events, event ∈ view.live ++ view.remembered
  once : (events.map (·.connectionID)).Nodup

/-- The core goes on from what the ledger holds: valid snapshots of distinct connections of the same owners,
with counters not below the stored ones, and none open again. -/
structure Continues (wire : Wire) (parseAddr : String → Option String) (store : TrafficStore)
    (identity : String) (view : CoreView) : Prop where
  valid : ∀ event ∈ view.live ++ view.remembered,
    validateCoreTrafficEvent wire parseAddr event = .ok () ∧ event.absolute = true
  distinct : ((view.live ++ view.remembered).map (·.connectionID)).Nodup
  ledger : ∀ event ∈ view.live ++ view.remembered, ∀ row,
    store.connections.find? (identity, event.connectionID) = some row →
      row.clientKey = event.clientKey ∧ row.listenerKey = event.listenerKey ∧
        row.sourceIP = event.sourceIP ∧ row.upBytes ≤ event.upBytes ∧
        row.downBytes ≤ event.downBytes ∧ (row.closed = true → event.closed = true)

def Covered (store : TrafficStore) (identity : String) (view : CoreView) : Prop :=
  ∀ row ∈ openConnections store identity,
    row.connectionID ∈ (view.live ++ view.remembered).map (·.connectionID)

/-- The smallest reset that covers the ledger: the open connections, and the remembered ones
the ledger holds open. -/
def smallestReset (store : TrafficStore) (identity : String) (view : CoreView) :
    List CoreTrafficEvent :=
  view.live ++ view.remembered.filter
    (fun event => decide (event.connectionID ∈ (openConnections store identity).map (·.connectionID)))

def growth (store : TrafficStore) (identity : String) (direction : Direction)
    (event : CoreTrafficEvent) : Int :=
  eventBytes direction event - ledgered store.connections direction identity event.connectionID

def ownerGrowth (owner : CoreTrafficEvent → String) (store : TrafficStore) (identity : String)
    (direction : Direction) (key : String) (events : List CoreTrafficEvent) : Int :=
  total (fun event => if owner event = key then growth store identity direction event else 0) events

def Fits (store : TrafficStore) (identity : String) (now : TrafficStore)
    (events : List CoreTrafficEvent) : Prop :=
  ∀ event ∈ events, ∀ direction,
    stored now.clients direction identity event.clientKey +
        ownerGrowth CoreTrafficEvent.clientKey store identity direction event.clientKey events ≤
      maxInt64 ∧
    stored now.listeners direction identity event.listenerKey +
        ownerGrowth CoreTrafficEvent.listenerKey store identity direction event.listenerKey events ≤
      maxInt64

theorem stored_nonneg (table : AggregateTable) (direction : Direction) (identity key : String) :
    0 ≤ stored table direction identity key := by
  unfold stored Table.weightAt
  cases found : table.find? (identity, key) with
  | none => exact Int.le_refl 0
  | some row => exact Aggregate.bytes_nonneg (Table.check_of_find? found) direction

section Accept

variable {store : TrafficStore} {identity : String} {event : CoreTrafficEvent} {table : AggregateTable} {key : String}
  {rest : List CoreTrafficEvent} {wire : Wire} {parseAddr : String → Option String} {after : TrafficStore}
  {events : List CoreTrafficEvent} {row : Connection} {now : TrafficStore} {view : CoreView}

theorem incrementCoreAggregate_of_le {up down : Int} (upNonneg : 0 ≤ up) (downNonneg : 0 ≤ down)
    (upFits : stored table .up identity key + up ≤ maxInt64)
    (downFits : stored table .down identity key + down ≤ maxInt64) :
    ∃ next, incrementCoreAggregate table identity key up down = .ok next := by
  have currentUp := currentCounters_eq table .up identity key
  have currentDown := currentCounters_eq table .down identity key
  simp only [Direction.of] at currentUp currentDown
  have hadUp := stored_nonneg table .up identity key
  have hadDown := stored_nonneg table .down identity key
  have passes : checkAggregate ⟨identity, key, stored table .up identity key + up,
      stored table .down identity key + down⟩ = true := by
    simp only [checkAggregate, Bool.and_eq_true, decide_eq_true_eq]
    omega
  obtain ⟨next, put⟩ : ∃ next, table.put ⟨identity, key, _, _⟩ = some next := Table.put_of_check passes
  refine ⟨next, ?_⟩
  unfold incrementCoreAggregate
  simp only [bind_eq_ok, orError_eq_ok]
  refine ⟨_, addChecked_of_le (currentUp ▸ hadUp) upNonneg (currentUp ▸ upFits), _,
    addChecked_of_le (currentDown ▸ hadDown) downNonneg (currentDown ▸ downFits), ?_⟩
  rw [currentUp, currentDown]
  exact put

structure Acceptable (store : TrafficStore) (identity : String) (event : CoreTrafficEvent) : Prop where
  absolute : event.absolute = true
  nonneg : 0 ≤ event.upBytes ∧ 0 ≤ event.downBytes ∧ 0 ≤ event.closedAtMS
  ledger : ∀ row, store.connections.find? (identity, event.connectionID) = some row →
    row.clientKey = event.clientKey ∧ row.listenerKey = event.listenerKey ∧
      row.sourceIP = event.sourceIP ∧ row.upBytes ≤ event.upBytes ∧
      row.downBytes ≤ event.downBytes ∧ (row.closed = true → event.closed = true)

theorem Acceptable.growth_nonneg (acceptable : Acceptable store identity event)
    (direction : Direction) : 0 ≤ growth store identity direction event := by
  unfold growth ledgered Table.weightAt
  obtain ⟨up, down, _⟩ := acceptable.nonneg
  cases found : store.connections.find? (identity, event.connectionID) with
  | none =>
    cases direction
    · simpa [eventBytes, Direction.of] using up
    · simpa [eventBytes, Direction.of] using down
  | some row =>
    obtain ⟨_, _, _, up, down, _⟩ := acceptable.ledger row found
    cases direction
    · simpa [eventBytes, Direction.of, Connection.bytes] using up
    · simpa [eventBytes, Direction.of, Connection.bytes] using down

theorem Acceptable.owner (acceptable : Acceptable store identity event) :
    connectionOwner (store.connections.find? (identity, event.connectionID)) event =
    .ok (event.clientKey, event.listenerKey, event.sourceIP) := by
  unfold connectionOwner
  cases found : store.connections.find? (identity, event.connectionID) with
  | none => rfl
  | some row =>
    obtain ⟨client, listener, source, _, _, stays⟩ := acceptable.ledger row found
    simp only [bind_eq_ok, rejectIf_eq_ok]
    refine ⟨(), ?_, (), ?_, by rw [client, listener, source]⟩
    · rintro (⟨_, differs⟩ | ⟨_, differs⟩ | ⟨_, differs⟩)
      · exact differs client.symm
      · exact differs listener.symm
      · exact differs source.symm
    · rintro ⟨closed, later⟩
      rw [stays closed] at later
      cases later

theorem Acceptable.counters (acceptable : Acceptable store identity event) :
    nextCounters (store.connections.find? (identity, event.connectionID)) event =
    .ok (event.upBytes, event.downBytes) := by
  unfold nextCounters
  rw [if_neg (by simp [acceptable.absolute])]
  refine bind_eq_ok.mpr ⟨(), rejectIf_eq_ok.mpr ?_, rfl⟩
  rintro ⟨present, backwards⟩
  obtain ⟨row, found⟩ := Option.isSome_iff_exists.mp present
  obtain ⟨_, _, _, up, down, _⟩ := acceptable.ledger row found
  rw [found] at backwards
  simp only [storedCounters] at backwards
  omega

theorem applyCoreTrafficEvent_of_acceptable (acceptable : Acceptable store identity event)
    (clientRoom : ∀ direction, stored store.clients direction identity event.clientKey +
    growth store identity direction event ≤ maxInt64)
    (listenerRoom : ∀ direction, stored store.listeners direction identity event.listenerKey +
    growth store identity direction event ≤ maxInt64) :
    ∃ after, applyCoreTrafficEvent store identity event = .ok after := by
  have grown : ∀ direction : Direction, direction.of
      (event.upBytes - (storedCounters (store.connections.find? (identity, event.connectionID))).1)
      (event.downBytes - (storedCounters (store.connections.find? (identity, event.connectionID))).2) =
        growth store identity direction event := by
    intro direction
    rw [growth, ← storedCounters_eq]
    cases direction <;> rfl
  have up := grown .up
  have down := grown .down
  simp only [Direction.of] at up down
  obtain ⟨clients, client⟩ := incrementCoreAggregate_of_le (acceptable.growth_nonneg .up)
    (acceptable.growth_nonneg .down) (clientRoom .up) (clientRoom .down)
  obtain ⟨listeners, listener⟩ := incrementCoreAggregate_of_le (acceptable.growth_nonneg .up)
    (acceptable.growth_nonneg .down) (listenerRoom .up) (listenerRoom .down)
  have passes : checkConnection (connectionRow identity
      (store.connections.find? (identity, event.connectionID)) event
      (event.clientKey, event.listenerKey, event.sourceIP) (event.upBytes, event.downBytes)) = true := by
    obtain ⟨upNonneg, downNonneg, closedNonneg⟩ := acceptable.nonneg
    simp only [checkConnection, connectionRow, Bool.and_eq_true]
    refine ⟨⟨decide_eq_true upNonneg, decide_eq_true downNonneg⟩, decide_eq_true ?_⟩
    cases found : store.connections.find? (identity, event.connectionID) with
    | none => exact closedNonneg
    | some row =>
      have held := Table.check_of_find? found
      simp only [checkConnection, Bool.and_eq_true, decide_eq_true_eq] at held
      dsimp only
      split
      · exact held.2
      · exact closedNonneg
  obtain ⟨connections, put⟩ : ∃ next, store.connections.put _ = some next := Table.put_of_check passes
  refine ⟨{ store with clients := clients, listeners := listeners, connections := connections }, ?_⟩
  unfold applyCoreTrafficEvent
  simp only [bind_eq_ok, rejectIf_eq_ok, orError_eq_ok]
  refine ⟨(), ?_, _, acceptable.owner, _, acceptable.counters, clients, ?_, listeners, ?_, connections, put, rfl⟩
  · rintro ⟨_, increment⟩
    rw [acceptable.absolute] at increment
    cases increment
  · rw [up, down]; exact client
  · rw [up, down]; exact listener

theorem EventApplied.owners {event : CoreTrafficEvent} (applied : EventApplied identity event store after row)
    (acceptable : Acceptable store identity event) :
    row.clientKey = event.clientKey ∧ row.listenerKey = event.listenerKey := by
  cases found : store.connections.find? (identity, event.connectionID) with
  | none => exact (applied.created found).2
  | some old =>
    obtain ⟨client, listener, _⟩ := applied.changed old found
    obtain ⟨sameClient, sameListener, _⟩ := acceptable.ledger old found
    exact ⟨client.trans sameClient, listener.trans sameListener⟩

theorem EventApplied.stored_growth {event : CoreTrafficEvent}
    (applied : EventApplied identity event store after row) (acceptable : Acceptable store identity event)
    (direction : Direction) (key : String) :
    stored after.clients direction identity key = stored store.clients direction identity key +
      (if event.clientKey = key then growth store identity direction event else 0) ∧
    stored after.listeners direction identity key = stored store.listeners direction identity key +
      (if event.listenerKey = key then growth store identity direction event else 0) := by
  have bytes : row.bytes direction = eventBytes direction event := by
    rw [applied.counters direction, acceptable.absolute]
    simp
  have owners := applied.owners acceptable
  rw [applied.clients.stored_eq, applied.listeners.stored_eq, bytes, owners.1, owners.2]
  simp only [growth, eq_comm, and_self]

/-- The events still ahead, in a journal that has not touched their connections. -/
structure Ahead (store : TrafficStore) (identity : String) (now : TrafficStore)
    (rest : List CoreTrafficEvent) : Prop where
  acceptable : ∀ event ∈ rest, Acceptable store identity event
  untouched : ∀ event ∈ rest, now.connections.find? (identity, event.connectionID) =
    store.connections.find? (identity, event.connectionID)
  once : (rest.map (·.connectionID)).Nodup

theorem Ahead.here {event : CoreTrafficEvent} (ahead : Ahead store identity now (event :: rest)) :
    Acceptable now identity event ∧
    ∀ direction, growth now identity direction event = growth store identity direction event := by
  have same := ahead.untouched event List.mem_cons_self
  obtain ⟨absolute, nonneg, ledger⟩ := ahead.acceptable event List.mem_cons_self
  refine ⟨⟨absolute, nonneg, fun row found => ledger row (same ▸ found)⟩, ?_⟩
  intro direction
  rw [growth, growth, ledgered, ledgered, Table.weightAt, Table.weightAt, same]

theorem Ahead.next {next : TrafficStore} {event : CoreTrafficEvent}
    (ahead : Ahead store identity now (event :: rest)) (applied : EventApplied identity event now next row) :
    Ahead store identity next rest := by
  have once := ahead.once
  rw [List.map_cons, List.nodup_cons] at once
  refine ⟨fun later member => ahead.acceptable later (List.mem_cons_of_mem _ member), ?_, once.2⟩
  intro later member
  have apart : later.connectionID ≠ event.connectionID :=
    fun same => once.1 (List.mem_map.mpr ⟨later, member, same⟩)
  rw [applied.find_connection, if_neg (fun both => apart both.2)]
  exact ahead.untouched later (List.mem_cons_of_mem _ member)

theorem applyEvents_growth (ahead : Ahead store identity now events)
    (done : applyEvents now identity events = .ok after) (direction : Direction) (key : String) :
    stored after.clients direction identity key = stored now.clients direction identity key +
      ownerGrowth CoreTrafficEvent.clientKey store identity direction key events ∧
    stored after.listeners direction identity key = stored now.listeners direction identity key +
      ownerGrowth CoreTrafficEvent.listenerKey store identity direction key events := by
  induction events generalizing now with
  | nil =>
    cases done
    simp [ownerGrowth]
  | cons event rest ih =>
    obtain ⟨middle, step, continued⟩ := bind_eq_ok.mp done
    obtain ⟨row, applied⟩ := applyEvents_step step
    obtain ⟨acceptable, grows⟩ := ahead.here
    have first := applied.stored_growth acceptable direction key
    have later := ih (ahead.next applied) continued
    rw [grows direction] at first
    rw [later.1, later.2, first.1, first.2]
    simp only [ownerGrowth, total_cons]
    omega

theorem ownerGrowth_nonneg (owner : CoreTrafficEvent → String)
    (acceptable : ∀ event ∈ events, Acceptable store identity event) (direction : Direction)
    (key : String) : 0 ≤ ownerGrowth owner store identity direction key events := by
  apply total_nonneg
  intro event member
  split
  · exact (acceptable event member).growth_nonneg direction
  · exact Int.le_refl 0

theorem Gains.in_range {next : AggregateTable} {delta : Direction → Int}
    (gains : Gains table next identity key delta) (direction : Direction) {other : String}
    (before : stored table direction identity other ≤ maxInt64 ∨ other = key) :
    stored next direction identity other ≤ maxInt64 := by
  rw [gains.stored_eq]
  by_cases here : other = key
  · rw [if_pos here, here]
    exact gains.bounded direction
  · rw [if_neg here, Int.add_zero]
    exact before.resolve_right here

theorem applyEvents_bounded (ahead : Ahead store identity now events)
    (done : applyEvents now identity events = .ok after) (direction : Direction) (key : String) :
    ((stored now.clients direction identity key ≤ maxInt64 ∨ key ∈ events.map (·.clientKey)) →
      stored after.clients direction identity key ≤ maxInt64) ∧
    ((stored now.listeners direction identity key ≤ maxInt64 ∨ key ∈ events.map (·.listenerKey)) →
      stored after.listeners direction identity key ≤ maxInt64) := by
  induction events generalizing now with
  | nil =>
    cases done
    simp
  | cons event rest ih =>
    obtain ⟨middle, step, continued⟩ := bind_eq_ok.mp done
    obtain ⟨row, applied⟩ := applyEvents_step step
    obtain ⟨acceptable, _⟩ := ahead.here
    obtain ⟨client, listener⟩ := applied.owners acceptable
    have later := ih (ahead.next applied) continued
    refine ⟨fun before => later.1 ?_, fun before => later.2 ?_⟩
    · rw [List.map_cons, List.mem_cons, ← client] at before
      rcases before with small | here | inside
      · exact Or.inl (applied.clients.in_range direction (Or.inl small))
      · exact Or.inl (applied.clients.in_range direction (Or.inr here))
      · exact Or.inr inside
    · rw [List.map_cons, List.mem_cons, ← listener] at before
      rcases before with small | here | inside
      · exact Or.inl (applied.listeners.in_range direction (Or.inl small))
      · exact Or.inl (applied.listeners.in_range direction (Or.inr here))
      · exact Or.inr inside

theorem applyEvents_iff (ahead : Ahead store identity store events) :
    (∃ after, applyEvents store identity events = .ok after) ↔ Fits store identity store events := by
  constructor
  · rintro ⟨after, done⟩ event member direction
    have clients := applyEvents_growth ahead done direction event.clientKey
    have listeners := applyEvents_growth ahead done direction event.listenerKey
    rw [← clients.1, ← listeners.2]
    exact ⟨(applyEvents_bounded ahead done direction _).1
        (Or.inr (List.mem_map.mpr ⟨event, member, rfl⟩)),
      (applyEvents_bounded ahead done direction _).2 (Or.inr (List.mem_map.mpr ⟨event, member, rfl⟩))⟩
  · intro fits
    refine forEach_succeeds
      (fun now rest => Ahead store identity now rest ∧ Fits store identity now rest) ?_ ⟨ahead, fits⟩
    rintro now event rest ⟨ahead, fits⟩
    obtain ⟨acceptable, grows⟩ := ahead.here
    have others : ∀ later ∈ rest, Acceptable store identity later :=
      fun later member => ahead.acceptable later (List.mem_cons_of_mem _ member)
    have room := fits event List.mem_cons_self
    simp only [ownerGrowth, total_cons, if_true] at room
    obtain ⟨next, done⟩ := applyCoreTrafficEvent_of_acceptable acceptable
      (fun direction => by
        have rest := ownerGrowth_nonneg CoreTrafficEvent.clientKey others direction event.clientKey
        have bound := (room direction).1
        rw [grows direction]
        unfold ownerGrowth at rest
        omega)
      (fun direction => by
        have rest := ownerGrowth_nonneg CoreTrafficEvent.listenerKey others direction event.listenerKey
        have bound := (room direction).2
        rw [grows direction]
        unfold ownerGrowth at rest
        omega)
    obtain ⟨row, applied⟩ := applyCoreTrafficEvent_ok done
    refine ⟨next, withError_eq_ok.mpr done, ahead.next applied, ?_⟩
    intro later member direction
    have bound := fits later (List.mem_cons_of_mem _ member) direction
    have client := (applied.stored_growth acceptable direction later.clientKey).1
    have listener := (applied.stored_growth acceptable direction later.listenerKey).2
    rw [grows direction] at client listener
    simp only [ownerGrowth, total_cons] at bound ⊢
    omega

theorem validateCoreTrafficEvent_nonneg {event : CoreTrafficEvent}
    (valid : validateCoreTrafficEvent wire parseAddr event = .ok ()) :
    0 ≤ event.upBytes ∧ 0 ≤ event.downBytes ∧ 0 ≤ event.closedAtMS := by
  have ⟨_, _, counters⟩ := validateCoreTrafficEvent_ok valid
  omega

theorem validateCoreTrafficEvents_of_forall {reset : Bool} {index : Nat}
    (valid : ∀ event ∈ events, validateCoreTrafficEvent wire parseAddr event = .ok () ∧ event.absolute = true) :
    validateCoreTrafficEvents wire parseAddr reset index events = .ok () := by
  induction events generalizing index with
  | nil => rfl
  | cons event rest ih =>
    obtain ⟨here, absolute⟩ := valid event List.mem_cons_self
    simp only [validateCoreTrafficEvents, bind_eq_ok, withError_eq_ok, rejectIf_eq_ok]
    exact ⟨(), here, (), by simp [absolute], ih (fun later member => valid later (List.mem_cons_of_mem _ member))⟩

theorem coreTrafficSnapshot_ready {snapshot : CoreTrafficSnapshot}
    (done : coreTrafficSnapshot store identity = .ok snapshot) (ready : snapshot.ready = true) :
    validateProcessIdentity identity = .ok () ∧ store.stream = some ⟨identity, true⟩ := by
  obtain ⟨_, valid, read⟩ := bind_eq_ok.mp done
  refine ⟨valid, ?_⟩
  cases stream : store.stream with
  | none => rw [stream] at read; cases read; cases ready
  | some current =>
    simp only [stream] at read
    split at read
    · cases read; cases ready
    · rename_i follows
      obtain ⟨process, started⟩ := current
      simp only [ne_eq, not_or, not_not, Bool.not_eq_false] at follows
      rw [follows.1, follows.2]

theorem verifyCoreTrafficResetCoverage_iff (follows : store.stream = some ⟨identity, true⟩) :
    verifyCoreTrafficResetCoverage store identity events = .ok () ↔
    ∀ row ∈ openConnections store identity, row.connectionID ∈ events.map (·.connectionID) := by
  unfold verifyCoreTrafficResetCoverage
  simp only [follows, ne_eq, not_true_eq_false, Bool.true_eq_false, or_self, if_false]
  cases missing : (openConnections store identity).find?
      (fun row => decide (row.connectionID ∉ events.map (·.connectionID))) with
  | none =>
    refine ⟨fun _ row member => ?_, fun _ => rfl⟩
    have listed := List.find?_eq_none.mp missing row member
    simpa using listed
  | some row =>
    refine ⟨fun impossible => (by cases impossible), fun covered => ?_⟩
    have absent := List.find?_some missing
    exact absurd (covered row (List.mem_of_find?_eq_some missing)) (by simpa using absent)

/-- A reset of the process the journal follows, made of snapshots the ledger does not
contradict, fails for two reasons only. -/
theorem applyCoreTrafficEvents_reset_iff (valid : validateProcessIdentity identity = .ok ())
    (follows : store.stream = some ⟨identity, true⟩)
    (events_valid : ∀ event ∈ events, validateCoreTrafficEvent wire parseAddr event = .ok () ∧
    event.absolute = true) (ahead : Ahead store identity store events) :
    (∃ next, applyCoreTrafficEvents wire parseAddr store identity true events = .ok (next, ())) ↔
    (∀ row ∈ openConnections store identity, row.connectionID ∈ events.map (·.connectionID)) ∧
      Fits store identity store events := by
  rw [← applyEvents_iff ahead, ← verifyCoreTrafficResetCoverage_iff follows]
  constructor
  · rintro ⟨next, done⟩
    obtain ⟨prepared, applied, _, covered, ready, applies, _⟩ := applyCoreTrafficEvents_ok done
    refine ⟨covered rfl, applied, ?_⟩
    cases ready with
    | created none _ => rw [follows] at none; cases none
    | continued current _ _ _ => exact applies
    | replaced current clients listeners stream differs _ _ _ =>
      rw [follows] at stream
      cases stream
      exact absurd rfl differs
  · rintro ⟨covered, applied, applies⟩
    have prepares : prepareCoreTrafficStream store identity true = .ok store := by
      simp [prepareCoreTrafficStream, follows]
    refine ⟨pruneConnections (markReady applied identity) identity, ?_⟩
    unfold applyCoreTrafficEvents
    simp only [if_true]
    refine bind_eq_ok.mpr ⟨(), valid, bind_eq_ok.mpr
      ⟨(), validateCoreTrafficEvents_of_forall events_valid, bind_eq_ok.mpr ⟨(), covered, ?_⟩⟩⟩
    exact bind_eq_ok.mpr ⟨store, prepares, bind_eq_ok.mpr ⟨applied, applies, rfl⟩⟩

theorem Continues.ahead (continues : Continues wire parseAddr store identity view)
    (faithful : FaithfulReset view events) : Ahead store identity store events where
  acceptable := by
    intro event member
    have told := faithful.told event member
    obtain ⟨valid, absolute⟩ := continues.valid event told
    exact ⟨absolute, validateCoreTrafficEvent_nonneg valid, continues.ledger event told⟩
  untouched := fun _ _ => rfl
  once := faithful.once

theorem smallestReset_sublist (store : TrafficStore) (identity : String) (view : CoreView) :
    (smallestReset store identity view).Sublist (view.live ++ view.remembered) :=
  (List.Sublist.refl view.live).append List.filter_sublist

theorem smallestReset_faithful (continues : Continues wire parseAddr store identity view) :
    FaithfulReset view (smallestReset store identity view) where
  live := fun _ member => List.mem_append_left _ member
  told := fun _ member => (smallestReset_sublist store identity view).subset member
  once := continues.distinct.sublist ((smallestReset_sublist store identity view).map _)

theorem smallestReset_covers (covered : Covered store identity view) : ∀ row ∈ openConnections store identity,
    row.connectionID ∈ (smallestReset store identity view).map (·.connectionID) := by
  intro row member
  obtain ⟨event, told, same⟩ := List.mem_map.mp (covered row member)
  refine List.mem_map.mpr ⟨event, ?_, same⟩
  rcases List.mem_append.mp told with live | remembered
  · exact List.mem_append_left _ live
  · refine List.mem_append_right _ (List.mem_filter.mpr ⟨remembered, decide_eq_true ?_⟩)
    exact List.mem_map.mpr ⟨row, member, same.symm⟩

theorem smallestReset_subset (continues : Continues wire parseAddr store identity view)
    (faithful : FaithfulReset view events)
    (covers : ∀ row ∈ openConnections store identity, row.connectionID ∈ events.map (·.connectionID)) :
    smallestReset store identity view ⊆ events := by
  intro event member
  rcases List.mem_append.mp member with live | filtered
  · exact faithful.live event live
  · obtain ⟨remembered, held⟩ := List.mem_filter.mp filtered
    obtain ⟨row, present, same⟩ := List.mem_map.mp (of_decide_eq_true held)
    obtain ⟨listed, inside, named⟩ := List.mem_map.mp (covers row present)
    have equal : listed = event :=
      List.inj_on_of_nodup_map continues.distinct (faithful.told listed inside)
        (List.mem_append_right _ remembered) (named.trans same)
    rwa [← equal]

theorem fits_of_subset {fewer : List CoreTrafficEvent} (ahead : Ahead store identity store events)
    (distinct : fewer.Nodup) (inside : fewer ⊆ events) (fits : Fits store identity store events) :
    Fits store identity store fewer := by
  have smaller : ∀ owner direction key, ownerGrowth owner store identity direction key fewer ≤
      ownerGrowth owner store identity direction key events := by
    intro owner direction key
    refine total_le_of_subset distinct inside ?_
    intro event member
    split
    · exact (ahead.acceptable event member).growth_nonneg direction
    · exact Int.le_refl 0
  intro event member direction
  have bound := fits event (inside member) direction
  have client := smaller CoreTrafficEvent.clientKey direction event.clientKey
  have listener := smaller CoreTrafficEvent.listenerKey direction event.listenerKey
  omega

/-- While a process is reported ready, some faithful reset of it is accepted exactly when the
core can still tell of every connection the ledger holds open, and the totals have room. -/
theorem followed_again_iff
    (ready : ∃ snapshot, coreTrafficSnapshot store identity = .ok snapshot ∧ snapshot.ready = true)
    (continues : Continues wire parseAddr store identity view) :
    (∃ events, FaithfulReset view events ∧
        ∃ next, applyCoreTrafficEvents wire parseAddr store identity true events = .ok (next, ())) ↔
      Covered store identity view ∧
        Fits store identity store (smallestReset store identity view) := by
  obtain ⟨snapshot, done, isReady⟩ := ready
  obtain ⟨valid, follows⟩ := coreTrafficSnapshot_ready done isReady
  constructor
  · rintro ⟨events, faithful, accepted⟩
    have ahead := continues.ahead faithful
    obtain ⟨covers, fits⟩ := (applyCoreTrafficEvents_reset_iff valid follows
      (fun event member => continues.valid event (faithful.told event member)) ahead).mp accepted
    constructor
    · intro row member
      obtain ⟨event, inside, same⟩ := List.mem_map.mp (covers row member)
      exact List.mem_map.mpr ⟨event, faithful.told event inside, same⟩
    · exact fits_of_subset ahead (smallestReset_faithful continues).once.of_map
        (smallestReset_subset continues faithful covers) fits
  · rintro ⟨covered, fits⟩
    have faithful := smallestReset_faithful continues
    refine ⟨_, faithful, (applyCoreTrafficEvents_reset_iff valid follows
      (fun event member => continues.valid event (faithful.told event member))
      (continues.ahead faithful)).mpr ⟨smallestReset_covers covered, fits⟩⟩

def singleConnection (up : Int) (closedAtMS : Int) : CoreTrafficEvent :=
  ⟨"id", "cli_1", "lst_1", "192.0.2.1", true, up, 0, decide (closedAtMS > 0), closedAtMS⟩

def openedJournal : TrafficStore :=
  journal (.ofTables [] [] []) some .fresh ⟨"process", true, [singleConnection 5 0]⟩

theorem remembered_close_followed_again :
    ∃ events, FaithfulReset ⟨[], [singleConnection 7 100]⟩ events ∧
      ∃ next, applyCoreTrafficEvents (.ofTables [] [] []) some openedJournal "process" true events =
        .ok (next, ()) := by
  refine (followed_again_iff ⟨_, rfl, rfl⟩ ?_).mpr ⟨by unfold Covered; decide, ?_⟩
  · constructor
    · decide
    · decide
    · intro event member row found
      rw [List.nil_append, List.mem_singleton] at member
      subst member
      cases found
      decide
  · intro event member direction
    cases direction <;> revert event <;> decide

/-- The core has forgotten the connection: no reset without it is accepted, whatever else it lists, and the
journal stays ready. -/
theorem forgotten_connection_freezes :
    (∃ snapshot, coreTrafficSnapshot openedJournal "process" = .ok snapshot ∧ snapshot.ready = true) ∧
      Continues (.ofTables [] [] []) some openedJournal "process" ⟨[], []⟩ ∧
      ∀ events : List CoreTrafficEvent, (∀ event ∈ events, event.connectionID ≠ "id") →
        (∃ err, applyCoreTrafficEvents (.ofTables [] [] []) some openedJournal "process" true events = .error err) ∧
        journal (.ofTables [] [] []) some openedJournal ⟨"process", true, events⟩ = openedJournal := by
  refine ⟨⟨_, rfl, rfl⟩, ⟨by decide, by decide, by simp⟩, ?_⟩
  intro events forgotten
  have opens : (openConnections openedJournal "process").map (·.connectionID) = ["id"] := by decide
  cases called : applyCoreTrafficEvents (.ofTables [] [] []) some openedJournal "process" true events with
  | error err => exact ⟨⟨err, rfl⟩, by rw [journal, called]; rfl⟩
  | ok result =>
    obtain ⟨_, _, _, covered, _⟩ := applyCoreTrafficEvents_ok called
    have lists := (verifyCoreTrafficResetCoverage_iff rfl).mp (covered rfl)
    obtain ⟨row, held, same⟩ := List.mem_map.mp (opens ▸ List.mem_singleton.mpr rfl)
    obtain ⟨event, inside, named⟩ := List.mem_map.mp (lists row held)
    exact absurd (named.trans same) (forgotten event inside)

end Accept

end PasswallNode.Sqlite
