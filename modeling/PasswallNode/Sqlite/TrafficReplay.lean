import PasswallNode.Sqlite.TrafficGap

/-! A reset can be replayed. -/

namespace PasswallNode.Sqlite

open Foundation Protocol State

section LastEvent

def lastOf (events : List CoreTrafficEvent) (id : String) : Option CoreTrafficEvent :=
  (events.filter (fun event => decide (event.connectionID = id))).getLast?

variable {events : List CoreTrafficEvent} {event last : CoreTrafficEvent} {id : String} {wire : Wire}
  {parseAddr : String → Option String} {identity : String} {before after : TrafficStore} {row : Connection}

theorem lastOf_concat (events : List CoreTrafficEvent) (event : CoreTrafficEvent) (id : String) :
    lastOf (events ++ [event]) id = if event.connectionID = id then some event else lastOf events id := by
  unfold lastOf
  rw [List.filter_append]
  by_cases here : event.connectionID = id
  · simp [here]
  · simp [here]

theorem mem_of_lastOf (found : lastOf events id = some last) : last ∈ events ∧ last.connectionID = id := by
  have member := List.mem_filter.mp (List.mem_of_getLast? found)
  exact ⟨member.1, of_decide_eq_true member.2⟩

theorem lastOf_of_mem (member : event ∈ events) : ∃ last, lastOf events event.connectionID = some last := by
  cases found : lastOf events event.connectionID with
  | some last => exact ⟨last, rfl⟩
  | none =>
    have listed : event ∈ events.filter (fun other => decide (other.connectionID = event.connectionID)) :=
      List.mem_filter.mpr ⟨member, by simp⟩
    rw [List.getLast?_eq_none_iff.mp found] at listed
    cases listed

theorem lastOf_of_once (once : (events.map (·.connectionID)).Nodup) (member : event ∈ events) :
    lastOf events event.connectionID = some event := by
  obtain ⟨last, found⟩ := lastOf_of_mem member
  obtain ⟨listed, same⟩ := mem_of_lastOf found
  rw [found, List.inj_on_of_nodup_map once listed member same]

structure Snapshot (event : CoreTrafficEvent) : Prop where
  absolute : event.absolute = true
  client : event.clientKey ≠ ""
  listener : event.listenerKey ≠ ""
  closing : event.closed = decide (event.closedAtMS > 0)

theorem validateCoreTrafficEvents_snapshots {index : Nat} {events : List CoreTrafficEvent}
    (valid : validateCoreTrafficEvents wire parseAddr true index events = .ok ()) :
    ∀ event ∈ events, Snapshot event := by
  intro event member
  obtain ⟨checked, absolute⟩ := validateCoreTrafficEvents_ok valid event member
  obtain ⟨client, listener, counters⟩ := validateCoreTrafficEvent_ok checked
  exact ⟨absolute rfl, client, listener, by_contra fun differs => counters (Or.inr (Or.inr (Or.inr differs)))⟩

structure Shows (event : CoreTrafficEvent) (row : Connection) : Prop where
  up : row.upBytes = event.upBytes
  down : row.downBytes = event.downBytes
  closed : row.closed = event.closed
  closedAt : row.closedAtMS = event.closedAtMS

structure SameOwner (old row : Connection) : Prop where
  client : row.clientKey = old.clientKey
  listener : row.listenerKey = old.listenerKey
  source : row.sourceIP = old.sourceIP

/-- What may become of a ledger row: the owner stays, counters grow, and closed is final. -/
structure Follows (old row : Connection) : Prop where
  owner : SameOwner old row
  up : old.upBytes ≤ row.upBytes
  down : old.downBytes ≤ row.downBytes
  closed : old.closed = true → row.closed = true

theorem follows_refl (row : Connection) : Follows row row :=
  ⟨⟨rfl, rfl, rfl⟩, Int.le_refl _, Int.le_refl _, id⟩

theorem Follows.trans {first second third : Connection} (one : Follows first second)
    (two : Follows second third) : Follows first third where
  owner := ⟨two.owner.client.trans one.owner.client, two.owner.listener.trans one.owner.listener,
    two.owner.source.trans one.owner.source⟩
  up := Int.le_trans one.up two.up
  down := Int.le_trans one.down two.down
  closed := fun before => two.closed (one.closed before)

/-- The row has counted what the event brings, for the same owner. -/
structure Covers (event : CoreTrafficEvent) (row : Connection) : Prop where
  client : event.clientKey = row.clientKey
  listener : event.listenerKey = row.listenerKey
  source : event.sourceIP ≠ "" → event.sourceIP = row.sourceIP
  up : event.upBytes ≤ row.upBytes
  down : event.downBytes ≤ row.downBytes
  closed : event.closed = true → row.closed = true

theorem Covers.later {old row : Connection} (covers : Covers event old) (follows : Follows old row) :
    Covers event row where
  client := covers.client.trans follows.owner.client.symm
  listener := covers.listener.trans follows.owner.listener.symm
  source := fun named => (covers.source named).trans follows.owner.source.symm
  up := Int.le_trans covers.up follows.up
  down := Int.le_trans covers.down follows.down
  closed := fun ends => follows.closed (covers.closed ends)

theorem EventApplied.shows (applied : EventApplied identity event before after row) (snapshot : Snapshot event) :
    Shows event row := by
  have counters := applied.counters
  rw [snapshot.absolute] at counters
  refine ⟨by simpa [Connection.bytes, eventBytes, Direction.of] using counters .up,
    by simpa [Connection.bytes, eventBytes, Direction.of] using counters .down, applied.closed, ?_⟩
  obtain ⟨owner, counters, owned, rfl⟩ := applied.written
  cases found : before.connections.find? (identity, event.connectionID) with
  | none => rfl
  | some old =>
    simp only [connectionRow]
    rw [if_neg]
    rintro ⟨never, closed⟩
    -- An event about a closed connection is a closing one, which has a time.
    have closes := (applied.changed old found).2.2.2.2 closed
    rw [snapshot.closing, never] at closes
    cases closes

theorem EventApplied.follows (applied : EventApplied identity event before after row) {old : Connection}
    (found : before.connections.find? (identity, event.connectionID) = some old) : Follows old row := by
  obtain ⟨client, listener, _, _, stays⟩ := applied.changed old found
  have grown := applied.growth_nonneg
  simp only [ledgered, Table.weightAt, found] at grown
  refine ⟨⟨client, listener, ?_⟩, grown .up, grown .down, fun closed => applied.closed.trans (stays closed)⟩
  obtain ⟨owner, counters, owned, rfl⟩ := applied.written
  exact congrArg (·.2.2) ((connectionOwner_ok owned).2 old found).1

theorem EventApplied.covers (applied : EventApplied identity event before after row) (snapshot : Snapshot event) :
    Covers event row := by
  have displayed := applied.shows snapshot
  have owner : event.clientKey = row.clientKey ∧ event.listenerKey = row.listenerKey ∧
      (event.sourceIP ≠ "" → event.sourceIP = row.sourceIP) := by
    obtain ⟨owner, counters, owned, rfl⟩ := applied.written
    obtain ⟨fresh, kept⟩ := connectionOwner_ok owned
    cases found : before.connections.find? (identity, event.connectionID) with
    | none =>
      rw [fresh found]
      exact ⟨rfl, rfl, fun _ => rfl⟩
    | some old =>
      obtain ⟨same, client, listener, source, _⟩ := kept old found
      rw [same]
      exact ⟨client snapshot.client, listener snapshot.listener, source⟩
  exact ⟨owner.1, owner.2.1, owner.2.2, Int.le_of_eq displayed.up.symm, Int.le_of_eq displayed.down.symm,
    fun closes => displayed.closed.trans closes⟩

end LastEvent

theorem key_of_connection {connections : ConnectionTable} {process id : String} {row : Connection}
    (found : connections.find? (process, id) = some row) :
    row.processIdentity = process ∧ row.connectionID = id := by
  have named := Table.key_of_find? found
  exact ⟨congrArg Prod.fst named, congrArg Prod.snd named⟩

theorem key_of_aggregate {table : AggregateTable} {process key : String} {row : Aggregate}
    (found : table.find? (process, key) = some row) : row.processIdentity = process ∧ row.key = key := by
  have named := Table.key_of_find? found
  exact ⟨congrArg Prod.fst named, congrArg Prod.snd named⟩

section Totals

def Booked (table : AggregateTable) (identity key : String) : Prop :=
  ∃ total, table.find? (identity, key) = some total ∧ total.upBytes ≤ maxInt64 ∧ total.downBytes ≤ maxInt64

variable {table next : AggregateTable} {identity key other : String} {delta : Direction → Int}

theorem Gains.books (gains : Gains table next identity key delta) : Booked next identity key := by
  obtain ⟨row, put, rfl, rfl, bytes⟩ := gains.put
  refine ⟨row, (Table.find?_put put _).trans (if_pos rfl), ?_, ?_⟩
  · exact Int.le_trans (Int.le_of_eq (bytes .up)) (gains.bounded .up)
  · exact Int.le_trans (Int.le_of_eq (bytes .down)) (gains.bounded .down)

theorem Gains.keeps_booked (gains : Gains table next identity key delta)
    (booked : Booked table identity other) : Booked next identity other := by
  by_cases here : other = key
  · exact here ▸ gains.books
  · obtain ⟨row, put, rfl, rfl, _⟩ := gains.put
    obtain ⟨total, found, facts⟩ := booked
    refine ⟨total, ?_, facts⟩
    rw [Table.find?_put put, if_neg (fun same => here (Prod.mk.inj same).2.symm)]
    exact found

theorem Gains.eq_of_zero (gains : Gains table next identity key delta) (booked : Booked table identity key)
    (zero : ∀ direction, delta direction = 0) : next = table := by
  obtain ⟨row, put, rfl, rfl, bytes⟩ := gains.put
  obtain ⟨total, found, _⟩ := booked
  have same : row = total := by
    have named := Table.key_of_find? found
    have up := bytes .up
    have down := bytes .down
    simp only [stored, Table.weightAt, found, zero, Int.add_zero] at up down
    cases row
    cases total
    simp_all [Aggregate.bytes, Direction.of]
  rw [same, Table.put_same (by rw [← same]; exact same ▸ found)] at put
  exact (Option.some.inj put).symm

theorem incrementCoreAggregate_zero (booked : Booked table identity key) :
    incrementCoreAggregate table identity key 0 0 = .ok table := by
  obtain ⟨total, found, upFits, downFits⟩ := booked
  have checked := Table.check_of_find? found
  simp only [checkAggregate, Bool.and_eq_true, decide_eq_true_eq] at checked
  have named := key_of_aggregate found
  have written : (⟨identity, key, total.upBytes, total.downBytes⟩ : Aggregate) = total := by
    rw [← named.1, ← named.2]
  have up : addNonNegative total.upBytes 0 = some total.upBytes := by
    have sum := addChecked_of_le checked.1 (Int.le_refl 0) (by omega : total.upBytes + 0 ≤ maxInt64)
    rwa [Int.add_zero] at sum
  have down : addNonNegative total.downBytes 0 = some total.downBytes := by
    have sum := addChecked_of_le checked.2 (Int.le_refl 0) (by omega : total.downBytes + 0 ≤ maxInt64)
    rwa [Int.add_zero] at sum
  simp only [incrementCoreAggregate, found, currentCounters, bind_eq_ok, orError_eq_ok]
  refine ⟨_, up, _, down, ?_⟩
  rw [written]
  exact Table.put_same (by rw [named.1, named.2]; exact found)

end Totals

section Batches

variable {identity : String} {start now next : TrafficStore} {seen events : List CoreTrafficEvent} {old : Connection}
  {process : String} {final : TrafficStore} {reset : Bool} {store prepared applied : TrafficStore} {wire : Wire}
  {parseAddr : String → Option String}

structure Recorded (identity : String) (start : TrafficStore) (seen : List CoreTrafficEvent)
    (now : TrafficStore) : Prop where
  stream : now.stream = start.stream
  others : ∀ process id, process ≠ identity →
    now.connections.find? (process, id) = start.connections.find? (process, id)
  untouched : ∀ id, lastOf seen id = none →
    now.connections.find? (identity, id) = start.connections.find? (identity, id)
  displayed : ∀ id last, lastOf seen id = some last →
    ∃ row, now.connections.find? (identity, id) = some row ∧ Shows last row
  kept : ∀ id old, start.connections.find? (identity, id) = some old →
    ∃ row, now.connections.find? (identity, id) = some row ∧ Follows old row
  covered : ∀ event ∈ seen, ∃ row, now.connections.find? (identity, event.connectionID) = some row ∧
    Covers event row
  booked : ∀ event ∈ seen, Booked now.clients identity event.clientKey ∧
    Booked now.listeners identity event.listenerKey

theorem recorded_nil (identity : String) (start : TrafficStore) : Recorded identity start [] start where
  stream := rfl
  others := fun _ _ _ => rfl
  untouched := fun _ _ => rfl
  displayed := fun id last impossible => by cases impossible
  kept := fun id old found => ⟨old, found, follows_refl old⟩
  covered := fun event member => by cases member
  booked := fun event member => by cases member

theorem EventApplied.find_later {event : CoreTrafficEvent} {row : Connection}
    (applied : EventApplied identity event now next row) {id : String}
    (found : now.connections.find? (identity, id) = some old) :
    ∃ later, next.connections.find? (identity, id) = some later ∧ Follows old later := by
  rw [applied.find_connection]
  by_cases here : id = event.connectionID
  · subst here
    exact ⟨row, if_pos ⟨rfl, rfl⟩, applied.follows found⟩
  · exact ⟨old, (if_neg (fun both => here both.2)).trans found, follows_refl old⟩

theorem Recorded.step {event : CoreTrafficEvent} {row : Connection} (before : Recorded identity start seen now)
    (snapshot : Snapshot event) (applied : EventApplied identity event now next row) :
    Recorded identity start (seen ++ [event]) next where
  stream := applied.stream.trans before.stream
  others := by
    intro process id apart
    rw [applied.find_connection, if_neg (fun both => apart both.1)]
    exact before.others process id apart
  untouched := by
    intro id none
    rw [lastOf_concat] at none
    split at none
    · cases none
    · rename_i apart
      rw [applied.find_connection, if_neg (fun both => apart both.2.symm)]
      exact before.untouched id none
  displayed := by
    intro id last found
    rw [lastOf_concat] at found
    rw [applied.find_connection]
    split at found
    · rename_i here
      cases found
      exact ⟨row, if_pos ⟨rfl, here.symm⟩, applied.shows snapshot⟩
    · rename_i apart
      rw [if_neg (fun both => apart both.2.symm)]
      exact before.displayed id last found
  kept := by
    intro id old found
    obtain ⟨middle, present, early⟩ := before.kept id old found
    obtain ⟨later, final, late⟩ := applied.find_later present
    exact ⟨later, final, early.trans late⟩
  covered := by
    intro other member
    rcases List.mem_append.mp member with earlier | here
    · obtain ⟨middle, present, covers⟩ := before.covered other earlier
      obtain ⟨later, final, late⟩ := applied.find_later present
      exact ⟨later, final, covers.later late⟩
    · rw [List.mem_singleton.mp here]
      exact ⟨row, (applied.find_connection _ _).trans (if_pos ⟨rfl, rfl⟩), applied.covers snapshot⟩
  booked := by
    intro other member
    rcases List.mem_append.mp member with earlier | here
    · obtain ⟨client, listener⟩ := before.booked other earlier
      exact ⟨applied.clients.keeps_booked client, applied.listeners.keeps_booked listener⟩
    · have covers := applied.covers snapshot
      rw [List.mem_singleton.mp here, covers.client, covers.listener]
      exact ⟨applied.clients.books, applied.listeners.books⟩

theorem applyEvents_recorded (snapshots : ∀ event ∈ events, Snapshot event)
    (done : applyEvents start identity events = .ok next) : Recorded identity start events next := by
  refine forEach_collects
    (fun seen now => (∀ event ∈ seen, Snapshot event) → Recorded identity start seen now)
    ?_ (fun _ => recorded_nil identity start) done snapshots
  intro seen now event after before passed snapshots
  obtain ⟨row, applied⟩ := applyEvents_step passed
  exact (before (fun other member => snapshots other (List.mem_append_left _ member))).step
    (snapshots event (by simp)) applied

theorem applyCoreTrafficEvent_again {event : CoreTrafficEvent} {row : Connection}
    (found : now.connections.find? (identity, event.connectionID) = some row) (snapshot : Snapshot event)
    (displayed : Shows event row) (covers : Covers event row)
    (clients : Booked now.clients identity event.clientKey)
    (listeners : Booked now.listeners identity event.listenerKey) :
    applyCoreTrafficEvent now identity event = .ok now := by
  have owned : connectionOwner (some row) event = .ok (row.clientKey, row.listenerKey, row.sourceIP) := by
    simp only [connectionOwner, bind_eq_ok, rejectIf_eq_ok]
    refine ⟨(), ?_, (), ?_, trivial⟩
    · rintro (⟨_, differs⟩ | ⟨_, differs⟩ | ⟨named, differs⟩)
      · exact differs covers.client
      · exact differs covers.listener
      · exact differs (covers.source named)
    · rintro ⟨closed, reopens⟩
      rw [displayed.closed, reopens] at closed
      cases closed
  have counted : nextCounters (some row) event = .ok (row.upBytes, row.downBytes) := by
    unfold nextCounters
    rw [if_neg (by simp [snapshot.absolute])]
    refine bind_eq_ok.mpr ⟨(), rejectIf_eq_ok.mpr ?_, by rw [← displayed.up, ← displayed.down]⟩
    rintro ⟨_, backwards⟩
    simp only [storedCounters, displayed.up, displayed.down] at backwards
    omega
  have written : connectionRow identity (some row) event (row.clientKey, row.listenerKey, row.sourceIP)
      (row.upBytes, row.downBytes) = row := by
    obtain ⟨process, id⟩ := key_of_connection found
    have stays : (event.closed || row.closed) = row.closed := by rw [displayed.closed, Bool.or_self]
    have time : (if event.closedAtMS = 0 ∧ row.closed = true then row.closedAtMS else event.closedAtMS) =
        row.closedAtMS := by
      rw [displayed.closedAt, ite_self]
    simp only [connectionRow, stays, time]
    rw [← process, ← id]
  unfold applyCoreTrafficEvent
  rw [found]
  simp only [bind_eq_ok, rejectIf_eq_ok, orError_eq_ok]
  refine ⟨(), by simp, _, owned, _, counted, now.clients, ?_, now.listeners, ?_, now.connections, ?_, rfl⟩
  · rw [← covers.client]
    simpa [storedCounters] using incrementCoreAggregate_zero clients
  · rw [← covers.listener]
    simpa [storedCounters] using incrementCoreAggregate_zero listeners
  · rw [written]
    refine Table.put_same ?_
    rw [(key_of_connection found).1, (key_of_connection found).2]
    exact found

theorem applyEvents_again (recorded : Recorded identity start events next)
    (snapshots : ∀ event ∈ events, Snapshot event) (once : (events.map (·.connectionID)).Nodup) :
    applyEvents next identity events = .ok next := by
  have each : ∀ event ∈ events, applyCoreTrafficEvent next identity event = .ok next := by
    intro event member
    obtain ⟨row, found, displayed⟩ := recorded.displayed _ _ (lastOf_of_once once member)
    obtain ⟨same, present, covers⟩ := recorded.covered event member
    rw [found] at present
    cases present
    obtain ⟨clients, listeners⟩ := recorded.booked event member
    exact applyCoreTrafficEvent_again found (snapshots event member) displayed covers clients listeners
  clear recorded snapshots once
  induction events with
  | nil => rfl
  | cons event rest ih =>
    refine bind_eq_ok.mpr ⟨next, ?_, ih (fun other member => each other (List.mem_cons_of_mem _ member))⟩
    exact withError_eq_ok.mpr (each event List.mem_cons_self)

structure Twin (old row : Connection) : Prop where
  owner : SameOwner old row
  up : row.upBytes = old.upBytes
  down : row.downBytes = old.downBytes
  closed : row.closed = old.closed

/-- A journal that replays a batch: nothing but closing times has moved. -/
structure Echoes (identity : String) (final now : TrafficStore) : Prop where
  clients : now.clients = final.clients
  listeners : now.listeners = final.listeners
  keys : now.connections.rows.map (fun row => (row.processIdentity, row.connectionID)) =
    final.connections.rows.map (fun row => (row.processIdentity, row.connectionID))
  twins : ∀ id old, final.connections.find? (identity, id) = some old →
    ∃ row, now.connections.find? (identity, id) = some row ∧ Twin old row

theorem echoes_refl (identity : String) (final : TrafficStore) : Echoes identity final final :=
  ⟨rfl, rfl, rfl, fun _ old found => ⟨old, found, ⟨rfl, rfl, rfl⟩, rfl, rfl, rfl⟩⟩

theorem Twin.eq {row : Connection} {id : String} (twin : Twin old row)
    (oldKey : old.processIdentity = process ∧ old.connectionID = id)
    (rowKey : row.processIdentity = process ∧ row.connectionID = id) (closedAt : row.closedAtMS = old.closedAtMS) :
    row = old := by
  obtain ⟨⟨client, listener, source⟩, up, down, closed⟩ := twin
  cases old
  cases row
  simp_all

theorem Twin.bytes {row : Connection} (twin : Twin old row) (direction : Direction) :
    row.bytes direction = old.bytes direction := by
  cases direction
  · exact twin.up
  · exact twin.down

theorem Covers.bytes {event : CoreTrafficEvent} {row : Connection} (covers : Covers event row)
    (direction : Direction) : eventBytes direction event ≤ row.bytes direction := by
  cases direction
  · exact covers.up
  · exact covers.down

theorem Echoes.step {event : CoreTrafficEvent} {row : Connection} (before : Echoes identity final now)
    (recorded : Recorded identity start events final) (member : event ∈ events) (snapshot : Snapshot event)
    (applied : EventApplied identity event now next row) : Echoes identity final next := by
  obtain ⟨old, found, covers⟩ := recorded.covered event member
  obtain ⟨clients, listeners⟩ := recorded.booked event member
  obtain ⟨held, present, twin⟩ := before.twins _ old found
  have follows := applied.follows present
  -- The event brings no more than the ledger has, and less would be refused.
  have bytes : ∀ direction, row.bytes direction = held.bytes direction := by
    intro direction
    have bound := covers.bytes direction
    have counters := applied.counters direction
    have grown := applied.growth_nonneg direction
    simp only [snapshot.absolute, if_true, ledgered, Table.weightAt, present] at counters grown
    have same := twin.bytes direction
    omega
  have zero : ∀ direction, row.bytes direction -
      ledgered now.connections direction identity event.connectionID = 0 := by
    intro direction
    simp only [ledgered, Table.weightAt, present, bytes, Int.sub_self]
  have stays : row.closed = held.closed := by
    rw [applied.closed]
    cases closed : held.closed with
    | true => exact applied.closed.symm.trans (follows.closed closed)
    | false =>
      cases ends : event.closed with
      | false => rfl
      | true =>
        have shut := covers.closed ends
        rw [← twin.closed, closed] at shut
        cases shut
  have client : row.clientKey = event.clientKey := (applied.covers snapshot).client.symm
  have listener : row.listenerKey = event.listenerKey := (applied.covers snapshot).listener.symm
  refine ⟨?_, ?_, ?_, ?_⟩
  · rw [applied.clients.eq_of_zero (by rw [before.clients, client]; exact clients) zero]
    exact before.clients
  · rw [applied.listeners.eq_of_zero (by rw [before.listeners, listener]; exact listeners) zero]
    exact before.listeners
  · have taken : now.connections.find? (row.processIdentity, row.connectionID) = some held := by
      rw [applied.process, applied.id]
      exact present
    exact (Table.put_keys taken applied.ledger).trans before.keys
  · intro id other stored
    rw [applied.find_connection]
    by_cases here : id = event.connectionID
    · subst here
      rw [found] at stored
      cases stored
      refine ⟨row, if_pos ⟨rfl, rfl⟩, ⟨follows.owner.client.trans twin.owner.client,
        follows.owner.listener.trans twin.owner.listener, follows.owner.source.trans twin.owner.source⟩,
        (bytes .up).trans twin.up, (bytes .down).trans twin.down, stays.trans twin.closed⟩
    · rw [if_neg (fun both => here both.2)]
      exact before.twins id other stored

theorem applyEvents_echoes (recorded : Recorded identity start events final)
    (snapshots : ∀ event ∈ events, Snapshot event) (done : applyEvents final identity events = .ok next) :
    next = final := by
  have echoes : Echoes identity final next := by
    refine forEach_invariant (Echoes identity final) ?_ (echoes_refl identity final) done
    intro now after event member before passed
    obtain ⟨row, applied⟩ := applyEvents_step passed
    exact before.step recorded member (snapshots event member) applied
  have again := applyEvents_recorded snapshots done
  have connections : next.connections = final.connections := by
    refine Table.ext_of_keys echoes.keys ?_
    rintro ⟨process, id⟩
    by_cases here : process = identity
    · subst here
      cases found : lastOf events id with
      | none => exact again.untouched id found
      | some last =>
        obtain ⟨old, before, first⟩ := recorded.displayed id last found
        obtain ⟨row, after, second⟩ := again.displayed id last found
        obtain ⟨same, present, twin⟩ := echoes.twins id old before
        rw [after] at present
        cases present
        rw [before, after]
        exact congrArg some (twin.eq (key_of_connection before) (key_of_connection after)
          (second.closedAt.trans first.closedAt.symm))
    · exact again.others process id here
  have stream := again.stream
  have clients := echoes.clients
  have listeners := echoes.listeners
  cases next
  cases final
  rw [TrafficStore.mk.injEq]
  exact ⟨stream, connections, clients, listeners⟩

def closedIDs (store : TrafficStore) (identity : String) : List String :=
  (store.connections.rows.filter (fun row => decide (row.processIdentity = identity) && row.closed)).map
    Connection.connectionID

def closedWith (store : TrafficStore) (identity : String) (events : List CoreTrafficEvent) : List String :=
  (closedIDs store identity ++ (events.filter (·.closed)).map (·.connectionID)).dedup

theorem mem_closedIDs {id : String} : id ∈ closedIDs store identity ↔
    ∃ row, store.connections.find? (identity, id) = some row ∧ row.closed = true := by
  simp only [closedIDs, List.mem_map, List.mem_filter, Bool.and_eq_true, decide_eq_true_eq]
  constructor
  · rintro ⟨row, ⟨member, rfl, closed⟩, rfl⟩
    exact ⟨row, Table.find?_of_mem member, closed⟩
  · rintro ⟨row, found, closed⟩
    obtain ⟨process, named⟩ := key_of_connection found
    exact ⟨row, ⟨Table.mem_of_find? found, process, closed⟩, named⟩

theorem closedIDs_nodup (store : TrafficStore) (identity : String) : (closedIDs store identity).Nodup := by
  have pairs : ((store.connections.rows.filter
      (fun row => decide (row.processIdentity = identity) && row.closed)).map
        (fun row => (row.processIdentity, row.connectionID))).Nodup :=
    store.connections.unique.sublist (List.filter_sublist.map _)
  have shape : (store.connections.rows.filter
      (fun row => decide (row.processIdentity = identity) && row.closed)).map
        (fun row => (row.processIdentity, row.connectionID)) =
      (closedIDs store identity).map (fun id => (identity, id)) := by
    rw [closedIDs, List.map_map]
    refine List.map_congr_left (fun row member => ?_)
    have selected := (List.mem_filter.mp member).2
    rw [Bool.and_eq_true, decide_eq_true_eq] at selected
    rw [Function.comp, selected.1]
  rw [shape] at pairs
  exact pairs.of_map _

theorem pruneConnections_eq (few : (closedIDs store identity).length ≤ retainedClosedCoreConnections) :
    pruneConnections store identity = store := by
  have all : ∀ row ∈ store.connections.rows, row.processIdentity = identity → row.closed = true →
      row ∈ retainedConnections store.connections identity := by
    intro row member process closed
    unfold retainedConnections
    rw [List.take_of_length_le]
    · rw [List.mem_insertionSort, List.mem_reverse, List.mem_filter]
      exact ⟨member, by simp [process, closed]⟩
    · rw [List.length_insertionSort, List.length_reverse]
      simpa [closedIDs] using few
  have kept : store.connections.deleteWhere (fun row => decide (row.processIdentity = identity) &&
      row.closed && decide (row ∉ retainedConnections store.connections identity)) = store.connections := by
    refine Table.ext_rows (List.filter_eq_self.mpr ?_)
    intro row member
    by_cases listed : row.processIdentity = identity ∧ row.closed = true
    · simp [all row member listed.1 listed.2]
    · simp only [Bool.not_eq_true', Bool.and_eq_false_iff, decide_eq_false_iff_not]
      refine Or.inl ?_
      by_cases process : row.processIdentity = identity
      · exact Or.inr (by simpa [process] using listed)
      · exact Or.inl process
  unfold pruneConnections
  dsimp only
  rw [kept]

theorem Recorded.closed_few (recorded : Recorded identity prepared events applied)
    (ledger : ∀ id row, prepared.connections.find? (identity, id) = some row →
    store.connections.find? (identity, id) = some row)
    (few : (closedWith store identity events).length ≤ retainedClosedCoreConnections) :
    (closedIDs applied identity).length ≤ retainedClosedCoreConnections := by
  refine Nat.le_trans (List.subperm_of_subset (closedIDs_nodup applied identity) ?_).length_le few
  intro id member
  obtain ⟨row, found, closed⟩ := mem_closedIDs.mp member
  rw [closedWith, List.mem_dedup, List.mem_append]
  cases last : lastOf events id with
  | none =>
    rw [recorded.untouched id last] at found
    exact Or.inl (mem_closedIDs.mpr ⟨row, ledger id row found, closed⟩)
  | some event =>
    obtain ⟨shown, present, displayed⟩ := recorded.displayed id event last
    rw [found] at present
    cases present
    obtain ⟨listed, named⟩ := mem_of_lastOf last
    refine Or.inr (List.mem_map.mpr ⟨event, List.mem_filter.mpr ⟨listed, ?_⟩, named⟩)
    exact displayed.closed.symm.trans closed

def Ready (store : TrafficStore) : Prop := ∀ stream, store.stream = some stream → stream.ready = true

theorem applyCoreTrafficEvents_ready
    (done : applyCoreTrafficEvents wire parseAddr store identity reset events = .ok (next, ())) : Ready next := by
  obtain ⟨prepared, applied, _, _, prepares, applies, rfl⟩ := applyCoreTrafficEvents_ok done
  obtain ⟨stream, follows, rfl⟩ := prepares.follows
  have same : applied.stream = prepared.stream := by
    refine forEach_invariant (fun now : TrafficStore => now.stream = prepared.stream) ?_ rfl applies
    intro now after event _ before passed
    obtain ⟨row, event⟩ := applyEvents_step passed
    exact event.stream.trans before
  obtain ⟨final, finished, _, marked⟩ := finishBatch_follows (same.trans follows) reset
  intro other found
  rw [finished] at found
  cases found
  rw [marked]
  cases reset with
  | true => exact Bool.or_true _
  | false =>
    cases prepares with
    | created _ resets => cases resets
    | continued current found process starts =>
      rw [found] at follows
      cases follows
      rw [starts rfl, Bool.true_or]
    | replaced current clients listeners _ _ resets _ _ => cases resets

theorem run_ready (calls : List TrafficCall) : Ready (run (journal wire parseAddr) .fresh calls) := by
  refine run_invariant Ready ?_ (fun _ impossible => by cases impossible) calls
  intro store call ready
  exact commit_invariant (fun next : TrafficStore => Ready next) ready
    (fun _ _ done => applyCoreTrafficEvents_ready done)

structure Reset (identity : String) (events : List CoreTrafficEvent) (next : TrafficStore) : Prop where
  snapshots : ∀ event ∈ events, Snapshot event
  recorded : ∃ start, Recorded identity start events next
  follows : next.stream = some ⟨identity, true⟩
  listed : ∀ row ∈ openConnections next identity, row.connectionID ∈ events.map (·.connectionID)
  few : (closedIDs next identity).length ≤ retainedClosedCoreConnections

theorem Recorded.marked {start now : TrafficStore} (recorded : Recorded identity start events now) :
    Recorded identity (markReady start identity) events (markReady now identity) where
  stream := congrArg (Option.map _) recorded.stream
  others := recorded.others
  untouched := recorded.untouched
  displayed := recorded.displayed
  kept := recorded.kept
  covered := recorded.covered
  booked := recorded.booked

theorem Prepared.ledger {prepared : TrafficStore} (prepares : Prepared store identity reset prepared) {id : String}
    {row : Connection} (found : prepared.connections.find? (process, id) = some row) :
    store.connections.find? (process, id) = some row := by
  cases prepares with
  | created _ _ => exact found
  | continued current _ _ _ => exact found
  | replaced current clients listeners _ _ _ _ _ =>
    rw [Table.find?_empty] at found
    cases found

theorem Prepared.listed {prepared : TrafficStore} (accounted : Accounted store) (ready : Ready store)
    (covered : verifyCoreTrafficResetCoverage store identity events = .ok ())
    (prepares : Prepared store identity true prepared) {id : String} {row : Connection}
    (found : prepared.connections.find? (identity, id) = some row) (opened : row.closed = false) :
    id ∈ events.map (·.connectionID) := by
  have before := prepares.ledger found
  cases prepares with
  | created none _ =>
    unfold Accounted at accounted
    rw [none] at accounted
    rw [accounted] at before
    cases before
  | continued current stream process _ =>
    have follows : store.stream = some ⟨identity, true⟩ := by
      rw [stream]
      obtain ⟨name, started⟩ := current
      rw [show started = true from ready _ stream, ← process]
    obtain ⟨same, named⟩ := key_of_connection before
    rw [← named]
    refine (verifyCoreTrafficResetCoverage_iff follows).mp covered row (List.mem_filter.mpr
      ⟨Table.mem_of_find? before, ?_⟩)
    simp [same, opened]
  | replaced current clients listeners _ _ _ _ _ =>
    rw [Table.find?_empty] at found
    cases found

theorem reset_leaves (accounted : Accounted store) (ready : Ready store)
    (few : (closedWith store identity events).length ≤ retainedClosedCoreConnections)
    (done : applyCoreTrafficEvents wire parseAddr store identity true events = .ok (next, ())) :
    Reset identity events next := by
  obtain ⟨prepared, applied, valid, covered, prepares, applies, rfl⟩ := applyCoreTrafficEvents_ok done
  have snapshots := validateCoreTrafficEvents_snapshots valid
  have recorded := applyEvents_recorded snapshots applies
  have closed := recorded.closed_few (fun id row found => prepares.ledger found) few
  have kept : finishBatch applied identity true = markReady applied identity := pruneConnections_eq closed
  obtain ⟨stream, follows, process⟩ := prepares.follows
  rw [kept]
  refine ⟨snapshots, ⟨_, recorded.marked⟩, ?_, ?_, closed⟩
  · rw [← process]
    simp [markReady, recorded.stream, follows]
  · intro row member
    obtain ⟨present, selected⟩ := List.mem_filter.mp member
    rw [Bool.and_eq_true, decide_eq_true_eq, Bool.not_eq_true'] at selected
    have found : applied.connections.find? (identity, row.connectionID) = some row :=
      selected.1 ▸ Table.find?_of_mem present
    cases last : lastOf events row.connectionID with
    | some event =>
      obtain ⟨listed, named⟩ := mem_of_lastOf last
      exact List.mem_map.mpr ⟨event, listed, named⟩
    | none =>
      rw [recorded.untouched _ last] at found
      exact prepares.listed accounted ready (covered rfl) found selected.2

theorem Reset.finished (reset : Reset identity events next) : finishBatch next identity true = next := by
  have marked : markReady next identity = next := by
    have follows := reset.follows
    cases next
    simp_all [markReady]
  rw [finishBatch, if_pos rfl, marked]
  exact pruneConnections_eq reset.few

theorem Reset.unchanged (reset : Reset identity events next) {again : TrafficStore}
    (done : applyCoreTrafficEvents wire parseAddr next identity true events = .ok (again, ())) : again = next := by
  obtain ⟨prepared, applied, _, _, prepares, applies, rfl⟩ := applyCoreTrafficEvents_ok done
  obtain ⟨start, recorded⟩ := reset.recorded
  cases prepares with
  | created none _ =>
    rw [reset.follows] at none
    cases none
  | continued current _ _ _ =>
    rw [applyEvents_echoes recorded reset.snapshots applies]
    exact reset.finished
  | replaced current clients listeners stream differs _ _ _ =>
    rw [reset.follows] at stream
    cases stream
    exact absurd rfl differs

theorem Reset.accepted (reset : Reset identity events next) (valid : validateProcessIdentity identity = .ok ())
    (checked : validateCoreTrafficEvents wire parseAddr true 0 events = .ok ())
    (once : (events.map (·.connectionID)).Nodup) :
    applyCoreTrafficEvents wire parseAddr next identity true events = .ok (next, ()) := by
  obtain ⟨start, recorded⟩ := reset.recorded
  have covered := (verifyCoreTrafficResetCoverage_iff reset.follows).mpr reset.listed
  have prepares : prepareCoreTrafficStream next identity true = .ok next := by
    simp [prepareCoreTrafficStream, reset.follows]
  have finished : pruneConnections (markReady next identity) identity = next := reset.finished
  unfold applyCoreTrafficEvents
  simp only [if_true]
  refine bind_eq_ok.mpr ⟨(), valid, bind_eq_ok.mpr ⟨(), checked, bind_eq_ok.mpr ⟨(), covered, ?_⟩⟩⟩
  refine bind_eq_ok.mpr ⟨next, prepares, bind_eq_ok.mpr ⟨next, applyEvents_again recorded reset.snapshots once, ?_⟩⟩
  rw [finished]

end Batches

/-- After every history of the journal, a reset that was accepted and that retention can hold
is replayed without effect: accepted or not, the journal stays as it is, row for row; and it
is accepted if it names no connection twice. -/
theorem reset_replay_idempotent (wire : Wire) (parseAddr : String → Option String) (calls : List TrafficCall)
    (identity : String) (events : List CoreTrafficEvent) (next : TrafficStore)
    (accepted : applyCoreTrafficEvents wire parseAddr (run (journal wire parseAddr) .fresh calls) identity
      true events = .ok (next, ()))
    (few : (closedWith (run (journal wire parseAddr) .fresh calls) identity events).length ≤
      retainedClosedCoreConnections) :
    journal wire parseAddr next ⟨identity, true, events⟩ = next ∧
    ((events.map (·.connectionID)).Nodup →
      applyCoreTrafficEvents wire parseAddr next identity true events = .ok (next, ())) := by
  have reset := reset_leaves (run_accounted wire parseAddr calls) (run_ready calls) few accepted
  constructor
  · exact commit_invariant (fun again : TrafficStore => again = next) rfl
      (fun again _ done => reset.unchanged done)
  · intro once
    obtain ⟨_, valid, _⟩ := bind_eq_ok.mp accepted
    obtain ⟨_, _, checked, _⟩ := applyCoreTrafficEvents_ok accepted
    exact reset.accepted valid checked once

theorem reset_replay_idempotent_closing :
    let closing : TrafficCall := ⟨"process", true, [singleConnection 7 100]⟩
    let next := journal (.ofTables [] [] []) some openedJournal closing
    next.connections.rows.map (·.upBytes) = [7] ∧ journal (.ofTables [] [] []) some next closing = next := by
  have succeeds : (applyCoreTrafficEvents (.ofTables [] [] []) some openedJournal "process" true
      [singleConnection 7 100]).isOk = true := by decide
  have accepted := eq_ok_of_isOk openedJournal succeeds
  exact ⟨by decide, (reset_replay_idempotent (.ofTables [] [] []) some
    [⟨"process", true, [singleConnection 5 0]⟩] "process" [singleConnection 7 100] _ accepted (by decide)).1⟩

end PasswallNode.Sqlite
