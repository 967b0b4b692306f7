import PasswallNode.Singbox.Telemetry
import PasswallNode.Sqlite.TrafficConservation

/-! Every byte of a connection is booked once. -/

namespace PasswallNode.Singbox

open Foundation Protocol State Sqlite

/-- What one message says about a connection: whose it is and its cumulative counters. -/
structure Account where
  id : String
  client : String
  listener : String
  up : Int
  down : Int
  closed : Bool
  deriving DecidableEq, Repr

def Account.bytes (direction : Direction) (account : Account) : Int :=
  direction.of account.up account.down

abbrev Told := String → Option Account

def Told.nothing : Told := fun _ => none

def Told.hear (told : Told) (account : Account) : Told :=
  fun id => if id = account.id then some account else told id

abbrev Accounts := Table Account.id (fun _ => true)

def Accounts.note (accounts : Accounts) (account : Account) : Accounts :=
  (accounts.put account).getD accounts

/-- New and closing events carry the counters themselves, an update what was added since. -/
def tell (mapping : TelemetryMapping) (told : Told) (event : ConnectionEvent) : Account where
  id := event.id
  client :=
    match event.connection with
    | some value => (mapping.clientByName value.user).getD ""
    | none => ((told event.id).map Account.client).getD ""
  listener :=
    match event.connection with
    | some value => (mapping.listenerByTag value.inbound).getD ""
    | none => ((told event.id).map Account.listener).getD ""
  up :=
    if event.kind = connectionEventUpdate then
      ((told event.id).map Account.up).getD 0 + event.uplinkDelta
    else (event.connection.map Connection.uplinkTotal).getD 0
  down :=
    if event.kind = connectionEventUpdate then
      ((told event.id).map Account.down).getD 0 + event.downlinkDelta
    else (event.connection.map Connection.downlinkTotal).getD 0
  closed :=
    decide (event.kind = connectionEventClosed) ||
      (decide (event.kind = connectionEventNew) &&
        decide ((event.connection.map Connection.closedAt).getD 0 > 0))

def tellAll (mapping : TelemetryMapping) : Told → List (Option ConnectionEvent) → List Account
  | _, [] => []
  | told, none :: rest => tellAll mapping told rest
  | told, some event :: rest =>
    tell mapping told event :: tellAll mapping (told.hear (tell mapping told event)) rest

def Increments (mapping : TelemetryMapping) : Told → List (Option ConnectionEvent) → Prop
  | _, [] => True
  | told, none :: rest => Increments mapping told rest
  | told, some event :: rest =>
    (event.kind = connectionEventUpdate → (told event.id).isSome = true) ∧
      Increments mapping (told.hear (tell mapping told event)) rest

instance decidableIncrements (mapping : TelemetryMapping) :
    ∀ (told : Told) (events : List (Option ConnectionEvent)), Decidable (Increments mapping told events)
  | _, [] => isTrue trivial
  | told, none :: rest => decidableIncrements mapping told rest
  | told, some event :: rest =>
    @instDecidableAnd _ _ inferInstance
      (decidableIncrements mapping (told.hear (tell mapping told event)) rest)

/-- The node and what the core has told: in this subscription, and in accepted messages since the process came.
`base` is the journal at that moment. -/
structure TelemetrySystem where
  store : TrafficStore
  subscription : Option Subscription
  told : Told
  latest : Accounts
  base : TrafficStore

def TelemetrySystem.start : TelemetrySystem := ⟨.fresh, none, .nothing, .empty, .fresh⟩

inductive TelemetryAction where
  | subscribe (identity : String) (mapping : TelemetryMapping)
  | message (running : Bool) (message : ConnectionEvents)
  | drop

def follows (store : TrafficStore) (identity : String) : Prop :=
  store.stream.map (·.processIdentity) = some identity

instance (store : TrafficStore) (identity : String) : Decidable (follows store identity) :=
  inferInstanceAs (Decidable (_ = _))

def toldBefore (system : TelemetrySystem) (message : ConnectionEvents) : Told :=
  if message.reset then .nothing else system.told

def accept (system : TelemetrySystem) (subscription : Subscription) (message : ConnectionEvents)
    (store : TrafficStore) (next : Subscription) : TelemetrySystem :=
  let accounts := tellAll subscription.mapping (toldBefore system message) message.events
  { store := store
    subscription := some next
    told := accounts.foldl Told.hear (toldBefore system message)
    latest := accounts.foldl Accounts.note
      (if follows system.store subscription.identity then system.latest else .empty)
    base := if follows system.store subscription.identity then system.base else system.store }

def telemetryStep (parsers : Parsers) (system : TelemetrySystem) : TelemetryAction → TelemetrySystem
  | .subscribe identity mapping =>
    { system with subscription := some (subscribe identity mapping), told := .nothing }
  | .drop => { system with subscription := none }
  | .message running message =>
    match system.subscription with
    | none => system
    | some subscription =>
      match receiveMessage parsers system.store subscription running message with
      | .error _ => { system with subscription := none }
      | .ok (store, next) => accept system subscription message store next

/-- The core increments what it told, says nothing more of a connection it closed except in a reset, and no
reset lists one whose ledger row retention has dropped. -/
def Faithful (system : TelemetrySystem) : TelemetryAction → Prop
  | .message _ message =>
    ∀ subscription ∈ system.subscription,
      Increments subscription.mapping (toldBefore system message) message.events ∧
        (follows system.store subscription.identity →
          ∀ event ∈ message.events.filterMap id, ∀ account ∈ system.latest.find? event.id,
            account.closed = true → message.reset = true ∧
              (system.store.connections.find? (subscription.identity, event.id)).isSome = true)
  | _ => True

instance decidableFaithful (system : TelemetrySystem) :
    ∀ action, Decidable (Faithful system action)
  | .subscribe _ _ => isTrue trivial
  | .drop => isTrue trivial
  | .message _ message =>
    inferInstanceAs (Decidable (∀ subscription ∈ system.subscription,
      Increments subscription.mapping (toldBefore system message) message.events ∧
        (follows system.store subscription.identity →
          ∀ event ∈ message.events.filterMap id, ∀ account ∈ system.latest.find? event.id,
            account.closed = true → message.reset = true ∧
              (system.store.connections.find? (subscription.identity, event.id)).isSome = true)))

section Accounts

theorem note_find? (accounts : Accounts) (account : Account) (id : String) :
    (accounts.note account).find? id = if id = account.id then some account else accounts.find? id := by
  obtain ⟨next, done⟩ : ∃ next, accounts.put account = some next := Table.put_of_check rfl
  rw [Accounts.note, done, Option.getD_some, Table.find?_put done]
  by_cases here : id = account.id
  · rw [if_pos here, if_pos here.symm]
  · rw [if_neg here, if_neg (Ne.symm here)]

theorem note_weight (accounts : Accounts) (account : Account) (weigh : Account → Int) :
    (accounts.note account).weight weigh =
    accounts.weight weigh - accounts.weightAt weigh account.id + weigh account := by
  obtain ⟨next, done⟩ : ∃ next, accounts.put account = some next := Table.put_of_check rfl
  rw [Accounts.note, done, Option.getD_some, Table.weight_put done]

def accountTotal (owner : Account → String) (accounts : Accounts) (direction : Direction)
    (key : String) : Int :=
  accounts.weight (fun account => if owner account = key then account.bytes direction else 0)

variable {parsers : Parsers} {mapping : TelemetryMapping} {told : Told} {event : ConnectionEvent}
  {current : Connections} {identity : ConnectionIdentity}

structure States (told : Told) (event : CoreTrafficEvent) (account : Account) : Prop where
  id : event.connectionID = account.id
  client : event.clientKey = account.client
  listener : event.listenerKey = account.listener
  closed : event.closed = account.closed
  counters : ∀ direction, account.bytes direction = eventBytes direction event +
    if event.absolute then 0 else ((told account.id).map (Account.bytes direction)).getD 0
  known : event.absolute = false → (told account.id).isSome = true

def StateAll : Told → List CoreTrafficEvent → List Account → Prop
  | _, [], [] => True
  | told, event :: events, account :: accounts =>
    States told event account ∧ StateAll (told.hear account) events accounts
  | _, _, _ => False

def Remembers (current : Connections) (told : Told) : Prop :=
  ∀ id identity, current id = some identity →
    ∃ account, told id = some account ∧ account.client = identity.client ∧
      account.listener = identity.listener

theorem eventIdentity_ok (remembers : Remembers current told)
    (done : eventIdentity parsers mapping current event = .ok identity) :
    (tell mapping told event).client = identity.client ∧
    (tell mapping told event).listener = identity.listener := by
  unfold eventIdentity at done
  cases connection : event.connection with
  | none =>
    simp only [connection, orError_eq_ok] at done
    obtain ⟨account, said, client, listener⟩ := remembers _ _ done
    simp only [tell, connection, said, Option.map_some, Option.getD_some]
    exact ⟨client, listener⟩
  | some value =>
    simp only [connection, withError_eq_ok, identifyConnection, bind_eq_ok, orError_eq_ok] at done
    obtain ⟨listener, tagged, client, named, located⟩ := done
    cases addressed : parsers.sourceAddr value.source with
    | error text => rw [addressed] at located; cases located
    | ok sourceIP =>
      rw [addressed] at located
      cases located
      simp [tell, connection, tagged, named]

theorem absoluteCounters_ok {reason : String} {value : Connection}
    (done : absoluteCounters event reason = .ok value) : event.connection = some value := by
  simp only [absoluteCounters, bind_eq_ok, orError_eq_ok] at done
  obtain ⟨_, found, _, _, result⟩ := done
  cases result
  exact found

theorem translateCounters_ok {translated : CoreTrafficEvent}
    (done : translateCounters event identity = .ok translated)
    (client : (tell mapping told event).client = identity.client)
    (listener : (tell mapping told event).listener = identity.listener)
    (increments : event.kind = connectionEventUpdate → (told event.id).isSome = true) :
    States told translated (tell mapping told event) := by
  unfold translateCounters at done
  split at done
  · rename_i new
    obtain ⟨value, found, result⟩ := bind_eq_ok.mp done
    cases result
    have connection := absoluteCounters_ok found
    refine ⟨rfl, client.symm, listener.symm, ?_, ?_, ?_⟩
    · simp [tell, new, connection, connectionEventNew, connectionEventClosed]
    · intro direction
      cases direction <;>
        simp [tell, new, connection, connectionEventNew, connectionEventUpdate, Account.bytes,
          eventBytes, Direction.of]
    · intro impossible; cases impossible
  · split at done
    · rename_i update
      cases done
      refine ⟨rfl, client.symm, listener.symm, ?_, ?_, ?_⟩
      · simp [tell, update, connectionEventNew, connectionEventUpdate, connectionEventClosed]
      · intro direction
        have known := increments update
        obtain ⟨account, said⟩ := Option.isSome_iff_exists.mp known
        cases direction <;> simp [tell, update, said, Account.bytes, eventBytes, Direction.of, Int.add_comm]
      · intro _; exact increments update
    · split at done
      · rename_i new update closed
        obtain ⟨value, found, stamped⟩ := bind_eq_ok.mp done
        obtain ⟨_, _, result⟩ := bind_eq_ok.mp stamped
        cases result
        have connection := absoluteCounters_ok found
        refine ⟨rfl, client.symm, listener.symm, ?_, ?_, ?_⟩
        · simp [tell, closed]
        · intro direction
          cases direction <;> simp [tell, update, connection, Account.bytes, eventBytes, Direction.of]
        · intro impossible; cases impossible
      · cases done

theorem translateEvents_ok {final : Connections} {events : List (Option ConnectionEvent)}
    {translated : List CoreTrafficEvent} (remembers : Remembers current told)
    (increments : Increments mapping told events)
    (done : translateEvents parsers mapping current events = .ok (translated, final)) :
    StateAll told translated (tellAll mapping told events) ∧
    Remembers final ((tellAll mapping told events).foldl Told.hear told) := by
  induction events generalizing current translated told with
  | nil =>
    cases done
    exact ⟨trivial, remembers⟩
  | cons event rest ih =>
    obtain ⟨⟨first, next⟩, here, continued⟩ := bind_eq_ok.mp done
    obtain ⟨⟨later, last⟩, there, result⟩ := bind_eq_ok.mp continued
    cases result
    cases event with
    | none => cases here
    | some event =>
      simp only [translateEvent, bind_eq_ok, rejectIf_eq_ok] at here
      obtain ⟨_, _, identity, identified, counted, counts, result⟩ := here
      cases result
      obtain ⟨client, listener⟩ := eventIdentity_ok remembers identified
      have stated := translateCounters_ok counts client listener increments.1
      have learns : Remembers (remember current first identity)
          (told.hear (tell mapping told event)) := by
        intro id known found
        unfold remember at found
        unfold Told.hear
        rw [stated.id] at found
        split at found
        · rename_i same
          rw [if_pos same]
          split at found
          · cases found
          · cases found
            exact ⟨_, rfl, client, listener⟩
        · rename_i other
          rw [if_neg other]
          exact remembers id known found
      obtain ⟨others, knows⟩ := ih learns increments.2 there
      exact ⟨⟨stated, others⟩, knows⟩

end Accounts

section Journal

structure Records (row : Sqlite.Connection) (account : Account) : Prop where
  client : row.clientKey = account.client
  listener : row.listenerKey = account.listener
  closed : row.closed = account.closed
  bytes : ∀ direction, row.bytes direction = account.bytes direction

/-- Each connection told of has its row, or had it until retention dropped it after the close; the totals are
those at the start plus the accounts. -/
structure Agrees (identity : String) (store : TrafficStore) (latest : Accounts) (base : TrafficStore) :
    Prop where
  untold : ∀ id, latest.find? id = none → store.connections.find? (identity, id) = none
  told : ∀ id account, latest.find? id = some account →
    (∃ row, store.connections.find? (identity, id) = some row ∧ Records row account) ∨
      (store.connections.find? (identity, id) = none ∧ account.closed = true)
  clients : ∀ direction key, stored store.clients direction identity key =
    clientTotal base direction key + accountTotal Account.client latest direction key
  listeners : ∀ direction key, stored store.listeners direction identity key =
    listenerTotal base direction key + accountTotal Account.listener latest direction key

variable {identity : String} {store after base : TrafficStore} {latest : Accounts} {told : Told}
  {event : CoreTrafficEvent} {account : Account} {row : Sqlite.Connection} {events : List CoreTrafficEvent}
  {reset : Bool} {prepared : TrafficStore} {subscription : Subscription} {running : Bool} {message : ConnectionEvents}
  {parsers : Parsers} {system : TelemetrySystem}

theorem Agrees.present (agrees : Agrees identity store latest base) {id : String}
    (found : latest.find? id = some account) (kept : (store.connections.find? (identity, id)).isSome = true) :
    ∃ row, store.connections.find? (identity, id) = some row ∧ Records row account := by
  rcases agrees.told id account found with here | ⟨gone, _⟩
  · exact here
  · rw [gone] at kept; cases kept

section Events

variable (agrees : Agrees identity store latest base) (kept : (latest.find? account.id).isSome = true →
  (store.connections.find? (identity, account.id)).isSome = true)

include agrees kept

theorem accountTotal_note (records : Records row account) (owner : Account → String)
    (holder : Sqlite.Connection → String)
    (holds : ∀ row account, Records row account → holder row = owner account)
    (keeps : ∀ old, store.connections.find? (identity, account.id) = some old → holder row = holder old)
    (direction : Direction) (key : String) :
    accountTotal owner (latest.note account) direction key = accountTotal owner latest direction key +
    if key = holder row then row.bytes direction - ledgered store.connections direction identity account.id
    else 0 := by
  unfold accountTotal
  rw [note_weight]
  have mine := holds row account records
  have bytes := records.bytes direction
  cases before : latest.find? account.id with
  | none =>
    have absent := agrees.untold _ before
    unfold ledgered Table.weightAt
    rw [before, absent]
    by_cases owned : key = holder row
    · simp only [owned, mine, if_true]; omega
    · simp [owned, ← mine, Ne.symm owned]
  | some previous =>
    obtain ⟨old, found, holding⟩ := agrees.present before (kept (by rw [before]; rfl))
    have his := holds old previous holding
    have same := keeps old found
    have had := holding.bytes direction
    unfold ledgered Table.weightAt
    rw [before, found]
    by_cases owned : key = holder row
    · simp only [owned, ← mine, ← his, ← same, if_true]; omega
    · simp [owned, ← mine, ← his, ← same, Ne.symm owned]

variable (heard : ∀ id account, told id = some account → latest.find? id = some account)
  (stated : States told event account) (named : event.clientKey ≠ "" ∧ event.listenerKey ≠ "")
  (applied : EventApplied identity event store after row)

include heard stated named applied

theorem written_records : Records row account := by
  have id : event.connectionID = account.id := stated.id
  refine ⟨?_, ?_, applied.closed.trans stated.closed, ?_⟩
  · rw [← stated.client]
    cases found : store.connections.find? (identity, event.connectionID) with
    | none => exact (applied.created found).2.1
    | some old =>
      obtain ⟨same, _, owner, _, _⟩ := applied.changed old found
      exact same.trans (owner named.1).symm
  · rw [← stated.listener]
    cases found : store.connections.find? (identity, event.connectionID) with
    | none => exact (applied.created found).2.2
    | some old =>
      obtain ⟨_, same, _, owner, _⟩ := applied.changed old found
      exact same.trans (owner named.2).symm
  · intro direction
    rw [applied.counters direction, stated.counters direction]
    cases absolute : event.absolute with
    | true => rfl
    | false =>
      -- An increment counts from the previous message, which the ledger row holds.
      obtain ⟨previous, said⟩ := Option.isSome_iff_exists.mp (stated.known absolute)
      have accepted := heard _ _ said
      obtain ⟨old, found, records⟩ := agrees.present accepted (kept (by rw [accepted]; rfl))
      have holds : ledgered store.connections direction identity event.connectionID =
          previous.bytes direction := by
        rw [ledgered, Table.weightAt, id, found]
        exact records.bytes direction
      rw [holds, said]
      rfl

theorem agrees_event : Agrees identity after (latest.note account) base := by
  have records := written_records agrees kept heard stated named applied
  have id : event.connectionID = account.id := stated.id
  constructor
  · intro other missing
    rw [note_find?] at missing
    split at missing
    · cases missing
    · rename_i apart
      rw [applied.find_connection, if_neg (fun same => apart (same.2.trans id))]
      exact agrees.untold other missing
  · intro other held found
    rw [note_find?] at found
    rw [applied.find_connection]
    split at found
    · rename_i same
      cases found
      rw [if_pos ⟨rfl, same.trans id.symm⟩]
      exact Or.inl ⟨row, rfl, records⟩
    · rename_i apart
      rw [if_neg (fun same => apart (same.2.trans id))]
      exact agrees.told other held found
  · intro direction key
    rw [applied.clients.stored_eq, agrees.clients direction key,
      accountTotal_note agrees kept records Account.client Sqlite.Connection.clientKey
        (fun _ _ held => held.client)
        (fun old found => (applied.changed old (id ▸ found)).1), id]
    omega
  · intro direction key
    rw [applied.listeners.stored_eq, agrees.listeners direction key,
      accountTotal_note agrees kept records Account.listener Sqlite.Connection.listenerKey
        (fun _ _ held => held.listener)
        (fun old found => (applied.changed old (id ▸ found)).2.1), id]
    omega

end Events

theorem agrees_events {accounts : List Account} (stated : StateAll told events accounts)
    (agrees : Agrees identity store latest base)
    (heard : ∀ id account, told id = some account → latest.find? id = some account)
    (kept : ∀ account ∈ accounts,
      (latest.find? account.id).isSome = true → (store.connections.find? (identity, account.id)).isSome = true)
    (named : ∀ event ∈ events, event.clientKey ≠ "" ∧ event.listenerKey ≠ "")
    (done : applyEvents store identity events = .ok after) :
    Agrees identity after (accounts.foldl Accounts.note latest) base ∧
    ∀ id account, accounts.foldl Told.hear told id = some account →
      (accounts.foldl Accounts.note latest).find? id = some account := by
  induction events generalizing accounts store latest told with
  | nil =>
    cases accounts with
    | nil =>
      cases done
      exact ⟨agrees, heard⟩
    | cons account rest => exact stated.elim
  | cons event events ih =>
    cases accounts with
    | nil => exact stated.elim
    | cons account accounts =>
      obtain ⟨middle, step, continued⟩ := bind_eq_ok.mp done
      obtain ⟨row, applied⟩ := applyEvents_step step
      have next := agrees_event agrees (kept account List.mem_cons_self) heard stated.1
        (named event List.mem_cons_self) applied
      have hears : ∀ id other, told.hear account id = some other →
          (latest.note account).find? id = some other := by
        intro id other said
        rw [note_find?]
        unfold Told.hear at said
        split at said
        · rename_i same
          rw [if_pos same]
          exact said
        · rename_i apart
          rw [if_neg apart]
          exact heard id other said
      have keeps : ∀ later ∈ accounts, ((latest.note account).find? later.id).isSome = true →
          (middle.connections.find? (identity, later.id)).isSome = true := by
        intro later member found
        rw [note_find?] at found
        rw [applied.find_connection, stated.1.id]
        by_cases same : later.id = account.id
        · rw [if_pos ⟨rfl, same⟩]; rfl
        · rw [if_neg same] at found
          rw [if_neg (fun both => same both.2)]
          exact kept later (List.mem_cons_of_mem _ member) found
      have rest := ih stated.2 next hears keeps
        (fun later member => named later (List.mem_cons_of_mem _ member)) continued
      exact rest

theorem agrees_finish (agrees : Agrees identity store latest base) (reset : Bool) :
    Agrees identity (finishBatch store identity reset) latest base := by
  obtain ⟨cond, closes, connections⟩ := finishBatch_connections store identity reset
  constructor
  · intro id missing
    rw [connections, Table.find?_deleteWhere, agrees.untold id missing]
    rfl
  · intro id account found
    rw [connections, Table.find?_deleteWhere]
    rcases agrees.told id account found with ⟨row, present, records⟩ | ⟨gone, closed⟩
    · rw [present]
      cases dropped : cond row with
      | false => exact Or.inl ⟨row, by simp [dropped], records⟩
      | true => exact Or.inr ⟨by simp [dropped], records.closed ▸ closes row dropped⟩
    · rw [gone]
      exact Or.inr ⟨rfl, closed⟩
  · intro direction key
    rw [finishBatch_clients]
    exact agrees.clients direction key
  · intro direction key
    rw [finishBatch_listeners]
    exact agrees.listeners direction key

theorem validateCoreTrafficEvents_keys {wire : Wire} {parseAddr : String → Option String} {index : Nat}
    (valid : validateCoreTrafficEvents wire parseAddr reset index events = .ok ()) :
    ∀ event ∈ events, event.clientKey ≠ "" ∧ event.listenerKey ≠ "" := by
  intro event member
  obtain ⟨client, listener, -⟩ := validateCoreTrafficEvent_ok (validateCoreTrafficEvents_ok valid event member).1
  exact ⟨client, listener⟩

theorem agrees_replaced (accounted : Accounted store) (ready : Prepared store identity reset prepared)
    (new : ¬follows store identity) : Agrees identity prepared .empty store := by
  have totals := (ready.books accounted).2
  have emptied : prepared.connections = .empty := by
    unfold Accounted at accounted
    cases ready with
    | created none _ =>
      rw [none] at accounted
      rw [accounted]
      rfl
    | continued current stream same _ =>
      exact absurd (by simp [follows, stream, same]) new
    | replaced current clients listeners _ _ _ _ _ => rfl
  constructor
  · intro id _
    rw [emptied]
    rfl
  · intro id account found
    cases found
  · intro direction key
    rw [(totals direction key).1]
    exact (Int.add_zero _).symm
  · intro direction key
    rw [(totals direction key).2]
    exact (Int.add_zero _).symm

theorem prepared_of_follows (known : follows store identity) (ready : Prepared store identity reset prepared) :
    prepared = store := by
  unfold follows at known
  cases ready with
  | created none _ => rw [none] at known; cases known
  | continued current stream same _ => rfl
  | replaced current clients listeners stream differs _ _ _ =>
    rw [stream] at known
    exact absurd (Option.some.inj known) differs

structure Consistent (system : TelemetrySystem) : Prop where
  accounted : Accounted system.store
  idle : system.store.stream = none → system.latest = .empty ∧ system.base = .fresh
  agrees : ∀ identity, follows system.store identity →
    Agrees identity system.store system.latest system.base
  started : ∀ subscription, system.subscription = some subscription → subscription.first = false →
    follows system.store subscription.identity
  heard : ∀ subscription, system.subscription = some subscription → ∀ id account,
    system.told id = some account → system.latest.find? id = some account
  remembers : ∀ subscription, system.subscription = some subscription →
    Remembers subscription.connections system.told

theorem consistent_start : Consistent .start where
  accounted := rfl
  idle := fun _ => ⟨rfl, rfl⟩
  agrees := by
    intro identity impossible
    cases impossible
  started := by
    intro subscription impossible
    cases impossible
  heard := by
    intro subscription impossible
    cases impossible
  remembers := by
    intro subscription impossible
    cases impossible

theorem tellAll_id {mapping : TelemetryMapping} {told : Told} {events : List (Option ConnectionEvent)}
    {account : Account} (member : account ∈ tellAll mapping told events) :
    ∃ event ∈ events.filterMap id, event.id = account.id := by
  induction events generalizing told with
  | nil => cases member
  | cons first rest ih =>
    cases first with
    | none => exact ih member
    | some event =>
      rcases List.mem_cons.mp member with rfl | later
      · exact ⟨event, by simp, rfl⟩
      · obtain ⟨found, inside, same⟩ := ih later
        exact ⟨found, by simpa using Or.inr (by simpa using inside), same⟩

theorem receiveMessage_ok {store next : TrafficStore} {after : Subscription}
    (done : receiveMessage parsers store subscription running message = .ok (next, after)) :
    (subscription.first = true → message.reset = true) ∧
    ∃ events connections,
      translateConnectionEvents parsers subscription.mapping message subscription.connections =
        .ok (events, connections) ∧
      applyCoreTrafficEvents parsers.wire parsers.parseAddr store subscription.identity message.reset
        events = .ok (next, ()) ∧
      after = { subscription with connections := connections, first := false } := by
  simp only [receiveMessage, bind_eq_ok, rejectIf_eq_ok] at done
  obtain ⟨_, initial, _, _, ⟨events, connections⟩, translated, ⟨journal, _⟩, applied, result⟩ := done
  cases result
  refine ⟨?_, events, connections, translated, applied, rfl⟩
  intro first
  by_contra later
  exact initial ⟨first, by simpa using later⟩

theorem consistent_accept {next : Subscription} {store : TrafficStore} (consistent : Consistent system)
    (subscribed : system.subscription = some subscription) (faithful : Faithful system (.message running message))
    (done : receiveMessage parsers system.store subscription running message = .ok (store, next)) :
    Consistent (accept system subscription message store next) := by
  obtain ⟨initial, events, connections, translated, applied, rfl⟩ := receiveMessage_ok done
  obtain ⟨increments, final⟩ := faithful subscription subscribed
  -- Only a reset comes before the journal follows the process.
  have known : message.reset = false → follows system.store subscription.identity := by
    intro later
    refine consistent.started subscription subscribed ?_
    by_contra first
    have reset := initial (by simpa using first)
    rw [later] at reset
    cases reset
  have remembers : Remembers (if message.reset then fun _ => none else subscription.connections)
      (toldBefore system message) := by
    unfold toldBefore
    cases message.reset with
    | true => intro id identity impossible; cases impossible
    | false => exact consistent.remembers subscription subscribed
  obtain ⟨stated, knows⟩ := translateEvents_ok remembers increments translated
  obtain ⟨prepared, journaled, valid, _, ready, applies, rfl⟩ := applyCoreTrafficEvents_ok applied
  obtain ⟨latest, latestIs⟩ : ∃ latest, latest =
    if follows system.store subscription.identity then system.latest else Table.empty := ⟨_, rfl⟩
  obtain ⟨base, baseIs⟩ : ∃ base, base =
    if follows system.store subscription.identity then system.base else system.store := ⟨_, rfl⟩
  have agrees : Agrees subscription.identity prepared latest base := by
    by_cases continues : follows system.store subscription.identity
    · rw [latestIs, baseIs, if_pos continues, if_pos continues, prepared_of_follows continues ready]
      exact consistent.agrees _ continues
    · rw [latestIs, baseIs, if_neg continues, if_neg continues]
      exact agrees_replaced consistent.accounted ready continues
  have heard : ∀ id account, toldBefore system message id = some account →
      latest.find? id = some account := by
    intro id account said
    unfold toldBefore at said
    cases reset : message.reset with
    | true => rw [reset] at said; cases said
    | false =>
      rw [reset] at said
      rw [latestIs, if_pos (known reset)]
      exact consistent.heard subscription subscribed id account said
  have kept : ∀ account ∈ tellAll subscription.mapping (toldBefore system message) message.events,
      (latest.find? account.id).isSome = true →
        (prepared.connections.find? (subscription.identity, account.id)).isSome = true := by
    intro account member found
    by_cases continues : follows system.store subscription.identity
    · rw [latestIs, if_pos continues] at found
      rw [prepared_of_follows continues ready]
      obtain ⟨earlier, told⟩ := Option.isSome_iff_exists.mp found
      rcases (consistent.agrees _ continues).told _ _ told with ⟨row, present, _⟩ | ⟨_, closed⟩
      · rw [present]; rfl
      · obtain ⟨event, listed, same⟩ := tellAll_id member
        have relisted := final continues event listed earlier (same ▸ told) closed
        rw [← same]
        exact relisted.2
    · rw [latestIs, if_neg continues] at found
      cases found
  obtain ⟨after, hears⟩ := agrees_events stated agrees heard kept (validateCoreTrafficEvents_keys valid) applies
  obtain ⟨stream, followed, named⟩ := ready.follows
  have same : journaled.stream = prepared.stream :=
    (applyEvents_books (ready.books consistent.accounted).1 applies).2.1
  obtain ⟨last, finished, lastNamed, _⟩ := finishBatch_follows (same.trans followed) message.reset
  rw [named] at finished lastNamed
  have followsNow : follows (finishBatch journaled subscription.identity message.reset)
      subscription.identity := by
    simp [follows, finished, lastNamed]
  constructor
  · exact (applyCoreTrafficEvents_books consistent.accounted applied).1
  · intro none
    exact absurd (finished.symm.trans none) (by simp)
  · intro identity current
    have isSame : identity = subscription.identity :=
      Option.some.inj (current.symm.trans followsNow)
    rw [isSame]
    simp only [accept, ← latestIs, ← baseIs]
    exact agrees_finish after message.reset
  · intro subscribed' same' _
    cases same'
    exact followsNow
  · intro subscribed' same' id account said
    simp only [accept, ← latestIs] at said ⊢
    exact hears id account said
  · intro subscribed' same'
    cases same'
    exact knows

theorem consistent_step (action : TelemetryAction) (consistent : Consistent system)
    (faithful : Faithful system action) : Consistent (telemetryStep parsers system action) := by
  cases action with
  | subscribe identity mapping =>
    refine ⟨consistent.accounted, consistent.idle, consistent.agrees, ?_, ?_, ?_⟩
    · intro subscription same later
      cases same
      cases later
    · intro subscription _ id account impossible
      cases impossible
    · intro subscription same id known impossible
      cases same
      cases impossible
  | drop =>
    refine ⟨consistent.accounted, consistent.idle, consistent.agrees, ?_, ?_, ?_⟩ <;>
      · intro subscription impossible
        cases impossible
  | message running message =>
    unfold telemetryStep
    cases subscribed : system.subscription with
    | none => exact consistent
    | some subscription =>
      simp only
      cases done : receiveMessage parsers system.store subscription running message with
      | error err =>
        refine ⟨consistent.accounted, consistent.idle, consistent.agrees, ?_, ?_, ?_⟩ <;>
          · intro subscription impossible
            cases impossible
      | ok result => exact consistent_accept consistent subscribed faithful done

/-- Whatever is dropped, reopened, rejected or restarted: the total of every client and of
every listener is what it was when the process came, plus the cumulative counter in the latest
accepted message about each of its connections. -/
theorem traffic_counted_once (parsers : Parsers) (actions : List TelemetryAction)
    (faithful : Admits (telemetryStep parsers) Faithful .start actions) :
    let system := run (telemetryStep parsers) .start actions
    ∀ direction key,
      clientTotal system.store direction key =
          clientTotal system.base direction key +
            accountTotal Account.client system.latest direction key ∧
        listenerTotal system.store direction key =
          listenerTotal system.base direction key +
            accountTotal Account.listener system.latest direction key := by
  intro system direction key
  have consistent : Consistent system :=
    run_invariant_of_admits Consistent (fun _ action kept meets => consistent_step action kept meets)
      consistent_start faithful
  cases stream : system.store.stream with
  | none =>
    obtain ⟨untold, unbased⟩ := consistent.idle stream
    simp only [clientTotal, listenerTotal, stream, untold, unbased]
    exact ⟨rfl, rfl⟩
  | some current =>
    have agrees := consistent.agrees current.processIdentity (by simp [follows, stream])
    have client := agrees.clients direction key
    have listener := agrees.listeners direction key
    rw [clientTotal.eq_def system.store, listenerTotal.eq_def system.store, stream]
    exact ⟨client, listener⟩

def reopenedRun : List TelemetryAction :=
  let mapping : TelemetryMapping := ⟨fun _ => some "lst_1", fun _ => some "cli_1"⟩
  let connection (total closedAt : Int) : Connection := ⟨"in", "user", "192.0.2.1", total, total, closedAt⟩
  [.subscribe "process" mapping,
    .message true ⟨[some ⟨0, "id", some (connection 5 0), 0, 0, 0⟩], true⟩,
    .message true ⟨[some ⟨1, "id", none, 2, 1, 0⟩], false⟩,
    .drop,
    .subscribe "process" mapping,
    .message true ⟨[some ⟨0, "id", some (connection 9 0), 0, 0, 0⟩], true⟩,
    .message true ⟨[some ⟨2, "id", some (connection 12 0), 0, 0, 100⟩], false⟩]

def exampleParsers : Parsers := ⟨.ofTables [] [] [], some, .ok⟩

theorem reopened_counted_once :
    (∀ direction key, clientTotal (run (telemetryStep exampleParsers) .start reopenedRun).store
        direction key =
      clientTotal (run (telemetryStep exampleParsers) .start reopenedRun).base direction key +
        accountTotal Account.client (run (telemetryStep exampleParsers) .start reopenedRun).latest
          direction key) ∧
      clientTotal (run (telemetryStep exampleParsers) .start reopenedRun).store .up "cli_1" = 12 :=
  ⟨fun direction key =>
      (traffic_counted_once exampleParsers reopenedRun (by decide) direction key).1, by decide⟩

end Journal

end PasswallNode.Singbox
