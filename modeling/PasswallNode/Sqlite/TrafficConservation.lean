import PasswallNode.Foundation.Runs
import PasswallNode.Sqlite.TrafficSpecs

/-! Conservation of traffic: nothing is booked on one side only, and nothing is taken back. -/

namespace PasswallNode.Sqlite

open Foundation Protocol State

def clientTotal (store : TrafficStore) (direction : Direction) (key : String) : Int :=
  match store.stream with
  | none => 0
  | some stream => stored store.clients direction stream.processIdentity key

def listenerTotal (store : TrafficStore) (direction : Direction) (key : String) : Int :=
  match store.stream with
  | none => 0
  | some stream => stored store.listeners direction stream.processIdentity key

def ledgerTotal (owner : Connection → String) (store : TrafficStore) (direction : Direction)
    (key : String) : Int :=
  store.connections.weight (fun row => if owner row = key then row.bytes direction else 0)

structure Books (identity : String) (store : TrafficStore) : Prop where
  clients : ∀ row ∈ store.clients.rows, row.processIdentity = identity
  listeners : ∀ row ∈ store.listeners.rows, row.processIdentity = identity
  balanced : ∀ direction, store.clients.weight (Aggregate.bytes direction) =
    store.listeners.weight (Aggregate.bytes direction)
  clientCover : ∀ direction key,
    ledgerTotal Connection.clientKey store direction key ≤ stored store.clients direction identity key
  listenerCover : ∀ direction key,
    ledgerTotal Connection.listenerKey store direction key ≤
      stored store.listeners direction identity key

def Accounted (store : TrafficStore) : Prop :=
  match store.stream with
  | none => store = TrafficStore.fresh
  | some stream => Books stream.processIdentity store

theorem books_of_empty {identity : String} {store : TrafficStore} (clients : store.clients = .empty)
    (listeners : store.listeners = .empty) (connections : store.connections = .empty) : Books identity store := by
  constructor
  · rw [clients]; intro row member; cases member
  · rw [listeners]; intro row member; cases member
  · intro direction; rw [clients, listeners]
  · intro direction key
    rw [ledgerTotal, connections, Table.weight_empty, clients]
    exact Int.le_refl 0
  · intro direction key
    rw [ledgerTotal, connections, Table.weight_empty, listeners]
    exact Int.le_refl 0

section Event

variable {identity : String} {event : CoreTrafficEvent} {before after : TrafficStore} {row : Connection} {wire : Wire}
  {parseAddr : String → Option String} {store prepared next : TrafficStore} {reset : Bool}
  {events : List CoreTrafficEvent}

theorem EventApplied.ledgerTotal_eq (applied : EventApplied identity event before after row)
    (owner : Connection → String)
    (keeps : ∀ old, before.connections.find? (identity, event.connectionID) = some old → owner row = owner old)
    (direction : Direction) (key : String) :
    ledgerTotal owner after direction key = ledgerTotal owner before direction key +
    if key = owner row then row.bytes direction -
      ledgered before.connections direction identity event.connectionID else 0 := by
  unfold ledgerTotal
  rw [Table.weight_put applied.ledger, applied.process, applied.id]
  unfold ledgered Table.weightAt
  cases found : before.connections.find? (identity, event.connectionID) with
  | none =>
    by_cases owned : key = owner row
    · simp [owned]
    · simp [owned, Ne.symm owned]
  | some old =>
    rw [keeps old found]
    by_cases owned : key = owner old
    · simp only [owned, if_true]; omega
    · simp [owned, Ne.symm owned]

theorem EventApplied.books (applied : EventApplied identity event before after row)
    (books : Books identity before) : Books identity after where
  clients := applied.clients.belongs books.clients
  listeners := applied.listeners.belongs books.listeners
  balanced := by
    intro direction
    rw [applied.clients.weight_eq, applied.listeners.weight_eq, books.balanced direction]
  clientCover := by
    intro direction key
    rw [applied.ledgerTotal_eq _ (fun old found => (applied.changed old found).1), applied.clients.stored_eq]
    have covered := books.clientCover direction key
    omega
  listenerCover := by
    intro direction key
    rw [applied.ledgerTotal_eq _ (fun old found => (applied.changed old found).2.1), applied.listeners.stored_eq]
    have covered := books.listenerCover direction key
    omega

def Grows (identity : String) (before after : TrafficStore) : Prop :=
  ∀ direction key,
    stored before.clients direction identity key ≤ stored after.clients direction identity key ∧
      stored before.listeners direction identity key ≤ stored after.listeners direction identity key

theorem EventApplied.grows (applied : EventApplied identity event before after row) :
    Grows identity before after := by
  intro direction key
  rw [applied.clients.stored_eq, applied.listeners.stored_eq]
  have gained := applied.growth_nonneg direction
  constructor <;> split <;> omega

theorem applyEvents_step {store next : TrafficStore}
    (done : withError (.within s!"apply core traffic connection {event.connectionID}")
    (applyCoreTrafficEvent store identity event) = .ok next) :
    ∃ row, EventApplied identity event store next row :=
  applyCoreTrafficEvent_ok (withError_eq_ok.mp done)

theorem applyEvents_books {events : List CoreTrafficEvent} (books : Books identity before)
    (done : applyEvents before identity events = .ok after) :
    Books identity after ∧ after.stream = before.stream ∧ Grows identity before after := by
  refine forEach_invariant
    (fun next : TrafficStore => Books identity next ∧ next.stream = before.stream ∧
      Grows identity before next) ?_ ⟨books, rfl, fun _ _ => ⟨Int.le_refl _, Int.le_refl _⟩⟩ done
  rintro store next event _ ⟨kept, same, grown⟩ step
  obtain ⟨row, applied⟩ := applyEvents_step step
  refine ⟨applied.books kept, applied.stream.trans same, ?_⟩
  intro direction key
  have first := grown direction key
  have second := applied.grows direction key
  omega

theorem Prepared.books (ready : Prepared store identity reset prepared) (accounted : Accounted store) :
    Books identity prepared ∧ ∀ direction key,
    clientTotal store direction key = stored prepared.clients direction identity key ∧
      listenerTotal store direction key = stored prepared.listeners direction identity key := by
  unfold Accounted at accounted
  cases ready with
  | created none _ =>
    rw [none] at accounted
    subst accounted
    exact ⟨books_of_empty rfl rfl rfl, fun _ _ => ⟨rfl, rfl⟩⟩
  | continued current stream same _ =>
    rw [stream] at accounted
    subst same
    refine ⟨accounted, fun direction key => ?_⟩
    simp only [clientTotal, listenerTotal, stream, and_self]
  | replaced current clients listeners stream differs _ carried moved =>
    rw [stream] at accounted
    have books : Books current.processIdentity store := accounted
    refine ⟨?_, fun direction key => ?_⟩
    · constructor
      · exact replaceAggregates_belongs differs books.clients carried
      · exact replaceAggregates_belongs differs books.listeners moved
      · intro direction
        exact (replaceAggregates_weight differs books.clients carried direction).trans
          ((books.balanced direction).trans (replaceAggregates_weight differs books.listeners moved direction).symm)
      · intro direction key
        -- The ledger was emptied; the totals were carried over and are not negative.
        unfold stored Table.weightAt
        cases found : clients.find? (identity, key) with
        | none => exact Int.le_refl 0
        | some row => exact Aggregate.bytes_nonneg (Table.check_of_find? found) direction
      · intro direction key
        unfold stored Table.weightAt
        cases found : listeners.find? (identity, key) with
        | none => exact Int.le_refl 0
        | some row => exact Aggregate.bytes_nonneg (Table.check_of_find? found) direction
    · simp only [clientTotal, listenerTotal, stream]
      exact ⟨(replaceAggregates_stored differs books.clients carried direction key).symm,
        (replaceAggregates_stored differs books.listeners moved direction key).symm⟩

theorem finishBatch_books (books : Books identity store) : Books identity (finishBatch store identity reset) := by
  obtain ⟨cond, _, connections⟩ := finishBatch_connections store identity reset
  have clients := finishBatch_clients store identity reset
  have listeners := finishBatch_listeners store identity reset
  have shrinks : ∀ owner direction key, ledgerTotal owner (finishBatch store identity reset) direction key ≤
      ledgerTotal owner store direction key := by
    intro owner direction key
    unfold ledgerTotal
    rw [connections]
    apply Table.weight_deleteWhere_le
    intro row member
    split
    · exact Connection.bytes_nonneg (store.connections.checked row member) direction
    · exact Int.le_refl 0
  constructor
  · rw [clients]; exact books.clients
  · rw [listeners]; exact books.listeners
  · rw [clients, listeners]; exact books.balanced
  · intro direction key
    rw [clients]
    exact Int.le_trans (shrinks _ direction key) (books.clientCover direction key)
  · intro direction key
    rw [listeners]
    exact Int.le_trans (shrinks _ direction key) (books.listenerCover direction key)

/-- An accepted batch keeps the books of its process, and lowers no total, also none of another process. -/
theorem applyCoreTrafficEvents_books (accounted : Accounted store)
    (done : applyCoreTrafficEvents wire parseAddr store identity reset events = .ok (next, ())) :
    Accounted next ∧ ∀ direction key, clientTotal store direction key ≤ clientTotal next direction key ∧
      listenerTotal store direction key ≤ listenerTotal next direction key := by
  obtain ⟨prepared, applied, _, _, ready, applies, rfl⟩ := applyCoreTrafficEvents_ok done
  obtain ⟨books, totals⟩ := ready.books accounted
  obtain ⟨stream, follows, rfl⟩ := ready.follows
  obtain ⟨kept, same, grown⟩ := applyEvents_books books applies
  obtain ⟨final, finished, named, _⟩ := finishBatch_follows (same.trans follows) reset
  constructor
  · unfold Accounted
    rw [finished]
    dsimp only
    rw [named]
    exact finishBatch_books kept
  · intro direction key
    have grew := grown direction key
    simp only [clientTotal, listenerTotal, finished, named, finishBatch_clients, finishBatch_listeners] at *
    rw [(totals direction key).1, (totals direction key).2]
    exact grew

end Event

section Runs

variable (wire : Wire) (parseAddr : String → Option String)

structure TrafficCall where
  identity : String
  reset : Bool
  events : List CoreTrafficEvent
  deriving DecidableEq, Repr

def journal (store : TrafficStore) (call : TrafficCall) : TrafficStore :=
  commit store (applyCoreTrafficEvents wire parseAddr store call.identity call.reset call.events)

theorem journal_accounted (store : TrafficStore) (call : TrafficCall) (accounted : Accounted store) :
    Accounted (journal wire parseAddr store call) :=
  commit_invariant (fun next : TrafficStore => Accounted next) accounted
    (fun _ _ done => (applyCoreTrafficEvents_books accounted done).1)

theorem journal_grows (store : TrafficStore) (call : TrafficCall) (accounted : Accounted store) :
    ∀ direction key,
    clientTotal store direction key ≤ clientTotal (journal wire parseAddr store call) direction key ∧
      listenerTotal store direction key ≤
        listenerTotal (journal wire parseAddr store call) direction key :=
  commit_invariant
    (fun next : TrafficStore => ∀ direction key,
      clientTotal store direction key ≤ clientTotal next direction key ∧
        listenerTotal store direction key ≤ listenerTotal next direction key)
    (fun _ _ => ⟨Int.le_refl _, Int.le_refl _⟩)
    (fun _ _ done => (applyCoreTrafficEvents_books accounted done).2)

theorem run_accounted (calls : List TrafficCall) : Accounted (run (journal wire parseAddr) .fresh calls) :=
  have empty : Accounted .fresh := rfl
  run_invariant Accounted (journal_accounted wire parseAddr) empty calls

theorem run_grows {store : TrafficStore} (accounted : Accounted store) (calls : List TrafficCall) :
    ∀ direction key,
    clientTotal store direction key ≤
        clientTotal (run (journal wire parseAddr) store calls) direction key ∧
      listenerTotal store direction key ≤
        listenerTotal (run (journal wire parseAddr) store calls) direction key :=
  run_relation Accounted
    (fun before after => ∀ direction key,
      clientTotal before direction key ≤ clientTotal after direction key ∧
        listenerTotal before direction key ≤ listenerTotal after direction key)
    (journal_accounted wire parseAddr) (fun _ _ _ => ⟨Int.le_refl _, Int.le_refl _⟩)
    (fun _ _ _ first second direction key =>
      ⟨Int.le_trans (first direction key).1 (second direction key).1,
        Int.le_trans (first direction key).2 (second direction key).2⟩)
    (journal_grows wire parseAddr) accounted calls

/-- Whatever calls the journal receives: as many bytes are booked on clients as on listeners,
every total belongs to the process followed now and covers the ledger, no later call lowers a
total, and a rejected call leaves the journal as it was. -/
theorem traffic_conserved (calls later : List TrafficCall) :
    let store := run (journal wire parseAddr) .fresh calls
    (∀ direction, store.clients.weight (Aggregate.bytes direction) =
        store.listeners.weight (Aggregate.bytes direction)) ∧
      (∀ row ∈ store.clients.rows ++ store.listeners.rows,
        store.stream.map (·.processIdentity) = some row.processIdentity) ∧
      (∀ direction key,
        ledgerTotal Connection.clientKey store direction key ≤ clientTotal store direction key ∧
          ledgerTotal Connection.listenerKey store direction key ≤
            listenerTotal store direction key) ∧
      (∀ direction key,
        clientTotal store direction key ≤
            clientTotal (run (journal wire parseAddr) store later) direction key ∧
          listenerTotal store direction key ≤
            listenerTotal (run (journal wire parseAddr) store later) direction key) ∧
      ∀ call err,
        applyCoreTrafficEvents wire parseAddr store call.identity call.reset call.events = .error err →
          journal wire parseAddr store call = store := by
  intro store
  have accounted : Accounted store := run_accounted wire parseAddr calls
  have grows := run_grows wire parseAddr accounted later
  have rolledBack : ∀ call err,
      applyCoreTrafficEvents wire parseAddr store call.identity call.reset call.events = .error err →
        journal wire parseAddr store call = store := by
    intro call err rejected
    rw [journal, rejected]
    rfl
  unfold Accounted at accounted
  cases stream : store.stream with
  | none =>
    rw [stream] at accounted
    rw [accounted] at grows rolledBack ⊢
    refine ⟨fun _ => rfl, ?_, fun _ _ => ⟨Int.le_refl 0, Int.le_refl 0⟩, grows, rolledBack⟩
    intro row member
    cases member
  | some current =>
    rw [stream] at accounted
    have books : Books current.processIdentity store := accounted
    refine ⟨books.balanced, ?_, ?_, grows, rolledBack⟩
    · intro row member
      rcases List.mem_append.mp member with client | listener
      · rw [Option.map_some, books.clients row client]
      · rw [Option.map_some, books.listeners row listener]
    · intro direction key
      simp only [clientTotal, listenerTotal, stream]
      exact ⟨books.clientCover direction key, books.listenerCover direction key⟩

end Runs

end PasswallNode.Sqlite
