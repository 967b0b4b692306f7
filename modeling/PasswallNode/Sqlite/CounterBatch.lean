import PasswallNode.Foundation.Batch
import PasswallNode.Sqlite.CoreEpoch

/-! A counter batch is one instant: it changes the rows that it names and no others, whatever the
order of its updates. -/

namespace PasswallNode.Sqlite

open Foundation Protocol State

section Clients

variable {lib : Library} {atMS : Int} {store next : Store} {batch other : CounterBatch} {changed : Bool}

structure ClientCounted (lib : Library) (atMS : Int) (update : CounterUpdate) (current row : ClientRuntime) : Prop where
  valid : ¬ (update.key = "" ∨ update.upBytes < 0 ∨ update.downBytes < 0 ∨ atMS < 0)
  forward : ¬ counterRollback update.counterEpoch current.counterEpoch update.upBytes update.downBytes
    current.upBytes current.downBytes
  written : ∃ gate liveIPs,
    deriveGate update.upBytes update.downBytes current.baselineBytes current.headroomBytes = .ok gate ∧
    normalizeIPs lib update.liveIPs = .ok liveIPs ∧ row = { current with
      present := update.present, upBytes := update.upBytes, downBytes := update.downBytes,
      counterEpoch := update.counterEpoch, gate := gate, updatedAtMS := atMS, liveIPs := liveIPs }
  checked : checkClient row = true

def clientPass (lib : Library) (atMS : Int) (state : ClientTable × Bool) (update : CounterUpdate) :
    Except Error (ClientTable × Bool) := do
  let (next, changed) ← withError (.within s!"apply counter batch client {update.key}")
    (applyClientCounter lib state.1 update atMS)
  .ok (next, state.2 || changed)

theorem applyClientCounters_eq (clients : ClientTable) (updates : List CounterUpdate) :
    applyClientCounters lib clients updates atMS = forEach (clientPass lib atMS) (clients, false) updates := rfl

theorem clientPass_passes : Passes CounterUpdate.key (ClientCounted lib atMS)
    (fun row new => decide (new.gate ≠ row.gate)) Prod.fst Prod.snd (clientPass lib atMS) where
  done state update next passed := by
    simp only [clientPass, applyClientCounter, bind_eq_ok, rejectIf_eq_ok, orError_eq_ok, withError_eq_ok,
      Except.ok.injEq] at passed
    obtain ⟨_, ⟨_, valid, current, found, _, forward, gate, derived, liveIPs, normal, table, updated, rfl⟩, rfl⟩ :=
      passed
    refine ⟨current, counterRow update gate liveIPs atMS current, found, ?_,
      Table.replaces_of_updateKey found updated, rfl⟩
    exact ⟨valid, forward, ⟨gate, liveIPs, derived, normal, rfl⟩, Table.check_of_updateKey updated found⟩
  able state update current row found counted := by
    obtain ⟨valid, forward, ⟨gate, liveIPs, derived, normal, rfl⟩, checked⟩ := counted
    obtain ⟨table, updated⟩ :=
      Table.updateKey_of_check (counterRow update gate liveIPs atMS) (fun _ => rfl) found checked
    refine ⟨(table, state.2 || decide (gate ≠ current.gate)), ?_⟩
    simp only [clientPass, applyClientCounter, bind_eq_ok, rejectIf_eq_ok, orError_eq_ok, withError_eq_ok,
      Except.ok.injEq]
    exact ⟨_, ⟨(), valid, current, found, (), forward, gate, derived, liveIPs, normal, table, updated, rfl⟩, rfl⟩

theorem clientCounted_functional (update : CounterUpdate) (current row other : ClientRuntime)
    (counted : ClientCounted lib atMS update current row) (again : ClientCounted lib atMS update current other) :
    row = other := by
  obtain ⟨-, -, ⟨gate, liveIPs, derived, normal, rfl⟩, -⟩ := counted
  obtain ⟨-, -, ⟨gateAgain, liveIPsAgain, derivedAgain, normalAgain, rfl⟩, -⟩ := again
  cases derived.symm.trans derivedAgain
  cases normal.symm.trans normalAgain
  rfl

def listenerRow (update : ListenerCounterUpdate) (atMS : Int) (row : ListenerRuntime) : ListenerRuntime :=
  { row with
    present := update.present, upBytes := update.upBytes, downBytes := update.downBytes,
    counterEpoch := update.counterEpoch, updatedAtMS := atMS }

structure ListenerCounted (atMS : Int) (update : ListenerCounterUpdate) (current row : ListenerRuntime) : Prop where
  valid : ¬ (update.key = "" ∨ update.upBytes < 0 ∨ update.downBytes < 0 ∨ atMS < 0)
  forward : ¬ counterRollback update.counterEpoch current.counterEpoch update.upBytes update.downBytes
    current.upBytes current.downBytes
  written : row = listenerRow update atMS current
  checked : checkListener row = true

def listenerPass (atMS : Int) (listeners : ListenerTable) (update : ListenerCounterUpdate) :
    Except Error ListenerTable :=
  withError (.within s!"apply counter batch listener {update.key}") (applyListenerCounter listeners update atMS)

theorem listenerPass_passes : Passes ListenerCounterUpdate.key (ListenerCounted atMS) (fun _ _ => false) id
    (fun _ => false) (listenerPass atMS) where
  done state update next passed := by
    simp only [listenerPass, applyListenerCounter, bind_eq_ok, rejectIf_eq_ok, orError_eq_ok, withError_eq_ok] at passed
    obtain ⟨_, valid, current, found, _, forward, updated⟩ := passed
    refine ⟨current, listenerRow update atMS current, found, ?_, Table.replaces_of_updateKey found updated, rfl⟩
    exact ⟨valid, forward, rfl, Table.check_of_updateKey updated found⟩
  able state update current row found counted := by
    obtain ⟨valid, forward, rfl, checked⟩ := counted
    obtain ⟨table, updated⟩ := Table.updateKey_of_check (listenerRow update atMS) (fun _ => rfl) found checked
    refine ⟨table, ?_⟩
    simp only [listenerPass, applyListenerCounter, bind_eq_ok, rejectIf_eq_ok, orError_eq_ok, withError_eq_ok]
    exact ⟨(), valid, current, found, (), forward, updated⟩

theorem listenerCounted_functional (update : ListenerCounterUpdate) (current row other : ListenerRuntime)
    (counted : ListenerCounted atMS update current row) (again : ListenerCounted atMS update current other) :
    row = other :=
  counted.written.trans again.written.symm

theorem firstRepeat_of_nodup {seen keys : List String} (distinct : keys.Nodup) (fresh : ∀ key ∈ keys, key ∉ seen) :
    firstRepeat seen keys = none := by
  induction keys generalizing seen with
  | nil => rfl
  | cons key keys ih =>
    obtain ⟨first, distinct⟩ := List.nodup_cons.mp distinct
    rw [firstRepeat, if_neg (fresh key (.head _))]
    refine ih distinct (fun later member => ?_)
    rw [List.mem_cons, not_or]
    exact ⟨fun same => first (same ▸ member), fresh later (.tail _ member)⟩

theorem validateCounterBatch_iff : validateCounterBatch batch = .ok () ↔
    (batch.clients.map CounterUpdate.key).Nodup ∧ (batch.listeners.map ListenerCounterUpdate.key).Nodup := by
  refine ⟨validateCounterBatch_ok, fun ⟨clients, listeners⟩ => ?_⟩
  rw [validateCounterBatch, firstRepeat_of_nodup clients (fun _ _ => List.not_mem_nil),
    firstRepeat_of_nodup listeners (fun _ _ => List.not_mem_nil)]

structure Applied (lib : Library) (store : Store) (batch : CounterBatch) (atMS : Int) (next : Store) : Prop where
  clients : Table.Batch CounterUpdate.key (ClientCounted lib atMS) batch.clients store.clients next.clients
  listeners :
    Table.Batch ListenerCounterUpdate.key (ListenerCounted atMS) batch.listeners store.listeners next.listeners
  rest : next = { store with clients := next.clients, listeners := next.listeners }

def GateDiffers (before after : ClientTable) : Prop :=
  ∃ key row new, before.find? key = some row ∧ after.find? key = some new ∧ new.gate ≠ row.gate

theorem applyCounterBatch_eq_ok : applyCounterBatch lib store batch atMS = .ok (next, changed) ↔
    ¬ atMS < 0 ∧ validateCounterBatch batch = .ok () ∧
    forEach (clientPass lib atMS) (store.clients, false) batch.clients = .ok (next.clients, changed) ∧
    forEach (listenerPass atMS) store.listeners batch.listeners = .ok next.listeners ∧
    next = { store with clients := next.clients, listeners := next.listeners } := by
  simp only [applyCounterBatch, bind_eq_ok, rejectIf_eq_ok, applyClientCounters_eq]
  constructor
  · rintro ⟨_, recent, _, valid, ⟨clients, flag⟩, counted, listeners, listened, same⟩
    cases same
    exact ⟨recent, valid, counted, listened, rfl⟩
  · rintro ⟨recent, valid, counted, listened, same⟩
    refine ⟨(), recent, (), valid, _, counted, _, listened, ?_⟩
    rw [← same]

theorem applied_of_ok (done : applyCounterBatch lib store batch atMS = .ok (next, changed)) :
    Applied lib store batch atMS next := by
  obtain ⟨-, valid, counted, listened, same⟩ := applyCounterBatch_eq_ok.mp done
  obtain ⟨clients, listeners⟩ := validateCounterBatch_ok valid
  have clientsApplied := forEach_batch clientPass_passes clients counted
  have listenersApplied := forEach_batch listenerPass_passes listeners listened
  exact ⟨clientsApplied, listenersApplied, same⟩

theorem gateChanged_iff (done : applyCounterBatch lib store batch atMS = .ok (next, changed)) :
    changed = true ↔ GateDiffers store.clients next.clients := by
  obtain ⟨-, valid, counted, -, -⟩ := applyCounterBatch_eq_ok.mp done
  have flagged := forEach_flag clientPass_passes (fun _ => by simp) (validateCounterBatch_ok valid).1 counted
  simpa [GateDiffers] using flagged

theorem applyCounterBatch_reordered (clients : batch.clients.Perm other.clients)
    (listeners : batch.listeners.Perm other.listeners)
    (done : applyCounterBatch lib store batch atMS = .ok (next, changed)) :
    applyCounterBatch lib store other atMS = .ok (next, changed) := by
  have applied := applied_of_ok done
  obtain ⟨recent, valid, -, -, -⟩ := applyCounterBatch_eq_ok.mp done
  obtain ⟨distinctClients, distinctListeners⟩ := validateCounterBatch_ok valid
  have reorderedClients := ((clients.map CounterUpdate.key).nodup_iff).mp distinctClients
  have reorderedListeners := ((listeners.map ListenerCounterUpdate.key).nodup_iff).mp distinctListeners
  obtain ⟨⟨table, flag⟩, counted⟩ := forEach_of_ready clientPass_passes reorderedClients (store.clients, false)
    (applied.clients.perm clients).ready
  obtain ⟨listening, listened⟩ := forEach_of_ready listenerPass_passes reorderedListeners store.listeners
    (applied.listeners.perm listeners).ready
  have again :
    applyCounterBatch lib store other atMS = .ok ({ store with clients := table, listeners := listening }, flag) :=
    applyCounterBatch_eq_ok.mpr ⟨recent, validateCounterBatch_iff.mpr ⟨reorderedClients, reorderedListeners⟩, counted,
      listened, rfl⟩
  have reapplied := applied_of_ok again
  have sameClients := reapplied.clients.unique clientCounted_functional (applied.clients.perm clients)
  have sameListeners := reapplied.listeners.unique listenerCounted_functional (applied.listeners.perm listeners)
  have sameStore : { store with clients := table, listeners := listening } = next := by
    rw [applied.rest, ← sameClients, ← sameListeners]
  have sameFlag : flag = changed := by
    rw [Bool.eq_iff_iff, gateChanged_iff again, gateChanged_iff done, sameStore]
  rw [again, sameStore, sameFlag]

/-- A failed batch changes nothing. One that succeeds changes exactly the rows it names, as its updates say, and
reports whether a gate changed; their order does not matter. -/
structure Instant (lib : Library) (store : Store) (batch : CounterBatch) (atMS : Int) : Prop where
  atomic : (∃ err, applyCounterBatch lib store batch atMS = .error err ∧
      perform lib store (.applyCounterBatch batch atMS) = store) ∨
    ∃ changed, applyCounterBatch lib store batch atMS =
        .ok (perform lib store (.applyCounterBatch batch atMS), changed) ∧
      Applied lib store batch atMS (perform lib store (.applyCounterBatch batch atMS)) ∧
      (changed = true ↔ GateDiffers store.clients (perform lib store (.applyCounterBatch batch atMS)).clients)
  order : ∀ other : CounterBatch, batch.clients.Perm other.clients → batch.listeners.Perm other.listeners →
    (applyCounterBatch lib store batch atMS).toOption = (applyCounterBatch lib store other atMS).toOption

theorem counter_batch_instant (lib : Library) (store : Store) (batch : CounterBatch) (atMS : Int) :
    Instant lib store batch atMS := by
  refine ⟨?_, fun other clients listeners => ?_⟩
  · cases done : applyCounterBatch lib store batch atMS with
    | error err =>
      refine .inl ⟨err, rfl, ?_⟩
      rw [perform, done]
      rfl
    | ok result =>
      obtain ⟨next, changed⟩ := result
      have committed : perform lib store (.applyCounterBatch batch atMS) = next := by
        rw [perform, done]
        rfl
      rw [committed]
      exact .inr ⟨changed, rfl, applied_of_ok done, gateChanged_iff done⟩
  · cases done : applyCounterBatch lib store batch atMS with
    | ok result => rw [applyCounterBatch_reordered clients listeners done]
    | error err =>
      cases again : applyCounterBatch lib store other atMS with
      | error other => rfl
      | ok result =>
        rw [applyCounterBatch_reordered clients.symm listeners.symm again] at done
        cases done

end Clients

end PasswallNode.Sqlite
