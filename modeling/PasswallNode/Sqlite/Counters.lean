import PasswallNode.Sqlite.Clients

/-! Listener rows and the batch that commits one observation of the core. -/

namespace PasswallNode.Sqlite

open Foundation Protocol State

def newListener (key : String) (atMS : Int) : ListenerRuntime where
  key := key
  present := false
  upBytes := 0
  downBytes := 0
  counterEpoch := 0
  updatedAtMS := atMS

def ensureListener (store : Store) (key : String) (atMS : Int) : Except Error (Store × Unit) := do
  rejectIf (key = "" ∨ atMS < 0) (.new "listener key and non-negative timestamp are required")
  let (listeners, _) ← orError (store.listeners.insertIgnore (newListener key atMS))
    (constraintFailed.within s!"materialise listener {key}")
  .ok ({ store with listeners := listeners }, ())

def applyListenerCounter (listeners : ListenerTable) (update : ListenerCounterUpdate) (atMS : Int) :
    Except Error ListenerTable := do
  rejectIf (update.key = "" ∨ update.upBytes < 0 ∨ update.downBytes < 0 ∨ atMS < 0)
    (.new "listener counter update has invalid key, bytes, or timestamp")
  let current ← orError (listeners.find? update.key)
    ((Error.ofSentinel .notFound).within s!"listener {update.key}")
  rejectIf (counterRollback update.counterEpoch current.counterEpoch update.upBytes
      update.downBytes current.upBytes current.downBytes)
    ((Error.ofSentinel .counterRollback).within s!"listener {update.key}")
  orError
    (listeners.updateKey update.key
      (fun row => { row with
        present := update.present, upBytes := update.upBytes, downBytes := update.downBytes,
        counterEpoch := update.counterEpoch, updatedAtMS := atMS })
      (fun _ => rfl))
    (constraintFailed.within s!"update listener {update.key} counters")

def deleteListener (store : Store) (key : String) : Except Error (Store × Unit) := do
  rejectIf (key = "") (.new "listener key is required")
  .ok ({ store with
    objects := store.objects.deleteWhere
      (fun o => decide (o.status.stream = .config) && decide (o.status.key = key))
    listeners := store.listeners.deleteWhere (fun row => decide (row.key = key)) }, ())

def firstRepeat (seen : List String) : List String → Option String
  | [] => none
  | key :: rest => if key ∈ seen then some key else firstRepeat (key :: seen) rest

def validateCounterBatch (batch : CounterBatch) : Except Error Unit :=
  match firstRepeat [] (batch.clients.map (·.key)) with
  | some key => .error (.new s!"counter batch repeats client {key}")
  | none =>
    match firstRepeat [] (batch.listeners.map (·.key)) with
    | some key => .error (.new s!"counter batch repeats listener {key}")
    | none => .ok ()

def applyClientCounters (lib : Library) (clients : ClientTable) (updates : List CounterUpdate)
    (atMS : Int) : Except Error (ClientTable × Bool) :=
  forEach
    (fun (clients, gateChanged) update => do
      let (next, changed) ← withError (.within s!"apply counter batch client {update.key}")
        (applyClientCounter lib clients update atMS)
      .ok (next, gateChanged || changed))
    (clients, false) updates

/-- One row that moves backwards rejects the whole observation. The result says whether
some gate changed. -/
def applyCounterBatch (lib : Library) (store : Store) (batch : CounterBatch) (atMS : Int) :
    Except Error (Store × Bool) := do
  rejectIf (atMS < 0) (.new "counter batch timestamp must be non-negative")
  validateCounterBatch batch
  let (clients, gateChanged) ← applyClientCounters lib store.clients batch.clients atMS
  let listeners ← forEach
    (fun listeners update => withError (.within s!"apply counter batch listener {update.key}")
      (applyListenerCounter listeners update atMS))
    store.listeners batch.listeners
  .ok ({ store with clients := clients, listeners := listeners }, gateChanged)

end PasswallNode.Sqlite
