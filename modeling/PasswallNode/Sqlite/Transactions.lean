import PasswallNode.Foundation.Exec
import PasswallNode.Sqlite.Counters
import PasswallNode.Sqlite.Objects
import PasswallNode.Sqlite.Streams
import PasswallNode.State.Calls

/-! The database as the store of the sync round. -/

namespace PasswallNode.Sqlite

open Foundation Protocol State

/-- `SELECT … ORDER BY listener_key`. -/
def listeners (store : Store) : List ListenerRuntime :=
  store.listeners.rows.insertionSort (fun a b => a.key ≤ b.key)

def query {α : Type} (store : Store) (answer : Except Error α) : Except Error (Store × α) :=
  answer.map (fun value => (store, value))

variable {next : Store} {call : StoreCall}

theorem query_eq_ok {α : Type} {store : Store} {answer : Except Error α} {value : α} :
    query store answer = .ok (next, value) ↔ next = store ∧ answer = .ok value := by
  cases answer with
  | error err => simp [query, Except.map]
  | ok a => simp [query, Except.map, eq_comm]

/-- What the database needs of the libraries it calls. -/
structure Libraries where
  lib : Library
  pkg : Package
  wire : Wire

variable (libs : Libraries)

def transaction (store : Store) : (call : StoreCall) → Except Error (Store × call.Value)
  | .stream name => query store (stream store name)
  | .saveStream doc => saveStream libs.lib libs.wire store doc
  | .clearStreamForHigherEpoch name observedEpoch => clearStreamForHigherEpoch store name observedEpoch
  | .object name key => query store (object store name key)
  | .saveObject status updatedAtMS => saveObject libs.pkg libs.wire store status updatedAtMS
  | .objects => .ok (store, objects store)
  | .deleteObject name key => deleteObject store name key
  | .ensureClient identity atMS => ensureClient store identity atMS
  | .clients => .ok (store, clients store)
  | .deleteClient key => deleteClient store key
  | .applyQuota key grant atMS => applyQuota libs.lib store key grant atMS
  | .ensureListener key atMS => ensureListener store key atMS
  | .listeners => .ok (store, listeners store)
  | .deleteListener key => deleteListener store key
  | .observeReferenceSkew kind key version => observeReferenceSkew store kind key version
  | .clearReferenceSkew kind key => clearReferenceSkew store kind key

/-- The database after a call and what the caller gets: a failed transaction changes nothing. -/
def serve (store : Store) (call : StoreCall) : Store × call.Answer :=
  match transaction libs store call with
  | .ok (next, value) => (next, .ok value)
  | .error err => (store, .error err)

variable {libs} {store : Store}

theorem serve_ok {value : call.Value} (done : transaction libs store call = .ok (next, value)) :
    serve libs store call = (next, .ok value) := by
  rw [serve, done]

theorem serve_error {err : Error} (failed : transaction libs store call = .error err) :
    serve libs store call = (store, .error err) := by
  rw [serve, failed]

theorem serve_invariant (holds : Store → Prop) (before : holds store)
    (kept : ∀ next value, transaction libs store call = .ok (next, value) → holds next) :
    holds (serve libs store call).1 := by
  cases done : transaction libs store call with
  | error err => rw [serve_error done]; exact before
  | ok pair => rw [serve_ok done]; exact kept pair.1 pair.2 done

theorem exec_transact (call : StoreCall) : exec (serve libs) store (transact call) = serve libs store call := rfl

section Run

variable {β : Type} {call : StoreCall} {next : Store} {rest : call.Value → Transactions β}

theorem exec_transact_ok {value : call.Value}
    (done : transaction libs store call = .ok (next, value)) :
    exec (serve libs) store (transact call >>= rest) = exec (serve libs) next (rest value) :=
  exec_bind_ok (by rw [exec_transact, serve_ok done])

theorem exec_transact_error {err : Error} (failed : transaction libs store call = .error err) :
    exec (serve libs) store (transact call >>= rest) = (store, .error err) :=
  exec_bind_error (by rw [exec_transact, serve_error failed])

end Run

end PasswallNode.Sqlite
