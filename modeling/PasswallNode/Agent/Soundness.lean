import PasswallNode.Agent.ReceiveSpecs
import PasswallNode.Agent.ValidateSpecs
import PasswallNode.Sqlite.CallSpecs

/-! What holds of the database of an agent at any time. -/

namespace PasswallNode.Agent

open Foundation Protocol State Sqlite

def DocumentValid (wire : Wire) (doc : StreamDocument) : Prop :=
  match doc.stream with
  | .config => ∃ body, wire.config.unmarshal doc.body = .ok body ∧ ValidConfig wire body
  | .roster => ∃ body, wire.roster.unmarshal doc.body = .ok body ∧ ValidRoster wire body
  | .directives => ∃ body, wire.directives.unmarshal doc.body = .ok body ∧ ValidDirectives wire body

def WellFormed (libs : Libraries) (status : ObjectStatus) : Prop :=
  ∀ atMS, 0 ≤ atMS → validateObjectContent libs.pkg libs.wire status atMS = .ok ()

structure SoundStore (libs : Libraries) (store : Store) : Prop where
  streams : ∀ name record, store.streams.find? name = some record →
    DocumentValid libs.wire record.document
  clients : ∀ key row, store.clients.find? key = some row → ∃ id, libs.wire.clientRowID key = .ok id
  listeners : ∀ key row, store.listeners.find? key = some row →
    ∃ id, libs.wire.listenerRowID key = .ok id
  objects : ∀ key stored, store.objects.find? key = some stored →
    validateObjectKey libs.wire stored.status.stream stored.status.key = .ok () ∧
      WellFormed libs stored.status

theorem sound_fresh (libs : Libraries) : SoundStore libs Store.fresh := by
  constructor
  · rintro name record ⟨⟩
  · rintro key row ⟨⟩
  · rintro key row ⟨⟩
  · rintro key stored ⟨⟩

def SoundCall (libs : Libraries) : StoreCall → Prop
  | .saveStream doc => DocumentValid libs.wire doc
  | .ensureClient identity _ => ∃ id, libs.wire.clientRowID identity.key = .ok id
  | .ensureListener key _ => ∃ id, libs.wire.listenerRowID key = .ok id
  | _ => True

section Kept

variable {libs : Libraries} {store next : Store} {call : StoreCall} {value : call.Value} {status : ObjectStatus}
  {atMS : Int} {err : Error} {roster : Option RosterBody} {faultless : Prop}

theorem transaction_streams_valid (sound : SoundStore libs store) (allowed : SoundCall libs call)
    (done : transaction libs store call = .ok (next, value)) (name : Stream) (record : StoredStream)
    (found : next.streams.find? name = some record) : DocumentValid libs.wire record.document := by
  have frame := (transaction_frame done).streams
  cases call with
  | saveStream doc =>
    obtain ⟨-, ⟨rfl, -⟩ | ⟨-, stored⟩⟩ := saveStream_ok done
    · exact sound.streams name record found
    · rw [stored.2 name] at found
      split at found
      · cases found
        exact allowed
      · exact sound.streams name record found
  | clearStreamForHigherEpoch other epoch =>
    obtain ⟨-, rfl⟩ | ⟨current, present, -, stored⟩ := clearStreamForHigherEpoch_ok done
    · exact sound.streams name record found
    · rw [stored.2 name] at found
      split at found
      · cases found
        exact sound.streams other current present
      · exact sound.streams name record found
  | _ =>
    rw [frame (by simp [WritesStreams])] at found
    exact sound.streams name record found

theorem transaction_clients_keyed (sound : SoundStore libs store) (allowed : SoundCall libs call)
    (done : transaction libs store call = .ok (next, value)) (key : String) (row : ClientRuntime)
    (found : next.clients.find? key = some row) : ∃ id, libs.wire.clientRowID key = .ok id := by
  have frame := (transaction_frame done).clients
  cases call with
  | ensureClient identity atMS =>
    rw [ensureClient_ok done key] at found
    split at found
    · rename_i here
      rw [← here]
      exact allowed
    · exact sound.clients key row found
  | deleteClient other =>
    rw [deleteClient_ok done key] at found
    split at found
    · cases found
    · exact sound.clients key row found
  | applyQuota other grant atMS =>
    have evolved : Table.Evolves (Granted libs.lib) store.clients next.clients := applyQuota_evolves done
    obtain ⟨before, present, -⟩ := evolved.origin found
    exact sound.clients key before present
  | _ =>
    rw [frame (by simp [WritesClients])] at found
    exact sound.clients key row found

theorem transaction_listeners_keyed (sound : SoundStore libs store) (allowed : SoundCall libs call)
    (done : transaction libs store call = .ok (next, value)) (key : String) (row : ListenerRuntime)
    (found : next.listeners.find? key = some row) : ∃ id, libs.wire.listenerRowID key = .ok id := by
  have frame := (transaction_frame done).listeners
  cases call with
  | ensureListener other atMS =>
    rcases (ensureListener_rows done).2 key row found with ⟨old, present⟩ | here
    · exact sound.listeners key old present
    · rw [here]
      exact allowed
  | deleteListener other =>
    obtain ⟨_, -, same⟩ := bind_eq_ok.mp done
    cases same
    rw [Table.find?_deleteWhere] at found
    exact sound.listeners key row (Option.eq_some_of_filter_eq_some found)
  | _ =>
    rw [frame (by simp [WritesListeners])] at found
    exact sound.listeners key row found

theorem wellFormed_of_valid (valid : validateObject libs.pkg libs.wire status atMS = .ok ()) :
    validateObjectKey libs.wire status.stream status.key = .ok () ∧ WellFormed libs status := by
  obtain ⟨_, keyed, content⟩ := bind_eq_ok.mp valid
  refine ⟨keyed, ?_⟩
  intro later timed
  simp only [validateObjectContent, bind_eq_ok, rejectIf_eq_ok, not_or, not_lt] at content ⊢
  obtain ⟨_, committed, _, ⟨failed, -⟩, rest⟩ := content
  exact ⟨(), committed, (), ⟨failed, timed⟩, rest⟩

theorem valid_of_wellFormed (keyed : validateObjectKey libs.wire status.stream status.key = .ok ())
    (formed : WellFormed libs status) (timed : 0 ≤ atMS) : validateObject libs.pkg libs.wire status atMS = .ok () :=
  bind_eq_ok.mpr ⟨(), keyed, formed atMS timed⟩

theorem transaction_objects_valid (sound : SoundStore libs store)
    (done : transaction libs store call = .ok (next, value)) (key : Stream × String) (stored : StoredObject)
    (found : next.objects.find? key = some stored) :
    validateObjectKey libs.wire stored.status.stream stored.status.key = .ok () ∧
    WellFormed libs stored.status := by
  have frame := (transaction_frame done).objects
  cases call with
  | saveObject status atMS =>
    obtain ⟨valid, objects, put, rfl⟩ := saveObject_ok done
    rw [Table.find?_put put] at found
    split at found
    · cases found
      exact wellFormed_of_valid valid
    · exact sound.objects key stored found
  | deleteObject | deleteClient | deleteListener =>
    obtain ⟨_, -, same⟩ := bind_eq_ok.mp done
    cases same
    rw [Table.find?_deleteWhere] at found
    exact sound.objects key stored (Option.eq_some_of_filter_eq_some found)
  | _ =>
    rw [frame (by simp [WritesObjects])] at found
    exact sound.objects key stored found

theorem transaction_sound (sound : SoundStore libs store) (allowed : SoundCall libs call)
    (done : transaction libs store call = .ok (next, value)) : SoundStore libs next :=
  ⟨transaction_streams_valid sound allowed done, transaction_clients_keyed sound allowed done,
    transaction_listeners_keyed sound allowed done, transaction_objects_valid sound done⟩

def Told (libs : Libraries) : (call : StoreCall) → call.Value → Prop
  | .stream name, doc => doc.stream = name ∧ DocumentValid libs.wire doc
  | .object name key, status => status.stream = name ∧ status.key = key ∧ WellFormed libs status
  | .objects, statuses => ∀ status ∈ statuses, status.key ≠ ""
  | .clients, rows => ∀ row ∈ rows, ∃ id, libs.wire.clientRowID row.key = .ok id
  | .listeners, rows => ∀ row ∈ rows, ∃ id, libs.wire.listenerRowID row.key = .ok id
  | _, _ => True

theorem key_ne_empty {wire : Wire} {name : Stream} {key : String}
    (keyed : validateObjectKey wire name key = .ok ()) : key ≠ "" := by
  rintro rfl
  cases name with
  | config =>
    cases read : wire.listenerRowID "" with
    | ok id => exact wire.listenerRowID_empty id read
    | error text => simp [validateObjectKey, read] at keyed
  | roster =>
    cases read : wire.clientRowID "" with
    | ok id => exact wire.clientRowID_empty id read
    | error text => simp [validateObjectKey, read] at keyed
  | directives => cases keyed

theorem transaction_told (sound : SoundStore libs store) {call : StoreCall} {value : call.Value}
    (done : transaction libs store call = .ok (next, value)) : Told libs call value := by
  cases call with
  | stream name =>
    obtain ⟨-, read⟩ := query_eq_ok.mp done
    obtain ⟨record, found, same⟩ := Option.map_eq_some_iff.mp (orError_eq_ok.mp read)
    subst same
    have named := Table.key_of_find? found
    exact ⟨named, sound.streams name record found⟩
  | object name key =>
    obtain ⟨-, read⟩ := query_eq_ok.mp done
    obtain ⟨stored, found, same⟩ := Option.map_eq_some_iff.mp (orError_eq_ok.mp read)
    subst same
    have named := Table.key_of_find? found
    exact ⟨congrArg Prod.fst named, congrArg Prod.snd named, (sound.objects _ stored found).2⟩
  | objects =>
    cases done
    intro status member
    obtain ⟨stored, present, rfl⟩ := List.mem_map.mp ((List.mem_insertionSort _).mp member)
    exact key_ne_empty (sound.objects _ stored (Table.find?_of_mem present)).1
  | clients =>
    cases done
    intro row member
    have present : row ∈ store.clients.rows := (List.mem_insertionSort _).mp member
    exact sound.clients row.key row (Table.find?_of_mem present)
  | listeners =>
    cases done
    intro row member
    have present : row ∈ store.listeners.rows := (List.mem_insertionSort _).mp member
    exact sound.listeners row.key row (Table.find?_of_mem present)
  | _ => trivial

/-- The calls by which a round converges a roster leave the documents and the grants alone, and delete no client
of the roster. -/
def RoundCall (libs : Libraries) (roster : Option RosterBody) (faultless : Prop) : StoreCall → Prop
  | .saveStream _ | .clearStreamForHigherEpoch _ _ | .applyQuota _ _ _ => False
  | .ensureClient identity atMS =>
    0 ≤ atMS ∧ ∃ body ∈ roster, ∃ client ∈ body.clients, identity = ⟨client.key, client.subject⟩
  | .deleteClient key => key ≠ "" ∧ ∃ body ∈ roster, key ∉ body.clients.map Client.key
  | .ensureListener key atMS => 0 ≤ atMS ∧ key ≠ "" ∧ ∃ id, libs.wire.listenerRowID key = .ok id
  | .deleteListener key => key ≠ ""
  | .saveObject status atMS => faultless → validateObject libs.pkg libs.wire status atMS = .ok ()
  | .deleteObject _ key => key ≠ ""
  | .observeReferenceSkew kind key version =>
    isBlank kind = false ∧ isBlank key = false ∧ version.zero = false
  | .clearReferenceSkew kind key => isBlank kind = false ∧ isBlank key = false
  | _ => True

def Excused : StoreCall → Error → Prop
  | .stream _, err | .object _ _, err => err.isSentinel .notFound = true
  | .observeReferenceSkew _ _ _, err => SkewExhausted err
  | _, _ => False

def Bound (roster : List Client) (store : Store) : Prop :=
  ∀ client ∈ roster, ∀ row, store.clients.find? client.key = some row → row.subject = client.subject

def rosterClients (roster : Option RosterBody) : List Client := roster.elim [] RosterBody.clients

theorem mem_rosterClients {roster : Option RosterBody} {client : Client} :
    client ∈ rosterClients roster ↔ ∃ body ∈ roster, client ∈ body.clients := by
  cases roster <;> simp [rosterClients]

theorem soundCall_of_roundCall (valid : ∀ client ∈ rosterClients roster, ValidClient libs.wire client)
    (allowed : RoundCall libs roster faultless call) : SoundCall libs call := by
  cases call with
  | saveStream => exact absurd allowed id
  | ensureClient identity atMS =>
    obtain ⟨-, body, here, client, member, rfl⟩ := allowed
    exact (valid client (mem_rosterClients.mpr ⟨body, here, member⟩)).row
  | ensureListener key atMS => exact allowed.2.2
  | _ => trivial

theorem transaction_bound {value : call.Value} (distinct : ((rosterClients roster).map Client.key).Nodup)
    (bound : Bound (rosterClients roster) store) (allowed : RoundCall libs roster faultless call)
    (done : transaction libs store call = .ok (next, value)) : Bound (rosterClients roster) next := by
  intro client member row found
  have frame := (transaction_frame done).clients
  cases call with
  | ensureClient identity atMS =>
    obtain ⟨-, body, listed, other, among, rfl⟩ := allowed
    have present : other ∈ rosterClients roster := mem_rosterClients.mpr ⟨body, listed, among⟩
    rw [ensureClient_ok done client.key] at found
    split at found
    · rename_i here
      have same : other = client := List.inj_on_of_nodup_map distinct present member here
      subst same
      cases before : store.clients.find? other.key with
      | none =>
        rw [before] at found
        cases found
        rfl
      | some old =>
        rw [before] at found
        cases found
        exact bound other member old before
    · exact bound client member row found
  | deleteClient key =>
    rw [deleteClient_ok done client.key] at found
    split at found
    · cases found
    · exact bound client member row found
  | applyQuota => exact absurd allowed id
  | _ =>
    rw [frame (by simp [WritesClients])] at found
    exact bound client member row found

theorem rejectIf_done {condition : Prop} [Decidable condition] {other : Error} {α : Type} {result : Except Error α}
    (fine : ¬ condition) (failed : (rejectIf condition other >>= fun _ => result) = .error err) :
    result = .error err := by
  rcases bind_eq_error.mp failed with rejected | ⟨_, -, rest⟩
  · exact absurd (rejectIf_eq_error.mp rejected).1 fine
  · exact rest

theorem transaction_excused (valid : ∀ client ∈ rosterClients roster, ValidClient libs.wire client)
    (bound : Bound (rosterClients roster) store) (fine : faultless) (allowed : RoundCall libs roster faultless call)
    (failed : transaction libs store call = .error err) : Excused call err := by
  cases call with
  | stream name =>
    cases found : store.streams.find? name with
    | some record => rw [transaction_stream found] at failed; cases failed
    | none =>
      have missing : transaction libs store (.stream name) = .error (streamNotFound name) := by
        simp [transaction, query, stream, found, orError, Except.map]
      rw [missing] at failed
      cases failed
      rfl
  | object name key =>
    cases found : store.objects.find? (name, key) with
    | some stored => simp [transaction, query, object, found, orError, Except.map] at failed
    | none =>
      simp only [transaction, query, object, found, orError, Except.map, Option.map_none] at failed
      cases failed
      rfl
  | objects | clients | listeners => cases failed
  | saveStream | clearStreamForHigherEpoch | applyQuota => exact absurd allowed id
  | saveObject status atMS =>
    have saves : ∃ next, saveObject libs.pkg libs.wire store status atMS = .ok (next, ()) :=
      saveObject_of_valid (allowed fine)
    obtain ⟨next, saved⟩ := saves
    cases saved.symm.trans failed
  | deleteObject name key => cases rejectIf_done allowed failed
  | ensureClient identity atMS =>
    obtain ⟨timed, body, listed, client, among, rfl⟩ := allowed
    have member : client ∈ rosterClients roster := mem_rosterClients.mpr ⟨body, listed, among⟩
    have ensures : ∃ done, ensureClient store ⟨client.key, client.subject⟩ atMS = .ok done :=
      ensureClient_isOk ⟨(valid client member).named.1, (valid client member).named.2, timed⟩ (bound client member)
    obtain ⟨done, ensured⟩ := ensures
    cases ensured.symm.trans failed
  | deleteClient key => cases rejectIf_done allowed.1 failed
  | ensureListener key atMS =>
    have ensures : ∃ next, ensureListener store key atMS = .ok (next, ()) :=
      ensureListener_of_valid allowed.2.1 allowed.1
    obtain ⟨next, ensured⟩ := ensures
    cases ensured.symm.trans failed
  | deleteListener key => cases rejectIf_done allowed failed
  | observeReferenceSkew kind key version =>
    exact (observeReferenceSkew_fails allowed.1 allowed.2.1 allowed.2.2 failed).2
  | clearReferenceSkew kind key =>
    have clears : ∃ next, clearReferenceSkew store kind key = .ok (next, ()) :=
      clearReferenceSkew_of_named allowed.1 allowed.2
    obtain ⟨next, cleared⟩ := clears
    cases cleared.symm.trans failed

end Kept

end PasswallNode.Agent
