import PasswallNode.Agent.Accounts

/-! What an applied object rests on: its upsert succeeded, and nothing else was done to its key since. -/

namespace PasswallNode.Agent

open Foundation Protocol State Sqlite Relation

section Standing

variable {events : List RoundEvent} {upserts touches : RuntimeOp → Prop} {libs : Libraries} {compact : Bytes → Bytes}
  {listeners fewer : Listener → Prop} {clients less : Client → Prop} {now later : Moment}

def Stands (events : List RoundEvent) (upserts touches : RuntimeOp → Prop) : Prop :=
  ∃ before op later, events = before ++ ⟨.runtime op, .ok ()⟩ :: later ∧ upserts op ∧
    ∀ other, ⟨.runtime other, .ok ()⟩ ∈ later → touches other → upserts other

theorem stands_upserted {op : RuntimeOp} (upserted : upserts op) :
    Stands (events ++ [⟨.runtime op, .ok ()⟩]) upserts touches :=
  ⟨events, op, [], rfl, upserted, fun _ impossible => absurd impossible List.not_mem_nil⟩

theorem Stands.concat {event : RoundEvent} (stands : Stands events upserts touches)
    (harmless : ∀ op, event = ⟨.runtime op, .ok ()⟩ → touches op → upserts op) :
    Stands (events ++ [event]) upserts touches := by
  obtain ⟨before, op, later, rfl, upserted, since⟩ := stands
  refine ⟨before, op, later ++ [event], by simp, upserted, ?_⟩
  intro other member touched
  rcases List.mem_append.mp member with earlier | last
  · exact since other earlier touched
  · exact harmless other (List.mem_singleton.mp last).symm touched

theorem Stands.congr {others : RuntimeOp → Prop} (stands : Stands events upserts touches)
    (same : ∀ op, upserts op ↔ others op) : Stands events others touches := by
  obtain ⟨before, op, later, split, upserted, since⟩ := stands
  exact ⟨before, op, later, split, (same op).mp upserted,
    fun other member touched => (same other).mp (since other member touched)⟩

/-- The raw bytes of a listener count up to how the encoder of documents spells them. -/
def UpsertsListener (compact : Bytes → Bytes) (listener : Listener) (op : RuntimeOp) : Prop :=
  ∃ given, op = .upsertListener given ∧ given.key = listener.key ∧ compact given.config = compact listener.config

def TouchesListener (key : String) (op : RuntimeOp) : Prop :=
  (∃ given, op = .upsertListener given ∧ given.key = key) ∨ op = .removeListener key

def TouchesClient (key : String) (op : RuntimeOp) : Prop :=
  (∃ given, op = .upsertClient given ∧ given.key = key) ∨ op = .removeClient key

def ListenerStands (compact : Bytes → Bytes) (now : Moment) (listener : Listener) : Prop :=
  Stands now.events (UpsertsListener compact listener) (TouchesListener listener.key)

def ClientStands (now : Moment) (client : Client) : Prop :=
  Stands now.events (· = .upsertClient client) (TouchesClient client.key)

def SameListener (compact : Bytes → Bytes) (one other : Listener) : Prop :=
  one.key = other.key ∧ compact one.config = compact other.config

theorem ListenerStands.congr {compact : Bytes → Bytes} {now : Moment} {one other : Listener}
    (stands : ListenerStands compact now one) (same : SameListener compact one other) :
    ListenerStands compact now other := by
  unfold ListenerStands at stands ⊢
  rw [← same.1]
  refine Stands.congr stands ?_
  intro op
  rw [UpsertsListener, UpsertsListener, same.1, same.2]

def AppliedIn (now : Moment) (name : Stream) (key : String) : Prop :=
  ∃ stored, now.store.objects.find? (name, key) = some stored ∧ stored.status.state = .applied

structure Covers (compact : Bytes → Bytes) (listeners : Listener → Prop) (clients : Client → Prop)
    (now : Moment) : Prop where
  listeners : ∀ listener, listeners listener → AppliedIn now .config listener.key →
    ListenerStands compact now listener
  clients : ∀ client, clients client → AppliedIn now .roster client.key → ClientStands now client

theorem Covers.mono (covers : Covers compact listeners clients now)
    (implies : ∀ listener, fewer listener → listeners listener) (also : ∀ client, less client → clients client) :
    Covers compact fewer less now :=
  ⟨fun listener member => covers.listeners listener (implies listener member),
    fun client member => covers.clients client (also client member)⟩

theorem Covers.step {call : ProcessCall} {answer : call.Answer} (covers : Covers compact listeners clients now)
    (events : later.events = now.events ++ [⟨call, answer⟩])
    (objects : ∀ name key, AppliedIn later name key → AppliedIn now name key)
    (spares : ∀ op, (⟨call, answer⟩ : RoundEvent) = ⟨.runtime op, .ok ()⟩ →
    (∀ listener, listeners listener → TouchesListener listener.key op → UpsertsListener compact listener op) ∧
      ∀ client, clients client → TouchesClient client.key op → op = .upsertClient client) :
    Covers compact listeners clients later := by
  refine ⟨?_, ?_⟩
  · intro listener member applied
    unfold ListenerStands
    rw [events]
    refine Stands.concat (covers.listeners listener member (objects _ _ applied)) ?_
    exact fun op same touched => (spares op same).1 listener member touched
  · intro client member applied
    unfold ClientStands
    rw [events]
    refine Stands.concat (covers.clients client member (objects _ _ applied)) ?_
    exact fun op same touched => (spares op same).2 client member touched

theorem appliedIn_congr (same : later.store.objects = now.store.objects) (name : Stream) (key : String) :
    AppliedIn later name key ↔ AppliedIn now name key := by
  rw [AppliedIn, AppliedIn, same]

theorem stable_covers : Stable (around libs) (Covers compact listeners clients) := by
  rintro now later ⟨events, moved⟩ covers
  have objects := (elsewhere_counting moved).objects
  refine ⟨?_, ?_⟩
  · intro listener member applied
    unfold ListenerStands
    rw [events]
    exact covers.listeners listener member ((appliedIn_congr objects _ _).mp applied)
  · intro client member applied
    unfold ClientStands
    rw [events]
    exact covers.clients client member ((appliedIn_congr objects _ _).mp applied)

def Neutral : ProcessCall → Prop
  | .store call => ¬ WritesObjects call ∧ ¬ WritesStreams call
  | .runtime _ => False
  | _ => True

theorem Covers.saved {status : ObjectStatus} {atMS : Int} {answer : (StoreCall.saveObject status atMS).Answer}
    (covers : Covers compact listeners clients now)
    (events : later.events = now.events ++ [⟨.store (.saveObject status atMS), answer⟩])
    (objects : ∀ id, later.store.objects.find? id =
    if (status.stream, status.key) = id then some ⟨status, atMS⟩ else now.store.objects.find? id)
    (grows : ∀ listener, fewer listener → listeners listener ∨ (status.stream, status.key) = (.config, listener.key))
    (also : ∀ client, less client → clients client ∨ (status.stream, status.key) = (.roster, client.key))
    (stands : status.state = .applied →
    (∀ listener, fewer listener → (status.stream, status.key) = (.config, listener.key) →
      ListenerStands compact now listener) ∧
    ∀ client, less client → (status.stream, status.key) = (.roster, client.key) → ClientStands now client) :
    Covers compact fewer less later := by
  have kept : ∀ id : Stream × String, AppliedIn later id.1 id.2 →
      (status.stream, status.key) = id ∧ status.state = .applied ∨
        (status.stream, status.key) ≠ id ∧ AppliedIn now id.1 id.2 := by
    rintro id ⟨stored, found, applied⟩
    rw [objects] at found
    split at found
    · rename_i here
      cases found
      exact Or.inl ⟨here, applied⟩
    · rename_i apart
      exact Or.inr ⟨apart, stored, found, applied⟩
  refine ⟨?_, ?_⟩
  · intro listener member applied
    have standing : ListenerStands compact now listener := by
      rcases kept (.config, listener.key) applied with ⟨here, state⟩ | ⟨apart, before⟩
      · exact (stands state).1 listener member here
      · exact covers.listeners listener ((grows listener member).resolve_right apart) before
    unfold ListenerStands
    rw [events]
    exact Stands.concat standing (fun op same => by cases same)
  · intro client member applied
    have standing : ClientStands now client := by
      rcases kept (.roster, client.key) applied with ⟨here, state⟩ | ⟨apart, before⟩
      · exact (stands state).2 client member here
      · exact covers.clients client ((also client member).resolve_right apart) before
    unfold ClientStands
    rw [events]
    exact Stands.concat standing (fun op same => by cases same)

end Standing

section Walk

/-- Advancing keeps the object; accepting a version moves it there and leaves it applied at most if it was; no
other event moves its version, and only the applied event makes it applied. -/
structure Conformance.Faithful (conformance : Conformance) : Prop where
  same : ∀ object transition status, conformance.advanceObject object transition = .ok status →
    (status.stream, status.key) = object.id
  accepted : ∀ object version atMS status,
    conformance.advanceObject object (.accepted version atMS) = .ok status →
      status.sinceVersion = version ∧
        (status.state = .applied → ∃ known, object = .known known ∧ known.state = .applied)
  since : ∀ status transition next, (∀ version atMS, transition ≠ .accepted version atMS) →
    conformance.advanceObject (.known status) transition = .ok next → next.sinceVersion = status.sinceVersion
  onlyApplied : conformance.OnlyApplied

variable (libs : Libraries) (compact : Bytes → Bytes) (fair : Prop) (settled : Client → Option StoredObject → Prop)

def StoredListener (now : Moment) (listener : Listener) : Prop :=
  ∃ body, storedBody libs.wire.config now.store .config = some body ∧ listener ∈ body.listeners

def StoredClient (now : Moment) (client : Client) : Prop :=
  ∃ roster, storedBody libs.wire.roster now.store .roster = some roster ∧ client ∈ roster.clients

def Vouched (now : Moment) (status : ObjectStatus) : Prop :=
  match status.stream with
  | .config => ∃ listener, StoredListener libs now listener ∧ listener.key = status.key ∧
      ListenerStands compact now listener
  | .roster => ∃ client, StoredClient libs now client ∧ client.key = status.key ∧ ClientStands now client
  | .directives => False

def AllStand (now : Moment) : Prop := Covers compact (StoredListener libs now) (StoredClient libs now) now

def Walks (now : Moment) : ProcessCall → Prop
  | .store (.saveObject status _) =>
    status.sinceVersion = storedVersion now.store status.stream ∧ status.sinceVersion.zero = false ∧
      (fair → status.state = .applied → Vouched libs compact now status)
  | .store (.saveStream _) | .store (.clearStreamForHigherEpoch _ _) => False
  | .runtime (.upsertListener listener) => ∃ known, StoredListener libs now known ∧ SameListener compact listener known
  | .runtime (.removeListener key) => ∀ known, StoredListener libs now known → known.key ≠ key
  | .runtime (.upsertClient client) => ∃ known, StoredClient libs now known ∧ known.key = client.key
  | .runtime (.removeClient key) => ∀ known, StoredClient libs now known → known.key ≠ key
  | .runtime .finalize => False
  | _ => True

structure Converging (mirror : Store) (listeners : Listener → Prop) (clients : Client → Prop)
    (now : Moment) : Prop where
  mirrored : Mirrored mirror now
  covers : fair → Covers compact listeners clients now
  rows : ∀ client, clients client → settled client (now.store.objects.find? (.roster, client.key))

abbrev Converges {ε α : Type} (mirror : Store) (listeners : Listener → Prop) (clients : Client → Prop) :
    Moment → Proc ProcessCall ProcessCall.Answer ε α → Prop :=
  Ends libs (Walks libs compact fair) (fun now _ => Converging compact fair settled mirror listeners clients now)

variable {libs compact fair settled} {mirror : Store} {listeners fewer : Listener → Prop} {clients less : Client → Prop}
  {now later : Moment} {result : Bool} {α : Type} {call : ProcessCall} {answer : call.Answer}

theorem stable_converging : Stable (around libs) (Converging compact fair settled mirror listeners clients) :=
  fun now later moved held => ⟨stable_mirrored mirror now later moved held.mirrored,
    fun fairly => stable_covers now later moved (held.covers fairly),
    by rw [(elsewhere_counting moved.2).objects]; exact held.rows⟩

theorem Converging.mono (held : Converging compact fair settled mirror listeners clients now)
    (implies : ∀ listener, fewer listener → listeners listener) (also : ∀ client, less client → clients client) :
    Converging compact fair settled mirror fewer less now :=
  ⟨held.mirrored, fun fairly => (held.covers fairly).mono implies also,
    fun client member => held.rows client (also client member)⟩

theorem neutral_rows (neutral : Neutral call) (answered : (around libs).answers now call answer later) :
    later.store.objects = now.store.objects ∧ later.store.streams = now.store.streams := by
  obtain ⟨-, served⟩ := answered
  cases call with
  | store call =>
    have kept : (serve libs now.store call).1.objects = now.store.objects ∧
        (serve libs now.store call).1.streams = now.store.streams := by
      refine serve_invariant (fun next => next.objects = now.store.objects ∧ next.streams = now.store.streams)
        ⟨rfl, rfl⟩ ?_
      intro next value done
      exact ⟨(transaction_frame done).objects neutral.1, (transaction_frame done).streams neutral.2⟩
    rw [show serve libs now.store call = _ from served] at kept
    exact kept
  | _ =>
    rw [show later.store = now.store from served]
    exact ⟨rfl, rfl⟩

theorem Converging.neutral (held : Converging compact fair settled mirror listeners clients now)
    (neutral : Neutral call)
    (answered : (around libs).answers now call answer later) :
    Converging compact fair settled mirror listeners clients later := by
  obtain ⟨objects, streams⟩ := neutral_rows neutral answered
  refine ⟨?_, ?_, by rw [objects]; exact held.rows⟩
  · intro name
    rw [streams]
    exact held.mirrored name
  · intro fairly
    refine (held.covers fairly).step answered.1 (fun name key => (appliedIn_congr objects name key).mp) ?_
    intro op same
    cases same
    exact absurd neutral id

theorem walks_of_neutral (call : ProcessCall) (neutral : Neutral call) : Walks libs compact fair now call := by
  cases call with
  | store call =>
    cases call with
    | saveObject => exact absurd trivial neutral.1
    | saveStream | clearStreamForHigherEpoch => exact absurd trivial neutral.2
    | _ => trivial
  | runtime => exact absurd neutral id
  | _ => trivial

theorem ensures_neutral {program : Round α} (uses : Uses Neutral program)
    (held : Converging compact fair settled mirror listeners clients now) :
    Converges libs compact fair settled mirror listeners clients now program := by
  refine ensures_yields (ensures_of_uses stable_converging ?_ ?_ uses held) (fun _ _ _ => trivial)
    (fun _ _ held => held)
  · exact fun now call answer later held neutral answered => held.neutral neutral answered
  · exact fun now call _ neutral => walks_of_neutral call neutral

theorem ensures_readObject {name : Stream} {key : String}
    (held : Converging compact fair settled mirror listeners clients now) :
    Ends libs (Walks libs compact fair)
      (fun now current => Converging compact fair settled mirror listeners clients now ∧
      current = (now.store.objects.find? (name, key)).map StoredObject.status) now
    (optionalObject result name key) := by
  refine ensures_call stable_converging held ?_
  intro now held
  have neutral : Neutral (.store (.object name key)) := ⟨id, id⟩
  refine ⟨walks_of_neutral _ neutral, ?_⟩
  rintro answer ⟨store, events⟩ answered
  have after := held.neutral neutral answered
  obtain ⟨-, served⟩ := answered
  change serve libs now.store (.object name key) = (store, answer) at served
  cases found : now.store.objects.find? (name, key) with
  | none =>
    have missing : transaction libs now.store (.object name key) =
        .error ((Error.ofSentinel .notFound).within "object status") := by
      simp [transaction, query, object, found, orError, Except.map]
    rw [serve_error missing] at served
    cases served
    exact ⟨after, by rw [found]; rfl⟩
  | some stored =>
    have present : transaction libs now.store (.object name key) = .ok (now.store, stored.status) := by
      simp [transaction, query, object, found, orError, Except.map]
    rw [serve_ok present] at served
    cases served
    exact ⟨after, by rw [found]; rfl⟩

theorem stable_listenerStands (listener : Listener) :
    Stable (around libs) (fun now => ListenerStands compact now listener) := by
  rintro now later ⟨events, -⟩ stands
  rw [ListenerStands, events]
  exact stands

theorem stable_clientStands (client : Client) : Stable (around libs) (fun now => ClientStands now client) := by
  rintro now later ⟨events, -⟩ stands
  rw [ClientStands, events]
  exact stands

theorem Mirrored.version (mirrored : Mirrored mirror now) (name : Stream) :
    storedVersion now.store name = storedVersion mirror name := by
  rw [storedVersion, storedVersion, mirrored name]

theorem Mirrored.body {T : Type} (mirrored : Mirrored mirror now) (codec : Codec T) (name : Stream) :
    storedBody codec now.store name = storedBody codec mirror name :=
  storedBody_congr (mirrored name)

theorem ensures_saveStatus {status : ObjectStatus} {nowMS : Int} {stands : Moment → Prop}
    (stable : Stable (around libs) stands) (held : Converging compact fair settled mirror listeners clients now)
    (standing : fair → status.state = .applied → stands now)
    (versioned : status.sinceVersion = storedVersion mirror status.stream)
    (present : status.sinceVersion.zero = false)
    (vouches : ∀ now, Mirrored mirror now → status.state = .applied → stands now → Vouched libs compact now status)
    (grows : ∀ listener, fewer listener → listeners listener ∨ (status.stream, status.key) = (.config, listener.key))
    (also : ∀ client, less client → clients client ∨ (status.stream, status.key) = (.roster, client.key))
    (reaches : ∀ now, stands now →
    (∀ listener, fewer listener → (status.stream, status.key) = (.config, listener.key) →
      ListenerStands compact now listener) ∧
    ∀ client, less client → (status.stream, status.key) = (.roster, client.key) → ClientStands now client)
    (settles : ∀ client, less client → (status.stream, status.key) = (.roster, client.key) →
      settled client (some ⟨status, nowMS⟩)) :
    Converges libs compact fair settled mirror fewer less now (onStore result (.saveObject status nowMS)) := by
  have kept : Stable (around libs) (fun now => fair → status.state = .applied → stands now) :=
    fun now later moved before fairly applied => stable now later moved (before fairly applied)
  refine ensures_onStore (stable_converging.and kept) ⟨held, standing⟩ ?_ ?_ (fun _ _ _ _ => trivial)
  · rintro now ⟨held, standing⟩
    refine ⟨by rw [held.mirrored.version]; exact versioned, present, ?_⟩
    exact fun fairly applied => vouches now held.mirrored applied (standing fairly applied)
  · rintro now next value ⟨held, standing⟩ done
    obtain ⟨-, objects, put, rfl⟩ := saveObject_ok done
    refine ⟨held.mirrored, fun fairly => ?_, fun client member => ?_⟩
    · refine (held.covers fairly).saved rfl (fun id => Table.find?_put put id) grows also ?_
      exact fun applied => reaches now (standing fairly applied)
    · rw [Table.find?_put put]
      split
      · exact settles client member ‹_›
      · exact held.rows client ((also client member).resolve_right ‹_›)

end Walk

section Statuses

variable {p : Processor} {nowMS : Int} {name : Stream} {key : String} {version : Version} {store : Store}
  {current : Option ObjectStatus} {op : RuntimeOp} {noted : Bool} {call : StoreCall} {answer : Except RuntimeError Unit}
  {libs : Libraries} {compact : Bytes → Bytes} {fair : Prop} {settled : Client → Option StoredObject → Prop}
  {mirror : Store} {listeners : Listener → Prop} {clients : Client → Prop} {now : Moment} {result : Bool}
  {old : Option ConfigBody} {listener : Listener} {intake : Intake} {body : RosterBody}
  {states : List (String × ObjectState)} {client : Client} {status : ObjectStatus} {attachments : Attachments}
  {next : ObjectStatus} {keys passed : List String}

theorem current_named {known : ObjectStatus}
    (read : some known = (store.objects.find? (name, key)).map StoredObject.status) :
    (known.stream, known.key) = (name, key) ∧ ∃ stored, store.objects.find? (name, key) = some stored ∧
    stored.status = known := by
  obtain ⟨stored, found, same⟩ := Option.map_eq_some_iff.mp read.symm
  subst same
  have named := Table.key_of_find? found
  exact ⟨named, stored, found, rfl⟩

theorem acceptObject_faithful (faithful : p.conformance.Faithful) {now : Moment} {status : ObjectStatus}
    (read : current = (now.store.objects.find? (name, key)).map StoredObject.status)
    (accepted : acceptObject p current name key version nowMS = .ok status) :
    (status.stream, status.key) = (name, key) ∧ status.sinceVersion = version ∧
    (status.state = .applied → AppliedIn now name key) := by
  have same := faithful.same _ _ _ accepted
  obtain ⟨moved, applied⟩ := faithful.accepted _ _ _ _ accepted
  cases current with
  | none =>
    refine ⟨same, moved, fun state => ?_⟩
    obtain ⟨known, impossible, -⟩ := applied state
    cases impossible
  | some known =>
    obtain ⟨named, stored, found, rfl⟩ := current_named read
    refine ⟨same.trans named, moved, fun state => ?_⟩
    obtain ⟨known, held, state⟩ := applied state
    cases held
    exact ⟨stored, found, state⟩

theorem advance_since (faithful : p.conformance.Faithful) {status next : ObjectStatus} {transition : Transition}
    (other : ∀ version atMS, transition ≠ .accepted version atMS)
    (advanced : p.conformance.advanceObject (.known status) transition = .ok next) :
    (next.stream, next.key) = (status.stream, status.key) ∧ next.sinceVersion = status.sinceVersion :=
  ⟨faithful.same _ _ _ advanced, faithful.since _ _ _ other advanced⟩

theorem applyRuntimeResult_faithful (faithful : p.conformance.Faithful) {status next : ObjectStatus}
    (converged : applyRuntimeResult p status answer nowMS = .ok next) :
    (next.stream, next.key) = (status.stream, status.key) ∧ next.sinceVersion = status.sinceVersion := by
  unfold applyRuntimeResult at converged
  split at converged
  · exact advance_since faithful (by simp) converged
  · split at converged
    · exact advance_since faithful (by simp) converged
    · exact advance_since faithful (by simp) converged

structure ListenerNext (compact : Bytes → Bytes) (fair : Prop) (version : Version) (listener : Listener)
    (now : Moment) (next : ObjectStatus) : Prop where
  same : (next.stream, next.key) = (.config, listener.key)
  since : next.sinceVersion = version
  stands : fair → next.state = .applied → ListenerStands compact now listener

def Unaltered (old : Option ConfigBody) (listener : Listener) : Prop :=
  (listenerIn old listener.key).any (fun previous => decide (previous.config = listener.config)) = true

theorem upsert_spares
    (alone : ∀ other, listeners other → other.key = listener.key → SameListener compact listener other)
    (same : (⟨.runtime (.upsertListener listener), answer⟩ : RoundEvent) = ⟨.runtime op, .ok ()⟩) :
    (∀ other, listeners other → TouchesListener other.key op → UpsertsListener compact other op) ∧
    ∀ client, clients client → TouchesClient client.key op → op = .upsertClient client := by
  cases same
  refine ⟨?_, ?_⟩
  · rintro other member (⟨given, same, keyed⟩ | impossible)
    · cases same
      obtain ⟨key, config⟩ := alone other member keyed.symm
      exact ⟨listener, rfl, key, config⟩
    · cases impossible
  · rintro client - (⟨given, impossible, -⟩ | impossible)
    · cases impossible
    · cases impossible

section Listeners

variable
  (documented : ∀ now, Mirrored mirror now → ∃ known,
    StoredListener libs now known ∧ SameListener compact listener known)
  (alone : ∀ other, listeners other → other.key = listener.key → SameListener compact listener other)
  (held : Converging compact fair settled mirror listeners clients now) (faithful : p.conformance.Faithful)

include documented alone held

theorem ensures_upsertsListener : Ends libs (Walks libs compact fair)
    (fun now answer => Converging compact fair settled mirror listeners clients now ∧
      (answer = .ok () → ListenerStands compact now listener)) now (onRuntime (.upsertListener listener)) := by
  refine ensures_onRuntime stable_converging held (fun now held => documented now held.mirrored) ?_
  intro now answer held
  refine ⟨⟨held.mirrored, fun fairly => ?_, held.rows⟩, ?_⟩
  · exact (held.covers fairly).step rfl (fun _ _ applied => applied) (fun op same => upsert_spares alone same)
  · rintro rfl
    exact stands_upserted ⟨listener, rfl, rfl, rfl⟩

include faithful

theorem ensures_convergeListener {status : ObjectStatus} (skips : Unaltered old listener → listeners listener)
    (read : current = (now.store.objects.find? (.config, listener.key)).map StoredObject.status)
    (accepted : acceptObject p current .config listener.key version nowMS = .ok status) :
    Ends libs (Walks libs compact fair) (fun now next => Converging compact fair settled mirror listeners clients now ∧
      ListenerNext compact fair version listener now next) now
    (convergeListener p result old listener version nowMS current status) := by
  obtain ⟨same, since, -⟩ := acceptObject_faithful faithful read accepted
  unfold convergeListener
  split
  · rename_i stable
    refine ensures_orReturn ?_ (fun _ _ => trivial)
    intro next converged
    obtain ⟨named, moved⟩ := advance_since faithful (by simp) (withError_eq_ok.mp converged)
    refine ⟨held, named.trans same, moved.trans since, fun fairly _ => ?_⟩
    -- The row was applied before, with the bytes that are converged now.
    obtain ⟨known, here, state⟩ := Option.any_eq_true _ _ |>.mp stable.2
    rw [here] at read
    obtain ⟨-, stored, found, rfl⟩ := current_named read
    exact (held.covers fairly).listeners listener (skips stable.1) ⟨stored, found, by simpa using state⟩
  · split
    · rename_i known kept
      obtain ⟨here, rejected⟩ := Option.filter_eq_some_iff.mp kept
      have facts : known.state = .rejected ∧ known.sinceVersion = version := by simpa using rejected
      rw [here] at read
      obtain ⟨named, -⟩ := current_named read
      refine ⟨held, named, facts.2, fun _ applied => ?_⟩
      rw [facts.1] at applied
      cases applied
    · refine ensures_bind (ensures_upsertsListener documented alone held) ?_
      rintro now answer ⟨held, stands⟩
      refine ensures_orReturn ?_ (fun _ _ => trivial)
      intro next converged
      have applied := withError_eq_ok.mp converged
      obtain ⟨named, moved⟩ := applyRuntimeResult_faithful faithful applied
      refine ⟨held, named.trans same, moved.trans since, fun _ state => ?_⟩
      exact stands (applyRuntimeResult_ok faithful.onlyApplied applied state)

theorem ensures_upsertListener (versioned : version = storedVersion mirror .config) (present : version.zero = false)
    (skips : Unaltered old listener → listeners listener) :
    Converges libs compact fair settled mirror (fun other => listeners other ∨ other = listener) clients now
    (upsertListener p result old version nowMS listener) := by
  refine ensures_bind (ensures_neutral (uses_onStore ⟨id, id⟩) held) ?_
  intro now _ held
  refine ensures_bind (ensures_readObject held) ?_
  rintro now current ⟨held, read⟩
  refine ends_orReturn fun status accepted => ?_
  refine ensures_bind (ensures_convergeListener documented alone held faithful skips read accepted) ?_
  rintro now next ⟨held, same, since, stands⟩
  have stream : next.stream = .config := congrArg Prod.fst same
  have key : next.key = listener.key := congrArg Prod.snd same
  refine ensures_saveStatus (stable_listenerStands listener) held stands (by rw [since, stream, versioned])
    (by rw [since]; exact present) ?_ ?_ (fun _ member => Or.inl member) ?_ ?_
  · intro now mirrored _ standing
    obtain ⟨known, stored, spelled⟩ := documented now mirrored
    rw [Vouched, stream]
    exact ⟨known, stored, by rw [key, spelled.1], standing.congr spelled⟩
  · rintro other (member | rfl)
    · exact Or.inl member
    · exact Or.inr same
  · intro now standing
    refine ⟨?_, ?_⟩
    · rintro other (member | rfl) here
      · have keyed : listener.key = other.key := congrArg Prod.snd (same.symm.trans here)
        exact standing.congr (alone other member keyed.symm)
      · exact standing
    · intro client _ here
      cases congrArg Prod.fst (same.symm.trans here)
  · intro client _ here
    cases congrArg Prod.fst (same.symm.trans here)

end Listeners

/-- An attachment to an unknown listener is refused or waits for the config, and each of these events takes an
object to the state that it names. -/
structure Conformance.Withholds (conformance : Conformance) : Prop where
  missing : ∀ input decision, input.listenerKnown = false → conformance.evaluateAttachment input = .ok decision →
    decision.disposition = .unknownListener ∨ decision.disposition = .waiting
  rejected : ∀ status atMS code next,
    conformance.advanceObject (.known status) (.rejected atMS code) = .ok next → next.state = .rejected
  blocked : ∀ status atMS key next,
    conformance.advanceObject (.known status) (.dependencyBlocked atMS key) = .ok next → next.state = .blocked
  retryable : ∀ status atMS next,
    conformance.advanceObject (.known status) (.retryableFailure atMS) = .ok next → next.state = .pending

def configKeys (config : Option ConfigBody) : List String := (config.elim [] ConfigBody.listeners).map Listener.key

def Lacks (keys : List String) (client : Client) : Prop := ∃ key ∈ client.listeners, key ∉ keys

/-- Pending or rejected, or blocked on another listener that is there. -/
def Withheld (keys : List String) (client : Client) (state : ObjectState) : Prop :=
  state = .pending ∨ state = .rejected ∨ state = .blocked ∧ ∃ key ∈ client.listeners, key ∈ keys

def Attachments.Clean (attachments : Attachments) : Prop :=
  attachments.unknown = none ∧ attachments.blocked = none ∧ attachments.waiting = false

theorem Attachments.add_clean {key : String} {disposition : Disposition}
    (clean : (attachments.add key disposition).Clean) :
    attachments.Clean ∧ (attachments.add key disposition).ready = attachments.ready ++ [key] := by
  obtain ⟨unknown, blocked, waiting⟩ := clean
  cases disposition with
  | ready => exact ⟨⟨unknown, blocked, waiting⟩, rfl⟩
  | unknownListener => cases unknown
  | blockedByListener => cases blocked
  | waiting => cases waiting

/-- What the attachments that are passed tell of a client. -/
structure Attachments.Tells (keys passed : List String) (attachments : Attachments) : Prop where
  lacks : (∃ key ∈ passed, key ∉ keys) → attachments.unknown ≠ none ∨ attachments.waiting = true
  blocked : ∀ key, attachments.blocked = some key → key ∈ passed ∧ key ∈ keys

theorem tells_nil {keys : List String} : (⟨[], none, none, false⟩ : Attachments).Tells keys [] := by
  refine ⟨?_, fun _ impossible => by cases impossible⟩
  rintro ⟨_, impossible, -⟩
  cases impossible

theorem Attachments.Tells.add {disposition : Disposition} (tells : attachments.Tells keys passed)
    (missing : key ∉ keys → disposition = .unknownListener ∨ disposition = .waiting) :
    (attachments.add key disposition).Tells keys (passed ++ [key]) := by
  have told : (∃ other ∈ passed ++ [key], other ∉ keys) →
      (attachments.unknown ≠ none ∨ attachments.waiting = true) ∨
        disposition = .unknownListener ∨ disposition = .waiting := by
    rintro ⟨other, member, absent⟩
    rcases List.mem_append.mp member with earlier | last
    · exact Or.inl (tells.lacks ⟨other, earlier, absent⟩)
    · exact Or.inr (missing (by rw [← List.mem_singleton.mp last]; exact absent))
  have kept : ∀ other, attachments.blocked = some other → other ∈ passed ++ [key] ∧ other ∈ keys :=
    fun other blocked => (tells.blocked other blocked).imp_left (List.mem_append_left _)
  cases disposition with
  | ready => exact ⟨fun absent => (told absent).resolve_right (by simp), kept⟩
  | unknownListener => exact ⟨fun _ => Or.inl (by simp [Attachments.add]), kept⟩
  | waiting => exact ⟨fun _ => Or.inr rfl, kept⟩
  | blockedByListener =>
    refine ⟨fun absent => (told absent).resolve_right (by simp), ?_⟩
    rintro other ⟨⟩
    exact ⟨List.mem_append_right _ List.mem_cons_self, by_contra fun absent => by simpa using missing absent⟩

theorem listenerIn_eq_none {config : Option ConfigBody} (absent : key ∉ configKeys config) :
    listenerIn config key = none := by
  refine List.find?_eq_none.mpr fun listener member named => absent ?_
  rw [← of_decide_eq_true named]
  exact List.mem_map_of_mem (List.mem_reverse.mp member)

theorem recordIssue_neutral (issue : LocalIssue) : Uses Neutral (recordIssue result issue) :=
  uses_call.mpr ⟨trivial, fun _ => uses_done _⟩

theorem noteIssue_neutral (issue : Option LocalIssue) : Uses Neutral (noteIssue result issue) := by
  cases issue with
  | none => exact uses_done _
  | some issue => exact recordIssue_neutral issue

theorem evaluateAttachment_neutral (state : Attachments × Bool) (key : String) :
    Uses Neutral (evaluateAttachment p intake body states client state key) := by
  refine uses_bind ?_ fun rounds => uses_bind (uses_done _) fun decision => ?_
  · unfold observeSkew
    split
    · exact uses_onStore ⟨id, id⟩
    · exact uses_bind (uses_onStore ⟨id, id⟩) fun _ => uses_done _
  · exact uses_bind (noteIssue_neutral _) fun _ => uses_done _

theorem ensures_whatever {α : Type} (program : Round α) :
    Ends libs (fun _ _ => True) (fun _ _ => True) now program :=
  ensures_any program (fun _ outcome => by cases outcome <;> trivial)

theorem ensures_attachments : Ends libs (fun _ _ => True) (fun _ found =>
      (found.1.Clean → found.1.ready = client.listeners) ∧
      (p.conformance.Withholds → found.1.Tells (configKeys intake.received.config) client.listeners)) now
    (Proc.each (evaluateAttachment p intake body states client) (⟨[], none, none, false⟩, noted) client.listeners) := by
  refine ensures_each (fun (passed : List String) (found : Attachments × Bool) (_ : Moment) =>
    (found.1.Clean → found.1.ready = passed) ∧ (p.conformance.Withholds →
      found.1.Tells (configKeys intake.received.config) passed)) ⟨fun _ => rfl, fun _ => tells_nil⟩ ?_
  rintro passed key rest found now - ⟨held, tells⟩
  refine ensures_bind (ensures_whatever _) ?_
  intro now rounds _
  refine ends_orReturn fun decision decided => ?_
  refine ensures_bind (ensures_whatever _) ?_
  intro now noted _
  refine ⟨fun clean => ?_, fun withholds => (tells withholds).add fun absent => withholds.missing _ decision ?_ decided⟩
  · obtain ⟨before, ready⟩ := Attachments.add_clean clean
    rw [ready, held before]
  · rw [listenerIn_eq_none absent]
    rfl

theorem ensures_standing {α : Type} {program : Round α} (uses : Uses Neutral program)
    (stands : ClientStands now client) :
    Ensures (around libs) (fun _ _ => True) (fun now _ => ClientStands now client) now program := by
  refine ensures_of_uses (stable_clientStands client) ?_ (fun _ _ _ _ => trivial) uses stands
  intro now call answer later stands neutral answered
  rw [ClientStands, answered.1]
  refine Stands.concat stands ?_
  intro op same
  cases same
  exact absurd neutral id

def Skippable (fair : Prop) (intake : Intake) (client : Client) (status : ObjectStatus) (now : Moment) : Prop :=
  fair → clientIn intake.oldRoster client.key = some client → status.state = .applied → ClientStands now client

theorem ensures_evaluated (held : Converging compact fair settled mirror listeners clients now)
    (skippable : Skippable fair intake client status now) :
    Ends libs (Walks libs compact fair)
      (fun now found => (Converging compact fair settled mirror listeners clients now ∧
      Skippable fair intake client status now) ∧ (found.1.Clean → found.1.ready = client.listeners) ∧
      (p.conformance.Withholds → found.1.Tells (configKeys intake.received.config) client.listeners)) now
    (Proc.each (evaluateAttachment p intake body states client) (⟨[], none, none, false⟩, noted) client.listeners) := by
  have neutral : Uses Neutral (Proc.each (evaluateAttachment p intake body states client)
      (⟨[], none, none, false⟩, noted) client.listeners) := uses_each fun _ _ => evaluateAttachment_neutral _ _
  have skips : Ensures (around libs) (fun _ _ => True) (fun now _ => Skippable fair intake client status now) now
      (Proc.each (evaluateAttachment p intake body states client) (⟨[], none, none, false⟩, noted)
        client.listeners) := by
    by_cases conditions : fair ∧ clientIn intake.oldRoster client.key = some client ∧ status.state = .applied
    · obtain ⟨fairly, same, applied⟩ := conditions
      refine ensures_mono (ensures_standing neutral (skippable fairly same applied)) (fun _ _ held => held) ?_
      exact fun now _ stands _ _ _ => stands
    · refine ensures_any _ ?_
      exact fun now _ fairly same applied => absurd ⟨fairly, same, applied⟩ conditions
  refine ensures_mono (ensures_and (ensures_and (ensures_neutral neutral held) skips) ensures_attachments)
    (fun _ _ held => held.1.1) ?_
  rintro now outcome ⟨⟨held, skippable⟩, ready⟩
  cases outcome with
  | ok found => exact ⟨⟨held, skippable⟩, ready⟩
  | error failure => trivial

def Besides (clients : Client → Prop) (client other : Client) : Prop := clients other ∧ other.key ≠ client.key

theorem ensures_upsertClient (documented : ∀ now, Mirrored mirror now → StoredClient libs now client)
    (held : Converging compact fair settled mirror listeners clients now)
    (skippable : Skippable fair intake client status now)
    (ready : attachments.Clean → attachments.ready = client.listeners) :
    Ends libs (Walks libs compact fair) (fun now answer =>
      Converging compact fair settled mirror listeners (Besides clients client) now ∧
        (fair → answer = .ok () → attachments.Clean → ClientStands now client)) now
    (upsertClient intake client status attachments) := by
  have fewer : Converging compact fair settled mirror listeners (Besides clients client) now :=
    held.mono (fun _ member => member) (fun _ member => member.1)
  unfold upsertClient
  split
  · rename_i stable
    simp only [stableClient, Bool.and_eq_true, decide_eq_true_eq] at stable
    exact ⟨fewer, fun fairly _ _ => skippable fairly stable.1.1.1.1.1 stable.1.1.1.2⟩
  · refine ensures_onRuntime stable_converging fewer ?_ ?_
    · exact fun now held => ⟨client, documented now held.mirrored, rfl⟩
    · intro now answer held
      refine ⟨⟨held.mirrored, fun fairly => ?_, held.rows⟩, ?_⟩
      · refine (held.covers fairly).step rfl (fun _ _ applied => applied) ?_
        intro op same
        cases same
        refine ⟨?_, ?_⟩
        · rintro listener - (⟨given, impossible, -⟩ | impossible)
          · cases impossible
          · cases impossible
        · rintro other ⟨-, apart⟩ (⟨given, same, keyed⟩ | impossible)
          · cases same
            exact absurd keyed.symm apart
          · cases impossible
      · rintro - rfl clean
        exact stands_upserted (by rw [ready clean])

theorem clientStatus_ok (honest : p.conformance.OnlyApplied)
    (converged : clientStatus p status attachments answer nowMS = .ok next) (applied : next.state = .applied) :
    answer = .ok () ∧ attachments.Clean := by
  have never : ∀ {transition : Transition}, p.conformance.advanceObject (.known status) transition = .ok next →
      transition ≠ .applied → (∀ version atMS, transition ≠ .accepted version atMS) → False := by
    intro transition advanced one other
    rcases honest _ _ _ advanced applied with same | ⟨version, atMS, same⟩
    · exact one same
    · exact other version atMS same
  unfold clientStatus at converged
  simp only at converged
  split at converged
  · exact (never converged (by simp) (by simp)).elim
  · exact (never converged (by simp) (by simp)).elim
  · exact (never converged (by simp) (by simp)).elim
  · exact (never converged (by simp) (by simp)).elim
  · rename_i answered unknown blocked
    split at converged
    · exact (never converged (by simp) (by simp)).elim
    · rename_i ready
      refine ⟨?_, unknown, blocked, by simpa using ready⟩
      cases answer with
      | ok _ => rfl
      | error err => cases answered

theorem clientStatus_withheld (withholds : p.conformance.Withholds)
    (tells : attachments.Tells keys client.listeners) (lacks : Lacks keys client)
    (converged : clientStatus p status attachments answer nowMS = .ok next) :
    Withheld keys client next.state := by
  unfold clientStatus at converged
  simp only at converged
  split at converged
  · exact Or.inr (Or.inl (withholds.rejected _ _ _ _ converged))
  · exact Or.inr (Or.inl (withholds.rejected _ _ _ _ converged))
  · rename_i blocked _
    exact Or.inr (Or.inr ⟨withholds.blocked _ _ _ _ converged, _, tells.blocked _ blocked⟩)
  · exact Or.inl (withholds.retryable _ _ _ converged)
  · rename_i unknown _
    have waiting := (tells.lacks lacks).resolve_left (fun known => known unknown)
    rw [if_pos waiting] at converged
    exact Or.inl (withholds.retryable _ _ _ converged)

theorem clientStatus_faithful (faithful : p.conformance.Faithful)
    (converged : clientStatus p status attachments answer nowMS = .ok next) :
    (next.stream, next.key) = (status.stream, status.key) ∧ next.sinceVersion = status.sinceVersion := by
  have applies : ∀ {next : ObjectStatus}, appliedClient p status = .ok next →
      (next.stream, next.key) = (status.stream, status.key) ∧ next.sinceVersion = status.sinceVersion := by
    intro next advanced
    unfold appliedClient at advanced
    split at advanced
    · obtain ⟨ready, unblocked, advanced⟩ := bind_eq_ok.mp advanced
      obtain ⟨named, since⟩ := advance_since faithful (by simp) unblocked
      obtain ⟨same, moved⟩ := advance_since faithful (by simp) advanced
      exact ⟨same.trans named, moved.trans since⟩
    · exact advance_since faithful (by simp) advanced
  unfold clientStatus at converged
  simp only at converged
  split at converged
  · exact advance_since faithful (by simp) converged
  · exact advance_since faithful (by simp) converged
  · exact advance_since faithful (by simp) converged
  · exact advance_since faithful (by simp) converged
  · split at converged
    · exact advance_since faithful (by simp) converged
    · exact applies converged

section Clients

variable (versioned : intake.rosterVersion = storedVersion mirror .roster)
  (present : intake.rosterVersion.zero = false) (documented : ∀ now, Mirrored mirror now → StoredClient libs now client)
  (alone : ∀ other, clients other → other.key = client.key → other = client)

include versioned present documented alone

theorem ensures_saveClient
    (held : Converging compact fair settled mirror listeners (Besides clients client) now)
    (same : (next.stream, next.key) = (.roster, client.key)) (since : next.sinceVersion = intake.rosterVersion)
    (stands : fair → next.state = .applied → ClientStands now client)
    (settles : settled client (some ⟨next, nowMS⟩)) :
    Converges libs compact fair settled mirror listeners (fun other => clients other ∨ other = client) now
    (onStore result (.saveObject next nowMS)) := by
  have stream : next.stream = .roster := congrArg Prod.fst same
  have key : next.key = client.key := congrArg Prod.snd same
  have only : ∀ other, clients other ∨ other = client → (next.stream, next.key) = (.roster, other.key) →
      other = client := by
    rintro other (member | rfl) here
    · exact alone other member (congrArg Prod.snd (same.symm.trans here)).symm
    · rfl
  refine ensures_saveStatus (stable_clientStands client) held stands (by rw [since, stream, versioned])
    (by rw [since]; exact present) ?_ (fun _ member => Or.inl member) ?_ ?_ ?_
  · intro now mirrored _ standing
    rw [Vouched, stream]
    exact ⟨client, documented now mirrored, key.symm, standing⟩
  · rintro other (member | rfl)
    · by_cases keyed : other.key = client.key
      · exact Or.inr (by rw [same, keyed])
      · exact Or.inl ⟨member, keyed⟩
    · exact Or.inr same
  · intro now standing
    refine ⟨?_, ?_⟩
    · intro listener _ here
      cases congrArg Prod.fst (same.symm.trans here)
    · intro other member here
      rw [only other member here]
      exact standing
  · intro other member here
    rw [only other member here]
    exact settles

theorem ensures_applyClient (faithful : p.conformance.Faithful)
    (skips : fair → clientIn intake.oldRoster client.key = some client → clients client)
    (settles : ∀ status, (p.conformance.Withholds → Lacks (configKeys intake.received.config) client →
      Withheld (configKeys intake.received.config) client status.state) → settled client (some ⟨status, nowMS⟩))
    (held : Converging compact fair settled mirror listeners clients now) :
    Converges libs compact fair settled mirror listeners (fun other => clients other ∨ other = client) now
    (applyClient p intake body states nowMS result client) := by
  refine ensures_bind (ensures_neutral (uses_onStore ⟨id, id⟩) held) ?_
  intro now _ held
  refine ensures_bind (ensures_readObject held) ?_
  rintro now current ⟨held, read⟩
  refine ends_orReturn fun status accepted => ?_
  obtain ⟨same, since, recorded⟩ := acceptObject_faithful faithful read accepted
  split
  · rename_i rejected
    have fewer : Converging compact fair settled mirror listeners (Besides clients client) now :=
      held.mono (fun _ member => member) (fun _ member => member.1)
    refine ensures_bind (ensures_saveClient versioned present documented alone fewer same since ?_
      (settles status fun _ _ => Or.inr (Or.inl rejected.1))) (fun _ _ held => held)
    intro _ applied
    rw [rejected.1] at applied
    cases applied
  · have skippable : Skippable fair intake client status now :=
      fun fairly unchanged applied => (held.covers fairly).clients client (skips fairly unchanged) (recorded applied)
    refine ensures_bind (ensures_evaluated held skippable) ?_
    rintro now ⟨attachments, noted⟩ ⟨⟨held, skippable⟩, ready, tells⟩
    refine ensures_bind (ensures_upsertClient documented held skippable ready) ?_
    rintro now answer ⟨held, stands⟩
    refine ends_orReturn fun next checked => ?_
    have converged := withError_eq_ok.mp checked
    obtain ⟨named, moved⟩ := clientStatus_faithful faithful converged
    refine ensures_bind (ensures_saveClient versioned present documented alone held (named.trans same)
      (moved.trans since) ?_ (settles next fun withholds lacks =>
        clientStatus_withheld withholds (tells withholds) lacks converged)) (fun _ _ held => held)
    intro fairly applied
    obtain ⟨answered, clean⟩ := clientStatus_ok faithful.onlyApplied converged applied
    exact stands fairly answered clean

end Clients

structure Uncovered (listeners : Listener → Prop) (clients : Client → Prop) (name : Stream) (key : String) :
    Prop where
  listeners : name = .config → ∀ listener, listeners listener → listener.key ≠ key
  clients : name = .roster → ∀ client, clients client → client.key ≠ key

def Deletes (name : Stream) (key : String) (call : StoreCall) : Prop :=
  call = .deleteObject name key ∨ name = .config ∧ call = .deleteListener key ∨
    name = .roster ∧ call = .deleteClient key

theorem deletes_rows {next : Store} {value : call.Value} (deletes : Deletes name key call)
    (done : transaction libs store call = .ok (next, value)) :
    next.streams = store.streams ∧ next.objects = store.objects.deleteWhere
      (fun o => decide (o.status.stream = name) && decide (o.status.key = key)) := by
  rcases deletes with rfl | ⟨rfl, rfl⟩ | ⟨rfl, rfl⟩ <;>
  · obtain ⟨-, -, finished⟩ := bind_eq_ok.mp done
    cases finished
    exact ⟨rfl, rfl⟩

theorem find?_deleteWhere_spared {objects : ObjectTable} {id : Stream × String} (apart : (name, key) ≠ id) :
    (objects.deleteWhere (fun o => decide (o.status.stream = name) && decide (o.status.key = key))).find? id =
    objects.find? id := by
  rw [Table.find?_deleteWhere]
  cases found : objects.find? id with
  | none => rfl
  | some row =>
    have named := Table.key_of_find? found
    rw [Option.filter_some, if_pos]
    simp only [Bool.not_eq_true', Bool.and_eq_false_iff, decide_eq_false_iff_not]
    by_contra both
    rw [not_or, not_not, not_not] at both
    exact apart (by rw [← both.1, ← both.2]; exact named)

theorem ensures_deletes (deletes : Deletes name key call)
    (apart : name = .roster → ∀ client, clients client → client.key ≠ key)
    (held : Converging compact fair settled mirror listeners clients now) :
    Converges libs compact fair settled mirror listeners clients now (onStore result call) := by
  refine ensures_onStore stable_converging held ?_ ?_ (fun _ _ _ _ => trivial)
  · intro now _
    rcases deletes with rfl | ⟨-, rfl⟩ | ⟨-, rfl⟩ <;> trivial
  intro now next value held done
  obtain ⟨streams, objects⟩ := deletes_rows deletes done
  refine ⟨?_, fun fairly => ?_, fun client member => ?_⟩
  · intro name
    rw [streams]
    exact held.mirrored name
  · refine (held.covers fairly).step rfl ?_ (fun op same => by cases same)
    rintro name key ⟨stored, found, applied⟩
    rw [objects, Table.find?_deleteWhere] at found
    exact ⟨stored, (Option.filter_eq_some_iff.mp found).1, applied⟩
  · rw [objects, find?_deleteWhere_spared]
    · exact held.rows client member
    · exact fun same => apart (Prod.mk.inj same).1 client member (Prod.mk.inj same).2.symm

def Removes (name : Stream) (key : String) (op : RuntimeOp) : Prop :=
  name = .config ∧ op = .removeListener key ∨ name = .roster ∧ op = .removeClient key

theorem Uncovered.spares (uncovered : Uncovered listeners clients name key) (removes : Removes name key op) :
    (∀ listener, listeners listener → TouchesListener listener.key op → UpsertsListener compact listener op) ∧
    ∀ client, clients client → TouchesClient client.key op → op = .upsertClient client := by
  rcases removes with ⟨config, rfl⟩ | ⟨roster, rfl⟩
  · refine ⟨?_, ?_⟩
    · rintro listener member (⟨given, impossible, -⟩ | same)
      · cases impossible
      · cases same
        exact absurd rfl (uncovered.listeners config listener member)
    · rintro client - (⟨given, impossible, -⟩ | impossible)
      · cases impossible
      · cases impossible
  · refine ⟨?_, ?_⟩
    · rintro listener - (⟨given, impossible, -⟩ | impossible)
      · cases impossible
      · cases impossible
    · rintro client member (⟨given, impossible, -⟩ | same)
      · cases impossible
      · cases same
        exact absurd rfl (uncovered.clients roster client member)

theorem ensures_removeObject (faithful : p.conformance.Faithful)
    (versioned : version = storedVersion mirror name) (present : version.zero = false)
    {remove : RuntimeOp} {delete : StoreCall} (removes : Removes name key remove) (deletes : Deletes name key delete)
    (absent : ∀ now, Mirrored mirror now → Walks libs compact fair now (.runtime remove))
    (uncovered : Uncovered listeners clients name key)
    (held : Converging compact fair settled mirror listeners clients now) :
    Converges libs compact fair settled mirror listeners clients now
    (removeObject p result name key version nowMS remove delete) := by
  refine ensures_bind (ensures_readObject held) ?_
  rintro now current ⟨held, read⟩
  refine ends_orReturn fun status accepted => ?_
  obtain ⟨same, since, -⟩ := acceptObject_faithful faithful read accepted
  have removed : Converges libs compact fair settled mirror listeners clients now
      (onRuntime remove) := by
    refine ensures_onRuntime stable_converging held (fun now held => absent now held.mirrored) ?_
    intro now answer held
    refine ⟨held.mirrored, fun fairly => (held.covers fairly).step rfl (fun _ _ applied => applied) ?_, held.rows⟩
    intro op here
    cases here
    exact uncovered.spares removes
  refine ensures_bind removed ?_
  intro now answer held
  refine ends_orReturn fun next converged => ?_
  obtain ⟨named, moved⟩ := applyRuntimeResult_faithful faithful converged
  have stream : next.stream = name := congrArg Prod.fst (named.trans same)
  split
  · exact ensures_bind (ensures_deletes deletes uncovered.clients held) (fun _ _ held => held)
  · rename_i unapplied
    refine ensures_bind (ensures_saveStatus (stable_const False) held (fun _ applied => unapplied applied)
      (by rw [moved, since, stream, versioned]) (by rw [moved, since]; exact present)
      (fun _ _ _ impossible => impossible.elim)
      (fun _ member => Or.inl member) (fun _ member => Or.inl member) (fun _ impossible => impossible.elim) ?_)
      (fun _ _ held => held)
    intro client member here
    obtain ⟨roster, keyed⟩ := Prod.mk.inj ((named.trans same).symm.trans here)
    exact absurd keyed.symm (uncovered.clients roster client member)

theorem ensures_pruneOrphanObjectStates {desired kept : List String}
    (desires : name = .roster → ∀ client, clients client → client.key ∈ desired)
    (held : Converging compact fair settled mirror listeners clients now) :
    Converges libs compact fair settled mirror listeners clients now
    (pruneOrphanObjectStates result name desired kept) := by
  refine ensures_bind (ensures_neutral (uses_onStore ⟨id, id⟩) held) ?_
  intro now objects held
  refine ensures_each (fun _ _ now => Converging compact fair settled mirror listeners clients now) held ?_
  intro passed status rest _ now _ held
  split
  · exact held
  · rename_i orphan
    rw [not_or, not_or] at orphan
    refine ensures_deletes (Or.inl rfl) ?_ held
    exact fun here client member same => orphan.2.1 (by rw [← same]; exact desires here client member)

end Statuses

end PasswallNode.Agent
