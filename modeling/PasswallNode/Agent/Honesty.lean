import PasswallNode.Agent.Vouching

/-! Applied is honest where rounds are not cut short. -/

namespace PasswallNode.Agent

open Foundation Protocol State Sqlite Relation

section Documents

variable (libs : Libraries) (compact : Bytes → Bytes) (mirror : Store) (intake : Intake) (fair : Prop)
  (settled : Client → Option StoredObject → Prop)

def SameListeners (compact : Bytes → Bytes) (one other : ConfigBody) : Prop :=
  one.listeners.map (fun listener => (listener.key, compact listener.config)) =
    other.listeners.map (fun listener => (listener.key, compact listener.config))

structure Documented : Prop where
  configVersion : intake.configVersion = storedVersion mirror .config
  rosterVersion : intake.rosterVersion = storedVersion mirror .roster
  config : Option.Rel (SameListeners compact) intake.received.config (storedBody libs.wire.config mirror .config)
  roster : intake.received.roster = storedBody libs.wire.roster mirror .roster
  valid : ValidDocuments libs.wire intake.received

/-- The listeners that may stand when the round turns to the runtime, and those it has passed
when it is done with the config. -/
def ListenerBefore (listener : Listener) : Prop :=
  match configDocument intake with
  | some config => listener ∈ config.listeners ∧ Unaltered intake.oldConfig listener
  | none => ∃ body, storedBody libs.wire.config mirror .config = some body ∧ listener ∈ body.listeners

def ListenerAfter (listener : Listener) : Prop :=
  match configDocument intake with
  | some config => listener ∈ config.listeners
  | none => ∃ body, storedBody libs.wire.config mirror .config = some body ∧ listener ∈ body.listeners

def ClientBefore (client : Client) : Prop :=
  match rosterDocument intake with
  | some roster => client ∈ roster.clients ∧ fair ∧ clientIn intake.oldRoster client.key = some client
  | none => fair ∧ ∃ roster, storedBody libs.wire.roster mirror .roster = some roster ∧ client ∈ roster.clients

def ClientAfter (client : Client) : Prop :=
  match rosterDocument intake with
  | some roster => client ∈ roster.clients
  | none => fair ∧ ∃ roster, storedBody libs.wire.roster mirror .roster = some roster ∧ client ∈ roster.clients

abbrev Settling : Moment → Prop :=
  Converging compact fair settled mirror (ListenerAfter libs mirror intake) (ClientAfter libs mirror intake fair)

/-- What a round saves for a client settles it. -/
def Settles (p : Processor) (intake : Intake) (nowMS : Int) (settled : Client → Option StoredObject → Prop) : Prop :=
  ∀ client status, (p.conformance.Withholds → Lacks (configKeys intake.received.config) client →
    Withheld (configKeys intake.received.config) client status.state) → settled client (some ⟨status, nowMS⟩)

variable {libs compact mirror intake fair settled} {p : Processor} {listeners : Listener → Prop}
  {clients : Client → Prop} {now : Moment} {result : Bool} {nowMS : Int} {config : ConfigBody} {roster : RosterBody}

theorem mem_of_sameListeners {one other : ConfigBody} (same : SameListeners compact one other) {listener : Listener}
    (member : listener ∈ one.listeners) : ∃ known ∈ other.listeners, SameListener compact listener known := by
  have spelled := List.mem_map_of_mem (f := fun listener => (listener.key, compact listener.config)) member
  rw [same] at spelled
  obtain ⟨known, among, pair⟩ := List.mem_map.mp spelled
  obtain ⟨key, config⟩ := Prod.mk.inj pair
  exact ⟨known, among, key.symm, config.symm⟩

theorem listenerStates_neutral : Uses Neutral (listenerStates intake result) :=
  uses_each fun _ _ => uses_bind (uses_call.mpr ⟨⟨id, id⟩, fun _ => uses_done _⟩) fun _ => uses_done _

variable (documented : Documented libs compact mirror intake)

include documented

theorem Documented.listener (document : configDocument intake = some config) {listener : Listener}
    (member : listener ∈ config.listeners)
    (now : Moment) (mirrored : Mirrored mirror now) :
    ∃ known, StoredListener libs now known ∧ SameListener compact listener known := by
  have related := documented.config
  rw [(configDocument_eq_some document).2] at related
  cases stored : storedBody libs.wire.config mirror .config with
  | none =>
    rw [stored] at related
    cases related
  | some body =>
    rw [stored] at related
    cases related with
    | some same =>
      obtain ⟨known, among, spelled⟩ := mem_of_sameListeners same member
      exact ⟨known, ⟨body, (mirrored.body _ _).trans stored, among⟩, spelled⟩

theorem Documented.stored (document : configDocument intake = some config) {known : Listener}
    (mirrored : Mirrored mirror now)
    (stored : StoredListener libs now known) : ∃ listener ∈ config.listeners, SameListener compact listener known := by
  obtain ⟨body, held, among⟩ := stored
  have related := documented.config
  rw [(configDocument_eq_some document).2, ← mirrored.body, held] at related
  cases related with
  | some same =>
    obtain ⟨listener, member, spelled⟩ := mem_of_sameListeners same.symm among
    exact ⟨listener, member, spelled.1.symm, spelled.2.symm⟩

theorem Documented.client (document : rosterDocument intake = some roster) {client : Client}
    (member : client ∈ roster.clients)
    (now : Moment) (mirrored : Mirrored mirror now) : StoredClient libs now client := by
  refine ⟨roster, ?_, member⟩
  rw [mirrored.body, ← documented.roster]
  exact (rosterDocument_eq_some document).2

theorem Documented.storedClient (document : rosterDocument intake = some roster) {client : Client}
    (mirrored : Mirrored mirror now) (stored : StoredClient libs now client) : client ∈ roster.clients := by
  obtain ⟨body, held, among⟩ := stored
  rw [mirrored.body, ← documented.roster, (rosterDocument_eq_some document).2] at held
  cases held
  exact among

theorem Documented.allStand (held : Settling libs compact mirror intake fair settled now) (fairly : fair) :
    AllStand libs compact now := by
  have covers := held.covers fairly
  refine ⟨?_, ?_⟩
  · intro known stored applied
    cases document : configDocument intake with
    | none =>
      obtain ⟨body, here, among⟩ := stored
      refine covers.listeners known ?_ applied
      rw [ListenerAfter, document]
      exact ⟨body, by rw [← held.mirrored.body]; exact here, among⟩
    | some config =>
      obtain ⟨listener, member, spelled⟩ := documented.stored document held.mirrored stored
      refine (covers.listeners listener ?_ (by rw [spelled.1]; exact applied)).congr spelled
      rw [ListenerAfter, document]
      exact member
  · intro client stored applied
    refine covers.clients client ?_ applied
    cases document : rosterDocument intake with
    | none =>
      obtain ⟨roster, here, among⟩ := stored
      rw [ClientAfter, document]
      exact ⟨fairly, roster, by rw [← held.mirrored.body]; exact here, among⟩
    | some roster =>
      rw [ClientAfter, document]
      exact documented.storedClient document held.mirrored stored

variable (faithful : p.conformance.Faithful)

include faithful

theorem ensures_upsertConfig
    (held : Converging compact fair settled mirror (ListenerBefore libs mirror intake) clients now) :
    Converges libs compact fair settled mirror (ListenerAfter libs mirror intake) clients now
    (upsertConfig p intake nowMS result) := by
  unfold upsertConfig ListenerAfter
  unfold ListenerBefore at held
  cases document : configDocument intake with
  | none =>
    rw [document] at held
    exact held
  | some config =>
    rw [document] at held
    obtain ⟨present, received⟩ := configDocument_eq_some document
    have distinct := (documented.valid.config config received).distinct
    refine ensures_each_adding (fun kept now => Converging compact fair settled mirror kept clients now)
      (fun held fewer => held.mono fewer (fun _ member => member)) held ?_
    intro listener member kept _ now within begun held
    refine ensures_upsertListener (documented.listener document member) ?_ held faithful documented.configVersion
      present begun
    intro other among keyed
    rw [List.inj_on_of_nodup_map distinct (within other among) member keyed]
    exact ⟨rfl, rfl⟩

theorem ensures_applyClients {states : List (String × ObjectState)} (document : rosterDocument intake = some roster)
    (settles : Settles p intake nowMS settled)
    (held : Converging compact fair settled mirror listeners (fun client => client ∈ roster.clients ∧
      fair ∧ clientIn intake.oldRoster client.key = some client) now) :
    Converges libs compact fair settled mirror listeners (· ∈ roster.clients) now
    (Proc.each (applyClient p intake roster states nowMS) result roster.clients) := by
  obtain ⟨present, received⟩ := rosterDocument_eq_some document
  have distinct := (documented.valid.roster roster received).distinct
  refine ensures_each_adding (fun kept now => Converging compact fair settled mirror listeners kept now)
    (fun held fewer => held.mono (fun _ member => member) fewer) held ?_
  exact fun client member kept _ now within begun held => ensures_applyClient documented.rosterVersion present
    (documented.client document member)
    (fun other among keyed => List.inj_on_of_nodup_map distinct (within other among) member keyed) faithful
    (fun fairly unchanged => begun ⟨fairly, unchanged⟩) (settles client) held

theorem ensures_removeClients_walk (document : rosterDocument intake = some roster)
    (held : Converging compact fair settled mirror listeners (· ∈ roster.clients) now) :
    Converges libs compact fair settled mirror listeners (· ∈ roster.clients) now
    (removeClients p intake roster nowMS result) := by
  refine ensures_bind (ensures_neutral (uses_onStore ⟨id, id⟩) held) ?_
  intro now rows held
  refine ensures_bind (ensures_each (fun _ _ now =>
    Converging compact fair settled mirror listeners (· ∈ roster.clients) now) held ?_) ?_
  · intro passed row rest kept now _ held
    split
    · exact held
    · rename_i undesired
      have gone : ∀ client ∈ roster.clients, client.key ≠ row.key :=
        fun client member same => undesired (by rw [← same]; exact List.mem_map_of_mem member)
      refine ensures_bind (ensures_removeObject faithful documented.rosterVersion
        (rosterDocument_eq_some document).1 (Or.inr ⟨rfl, rfl⟩) (Or.inr (Or.inr ⟨rfl, rfl⟩)) ?_
          ⟨?_, fun _ => gone⟩ held)
        (fun _ _ held => held)
      · exact fun now mirrored known stored => gone known (documented.storedClient document mirrored stored)
      · intro impossible
        cases impossible
  · exact fun now kept held => ensures_pruneOrphanObjectStates (fun _ _ member => List.mem_map_of_mem member) held

theorem ensures_convergeRoster (settles : Settles p intake nowMS settled)
    (held : Converging compact fair settled mirror listeners (ClientBefore libs mirror intake fair) now) :
    Converges libs compact fair settled mirror listeners (ClientAfter libs mirror intake fair) now
    (convergeRoster p intake nowMS result) := by
  unfold convergeRoster ClientAfter
  unfold ClientBefore at held
  cases document : rosterDocument intake with
  | none =>
    rw [document] at held
    exact held
  | some roster =>
    rw [document] at held
    refine ensures_bind (ensures_neutral listenerStates_neutral held) ?_
    intro now states held
    refine ensures_bind (ensures_applyClients documented faithful document settles held) ?_
    intro now noted held
    exact ensures_bind (ensures_removeClients_walk documented faithful document held) (fun _ _ held => held)

theorem ensures_removeConfig
    (held : Converging compact fair settled mirror (ListenerAfter libs mirror intake) clients now) :
    Converges libs compact fair settled mirror (ListenerAfter libs mirror intake) clients now
    (removeConfig p intake nowMS result) := by
  unfold removeConfig
  cases document : configDocument intake with
  | none => exact held
  | some config =>
    refine ensures_bind (ensures_neutral (uses_onStore ⟨id, id⟩) held) ?_
    intro now rows held
    refine ensures_bind (ensures_each (fun _ _ now =>
      Converging compact fair settled mirror (ListenerAfter libs mirror intake) clients now) held ?_) ?_
    · intro passed row rest kept now _ held
      split
      · exact held
      · rename_i undesired
        have gone : ∀ listener ∈ config.listeners, listener.key ≠ row.key :=
          fun listener member same => undesired (by rw [← same]; exact List.mem_map_of_mem member)
        refine ensures_bind (ensures_removeObject faithful documented.configVersion
          (configDocument_eq_some document).1 (Or.inl ⟨rfl, rfl⟩) (Or.inr (Or.inl ⟨rfl, rfl⟩)) ?_ ⟨?_, ?_⟩ held)
          (fun _ _ held => held)
        · intro now mirrored known stored
          obtain ⟨listener, member, spelled⟩ := documented.stored document mirrored stored
          rw [← spelled.1]
          exact gone listener member
        · intro _ listener member
          unfold ListenerAfter at member
          rw [document] at member
          exact gone listener member
        · intro impossible
          cases impossible
    · exact fun now kept held => ensures_pruneOrphanObjectStates (by simp) held

theorem ensures_convergeDocuments (settles : Settles p intake nowMS settled)
    (held : Converging compact fair settled mirror (ListenerBefore libs mirror intake)
      (ClientBefore libs mirror intake fair) now) :
    Ends libs (Walks libs compact fair) (fun now _ => Settling libs compact mirror intake fair settled now) now
      (convergeDocuments p intake nowMS result) := by
  refine ensures_bind (ensures_upsertConfig documented faithful held) ?_
  intro now _ held
  refine ensures_bind (ensures_convergeRoster documented faithful settles held) ?_
  intro now noted held
  exact ensures_bind (ensures_removeConfig documented faithful held) (fun _ _ held => held)

end Documents

section Round

variable {libs : Libraries} {compact : Bytes → Bytes} {fair : Prop} {settled : Client → Option StoredObject → Prop}
  {p : Processor} {mirror : Store} {intake : Intake} {start now : Moment} {noted : Bool} {nowMS : Int}
  {call : ProcessCall} {answer : call.Answer} {next : Store} {later : Moment} {response : SyncResponse} {name : Stream}
  {store : Store} {key : String} {rest : Round Bool}

def Unfinalized (start now : Moment) : Prop :=
  ∃ calls, now.events = start.events ++ calls ∧ ∀ event ∈ calls, event.op ≠ .runtime .finalize

def Passed (libs : Libraries) (compact : Bytes → Bytes) (fair : Prop) (start now : Moment) : Prop :=
  fair → Unfinalized start now ∨ AllStand libs compact now

def RunCall (libs : Libraries) (compact : Bytes → Bytes) (fair : Prop) (now : Moment) (call : ProcessCall) : Prop :=
  Walks libs compact fair now call ∨ call = .runtime .finalize

abbrev Passes (libs : Libraries) (compact : Bytes → Bytes) (fair : Prop) (start : Moment) {α : Type}
    (good : Moment → α → Prop) : Moment → Round α → Prop :=
  Ensures (around libs) (fun now call => RunCall libs compact fair now call ∧ Passed libs compact fair start now)
    (fun now => Yields (fun _ => Passed libs compact fair start now) (good now))

theorem stable_unfinalized : Stable (around libs) (Unfinalized start) := by
  rintro now later ⟨same, -⟩ unfinalized
  rw [Unfinalized, same]
  exact unfinalized

theorem Unfinalized.walks {later : Moment} (unfinalized : Unfinalized start now)
    (walks : Walks libs compact fair now call) (answered : (around libs).answers now call answer later) :
    Unfinalized start later := by
  obtain ⟨calls, events, none⟩ := unfinalized
  refine ⟨calls ++ [⟨call, answer⟩], by rw [answered.1, events, List.append_assoc], ?_⟩
  intro event member
  rcases List.mem_append.mp member with earlier | last
  · exact none event earlier
  · rw [List.mem_singleton.mp last]
    rintro rfl
    exact absurd walks id

theorem ensures_unfinalized {α : Type} {program : Round α} {good : Moment → α → Prop}
    (walks : Ends libs (Walks libs compact fair) good now program) (unfinalized : Unfinalized start now) :
    Passes libs compact fair start (fun now a => good now a ∧ Unfinalized start now) now program := by
  refine ensures_mono (ensures_invariant stable_unfinalized ?_ walks unfinalized) ?_ ?_
  · exact fun now call answer later held walks answered => held.walks walks answered
  · exact fun now call held => ⟨Or.inl held.1, fun _ => Or.inl held.2⟩
  · rintro now outcome ⟨gained, held⟩
    cases outcome with
    | ok a => exact ⟨gained, held⟩
    | error failure => exact fun _ => Or.inl held

theorem newRound_neutral : Uses Neutral (newRound noted) := uses_call.mpr ⟨trivial, fun _ => uses_done _⟩

theorem recordObjectTimeouts_neutral : Uses Neutral (recordObjectTimeouts p nowMS noted) := by
  refine uses_bind (uses_call.mpr ⟨⟨id, id⟩, fun _ => uses_done _⟩) fun objects => ?_
  exact uses_each fun _ _ => uses_bind (uses_done _) fun _ => noteIssue_neutral _

theorem ensures_reports {α : Type} {program : Round α} (uses : Uses Neutral program)
    (documented : Documented libs compact mirror intake) (held : Settling libs compact mirror intake fair settled now) :
    Passes libs compact fair start (fun now _ => Settling libs compact mirror intake fair settled now) now program := by
  refine ensures_yields (ensures_of_uses stable_converging ?_ ?_ uses held)
    (fun _ _ held fairly => Or.inr (documented.allStand held fairly)) (fun _ _ held => held)
  · exact fun now call answer later held neutral answered => held.neutral neutral answered
  · exact fun now call held neutral => ⟨Or.inl (walks_of_neutral call neutral),
      fun fairly => Or.inr (documented.allStand held fairly)⟩

theorem ensures_finalizeRound {inRound : Bool} (documented : Documented libs compact mirror intake)
    (held : Settling libs compact mirror intake fair settled now) :
    Passes libs compact fair start (fun now _ => Settling libs compact mirror intake fair settled now) now
    (finalizeRound p intake inRound noted) := by
  unfold finalizeRound
  split
  · exact held
  · refine ensures_call stable_converging held ?_
    intro now held
    refine ⟨⟨Or.inr rfl, fun fairly => Or.inr (documented.allStand held fairly)⟩, ?_⟩
    rintro answer ⟨store, events⟩ ⟨logged, served⟩
    cases (show store = now.store from served)
    have after : Settling libs compact mirror intake fair settled
        ⟨now.store, events⟩ := by
      refine ⟨held.mirrored, fun fairly => (held.covers fairly).step logged (fun _ _ applied => applied) ?_, held.rows⟩
      intro op same
      cases same
      refine ⟨?_, ?_⟩
      · rintro listener - (⟨given, impossible, -⟩ | impossible)
        · cases impossible
        · cases impossible
      · rintro client - (⟨given, impossible, -⟩ | impossible)
        · cases impossible
        · cases impossible
    cases answer with
    | ok _ => exact after
    | error err => exact ensures_reports (recordIssue_neutral _) documented after

theorem ensures_runRound (faithful : p.conformance.Faithful) (documented : Documented libs compact mirror intake)
    (settles : Settles p intake nowMS settled)
    (held : Converging compact fair settled mirror (ListenerBefore libs mirror intake)
      (ClientBefore libs mirror intake fair) now) (unfinalized : Unfinalized start now) :
    Passes libs compact fair start (fun now _ => Settling libs compact mirror intake fair settled now) now
    (runRound p intake nowMS noted) := by
  refine ensures_bind (ensures_unfinalized (ensures_neutral newRound_neutral held) unfinalized) ?_
  rintro now inRound ⟨held, unfinalized⟩
  refine ensures_bind (ensures_unfinalized (ensures_convergeDocuments documented faithful settles held) unfinalized) ?_
  rintro now noted ⟨held, -⟩
  refine ensures_bind (ensures_finalizeRound documented held) ?_
  exact fun now noted held => ensures_reports recordObjectTimeouts_neutral documented held

def Unmoved (libs : Libraries) (start now : Moment) : Prop :=
  storedBody libs.wire.config now.store .config = storedBody libs.wire.config start.store .config ∧
    storedBody libs.wire.roster now.store .roster = storedBody libs.wire.roster start.store .roster

def CleanUpserts (libs : Libraries) (start now : Moment) : Prop :=
  ∀ calls, now.events = start.events ++ calls → ∀ client, ⟨.runtime (.upsertClient client), .ok ()⟩ ∈ calls →
    StoredClient libs now client

theorem storedListener_congr (same : later.store.streams = now.store.streams) (listener : Listener) :
    StoredListener libs later listener ↔ StoredListener libs now listener := by
  have body : storedBody libs.wire.config later.store .config = storedBody libs.wire.config now.store .config :=
    storedBody_congr (by rw [same])
  rw [StoredListener, StoredListener, body]

theorem storedClient_congr (same : later.store.streams = now.store.streams) (client : Client) :
    StoredClient libs later client ↔ StoredClient libs now client := by
  have body : storedBody libs.wire.roster later.store .roster = storedBody libs.wire.roster now.store .roster :=
    storedBody_congr (by rw [same])
  rw [StoredClient, StoredClient, body]

theorem unmoved_congr (same : later.store.streams = now.store.streams) (unmoved : Unmoved libs start later) :
    Unmoved libs start now := by
  have find : ∀ name, now.store.streams.find? name = later.store.streams.find? name := fun _ => by rw [same]
  exact ⟨(storedBody_congr (find _)).trans unmoved.1, (storedBody_congr (find _)).trans unmoved.2⟩

theorem allStand_of_covers (same : later.store.streams = now.store.streams)
    (covers : Covers compact (StoredListener libs now) (StoredClient libs now) later) : AllStand libs compact later :=
  covers.mono (fun listener => (storedListener_congr same listener).mp)
    (fun client => (storedClient_congr same client).mp)

theorem storedListener_unique (sound : SoundStore libs now.store) {one other : Listener}
    (first : StoredListener libs now one) (second : StoredListener libs now other) (keyed : one.key = other.key) :
    one = other := by
  obtain ⟨body, stored, member⟩ := first
  obtain ⟨_, same, among⟩ := second
  rw [stored] at same
  cases same
  have valid := ((streamOf_config libs.wire).stored sound).2 body stored
  exact List.inj_on_of_nodup_map valid.distinct member among keyed

theorem storedClient_unique (sound : SoundStore libs now.store) {one other : Client}
    (first : StoredClient libs now one) (second : StoredClient libs now other) (keyed : one.key = other.key) :
    one = other := by
  obtain ⟨body, stored, member⟩ := first
  obtain ⟨_, same, among⟩ := second
  rw [stored] at same
  cases same
  have valid := ((streamOf_roster libs.wire).stored sound).2 body stored
  exact List.inj_on_of_nodup_map valid.distinct member among keyed

theorem runtime_spares (sound : SoundStore libs now.store) {op : RuntimeOp}
    (run : RunCall libs compact True now (.runtime op))
    (clean : ∀ client, op = .upsertClient client → StoredClient libs now client) :
    (∀ listener, StoredListener libs now listener → TouchesListener listener.key op →
      UpsertsListener compact listener op) ∧
    ∀ client, StoredClient libs now client → TouchesClient client.key op → op = .upsertClient client := by
  refine ⟨?_, ?_⟩
  · rintro listener stored (⟨given, rfl, keyed⟩ | rfl)
    · rcases run with ⟨known, held, spelled⟩ | impossible
      · rw [← storedListener_unique sound held stored (spelled.1.symm.trans keyed)]
        exact ⟨given, rfl, spelled.1, spelled.2⟩
      · cases impossible
    · rcases run with absent | impossible
      · exact absurd rfl (absent listener stored)
      · cases impossible
  · rintro client stored (⟨given, rfl, keyed⟩ | rfl)
    · rw [storedClient_unique sound (clean given rfl) stored keyed]
    · rcases run with absent | impossible
      · exact absurd rfl (absent client stored)
      · cases impossible

theorem appliedIn_of_transaction {call : StoreCall} {value : call.Value} {events : List RoundEvent}
    (saves : ∀ status atMS, call ≠ .saveObject status atMS)
    (done : transaction libs now.store call = .ok (next, value)) (name : Stream) (key : String)
    (applied : AppliedIn ⟨next, events⟩ name key) : AppliedIn now name key := by
  obtain ⟨stored, found, state⟩ := applied
  by_cases deletes : ∃ stream gone, Deletes stream gone call
  · obtain ⟨stream, gone, deletes⟩ := deletes
    rw [(deletes_rows deletes done).2, Table.find?_deleteWhere] at found
    exact ⟨stored, (Option.filter_eq_some_iff.mp found).1, state⟩
  · have writes : ¬ WritesObjects call := by
      cases call with
      | saveObject status atMS => exact absurd rfl (saves status atMS)
      | deleteObject => exact absurd ⟨_, _, Or.inl rfl⟩ deletes
      | deleteClient => exact absurd ⟨_, _, Or.inr (Or.inr ⟨rfl, rfl⟩)⟩ deletes
      | deleteListener => exact absurd ⟨_, _, Or.inr (Or.inl ⟨rfl, rfl⟩)⟩ deletes
      | _ => exact id
    refine ⟨stored, ?_, state⟩
    rw [← (transaction_frame done).objects writes]
    exact found

theorem vouched_stands (sound : SoundStore libs now.store) {status : ObjectStatus}
    (vouched : Vouched libs compact now status) :
    (∀ listener, StoredListener libs now listener → (status.stream, status.key) = (.config, listener.key) →
      ListenerStands compact now listener) ∧
    ∀ client, StoredClient libs now client → (status.stream, status.key) = (.roster, client.key) →
      ClientStands now client := by
  refine ⟨?_, ?_⟩
  · intro listener stored here
    obtain ⟨stream, key⟩ := Prod.mk.inj here
    rw [Vouched, stream] at vouched
    obtain ⟨known, held, keyed, stands⟩ := vouched
    rw [← storedListener_unique sound held stored (keyed.trans key)]
    exact stands
  · intro client stored here
    obtain ⟨stream, key⟩ := Prod.mk.inj here
    rw [Vouched, stream] at vouched
    obtain ⟨known, held, keyed, stands⟩ := vouched
    rw [← storedClient_unique sound held stored (keyed.trans key)]
    exact stands

theorem runCall_keeps_streams {call : StoreCall} (run : RunCall libs compact True now (.store call)) :
    ¬ WritesStreams call := by
  rcases run with walks | impossible
  · cases call with
    | saveStream | clearStreamForHigherEpoch => exact absurd walks id
    | _ => exact id
  · cases impossible

theorem RunCall.streams (run : RunCall libs compact True now call)
    (answered : (around libs).answers now call answer later) : later.store.streams = now.store.streams := by
  obtain ⟨-, served⟩ := answered
  cases call with
  | store call =>
    have kept : (serve libs now.store call).1.streams = now.store.streams := by
      refine serve_invariant (fun next => next.streams = now.store.streams) rfl ?_
      exact fun next value done => (transaction_frame done).streams (runCall_keeps_streams run)
    rw [show serve libs now.store call = _ from served] at kept
    exact kept
  | _ => rw [show later.store = now.store from served]

theorem AllStand.run (sound : SoundStore libs now.store) (stand : AllStand libs compact now)
    (run : RunCall libs compact True now call)
    (clean : ∀ client,
      (⟨call, answer⟩ : RoundEvent) = ⟨.runtime (.upsertClient client), .ok ()⟩ → StoredClient libs now client)
    (answered : (around libs).answers now call answer later) : AllStand libs compact later := by
  refine allStand_of_covers (run.streams answered) ?_
  obtain ⟨store, events⟩ := later
  obtain ⟨logged, served⟩ := answered
  cases call with
  | store call =>
    change serve libs now.store call = (store, answer) at served
    cases done : transaction libs now.store call with
    | error err =>
      rw [serve_error done] at served
      cases served
      exact Covers.step stand logged (fun _ _ applied => applied) (fun op same => by cases same)
    | ok pair =>
      rw [serve_ok done] at served
      cases served
      by_cases saves : ∃ status atMS, call = .saveObject status atMS
      · obtain ⟨status, atMS, rfl⟩ := saves
        obtain ⟨-, objects, put, same⟩ := saveObject_ok done
        refine Covers.saved stand logged ?_ (fun _ member => Or.inl member) (fun _ member => Or.inl member) ?_
        · intro id
          rw [same]
          exact Table.find?_put put id
        · intro applied
          rcases run with ⟨-, -, vouches⟩ | impossible
          · exact vouched_stands sound (vouches trivial applied)
          · cases impossible
      · refine Covers.step stand logged ?_ (fun op same => by cases same)
        exact fun name key => appliedIn_of_transaction
          (fun status atMS same => saves ⟨status, atMS, same⟩) done name key
  | runtime op =>
    cases (show store = now.store from served)
    refine Covers.step stand logged (fun _ _ applied => applied) ?_
    intro other same
    cases same
    exact runtime_spares sound run (fun client same => clean client (by rw [same]))
  | _ =>
    cases (show store = now.store from served)
    exact Covers.step stand logged (fun _ _ applied => applied) (fun op same => by cases same)

def Compacts (wire : Wire) (compact : Bytes → Bytes) : Prop :=
  ∀ body bytes back, wire.config.marshal body = .ok bytes → wire.config.unmarshal bytes = .ok back →
    SameListeners compact body back

theorem receive_documents {catalog : Corecatalog.Catalog} {times : Stream → Int} {documents : ReceivedDocuments}
    (compacts : Compacts libs.wire compact) (sound : SoundStore libs store)
    (ran : exec (serve libs) store (receive catalog libs.wire times response) = (next, .ok documents)) :
    Option.Rel (SameListeners compact) documents.config (storedBody libs.wire.config next .config) ∧
    (storedBody libs.wire.config next .config = storedBody libs.wire.config store .config ∨
      (storedVersion next .config).zero = false) ∧
    (storedBody libs.wire.roster next .roster = storedBody libs.wire.roster store .roster ∨
      (storedVersion next .roster).zero = false) := by
  have decodes := storedBodiesDecode_of_sound sound
  obtain ⟨first, config, second, roster, directives, one, two, three, rfl⟩ := receive_eq_ok.mp ran
  have early : first.streams.find? .roster = store.streams.find? .roster := segment_frame (by decide) one
  have late : next.streams.find? .roster = second.streams.find? .roster := segment_frame (by decide) three
  have config : next.streams.find? .config = first.streams.find? .config :=
    (segment_frame (by decide) three).trans (segment_frame (by decide) two)
  have encodes : ∀ body bytes, libs.wire.config.marshal body = .ok bytes →
      ∃ back, libs.wire.config.unmarshal bytes = .ok back ∧ SameListeners compact body back := by
    intro body bytes encoded
    obtain ⟨back, decoded, -⟩ := libs.wire.config_decodes body bytes encoded
    exact ⟨back, decoded, compacts body bytes back encoded decoded⟩
  rw [storedBody_congr config, storedVersion, config, storedBody_congr late, storedVersion, late,
    ← storedBody_congr early]
  have refl : ∀ body, SameListeners compact body body := fun _ => rfl
  exact ⟨(receiveSegment_stored refl encodes decodes.config one).1,
    (receiveSegment_source decodes.config one).imp_right fun source => source.2.1,
    (receiveSegment_source (streamDecodes_congr early decodes.roster) two).imp_right fun source => source.2.1⟩

theorem Readied.documented (compacts : Compacts libs.wire compact) (sound : SoundStore libs start.store)
    (readied : Readied libs p nowMS response start intake now) : Documented libs compact now.store intake := by
  obtain ⟨after, received, mirrored⟩ := readied.received
  have opened := readied.opened
  refine ⟨opened.configVersion, opened.rosterVersion, ?_, opened.agrees.roster, opened.valid⟩
  rw [mirrored.body]
  exact (receive_documents compacts sound received).1

theorem Opening.stands {upserts touches : RuntimeOp → Prop} (opening : Opening libs start now)
    (stands : Stands start.events upserts touches) : Stands now.events upserts touches := by
  obtain ⟨calls, events, quiet⟩ := opening.events
  rw [events]
  clear events
  induction calls using List.reverseRecOn with
  | nil =>
    rw [List.append_nil]
    exact stands
  | append_singleton earlier last ih =>
    rw [← List.append_assoc]
    refine Stands.concat (ih fun event member => quiet event (List.mem_append_left _ member)) ?_
    rintro op rfl
    exact absurd trivial (quiet _ (List.mem_append_right _ List.mem_cons_self))

theorem Opening.appliedIn (opening : Opening libs start now) (applied : AppliedIn now name key) :
    AppliedIn start name key := by
  rw [AppliedIn, opening.objects] at applied
  exact applied

theorem Opening.allStand (opening : Opening libs start now) (unmoved : Unmoved libs start now)
    (stand : AllStand libs compact start) : AllStand libs compact now := by
  refine ⟨?_, ?_⟩
  · rintro listener ⟨body, stored, member⟩ applied
    exact opening.stands (stand.listeners listener ⟨body, by rw [← unmoved.1]; exact stored, member⟩
      (opening.appliedIn applied))
  · rintro client ⟨roster, stored, member⟩ applied
    exact opening.stands (stand.clients client ⟨roster, by rw [← unmoved.2]; exact stored, member⟩
      (opening.appliedIn applied))

theorem listenerIn_mem {body : Option ConfigBody} {listener : Listener}
    (found : listenerIn body key = some listener) :
    ∃ config, body = some config ∧ listener ∈ config.listeners ∧ listener.key = key := by
  have member := List.mem_of_find?_eq_some found
  cases body with
  | none => simp at member
  | some config => exact ⟨config, rfl, by simpa using member, by simpa using List.find?_some found⟩

theorem Readied.converging (compacts : Compacts libs.wire compact) (sound : SoundStore libs start.store)
    (stand : AllStand libs compact start) (readied : Readied libs p nowMS response start intake now) :
    Covers compact (ListenerBefore libs now.store intake) (ClientBefore libs now.store intake True) now := by
  have documented := readied.documented compacts sound
  have opened := readied.opened
  obtain ⟨after, received, mirrored⟩ := readied.received
  obtain ⟨-, config, roster⟩ := receive_documents compacts sound received
  rw [← mirrored.body, ← mirrored.version, ← documented.configVersion] at config
  rw [← mirrored.body, ← mirrored.version, ← documented.rosterVersion] at roster
  refine ⟨?_, ?_⟩
  · intro listener before applied
    have earlier := readied.opening.appliedIn applied
    unfold ListenerBefore at before
    cases document : configDocument intake with
    | some config =>
      rw [document] at before
      obtain ⟨previous, known, same⟩ := Option.any_eq_true _ _ |>.mp before.2
      obtain ⟨old, loaded, member, keyed⟩ := listenerIn_mem known
      rw [opened.oldConfig] at loaded
      have standing : ListenerStands compact now previous :=
        readied.opening.stands (stand.listeners previous ⟨old, loaded, member⟩ (by rw [keyed]; exact earlier))
      exact standing.congr ⟨keyed, by rw [of_decide_eq_true same]⟩
    | none =>
      rw [document] at before
      obtain ⟨body, stored, member⟩ := before
      rcases config with same | present
      · exact readied.opening.stands (stand.listeners listener ⟨body, by rw [← same]; exact stored, member⟩ earlier)
      · have related := documented.config
        unfold configDocument at document
        rw [present] at document
        rw [stored, show intake.received.config = none from document] at related
        cases related
  · intro client before applied
    have earlier := readied.opening.appliedIn applied
    unfold ClientBefore at before
    cases document : rosterDocument intake with
    | some roster =>
      rw [document] at before
      obtain ⟨old, loaded, member, -⟩ := clientIn_mem before.2.2
      rw [opened.oldRoster] at loaded
      exact readied.opening.stands (stand.clients client ⟨old, loaded, member⟩ earlier)
    | none =>
      rw [document] at before
      obtain ⟨-, body, stored, member⟩ := before
      rcases roster with same | present
      · exact readied.opening.stands (stand.clients client ⟨body, by rw [← same]; exact stored, member⟩ earlier)
      · unfold rosterDocument at document
        rw [present] at document
        rw [← documented.roster, show intake.received.roster = none from document] at stored
        cases stored

/-- Everything stands as long as nothing that the round has done tells on what is stored. -/
structure Restful (libs : Libraries) (compact : Bytes → Bytes) (start now : Moment) : Prop where
  begun : Begun start now
  kept : Unmoved libs start now → CleanUpserts libs start now → AllStand libs compact now

/-- A status is saved at the version of the stored document, and as applied only if vouched for. -/
def HonestSave (libs : Libraries) (compact : Bytes → Bytes) (now : Moment) (call : ProcessCall) : Prop :=
  ∀ status atMS, call = .store (.saveObject status atMS) →
    status.sinceVersion = storedVersion now.store status.stream ∧
      (status.state = .applied → Vouched libs compact now status)

theorem stable_allStand : Stable (around libs) (AllStand libs compact) := by
  intro now later moved stand
  exact allStand_of_covers (elsewhere_counting moved.2).streams (stable_covers now later moved stand)

theorem stable_restful : Stable (around libs) (Restful libs compact start) := by
  intro now later moved restful
  have streams := (elsewhere_counting moved.2).streams
  refine ⟨stable_begun now later moved restful.begun, ?_⟩
  intro unmoved clean
  refine stable_allStand now later moved (restful.kept (unmoved_congr streams unmoved) ?_)
  intro calls events client member
  exact (storedClient_congr streams client).mp (clean calls (moved.1.trans events) client member)

theorem Restful.run (restful : Restful libs compact start now) (sound : SoundStore libs now.store)
    (run : RunCall libs compact True now call) (answered : (around libs).answers now call answer later) :
    Restful libs compact start later := by
  have streams := run.streams answered
  refine ⟨restful.begun.answered answered, ?_⟩
  intro unmoved clean
  obtain ⟨calls, events⟩ := restful.begun
  have logged : later.events = start.events ++ (calls ++ [⟨call, answer⟩]) := by
    rw [answered.1, events, List.append_assoc]
  have stand : AllStand libs compact now := by
    apply restful.kept (unmoved_congr streams unmoved)
    intro others same client member
    rw [events] at same
    rw [← List.append_cancel_left same] at member
    exact (storedClient_congr streams client).mp (clean _ logged client (List.mem_append_left _ member))
  refine stand.run sound run ?_ answered
  intro client same
  refine (storedClient_congr streams client).mp (clean _ logged client (List.mem_append_right _ ?_))
  rw [same]
  exact List.mem_cons_self

theorem Opening.restful (opening : Opening libs start now) (stand : AllStand libs compact start) :
    Restful libs compact start now := by
  obtain ⟨calls, events, -⟩ := opening.events
  exact ⟨⟨calls, events⟩, fun unmoved _ => opening.allStand unmoved stand⟩

theorem Opening.unfinalized (opening : Opening libs start now) : Unfinalized start now := by
  obtain ⟨calls, events, quiet⟩ := opening.events
  refine ⟨calls, events, ?_⟩
  intro event member same
  apply quiet event member
  rw [same]
  trivial

theorem ensures_process_honest (sound : SoundStore libs start.store) (wired : p.wire = libs.wire)
    (faithful : p.conformance.Faithful) (compacts : Compacts libs.wire compact) (stand : AllStand libs compact start) :
    Ensures (around libs) (fun now call => HonestSave libs compact now call ∧ Restful libs compact start now ∧
      Passed libs compact True start now)
    (fun now => Yields (fun _ => Restful libs compact start now ∧ Passed libs compact True start now)
      (fun _ => AllStand libs compact now)) start (process p nowMS response) := by
  refine ensures_process sound wired ?_ ?_ ?_
  · intro now call opening called
    refine ⟨?_, opening.restful stand, fun _ => Or.inl opening.unfinalized⟩
    rintro status atMS rfl
    exact absurd trivial called
  · exact fun now failure opening => ⟨opening.restful stand, fun _ => Or.inl opening.unfinalized⟩
  · intro now intake noted timed readied
    have mirrored : Mirrored now.store now := fun _ => rfl
    have documented := readied.documented compacts sound
    have settles : Settles p intake nowMS (fun _ _ => True) := fun _ _ _ => trivial
    have runs : Ensures (around libs) _ _ now (runRound p intake nowMS noted) :=
      ensures_runRound faithful documented settles
        ⟨mirrored, fun _ : True => readied.converging compacts sound stand, fun _ _ => trivial⟩
        readied.opening.unfinalized
    have calls : Ensures (around libs) _ _ now (runRound p intake nowMS noted) :=
      ensures_runRound_calls timed.le readied.opened.valid stable_opening readied.opening
        ⟨readied.opening.sound, mirrored⟩
    refine ensures_mono (ensures_invariant stable_restful ?_ (ensures_and runs calls)
      (readied.opening.restful stand)) ?_ ?_
    · rintro now call answer later restful ⟨⟨run, -⟩, ⟨sound, -⟩, -⟩ answered
      exact restful.run sound run answered
    · rintro now call ⟨⟨⟨run, passed⟩, -⟩, restful⟩
      refine ⟨?_, restful, passed⟩
      rintro status atMS rfl
      rcases run with ⟨since, -, vouches⟩ | impossible
      · exact ⟨since, vouches trivial⟩
      · cases impossible
    · rintro now outcome ⟨⟨passed, -⟩, restful⟩
      cases outcome with
      | ok done => exact documented.allStand passed trivial
      | error failure => exact ⟨restful, passed⟩

theorem stable_passed : Stable (around libs) (Passed libs compact True start) := by
  intro now later moved passed _
  rcases passed trivial with early | standing
  · exact Or.inl (stable_unfinalized now later moved early)
  · exact Or.inr (stable_allStand now later moved standing)

theorem among_honest (sound : SoundStore libs start.store) (wired : p.wire = libs.wire)
    (faithful : p.conformance.Faithful) (compacts : Compacts libs.wire compact) (stand : AllStand libs compact start)
    (ran : Among (around libs) (start, process p nowMS response) (now, rest)) : Ensures (around libs)
    (fun now call => HonestSave libs compact now call ∧ Restful libs compact start now ∧
      Passed libs compact True start now)
    (fun now => Yields (fun _ => Restful libs compact start now ∧ Passed libs compact True start now)
      (fun _ => AllStand libs compact now)) now rest := by
  refine ensures_among ?_ ran (ensures_process_honest sound wired faithful compacts stand)
  intro outcome
  cases outcome with
  | ok done => exact stable_allStand
  | error failure => exact stable_restful.and stable_passed

def Finalized (start now : Moment) : Prop :=
  ∃ calls, now.events = start.events ++ calls ∧ ∃ event ∈ calls, event.op = .runtime .finalize

/-- The round does no harm to what is recorded: it ended, or finalized its work, or left the documents as they
were and handed over no client in part. -/
def Harmless (libs : Libraries) (p : Processor) (start left : Moment) (rest : Round Bool) : Prop :=
  p.conformance.Faithful ∧ ((∃ done, rest = .done (.ok done)) ∨ Finalized start left ∨
    Unmoved libs start left ∧ CleanUpserts libs start left)

theorem harmless_stands (sound : SoundStore libs start.store) (wired : p.wire = libs.wire)
    (compacts : Compacts libs.wire compact) (stand : AllStand libs compact start)
    (ran : Among (around libs) (start, process p nowMS response) (now, rest))
    (harmless : Harmless libs p start now rest) : AllStand libs compact now := by
  obtain ⟨faithful, left⟩ := harmless
  have reached := among_honest sound wired faithful compacts stand ran
  have rests : (∃ done, rest = .done (.ok done)) ∧ AllStand libs compact now ∨
      Restful libs compact start now ∧ Passed libs compact True start now := by
    cases rest with
    | done outcome =>
      cases outcome with
      | ok done => exact Or.inl ⟨⟨done, rfl⟩, reached⟩
      | error failure => exact Or.inr reached
    | call op next => exact Or.inr (ensures_allows reached).2
  rcases rests with ⟨-, standing⟩ | ⟨restful, passed⟩
  · exact standing
  · rcases left with ⟨done, rfl⟩ | ⟨calls, events, event, member, finalizes⟩ | ⟨unmoved, clean⟩
    · exact reached
    · rcases passed trivial with ⟨others, same, early⟩ | standing
      · rw [events] at same
        rw [List.append_cancel_left same] at member
        exact absurd finalizes (early event member)
      · exact standing
    · exact restful.kept unmoved clean

theorem life_stands (compacts : Compacts libs.wire compact) (lived : Life libs (Harmless libs) now) :
    AllStand libs compact now := by
  induction lived with
  | fresh =>
    refine ⟨?_, ?_⟩
    · rintro listener - ⟨stored, impossible, -⟩
      cases impossible
    · rintro client - ⟨stored, impossible, -⟩
      cases impossible
  | round p nowMS response before wired ran permitted ih =>
    exact harmless_stands (life_sound before) wired compacts ih ran permitted
  | idle _ moved ih => exact stable_allStand _ _ moved ih

/-- In a life of harmless rounds every status is saved at the version of the stored document, and one saved as
applied is vouched for: the runtime took the object as the document has it and nothing else for its key since.
-/
theorem applied_is_honest (lived : Life libs (Harmless libs) start) (wired : p.wire = libs.wire)
    (faithful : p.conformance.Faithful) (compacts : Compacts libs.wire compact) {status : ObjectStatus} {atMS : Int}
    {next : (ProcessCall.store (.saveObject status atMS)).Answer → Round Bool}
    (ran : Among (around libs) (start, process p nowMS response)
      (now, .call (.store (.saveObject status atMS)) next))
    (applied : status.state = .applied) :
    status.sinceVersion = storedVersion now.store status.stream ∧ Vouched libs compact now status := by
  have reached := among_honest (life_sound lived) wired faithful compacts (life_stands compacts lived) ran
  obtain ⟨since, vouches⟩ := (ensures_allows reached).1 status atMS rfl
  exact ⟨since, vouches applied⟩

theorem plain_faithful : Conformance.plain.Faithful := by
  refine ⟨?_, ?_, ?_, plain_onlyApplied⟩
  · rintro object transition status ⟨⟩
    cases transition with
    | accepted version atMS =>
      cases object with
      | unknown => rfl
      | known status =>
        simp only [TrackedObject.advance, TrackedObject.id]
        split <;> rfl
    | _ => rfl
  · rintro object version atMS status ⟨⟩
    cases object with
    | unknown => exact ⟨rfl, fun impossible => by cases impossible⟩
    | known status =>
      simp only [TrackedObject.advance]
      split
      · rename_i same
        exact ⟨same, fun applied => ⟨status, rfl, applied⟩⟩
      · exact ⟨rfl, fun impossible => by cases impossible⟩
  · rintro status transition next other ⟨⟩
    cases transition with
    | accepted version atMS => exact absurd rfl (other version atMS)
    | _ => rfl

def portConfig (port : UInt8) : ConfigBody := ⟨⟨"", "", false⟩, [⟨"l1", [port]⟩], ⟨1, 0, 0⟩⟩

def portDirectives : DirectivesBody := ⟨⟨1, 1⟩, [], [], ⟨0, 0, 0⟩⟩

def portLibs : Libraries :=
  ⟨.transparent, .transparent, .ofTables [portConfig 1, portConfig 2] [leaverRoster []] [portDirectives]⟩

def portProcessor : Processor := ⟨⟨.ok [], id⟩, portLibs.wire, .plain, 3, 60000, false, false⟩

def portResponse (port : UInt8) : SyncResponse where
  config := ⟨⟨1, port.toNat⟩, portLibs.lib.sha256Hex (List.replicate port.toNat 0), false, some (portConfig port)⟩
  roster := ⟨⟨1, 1⟩, portLibs.lib.sha256Hex [0], false, some (leaverRoster [])⟩
  directives := ⟨⟨1, 1⟩, portLibs.lib.sha256Hex [0], false, some portDirectives⟩
  tasks := []

def portUnchanged : SyncResponse where
  config := ⟨⟨1, 2⟩, portLibs.lib.sha256Hex [0, 0], true, none⟩
  roster := ⟨⟨1, 1⟩, portLibs.lib.sha256Hex [0], true, none⟩
  directives := ⟨⟨1, 1⟩, portLibs.lib.sha256Hex [0], true, none⟩
  tasks := []

def portRound (calls : Nat) (start : Moment) (response : SyncResponse) : Moment × Round Bool :=
  execFor (Moment.answering portLibs (fun call => (gapSurroundings () Store.fresh call).2)) calls start
    (process portProcessor 5 response)

def portStart : Moment := (portRound 23 ⟨Store.fresh, []⟩ (portResponse 1)).1

def portStatus : ObjectStatus := ⟨.config, "l1", .applied, ⟨1, 2⟩, 0, "", ""⟩

theorem port_compacts : Compacts portLibs.wire id := by
  intro body bytes back encoded decoded
  have same : portLibs.wire.config.unmarshal bytes = .ok body := Codec.table_decodes encoded
  rw [same] at decoded
  cases decoded
  rfl

theorem honest_port :
    Vouched portLibs id (portRound 15 portStart (portResponse 2)).1 portStatus := by
  have wired : portProcessor.wire = portLibs.wire := rfl
  have finished : (portRound 23 ⟨Store.fresh, []⟩ (portResponse 1)).2 = .done (.ok false) :=
    Proc.eq_done_of_ended (by decide +kernel)
  have lived : Life portLibs (Harmless portLibs) portStart :=
    life_execFor 23 .fresh wired ⟨plain_faithful, Or.inl ⟨false, finished⟩⟩
  obtain ⟨next, asks⟩ : ∃ next, (portRound 15 portStart (portResponse 2)).2 =
      .call (.store (.saveObject portStatus 5)) next := Proc.eq_call_of_asks (by decide +kernel)
  have ran : Among (around portLibs) (portStart, process portProcessor 5 (portResponse 2))
      ((portRound 15 portStart (portResponse 2)).1, (portRound 15 portStart (portResponse 2)).2) :=
    among_execFor (answering_around portLibs _) 15
  rw [asks] at ran
  exact (applied_is_honest lived wired plain_faithful port_compacts ran rfl).2

def portCut : Moment := (portRound 4 portStart (portResponse 2)).1

/-- The third round saves as applied a listener at the second version, which the runtime has never seen. -/
theorem cut_round_misreports :
    Life portLibs (fun p _ _ _ => p.conformance.Faithful) portCut ∧
    (∃ next, Among (around portLibs) (portCut, process portProcessor 5 portUnchanged)
      ((portRound 14 portCut portUnchanged).1, .call (.store (.saveObject portStatus 5)) next)) ∧
    ¬ Vouched portLibs id (portRound 14 portCut portUnchanged).1 portStatus := by
  have wired : portProcessor.wire = portLibs.wire := rfl
  have begun : Life portLibs (fun p _ _ _ => p.conformance.Faithful) portStart :=
    life_execFor 23 .fresh wired plain_faithful
  have cut : Life portLibs (fun p _ _ _ => p.conformance.Faithful) portCut :=
    life_execFor 4 begun wired plain_faithful
  refine ⟨cut, ?_, ?_⟩
  · obtain ⟨next, asks⟩ : ∃ next, (portRound 14 portCut portUnchanged).2 =
        .call (.store (.saveObject portStatus 5)) next := Proc.eq_call_of_asks (by decide +kernel)
    have ran : Among (around portLibs) (portCut, process portProcessor 5 portUnchanged)
        ((portRound 14 portCut portUnchanged).1, (portRound 14 portCut portUnchanged).2) :=
      among_execFor (answering_around portLibs _) 14
    rw [asks] at ran
    exact ⟨next, ran⟩
  · rintro ⟨listener, ⟨body, stored, member⟩, -, before, op, later, events, ⟨given, rfl, key, config⟩, -⟩
    have second : storedBody portLibs.wire.config (portRound 14 portCut portUnchanged).1.store .config =
        some (portConfig 2) := by decide +kernel
    rw [second] at stored
    cases stored
    rw [List.mem_singleton.mp member] at key config
    have never : .runtime (.upsertListener ⟨"l1", [2]⟩) ∉
        (portRound 14 portCut portUnchanged).1.events.map Event.op := by decide +kernel
    apply never
    rw [events]
    obtain ⟨key, config⟩ := given
    simp_all

end Round

end PasswallNode.Agent
