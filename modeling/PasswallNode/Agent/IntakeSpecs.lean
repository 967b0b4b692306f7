import PasswallNode.Agent.RoundSpecs

/-! The part of a round up to the grants, and with it the whole round, keeps the database sound
whatever happens around it. -/

namespace PasswallNode.Agent

open Foundation Protocol State Sqlite

section Receive

def storeContract (libs : Libraries) : Contract StoreCall StoreCall.Answer where
  allows := SoundCall libs
  promises := fun call answer => Yields (fun _ => True) (Told libs call) answer

theorem storeContract_backs {libs : Libraries} : Backs (serve libs) (storeContract libs) (SoundStore libs) := by
  intro store call sound allowed
  refine ⟨serve_sound sound allowed, ?_⟩
  cases done : transaction libs store call with
  | error err =>
    rw [serve_error done]
    trivial
  | ok pair =>
    rw [serve_ok done]
    exact transaction_told sound done

structure StreamOf {T : Type} (wire : Wire) (codec : Codec T) (name : Stream) (valid : T → Prop) : Prop where
  decodes : ∀ doc : StreamDocument, doc.stream = name → DocumentValid wire doc →
    ∃ body, codec.unmarshal doc.body = .ok body ∧ valid body
  encodes : ∀ (doc : StreamDocument) (body : T), doc.stream = name → valid body →
    codec.marshal body = .ok doc.body → DocumentValid wire doc

abbrev Respelled (old new : Listener) : Prop := new.key = old.key ∧ (old.config ≠ [] → new.config ≠ [])

theorem respelled_keys {before after : List Listener} (each : List.Forall₂ Respelled before after) :
    after.map Listener.key = before.map Listener.key := by
  induction each with
  | nil => rfl
  | cons same _ ih => rw [List.map_cons, List.map_cons, same.1, ih]

theorem validConfig_respells {wire : Wire} {body back : ConfigBody} (valid : ValidConfig wire body)
    (respelled : body.Respells back) : ValidConfig wire back := by
  obtain ⟨-, -, each⟩ := respelled
  refine ⟨by rw [respelled_keys each]; exact valid.distinct, ?_⟩
  intro listener member
  obtain ⟨old, present, same, filled⟩ := forall₂_exists each.flip member
  obtain ⟨named, full, row⟩ := valid.listener old present
  rw [same]
  exact ⟨named, filled full, row⟩

theorem streamOf_config (wire : Wire) : StreamOf wire wire.config .config (ValidConfig wire) where
  decodes := by
    intro doc here valid
    rw [DocumentValid, here] at valid
    exact valid
  encodes := by
    intro doc body here valid encoded
    rw [DocumentValid, here]
    obtain ⟨back, decoded, respelled⟩ := wire.config_decodes body doc.body encoded
    exact ⟨back, decoded, validConfig_respells valid respelled⟩

theorem streamOf_roster (wire : Wire) : StreamOf wire wire.roster .roster (ValidRoster wire) where
  decodes := by
    intro doc here valid
    rw [DocumentValid, here] at valid
    exact valid
  encodes := by
    intro doc body here valid encoded
    rw [DocumentValid, here]
    exact ⟨body, wire.roster_decodes body doc.body encoded, valid⟩

theorem streamOf_directives (wire : Wire) :
    StreamOf wire wire.directives .directives (ValidDirectives wire) where
  decodes := by
    intro doc here valid
    rw [DocumentValid, here] at valid
    exact valid
  encodes := by
    intro doc body here valid encoded
    rw [DocumentValid, here]
    exact ⟨body, wire.directives_decodes body doc.body encoded, valid⟩

variable {T : Type} {libs : Libraries} {codec : Codec T} {name : Stream} {valid : T → Prop}
  {validate : Option T → Except Error Unit} {segment : Segment T} {opens : Prop} {p : Processor} {result : Bool}
  {α : Type}

theorem meets_transact {call : StoreCall} (allowed : SoundCall libs call) :
    Meets (storeContract libs) (Yields (fun _ => True) (Told libs call)) (transact call) :=
  ⟨allowed, fun _ told => told⟩

theorem meets_optionalStoredBody (stored : StreamOf libs.wire codec name valid) :
    Meets (storeContract libs) (Yields (fun _ => True) (fun current => ∀ body ∈ current, valid body))
    (optionalStoredBody codec name) := by
  have reads : Meets (storeContract libs) (Yields (fun _ => True) (Told libs (.stream name)))
      (transact (.stream name)) := meets_transact trivial
  have loads : Meets (storeContract libs) (Yields (fun _ => True) valid) (loadStoredBody codec name) := by
    apply meets_bind reads
    intro doc told
    obtain ⟨body, decoded, passed⟩ := stored.decodes doc told.1 told.2
    rw [decoded]
    exact meets_pure passed
  refine meets_catch (meets_bind loads ?_) (fun _ kept => kept) ?_
  · intro body passed
    refine meets_pure ?_
    rintro same ⟨⟩
    exact passed
  · intro err _
    split
    · refine meets_pure ?_
      rintro body ⟨⟩
    · trivial

theorem meets_receiveUnchanged {current : Option T} (known : ∀ body ∈ current, valid body) :
    Meets (storeContract libs)
    (Yields (fun _ => True) (fun received : ReceivedSegment T => ∀ body ∈ received.body, valid body))
    (receiveUnchanged libs.wire name segment current) := by
  refine meets_bind (meets_transact trivial) ?_
  intro doc _
  split
  · refine meets_bind (meets_transact trivial) ?_
    intro _ _
    exact meets_pure known
  · split
    · exact meets_pure known
    · split
      · exact meets_pure known
      · exact meets_pure known

theorem meets_receiveChanged (stored : StreamOf libs.wire codec name valid)
    (checks : ∀ body, validate (some body) = .ok () → valid body) {current : Option T}
    (known : ∀ body ∈ current, valid body) (body : T) (acceptedAtMS : Int) : Meets (storeContract libs)
    (Yields (fun _ => True) (fun received : ReceivedSegment T => ∀ body ∈ received.body, valid body))
    (receiveChanged codec validate name segment current body acceptedAtMS) := by
  unfold receiveChanged
  split
  · exact meets_pure known
  · rename_i passed
    split
    · exact meets_pure known
    · rename_i bytes encoded
      refine meets_catch (meets_bind (meets_transact ?_) ?_) (fun _ kept => kept) ?_
      · exact stored.encodes ⟨name, segment.version, segment.etag, bytes, acceptedAtMS⟩ body rfl
          (checks body passed) encoded
      · intro _ _
        refine meets_pure ?_
        rintro same ⟨⟩
        exact checks body passed
      · intro err _
        split
        · exact meets_pure known
        · trivial

theorem meets_receiveSegment (stored : StreamOf libs.wire codec name valid)
    (checks : ∀ body, validate (some body) = .ok () → valid body) (acceptedAtMS : Int) : Meets (storeContract libs)
    (Yields (fun _ => True) (fun received : ReceivedSegment T => ∀ body ∈ received.body, valid body))
    (receiveSegment libs.wire codec validate name segment acceptedAtMS) := by
  apply meets_bind (meets_optionalStoredBody stored)
  intro current known
  split
  · exact meets_pure known
  · split
    · exact meets_pure known
    · split
      · split
        · exact meets_pure known
        · exact meets_pure known
        · exact meets_receiveUnchanged known
      · split
        · exact meets_pure known
        · exact meets_receiveChanged stored checks known _ acceptedAtMS

theorem meets_receive (catalog : Corecatalog.Catalog) (nowMS : Stream → Int) (response : SyncResponse) :
    Meets (storeContract libs) (Yields (fun _ => True) (ValidDocuments libs.wire))
    (receive catalog libs.wire nowMS response) := by
  apply meets_bind (meets_receiveSegment (streamOf_config libs.wire) (fun _ => validateConfig_ok) _)
  intro config validConfig
  apply meets_bind (meets_receiveSegment (streamOf_roster libs.wire) (fun _ => validateRoster_ok) _)
  intro roster validRoster
  apply meets_bind (meets_receiveSegment (streamOf_directives libs.wire) (fun _ => validateDirectives_ok) _)
  intro directives validDirectives
  exact meets_pure ⟨validConfig, validRoster, validDirectives⟩

abbrev Anyhow (good : α → Prop) : Except ProcessFailure α → Prop := Yields (fun _ => True) good

theorem sound_orReturn {good : α → Prop} {call : Except Error α} (returns : ∀ a, call = .ok a → good a) :
    Meets (soundContract libs opens) (Anyhow good) (orReturn result call) := by
  cases call with
  | ok a => exact returns a rfl
  | error err => trivial

theorem sound_onStore {call : StoreCall} (allowed : SoundCall libs call) :
    Meets (soundContract libs opens) (Anyhow (fun _ => True)) (onStore result call) :=
  ⟨allowed, fun _ _ => sound_orReturn (fun _ _ => trivial)⟩

theorem sound_recordIssue (issue : LocalIssue) :
    Meets (soundContract libs opens) (Anyhow (fun _ => True)) (recordIssue result issue) := by
  refine ⟨trivial, ?_⟩
  intro answer _
  cases answer with
  | ok created => trivial
  | error err => trivial

theorem sound_wakeWhen (available : Bool) :
    Meets (soundContract libs opens) (Anyhow (fun _ => True)) (wakeWhen available) := by
  cases available with
  | false => exact meets_pure trivial
  | true => exact ⟨trivial, fun _ _ => trivial⟩

theorem sound_onTransactions {good : α → Prop} {program : Transactions α}
    (meets : Meets (storeContract libs) (Yields (fun _ => True) good) program) :
    Meets (soundContract libs opens) (Anyhow good) (onTransactions result program) := by
  refine meets_mapError (meets_lift meets (fun _ allowed => allowed) ?_) (fun _ _ => trivial)
  intro call answer told
  cases answer with
  | ok value => exact told
  | error err => trivial

theorem sound_acceptTasks (tasks : List Task) (nowMS : Int) :
    Meets (soundContract libs opens) (Anyhow (fun _ => True)) (acceptTasks p tasks nowMS) := by
  unfold acceptTasks
  split
  · exact meets_pure trivial
  · split
    · trivial
    · refine ⟨trivial, ?_⟩
      intro answer _
      cases answer with
      | ok accepted =>
        apply meets_bind (meets_loop (fun _ _ _ => sound_recordIssue _))
        intro noted _
        apply meets_bind (sound_wakeWhen _)
        intro _ _
        exact meets_pure trivial
      | error err =>
        change Meets _ _ (refuseTasks p err)
        unfold refuseTasks
        split
        · exact ⟨trivial, fun _ _ => trivial⟩
        · trivial

theorem sound_optionalStreamVersion (name : Stream) :
    Meets (soundContract libs opens) (Anyhow (fun _ => True)) (optionalStreamVersion result name) := by
  refine ⟨trivial, ?_⟩
  intro answer _
  cases answer with
  | ok document => trivial
  | error err =>
    change Yields _ _ (if err.isSentinel .notFound then .ok ⟨0, 0⟩ else .error ⟨err, result⟩ :
      Except ProcessFailure Version)
    split
    · trivial
    · trivial

theorem sound_openRound (wired : p.wire = libs.wire) (response : SyncResponse) (nowMS : Int) :
    Meets (soundContract libs opens)
    (Anyhow (fun opened : Intake × Bool => ValidDocuments libs.wire opened.1.received))
    (openRound p response nowMS result) := by
  unfold openRound
  rw [wired]
  apply meets_bind (sound_onTransactions (meets_optionalStoredBody (streamOf_config libs.wire)))
  intro oldConfig _
  apply meets_bind (sound_onTransactions (meets_optionalStoredBody (streamOf_roster libs.wire)))
  intro oldRoster _
  apply meets_bind (sound_onTransactions (meets_receive _ _ _))
  intro received valid
  apply meets_bind (meets_loop (fun _ _ _ => sound_recordIssue _))
  intro noted _
  apply meets_bind (sound_optionalStreamVersion _)
  intro configVersion _
  apply meets_bind (sound_optionalStreamVersion _)
  intro rosterVersion _
  exact meets_pure valid

theorem sound_materialiseClients {intake : Intake} {nowMS : Int}
    (valid : ValidDocuments libs.wire intake.received) :
    Meets (soundContract libs opens) (Anyhow (fun _ => True)) (materialiseClients intake nowMS result) := by
  unfold materialiseClients
  split
  · exact meets_pure trivial
  · rename_i roster received
    split
    · exact meets_pure trivial
    · apply meets_loop
      intro _ client member
      exact sound_onStore ((valid.roster roster received).client client member).row

theorem sound_grantQuotas (intake : Intake) (nowMS : Int) :
    Meets (soundContract libs opens) (Anyhow (fun _ => True)) (grantQuotas p intake nowMS result) := by
  unfold grantQuotas
  split
  · exact meets_pure trivial
  · unfold applyDirectives
    split
    · refine meets_bind (sound_onStore trivial) ?_
      intro rounds _
      split
      · exact sound_recordIssue _
      · exact meets_pure trivial
    · refine meets_bind (sound_onStore trivial) ?_
      intro _ _
      apply meets_loop
      intro noted quota _
      unfold applyQuotaEntry
      split
      · exact sound_recordIssue _
      · refine meets_bind (sound_onStore trivial) ?_
        intro _ _
        exact meets_pure trivial

theorem sound_runRound {intake : Intake} {nowMS : Int} (timed : 0 ≤ nowMS)
    (valid : ValidDocuments libs.wire intake.received) :
    Meets (soundContract libs True) (Anyhow (fun _ => True)) (runRound p intake nowMS result) := by
  have opens : Meets (soundContract libs True) (Anyhow (fun _ => True)) (newRound result) := by
    refine ⟨trivial, ?_⟩
    intro scope _
    cases scope with
    | unscoped | missing | shared => trivial
  rw [runRound_eq]
  apply meets_bind opens
  intro inRound _
  have round : Meets (roundContract libs (rosterDocument intake) False)
      (Yields (Tolerated p False) (fun _ => True)) (finishRound p intake nowMS inRound result) :=
    meets_finishRound (fun impossible => impossible.elim) timed valid inRound
  refine meets_sound_of_round (convergedClients_valid valid).1 (meets_mono round ?_)
  intro outcome _
  cases outcome with
  | ok value => trivial
  | error failure => trivial

theorem sound_process (wired : p.wire = libs.wire) (nowMS : Int) (response : SyncResponse) :
    Meets (soundContract libs True) (Anyhow (fun _ => True)) (process p nowMS response) := by
  have clock : Meets (soundContract libs True) (Anyhow (fun _ => 0 < nowMS)) (orReturn false (requireClock nowMS)) := by
    apply sound_orReturn
    intro _ passed
    exact Int.not_le.mp (rejectIf_eq_ok.mp passed)
  apply meets_bind clock
  intro _ timed
  apply meets_bind (sound_acceptTasks _ _)
  intro accepted _
  apply meets_bind (sound_wakeWhen _)
  intro _ _
  apply meets_bind (sound_openRound wired _ _)
  rintro ⟨intake, noted⟩ valid
  apply meets_bind (sound_materialiseClients valid)
  intro _ _
  apply meets_bind (sound_grantQuotas _ _)
  intro granted _
  exact sound_runRound timed.le valid

/-- The lives of an agent: its database, and what is left of the round that is running. -/
inductive AgentRun (libs : Libraries) : Store → Option (Round Bool) → Prop where
  | fresh : AgentRun libs Store.fresh none
  | respond {store : Store} (p : Processor) (nowMS : Int) (response : SyncResponse)
      (wired : p.wire = libs.wire) (before : AgentRun libs store none) :
      AgentRun libs store (some (process p nowMS response))
  | transact {store : Store} {call : StoreCall} {next : call.Answer → Round Bool}
      (before : AgentRun libs store (some (.call (.store call) next))) :
      AgentRun libs (serve libs store call).1 (some (next (serve libs store call).2))
  | answer {store : Store} {call : ProcessCall} {next : call.Answer → Round Bool}
      (outside : ∀ transaction, call ≠ .store transaction) (answer : call.Answer)
      (before : AgentRun libs store (some (.call call next))) : AgentRun libs store (some (next answer))
  | stop {store : Store} {running : Option (Round Bool)} (before : AgentRun libs store running) :
      AgentRun libs store none
  | count {store : Store} {running : Option (Round Bool)} (call : ClientCall) (counts : Counts call)
      (before : AgentRun libs store running) : AgentRun libs (perform libs.lib store call) running
  | elsewhere {store : Store} {running : Option (Round Bool)} (tasks : TaskTable) (outbox : Outbox)
      (before : AgentRun libs store running) :
      AgentRun libs { store with tasks := tasks, outbox := outbox } running

theorem counting_sound {libs : Libraries} {store next : Store} (sound : SoundStore libs store)
    (counting : Counting store next) : SoundStore libs next := by
  refine ⟨?_, ?_, ?_, ?_⟩
  · rw [counting.streams]
    exact sound.streams
  · intro key row found
    obtain ⟨before, present, -⟩ := counting.clients.origin found
    exact sound.clients key before present
  · intro key row found
    obtain ⟨old, present⟩ := counting.listeners key row found
    exact sound.listeners key old present
  · rw [counting.objects]
    exact sound.objects

theorem promised_of_outside {libs : Libraries} {call : ProcessCall}
    (outside : ∀ transaction, call ≠ .store transaction) (answer : call.Answer) :
    Promised libs False call answer := by
  cases call with
  | store transaction => exact absurd rfl (outside transaction)
  | record issue => exact fun impossible => impossible.elim
  | newRound => exact fun impossible => impossible.elim
  | _ => trivial

theorem agentRun_sound {libs : Libraries} {store : Store} {running : Option (Round Bool)}
    (lived : AgentRun libs store running) : SoundStore libs store ∧ ∀ program, running = some program →
    Meets (soundContract libs True) (Anyhow (fun _ => True)) program := by
  induction lived with
  | fresh => exact ⟨sound_fresh libs, fun _ impossible => by cases impossible⟩
  | respond p nowMS response wired _ ih =>
    refine ⟨ih.1, ?_⟩
    rintro program ⟨⟩
    exact sound_process wired nowMS response
  | transact _ ih =>
    obtain ⟨sound, meets⟩ := ih
    obtain ⟨allowed, later⟩ := meets _ rfl
    refine ⟨serve_sound sound allowed, ?_⟩
    rintro program ⟨⟩
    exact later _ (serve_promised sound (fun _ _ impossible => impossible.elim))
  | answer outside answer _ ih =>
    obtain ⟨sound, meets⟩ := ih
    obtain ⟨-, later⟩ := meets _ rfl
    refine ⟨sound, ?_⟩
    rintro program ⟨⟩
    exact later answer (promised_of_outside outside answer)
  | stop _ ih => exact ⟨ih.1, fun _ impossible => by cases impossible⟩
  | count call counts _ ih => exact ⟨counting_sound ih.1 (perform_counting counts), ih.2⟩
  | elsewhere tasks outbox _ ih => exact ⟨⟨ih.1.streams, ih.1.clients, ih.1.listeners, ih.1.objects⟩, ih.2⟩

end Receive

end PasswallNode.Agent
