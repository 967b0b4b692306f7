import PasswallNode.Agent.RoundWorld

/-! The part of a round behind the grants, one contract lemma for each function. -/

namespace PasswallNode.Agent

open Foundation Protocol State Sqlite

def TrackedObject.id : TrackedObject → Stream × String
  | .unknown name key => (name, key)
  | .known status => (status.stream, status.key)

def TrackedObject.since : TrackedObject → Version
  | .unknown _ _ => ⟨1, 1⟩
  | .known status => status.sinceVersion

def TrackedObject.Formed (libs : Libraries) : TrackedObject → Prop
  | .unknown _ _ => True
  | .known status => WellFormed libs status

/-- Where an example takes an object: to the state that the transition names. -/
def TrackedObject.advance (object : TrackedObject) : Transition → ObjectStatus
  | .accepted version atMS =>
    match object with
    | .unknown name key => ⟨name, key, .pending, version, atMS, "", ""⟩
    | .known status =>
      if status.sinceVersion = version then status
      else ⟨status.stream, status.key, .pending, version, atMS, "", ""⟩
  | .applied => ⟨object.id.1, object.id.2, .applied, object.since, 0, "", ""⟩
  | .rejected atMS code => ⟨object.id.1, object.id.2, .rejected, object.since, atMS, code, ""⟩
  | .dependencyBlocked atMS listener => ⟨object.id.1, object.id.2, .blocked, object.since, atMS, "", listener⟩
  | .dependencyReady => ⟨object.id.1, object.id.2, .pending, object.since, 1, "", ""⟩
  | .retryableFailure atMS => ⟨object.id.1, object.id.2, .pending, object.since, atMS, "", ""⟩

def Conformance.plain : Conformance where
  advanceObject := fun object transition => .ok (object.advance transition)
  evaluateAttachment := fun input => .ok ⟨if input.listenerKnown then .ready else .unknownListener, none⟩
  timeoutIssue := fun _ _ _ => .ok none
  issueTaskIdentityConflict := "task_identity_conflict"
  issueTaskReplayFenced := "task_replay_fenced"
  issueAttachmentUnknownListener := "attachment_unknown_listener"
  issueDirectivesAheadOfRoster := "directives_ahead_of_roster"
  issueDirectiveUnknownClient := "directive_unknown_client"

/-- An object that is advanced stays the same object, and a status the store takes. -/
structure Conformance.Lawful (libs : Libraries) (conformance : Conformance) : Prop where
  same : ∀ object transition status, conformance.advanceObject object transition = .ok status →
    (status.stream, status.key) = object.id
  formed : ∀ object transition status, object.Formed libs →
    conformance.advanceObject object transition = .ok status → WellFormed libs status

/-- An error that the conformance package gave, in any context. -/
inductive Conformance.Refuses (conformance : Conformance) : Error → Prop where
  | advance {object : TrackedObject} {transition : Transition} {err : Error}
      (refused : conformance.advanceObject object transition = .error err) : Refuses conformance err
  | attachment {input : AttachmentInput} {err : Error}
      (refused : conformance.evaluateAttachment input = .error err) : Refuses conformance err
  | timeout {status : ObjectStatus} {nowMS timeoutMS : Int} {err : Error}
      (refused : conformance.timeoutIssue status nowMS timeoutMS = .error err) : Refuses conformance err
  | within {err : Error} (context : String) (refused : Refuses conformance err) :
      Refuses conformance (err.within context)

def Tolerated (p : Processor) (faultless : Prop) (failure : ProcessFailure) : Prop :=
  faultless → SkewExhausted failure.err ∨ p.conformance.Refuses failure.err

abbrev Tolerates (libs : Libraries) (roster : Option RosterBody) (faultless : Prop) (p : Processor) {α : Type}
    (good : α → Prop) : Proc ProcessCall ProcessCall.Answer ProcessFailure α → Prop :=
  Meets (roundContract libs roster faultless) (Yields (Tolerated p faultless) good)

abbrev Endures (libs : Libraries) (roster : Option RosterBody) (faultless : Prop) (p : Processor) {α : Type} :
    Proc ProcessCall ProcessCall.Answer ProcessFailure α → Prop := Tolerates libs roster faultless p (fun _ => True)

def Tracks (libs : Libraries) (faultless : Prop) (name : Stream) (key : String)
    (status : ObjectStatus) : Prop :=
  faultless → status.stream = name ∧ status.key = key ∧ WellFormed libs status

variable {libs : Libraries} {roster : Option RosterBody} {faultless : Prop} {p : Processor}
  {result : Bool} {α : Type}

section Steps

theorem meets_orReturn {good : α → Prop} {call : Except Error α} (returns : ∀ a, call = .ok a → good a)
    (refuses : ∀ err, call = .error err → faultless → p.conformance.Refuses err) :
    Tolerates libs roster faultless p good (orReturn result call) := by
  cases call with
  | ok a => exact returns a rfl
  | error err => exact fun fine => Or.inr (refuses err rfl fine)

theorem meets_onStore {call : StoreCall} (allowed : RoundCall libs roster faultless call)
    (excuses : ∀ err, Excused call err → SkewExhausted err) : Tolerates libs roster faultless p (Told libs call)
    (onStore result call) := by
  refine ⟨allowed, ?_⟩
  intro answer told
  cases answer with
  | ok value => exact told
  | error err => exact fun fine => Or.inl (excuses err (told fine))

theorem meets_onRuntime (op : RuntimeOp) :
    Endures libs roster faultless p
    (onRuntime op) :=
  ⟨trivial, fun _ _ => trivial⟩

theorem meets_recordIssue (issue : LocalIssue) : Endures libs roster faultless p (recordIssue result issue) := by
  refine ⟨trivial, ?_⟩
  intro answer told
  cases answer with
  | ok created => trivial
  | error err =>
    intro fine
    obtain ⟨created, impossible⟩ := told fine
    cases impossible

theorem meets_noteIssue (issue : Option LocalIssue) : Endures libs roster faultless p (noteIssue result issue) := by
  cases issue with
  | none => exact meets_pure trivial
  | some issue => exact meets_recordIssue issue

theorem meets_optionalObject (name : Stream) (key : String) :
    Tolerates libs roster faultless p (fun current => ∀ status ∈ current, Tracks libs faultless name key status)
    (optionalObject result name key) := by
  refine ⟨trivial, ?_⟩
  intro answer told
  cases answer with
  | ok status =>
    rintro status ⟨⟩ -
    exact told
  | error err =>
    change Yields _ _ (if err.isSentinel .notFound then .ok none else .error ⟨err, result⟩ :
      Except ProcessFailure (Option ObjectStatus))
    split
    · rintro status ⟨⟩
    · rename_i present
      intro fine
      exact absurd (told fine) present

end Steps

section Objects

variable (lawful : faultless → p.conformance.Lawful libs) {status : ObjectStatus} {name : Stream} {key : String}
  {nowMS : Int} {transition : Transition} {next : ObjectStatus} {answer : Except RuntimeError Unit}

include lawful

theorem advance_tracks {object : TrackedObject} (formed : faultless → object.Formed libs)
    (advanced : p.conformance.advanceObject object transition = .ok status) :
    Tracks libs faultless object.id.1 object.id.2 status := by
  intro fine
  have named := (lawful fine).same object transition status advanced
  exact ⟨congrArg Prod.fst named, congrArg Prod.snd named,
    (lawful fine).formed object transition status (formed fine) advanced⟩

theorem advance_known (tracked : Tracks libs faultless name key status)
    (advanced : p.conformance.advanceObject (.known status) transition = .ok next) :
    Tracks libs faultless name key next := by
  intro fine
  obtain ⟨stream, named, formed⟩ := tracked fine
  subst stream named
  have kept : faultless → (TrackedObject.known status).Formed libs := fun _ => formed
  exact advance_tracks lawful kept advanced fine

theorem meets_acceptObject {current : Option ObjectStatus} {version : Version}
    (known : ∀ status ∈ current, Tracks libs faultless name key status) :
    Tolerates libs roster faultless p (Tracks libs faultless name key)
    (orReturn result (acceptObject p current name key version nowMS)) := by
  apply meets_orReturn
  · intro status accepted
    cases current with
    | none =>
      have new : faultless → (TrackedObject.unknown name key).Formed libs := fun _ => trivial
      exact advance_tracks lawful new accepted
    | some before => exact advance_known lawful (known before rfl) accepted
  · intro err refused _
    exact .advance refused

theorem applyRuntimeResult_tracks (tracked : Tracks libs faultless name key status)
    (applied : applyRuntimeResult p status answer nowMS = .ok next) : Tracks libs faultless name key next := by
  unfold applyRuntimeResult at applied
  split at applied
  · exact advance_known lawful tracked applied
  · split at applied
    · exact advance_known lawful tracked applied
    · exact advance_known lawful tracked applied

omit lawful in
theorem applyRuntimeResult_refuses {err : Error} (refused : applyRuntimeResult p status answer nowMS = .error err) :
    p.conformance.Refuses err := by
  unfold applyRuntimeResult at refused
  split at refused
  · exact .advance refused
  · split at refused
    · exact .advance refused
    · exact .advance refused

omit lawful in
theorem meets_saveObject (tracked : Tracks libs faultless name key status)
    (keyed : validateObjectKey libs.wire name key = .ok ()) (timed : 0 ≤ nowMS) :
    Endures libs roster faultless p (onStore result (.saveObject status nowMS)) := by
  apply meets_onStore
  · intro fine
    obtain ⟨rfl, rfl, formed⟩ := tracked fine
    exact valid_of_wellFormed keyed formed timed
  · intro err impossible
    exact impossible.elim

end Objects

theorem listenerKeyed {key : String} (row : ∃ id, libs.wire.listenerRowID key = .ok id) :
    validateObjectKey libs.wire .config key = .ok () := by
  obtain ⟨id, read⟩ := row
  simp [validateObjectKey, read]

theorem clientKeyed {key : String} (row : ∃ id, libs.wire.clientRowID key = .ok id) :
    validateObjectKey libs.wire .roster key = .ok () := by
  obtain ⟨id, read⟩ := row
  simp [validateObjectKey, read]

section Listeners

variable (lawful : faultless → p.conformance.Lawful libs) {old : Option ConfigBody} {version : Version} {nowMS : Int}
  {listener : Listener} {body : ConfigBody}

include lawful

theorem meets_convergeListener {current : Option ObjectStatus} {status : ObjectStatus}
    (known : ∀ status ∈ current, Tracks libs faultless .config listener.key status)
    (tracked : Tracks libs faultless .config listener.key status) :
    Tolerates libs roster faultless p (Tracks libs faultless .config listener.key)
    (convergeListener p result old listener version nowMS current status) := by
  unfold convergeListener
  split
  · apply meets_orReturn
    · intro next converged
      exact advance_known lawful tracked (withError_eq_ok.mp converged)
    · intro err refused _
      obtain ⟨inner, failed, rfl⟩ := withError_eq_error.mp refused
      exact .within _ (.advance failed)
  · split
    · rename_i rejected kept
      exact meets_pure (known rejected (Option.eq_some_of_filter_eq_some kept))
    · apply meets_bind (meets_onRuntime _)
      intro answer _
      apply meets_orReturn
      · intro next converged
        exact applyRuntimeResult_tracks lawful tracked (withError_eq_ok.mp converged)
      · intro err refused _
        obtain ⟨inner, failed, rfl⟩ := withError_eq_error.mp refused
        exact .within _ (applyRuntimeResult_refuses failed)

theorem meets_upsertListener (timed : 0 ≤ nowMS) (named : listener.key ≠ "")
    (row : ∃ id, libs.wire.listenerRowID listener.key = .ok id) : Endures libs roster faultless p
    (upsertListener p result old version nowMS listener) := by
  refine meets_bind (meets_onStore ?_ ?_) ?_
  · exact ⟨timed, named, row⟩
  · exact fun _ impossible => impossible.elim
  intro _ _
  apply meets_bind (meets_optionalObject .config listener.key)
  intro current known
  apply meets_bind (meets_acceptObject lawful known)
  intro status tracked
  apply meets_bind (meets_convergeListener lawful known tracked)
  intro next converged
  exact meets_saveObject converged (listenerKeyed row) timed

theorem meets_upsertListeners (timed : 0 ≤ nowMS) (valid : ValidConfig libs.wire body) :
    Endures libs roster faultless p (upsertListeners p result old body version nowMS) := by
  apply meets_loop
  intro _ listener member
  obtain ⟨named, -, row⟩ := valid.listener listener member
  exact meets_upsertListener lawful timed named row

theorem meets_removeObject {name : Stream} {key : String} {remove : RuntimeOp} {delete : StoreCall}
    (timed : 0 ≤ nowMS) (keyed : validateObjectKey libs.wire name key = .ok ())
    (allowed : RoundCall libs roster faultless delete) (succeeds : ∀ err, ¬ Excused delete err) :
    Endures libs roster faultless p (removeObject p result name key version nowMS remove delete) := by
  apply meets_bind (meets_optionalObject name key)
  intro current known
  apply meets_bind (meets_acceptObject lawful known)
  intro status tracked
  apply meets_bind (meets_onRuntime remove)
  intro answer _
  have applies : Tolerates libs roster faultless p (Tracks libs faultless name key)
      (orReturn result (applyRuntimeResult p status answer nowMS)) :=
    meets_orReturn (fun next applied => applyRuntimeResult_tracks lawful tracked applied)
      (fun err refused _ => applyRuntimeResult_refuses refused)
  apply meets_bind applies
  intro next converged
  split
  · apply meets_bind (meets_onStore allowed (fun err excused => absurd excused (succeeds err)))
    intro _ _
    exact meets_pure trivial
  · apply meets_bind (meets_saveObject converged keyed timed)
    intro _ _
    exact meets_pure trivial

omit lawful in
theorem meets_pruneOrphanObjectStates (name : Stream) (desired kept : List String) :
    Endures libs roster faultless p (pruneOrphanObjectStates result name desired kept) := by
  refine meets_bind (meets_onStore trivial fun _ impossible => impossible.elim) fun objects named => ?_
  apply meets_loop
  intro _ status member
  split
  · exact meets_pure trivial
  · exact meets_onStore (named status member) (fun _ impossible => impossible.elim)

theorem meets_removeListeners (timed : 0 ≤ nowMS) : Endures libs roster faultless p
    (removeListeners p result body version nowMS) := by
  refine meets_bind (meets_onStore trivial fun _ impossible => impossible.elim) fun rows keyed => ?_
  refine meets_bind (meets_loop ?_) ?_
  · intro kept row member
    split
    · exact meets_pure trivial
    · refine meets_bind (meets_removeObject lawful timed (listenerKeyed (keyed row member)) ?_ ?_) ?_
      · exact key_ne_empty (listenerKeyed (keyed row member))
      · exact fun _ impossible => impossible
      · exact fun _ _ => meets_pure trivial
  · intro kept _
    exact meets_pruneOrphanObjectStates _ _ _

end Listeners

section Roster

theorem referenceKey_not_blank (client listener : String) : isBlank (client ++ "/" ++ listener) = false := by
  simp only [isBlank, String.toList_append, List.all_append, Bool.and_eq_false_iff]
  exact Or.inl (Or.inr (by decide))

theorem meets_observeSkew {ahead : Bool} {client listener : String} {version : Version}
    (present : version.zero = false) : Endures libs roster faultless p
    (observeSkew result ahead (client ++ "/" ++ listener) version) := by
  have kinded : isBlank skewRosterConfig = false := by decide
  have keyed := referenceKey_not_blank client listener
  unfold observeSkew
  split
  · exact meets_onStore ⟨kinded, keyed, present⟩ (fun _ exhausted => exhausted)
  · refine meets_bind (meets_onStore ?_ ?_) ?_
    · exact ⟨kinded, keyed⟩
    · exact fun _ impossible => impossible.elim
    · exact fun _ _ => meets_pure trivial

variable {intake : Intake} {body : RosterBody} {states : List (String × ObjectState)} {client : Client}
  {status : ObjectStatus} {nowMS : Int}

theorem meets_evaluateAttachment {state : Attachments × Bool} {key : String}
    (present : intake.rosterVersion.zero = false) : Endures libs roster faultless p
    (evaluateAttachment p intake body states client state key) := by
  apply meets_bind (meets_observeSkew present)
  intro rounds _
  refine meets_bind (meets_orReturn (fun _ _ => trivial) ?_) ?_
  · exact fun err refused _ => .attachment refused
  intro decision _
  apply meets_bind (meets_noteIssue _)
  intro result _
  exact meets_pure trivial

variable (lawful : faultless → p.conformance.Lawful libs) {attachments : Attachments}
  {answer : Except RuntimeError Unit}

include lawful

theorem clientStatus_tracks {name : Stream} {key : String} {next : ObjectStatus}
    (tracked : Tracks libs faultless name key status)
    (converged : clientStatus p status attachments answer nowMS = .ok next) :
    Tracks libs faultless name key next := by
  unfold clientStatus appliedClient at converged
  simp only at converged
  split at converged
  case h_5 =>
    split at converged
    · exact advance_known lawful tracked converged
    · split at converged
      · obtain ⟨ready, first, second⟩ := bind_eq_ok.mp converged
        exact advance_known lawful (advance_known lawful tracked first) second
      · exact advance_known lawful tracked converged
  all_goals exact advance_known lawful tracked converged

omit lawful in
theorem clientStatus_refuses {err : Error} (refused : clientStatus p status attachments answer nowMS = .error err) :
    p.conformance.Refuses err := by
  unfold clientStatus appliedClient at refused
  simp only at refused
  split at refused
  case h_5 =>
    split at refused
    · exact .advance refused
    · split at refused
      · rcases bind_eq_error.mp refused with first | ⟨ready, _, second⟩
        · exact .advance first
        · exact .advance second
      · exact .advance refused
  all_goals exact .advance refused

theorem meets_convergeClient (timed : 0 ≤ nowMS) (present : intake.rosterVersion.zero = false)
    (row : ∃ id, libs.wire.clientRowID client.key = .ok id)
    (tracked : Tracks libs faultless .roster client.key status) : Endures libs roster faultless p
    (convergeClient p intake body states client nowMS status result) := by
  refine meets_bind (meets_loop ?_) ?_
  · exact fun state key _ => meets_evaluateAttachment present
  rintro ⟨attachments, noted⟩ _
  have upserts : Endures libs roster faultless p
      (upsertClient intake client status attachments) := by
    unfold upsertClient
    split
    · exact meets_pure trivial
    · exact meets_onRuntime _
  apply meets_bind upserts
  intro answer _
  have settles : Tolerates libs roster faultless p (Tracks libs faultless .roster client.key)
      (orReturn noted (converging "client" client.key (clientStatus p status attachments answer nowMS))) := by
    apply meets_orReturn
    · intro next converged
      exact clientStatus_tracks lawful tracked (withError_eq_ok.mp converged)
    · intro err refused _
      obtain ⟨inner, failed, rfl⟩ := withError_eq_error.mp refused
      exact .within _ (clientStatus_refuses failed)
  apply meets_bind settles
  intro next converged
  apply meets_bind (meets_saveObject converged (clientKeyed row) timed)
  intro _ _
  exact meets_pure trivial

theorem meets_applyClient (timed : 0 ≤ nowMS) (present : intake.rosterVersion.zero = false) (listed : body ∈ roster)
    (member : client ∈ body.clients) (row : ∃ id, libs.wire.clientRowID client.key = .ok id) :
    Endures libs roster faultless p (applyClient p intake body states nowMS result client) := by
  refine meets_bind (meets_onStore ?_ ?_) ?_
  · exact ⟨timed, body, listed, client, member, rfl⟩
  · exact fun _ impossible => impossible.elim
  intro _ _
  apply meets_bind (meets_optionalObject .roster client.key)
  intro current known
  apply meets_bind (meets_acceptObject lawful known)
  intro status tracked
  split
  · apply meets_bind (meets_saveObject tracked (clientKeyed row) timed)
    intro _ _
    exact meets_pure trivial
  · exact meets_convergeClient lawful timed present row tracked

omit lawful in
theorem meets_listenerStates (intake : Intake) : Endures libs roster faultless p
    (listenerStates intake result) := by
  apply meets_loop
  intro states listener _
  apply meets_bind (meets_optionalObject .config listener.key)
  intro status _
  exact meets_pure trivial

theorem meets_removeClients (timed : 0 ≤ nowMS) (listed : body ∈ roster) :
    Endures libs roster faultless p (removeClients p intake body nowMS result) := by
  refine meets_bind (meets_onStore trivial fun _ impossible => impossible.elim) fun rows keyed => ?_
  refine meets_bind (meets_loop ?_) ?_
  · intro kept row member
    split
    · exact meets_pure trivial
    · rename_i gone
      refine meets_bind (meets_removeObject lawful timed (clientKeyed (keyed row member)) ?_ ?_) ?_
      · exact ⟨key_ne_empty (clientKeyed (keyed row member)), body, listed, gone⟩
      · exact fun _ impossible => impossible
      · exact fun _ _ => meets_pure trivial
  · intro kept _
    exact meets_pruneOrphanObjectStates _ _ _

theorem meets_applyRoster (timed : 0 ≤ nowMS) (present : intake.rosterVersion.zero = false) (listed : body ∈ roster)
    (valid : ∀ client ∈ body.clients, ValidClient libs.wire client) :
    Endures libs roster faultless p (applyRoster p intake body nowMS result) := by
  apply meets_bind (meets_listenerStates intake)
  intro states _
  refine meets_bind (meets_loop ?_) ?_
  · intro noted client member
    exact meets_applyClient lawful timed present listed member (valid client member).row
  intro noted _
  apply meets_bind (meets_removeClients lawful timed listed)
  intro _ _
  exact meets_pure trivial

end Roster

section Round

structure ValidDocuments (wire : Wire) (received : ReceivedDocuments) : Prop where
  config : ∀ body ∈ received.config, ValidConfig wire body
  roster : ∀ body ∈ received.roster, ValidRoster wire body
  directives : ∀ body ∈ received.directives, ValidDirectives wire body

def convergedClients (intake : Intake) : List Client := rosterClients (rosterDocument intake)

theorem rosterDocument_eq_some {intake : Intake} {body : RosterBody}
    (document : rosterDocument intake = some body) :
    intake.rosterVersion.zero = false ∧ intake.received.roster = some body := by
  unfold rosterDocument at document
  split at document
  · cases document
  · rename_i present
    exact ⟨by simpa using present, document⟩

theorem configDocument_eq_some {intake : Intake} {body : ConfigBody}
    (document : configDocument intake = some body) :
    intake.configVersion.zero = false ∧ intake.received.config = some body := by
  unfold configDocument at document
  split at document
  · cases document
  · rename_i present
    exact ⟨by simpa using present, document⟩

theorem convergedClients_valid {wire : Wire} {intake : Intake} (valid : ValidDocuments wire intake.received) :
    (∀ client ∈ convergedClients intake, ValidClient wire client) ∧
    ((convergedClients intake).map Client.key).Nodup := by
  unfold convergedClients
  cases document : rosterDocument intake with
  | none => exact ⟨fun _ member => absurd member List.not_mem_nil, List.nodup_nil⟩
  | some body =>
    have passed := valid.roster body (rosterDocument_eq_some document).2
    exact ⟨passed.client, passed.distinct⟩

theorem meets_finalizeRound (intake : Intake) (inRound : Bool) : Endures libs roster faultless p
    (finalizeRound p intake inRound result) := by
  unfold finalizeRound
  split
  · exact meets_pure trivial
  · refine ⟨trivial, ?_⟩
    intro answer _
    cases answer with
    | ok _ => exact meets_pure trivial
    | error err => exact meets_recordIssue _

theorem meets_recordObjectTimeouts (nowMS : Int) : Endures libs roster faultless p
    (recordObjectTimeouts p nowMS result) := by
  have lists : Endures libs roster faultless p
      (.call (.store .objects) (fun answer => orReturn result
        (withError (.within "list objects for timeout escalation") answer))) := by
    refine ⟨trivial, ?_⟩
    intro answer told
    cases answer with
    | ok objects => trivial
    | error err => exact fun fine => (told fine).elim
  apply meets_bind lists
  intro objects _
  apply meets_loop
  intro noted status _
  refine meets_bind (meets_orReturn (fun _ _ => trivial) ?_) ?_
  · exact fun err refused _ => .timeout refused
  · exact fun issue _ => meets_noteIssue _

def finishRound (p : Processor) (intake : Intake) (nowMS : Int) (inRound result : Bool) : Round Bool := do
  let result ← convergeDocuments p intake nowMS result
  let result ← finalizeRound p intake inRound result
  recordObjectTimeouts p nowMS result

theorem runRound_eq (intake : Intake) (nowMS : Int) :
    runRound p intake nowMS result = (do
    let inRound ← newRound result
    finishRound p intake nowMS inRound result) := rfl

section Documents

variable (lawful : faultless → p.conformance.Lawful libs) {intake : Intake} {nowMS : Int}
  (timed : 0 ≤ nowMS) (valid : ValidDocuments libs.wire intake.received)

include lawful timed

theorem meets_upsertConfig (valid : ValidDocuments libs.wire intake.received) :
    Endures libs roster faultless p (upsertConfig p intake nowMS result) := by
  unfold upsertConfig
  split
  · exact meets_pure trivial
  · rename_i config document
    exact meets_upsertListeners lawful timed (valid.config config (configDocument_eq_some document).2)

theorem meets_removeConfig : Endures libs roster faultless p (removeConfig p intake nowMS result) := by
  unfold removeConfig
  split
  · exact meets_pure trivial
  · exact meets_removeListeners lawful timed

include valid

theorem meets_convergeRoster :
    Endures libs (rosterDocument intake) faultless p (convergeRoster p intake nowMS result) := by
  unfold convergeRoster
  split
  · exact meets_pure trivial
  · rename_i body document
    obtain ⟨present, received⟩ := rosterDocument_eq_some document
    exact meets_applyRoster lawful timed present document (valid.roster body received).client

theorem meets_convergeDocuments :
    Endures libs (rosterDocument intake) faultless p (convergeDocuments p intake nowMS result) := by
  apply meets_bind (meets_upsertConfig lawful timed valid)
  intro _ _
  apply meets_bind (meets_convergeRoster lawful timed valid)
  intro noted _
  apply meets_bind (meets_removeConfig lawful timed)
  intro _ _
  exact meets_pure trivial

theorem meets_finishRound (inRound : Bool) :
    Endures libs (rosterDocument intake) faultless p (finishRound p intake nowMS inRound result) := by
  apply meets_bind (meets_convergeDocuments lawful timed valid)
  intro noted _
  apply meets_bind (meets_finalizeRound intake inRound)
  intro noted _
  exact meets_recordObjectTimeouts nowMS

end Documents

end Round

end PasswallNode.Agent
