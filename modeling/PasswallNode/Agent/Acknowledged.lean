import PasswallNode.Agent.Report
import PasswallNode.Agent.Sync

/-! Only delivered evidence is acknowledged. -/

namespace PasswallNode.Agent

open Foundation Protocol State Sqlite

structure SyncEvent where
  store : Store
  event : Event SyncCall SyncCall.Answer

structure SyncMoment where
  store : Store
  events : List SyncEvent

section World

variable (libs : Libraries)

/-- The database answers its calls, or fails them and stays as it is; whoever else is called
may do anything. -/
def Answered (store : Store) : (call : SyncCall) → call.Answer → Store → Prop
  | .store call, answer, next =>
    serve libs store call = (next, answer) ∨ (next = store ∧ ∃ err, answer = .error err)
  | .applyScheduledQuotas nowMS, answer, next =>
    (answer = .ok () ∧ ∃ count, applyScheduledQuotas store nowMS = .ok (next, count)) ∨
      (next = store ∧ ∃ err, answer = .error err)
  | .pendingOutbox limit, answer, next =>
    next = store ∧ (answer = pendingOutbox libs.pkg store limit ∨ ∃ err, answer = .error err)
  | .ackOutbox ids, answer, next =>
    (answer = .ok () ∧ ackOutbox store ids = .ok (next, ())) ∨ (next = store ∧ ∃ err, answer = .error err)
  | _, _, _ => True

/-- A round among the other parts of the agent, which may change the database at any time. -/
def syncing : Environment SyncMoment SyncCall SyncCall.Answer where
  answers now call answer later :=
    later.events = now.events ++ [⟨now.store, ⟨call, answer⟩⟩] ∧ Answered libs now.store call answer later.store
  moves now later := later.events = now.events

end World

def Unacked (events : List SyncEvent) : Prop :=
  ∀ entry ∈ events, ∀ ids answer, entry.event ≠ ⟨.ackOutbox ids, answer⟩

def Acked (events : List SyncEvent) : Prop :=
  ∃ entry ∈ events, ∃ ids, entry.event = ⟨.ackOutbox ids, .ok ()⟩

/-- One entry of `have` is what the database answered about its stream. -/
def AsRead (events : List SyncEvent) (entry : Stream × StreamState) : Prop :=
  (∃ read ∈ events, ∃ doc, read.event = ⟨.store (.stream entry.1), .ok doc⟩ ∧ entry.2 = ⟨doc.version, doc.etag⟩) ∨
    ∃ read ∈ events, ∃ err, read.event = ⟨.store (.stream entry.1), .error err⟩ ∧
      err.isSentinel .notFound = true ∧ entry.2 = ⟨⟨0, 0⟩, ""⟩

structure HeldAsRead (events : List SyncEvent) (names : List Stream) (held : List (Stream × StreamState)) : Prop where
  names : held.map Prod.fst = names
  read : ∀ entry ∈ held, AsRead events entry

/-- What a report that was built says of the database and of the report assembled from it. -/
structure Evidenced (pkg : Package) (lib : SyncLibrary) (b : ReportBuilder) (isPartial : Bool)
    (host : Option HostObservation) (events : List SyncEvent) (built : BuiltReport) : Prop where
  /-- Every number is that of a row that waited when the outbox was read, and what the row holds
  is in the report. -/
  waiting : ∃ entry ∈ events, ∃ batch, entry.event = ⟨.pendingOutbox b.limit, .ok batch⟩ ∧
    built.outboxIDs = batch.ids ∧ ∀ id ∈ built.outboxIDs, ∃ row ∈ undelivered entry.store,
      row.id = id ∧ Carries pkg built.report row
  once : (built.report.issues.map Issue.identity).Nodup
  fitted : ∃ assembled : NodeReport, assembled.host = host ∧ assembled.isPartial = isPartial ∧
    fitReportToWire lib.marshal assembled (!built.outboxIDs.isEmpty) (b.bodyLimit lib) =
      .ok (built.report, built.hostDropped) ∧
    Fitted lib.marshal (b.bodyLimit lib) assembled built.report built.hostDropped
  held : HeldAsRead events [.config, .roster, .directives] built.report.held

def Validated (lib : SyncLibrary) (events : List SyncEvent) (report : NodeReport) : Prop :=
  ∃ entry ∈ events, ∃ reply, entry.event = ⟨.sync report, .ok reply⟩ ∧ lib.validateSyncResponse reply = .ok ()

def Acknowledges (pkg : Package) (lib : SyncLibrary) (b : ReportBuilder) (isPartial : Bool)
    (events : List SyncEvent) (ids : List Int) : Prop :=
  Unacked events ∧ ∃ host built, Evidenced pkg lib b isPartial host events built ∧
    Validated lib events built.report ∧ ids = built.outboxIDs

section Proof

variable {libs : Libraries} {lib : SyncLibrary} {call : SyncCall} {pkg : Package} {b : ReportBuilder} {isPartial : Bool}
  {events : List SyncEvent}

def Unacking : SyncCall → Prop
  | .ackOutbox _ => False
  | _ => True

def Reads : SyncCall → Prop
  | .store (.stream _) | .store .objects | .store .clients | .store .listeners => True
  | .pendingOutbox _ | .coreStatus | .capabilitySource => True
  | _ => False

def only (calls : SyncCall → Prop) : Contract SyncCall SyncCall.Answer := ⟨calls, fun _ _ => True⟩

theorem unacking_of_reads (reads : Reads call) : Unacking call := by
  cases call with
  | ackOutbox ids => exact reads
  | _ => trivial

def Allowed (pkg : Package) (lib : SyncLibrary) (b : ReportBuilder) (isPartial : Bool) (now : SyncMoment) :
    SyncCall → Prop
  | .ackOutbox ids => Acknowledges pkg lib b isPartial now.events ids
  | _ => True

theorem allowed_of_quiet {now : SyncMoment} (calm : Unacking call) : Allowed pkg lib b isPartial now call := by
  cases call with
  | ackOutbox ids => exact absurd calm id
  | _ => trivial

theorem stable_events (fact : List SyncEvent → Prop) : Stable (syncing libs) (fun now => fact now.events) := by
  intro now later moved held
  rw [show later.events = now.events from moved]
  exact held

theorem unacked_concat {entry : SyncEvent} (before : Unacked events) (calm : Unacking entry.event.op) :
    Unacked (events ++ [entry]) := by
  intro other member ids answer same
  rcases List.mem_append.mp member with earlier | last
  · exact before other earlier ids answer same
  · rw [List.mem_singleton.mp last] at same
    rw [same] at calm
    exact calm

theorem not_acked_of_unacked (before : Unacked events) : ¬Acked events := by
  rintro ⟨entry, member, ids, same⟩
  exact before entry member ids _ same

def Kept (fact : List SyncEvent → Prop) : Prop :=
  ∀ events entry, Unacking entry.event.op → fact events → fact (events ++ [entry])

theorem kept_unacked : Kept Unacked := fun _ _ calm before => unacked_concat before calm

theorem kept_exists {p : SyncEvent → Prop} : Kept (fun events => ∃ entry ∈ events, p entry) := by
  rintro events entry _ ⟨other, member, holds⟩
  exact ⟨other, List.mem_append_left _ member, holds⟩

theorem Kept.and {first second : List SyncEvent → Prop} (one : Kept first) (other : Kept second) :
    Kept (fun events => first events ∧ second events) :=
  fun events entry calm held => ⟨one events entry calm held.1, other events entry calm held.2⟩

theorem kept_not_acked : Kept (fun events => ¬Acked events) := by
  rintro events entry calm before ⟨other, member, ids, same⟩
  rcases List.mem_append.mp member with earlier | last
  · exact before ⟨other, earlier, ids, same⟩
  · rw [← List.mem_singleton.mp last, same] at calm
    exact calm

theorem kept_heldAsRead {names : List Stream} {held : List (Stream × StreamState)} :
    Kept (fun events => HeldAsRead events names held) := by
  intro events entry calm before
  refine ⟨before.names, fun pair member => ?_⟩
  exact (before.read pair member).imp (kept_exists events entry calm) (kept_exists events entry calm)

theorem kept_evidenced {host : Option HostObservation} {built : BuiltReport} :
    Kept (fun events => Evidenced pkg lib b isPartial host events built) :=
  fun events entry calm before => ⟨kept_exists events entry calm before.waiting, before.once, before.fitted,
    kept_heldAsRead events entry calm before.held⟩

def Asked (libs : Libraries) (call : SyncCall) (answer : call.Answer) (events : List SyncEvent) : Prop :=
  ∃ entry ∈ events, entry.event = ⟨call, answer⟩ ∧ ∃ next, Answered libs entry.store call answer next

section Rules

variable {ε α : Type} {allows : SyncMoment → SyncCall → Prop} {failed : SyncMoment → ε → Prop}
  {fact : List SyncEvent → Prop} {now : SyncMoment}

def Permits (allows : SyncMoment → SyncCall → Prop) : Prop := ∀ now call, Unacking call → allows now call

theorem ensures_part {permitted : ε → Prop} {good : α → Prop} {program : Proc SyncCall SyncCall.Answer ε α}
    (kept : Kept fact) (permits : Permits allows)
    (meets : Meets (only Unacking) (Yields permitted good) program)
    (fails : ∀ now err, fact now.events → permitted err → failed now err) (held : fact now.events) :
    Ensures (syncing libs) allows (fun now => Yields (failed now) (fun a => fact now.events ∧ good a)) now program := by
  refine ensures_mono (ensures_of_meets (stable_events fact) ?_ (fun state op _ calm => permits state op calm) meets
    held) (fun _ _ permitted => permitted) ?_
  · intro state op answer after before calm answered
    rw [answered.1]
    exact ⟨kept _ _ calm before, trivial⟩
  · intro state result done
    cases result with
    | ok a => exact done
    | error err => exact fails state err done.1 done.2

theorem ensures_asked {call : SyncCall} (kept : Kept fact) (permits : Permits allows)
    (calm : Unacking call) (held : fact now.events) :
    Ensures (syncing libs) allows (fun now => Yields (failed now) (fun answer =>
    fact now.events ∧ Asked libs call answer now.events)) now (ask call) := by
  intro later moved
  have before : fact later.events := (stable_events fact).chain moved held
  refine ⟨permits later call calm, ?_⟩
  intro answer after answered
  refine ⟨?_, ⟨later.store, ⟨call, answer⟩⟩, ?_, rfl, after.store, answered.2⟩
  · show fact after.events
    rw [answered.1]
    exact kept _ _ calm before
  · rw [answered.1]
    exact List.mem_append_right _ (List.mem_singleton_self _)

end Rules

theorem meets_ask {ε : Type} {permitted : ε → Prop} {calls : SyncCall → Prop} {call : SyncCall}
    (allowed : calls call) :
    Meets (only calls) (Yields permitted (fun _ => True)) (ask call : Proc SyncCall SyncCall.Answer ε call.Answer) :=
  ⟨allowed, fun _ _ => trivial⟩

def Failing (failure : SyncFailure) : Prop := failure.synced = false

theorem meets_withOfflineConvergence {α : Type} (s : Synchronizer) (err : Error) :
    Meets (only Unacking) (Yields Failing (fun _ : α => False)) (withOfflineConvergence s err) := by
  unfold withOfflineConvergence
  split
  · exact rfl
  · refine meets_bind (meets_ask trivial) ?_
    intro stopped _
    split
    · exact rfl
    · refine meets_bind (meets_ask trivial) ?_
      intro outcome _
      cases outcome with
      | ok _ => exact rfl
      | error failed => exact rfl

theorem meets_hostSample (s : Synchronizer) (includeHost : Bool) :
    Meets (only Unacking) (Yields Failing (fun _ => True)) (hostSample s includeHost) := by
  unfold hostSample
  split
  · refine meets_bind (meets_ask trivial) ?_
    intro outcome _
    cases outcome with
    | ok sample => trivial
    | error err => exact rfl
  · trivial

theorem meets_observeCore (s : Synchronizer) (isPartial : Bool) :
    Meets (only Unacking) (Yields Failing (fun _ => True)) (observeCore s isPartial) := by
  unfold observeCore
  split
  · refine meets_bind (meets_ask trivial) ?_
    intro outcome _
    cases outcome with
    | error err => exact rfl
    | ok gateChanged =>
      dsimp only
      split
      · refine meets_bind (meets_ask trivial) ?_
        intro outcome _
        cases outcome with
        | ok _ => trivial
        | error err => exact rfl
      · trivial
  · trivial

theorem meets_settleHost (s : Synchronizer) (built : BuiltReport) (sample : Option HostObservation) :
    Meets (only Unacking) (Yields Failing (fun _ => True)) (settleHost s built sample) := by
  unfold settleHost
  split
  · split
    · exact meets_ask trivial
    · split
      · exact meets_ask trivial
      · trivial
  · trivial

theorem meets_settleClock (s : Synchronizer) (captured : Except Error Int) (computedAtMS : Int) :
    Meets (only Unacking) (Yields Failing (fun _ => True)) (settleClock s captured computedAtMS) := by
  unfold settleClock
  split
  · have clock : Meets (only Unacking) (Yields Failing (fun _ => True)) (observeClock captured computedAtMS) := by
      cases captured with
      | ok started => exact meets_ask trivial
      | error err => trivial
    refine meets_bind clock ?_
    intro outcome _
    cases outcome with
    | ok _ => trivial
    | error err =>
      dsimp only
      split
      · exact meets_ask trivial
      · trivial
  · trivial

theorem meets_captureClock (s : Synchronizer) :
    Meets (only Unacking) (Yields Failing (fun _ => True)) (captureClock s) := by
  unfold captureClock
  split
  · exact meets_ask trivial
  · trivial

theorem meets_query {α : Type} {context : String} (answer : Except Error α) :
    Meets (only Reads) (Yields (fun _ => True) (fun _ => True))
      (.done (withError (.within context) answer) : Syncing α) := by
  cases answer with
  | ok value => trivial
  | error err => trivial

theorem meets_enumerate (report : NodeReport) :
    Meets (only Reads) (Yields (fun _ => True) (fun whole : NodeReport =>
    whole.isPartial = report.isPartial ∧ whole.held = report.held)) (enumerate report) := by
  refine meets_bind (meets_ask trivial) (fun objects _ => meets_bind (meets_query objects) (fun _ _ => ?_))
  refine meets_bind (meets_ask trivial) (fun clients _ => meets_bind (meets_query clients) (fun _ _ => ?_))
  refine meets_bind (meets_ask trivial) (fun listeners _ => meets_bind (meets_query listeners) (fun _ _ => ?_))
  exact ⟨rfl, rfl⟩

theorem meets_offeredCapabilities (b : ReportBuilder) :
    Meets (only Reads) (Yields (fun _ => True) (fun _ => True)) (offeredCapabilities b) := by
  unfold offeredCapabilities
  split
  · exact meets_ask trivial
  · trivial

theorem meets_reportedCore (b : ReportBuilder) :
    Meets (only Reads) (Yields (fun _ => True) (fun _ => True)) (reportedCore b) := by
  unfold reportedCore
  split
  · exact meets_ask trivial
  · trivial

theorem meets_reportStream (held : List (Stream × StreamState)) (name : Stream) :
    Meets (only Reads) (Yields (fun _ => True) (fun _ => True)) (reportStream held name) := by
  refine meets_bind (meets_ask trivial) ?_
  intro outcome _
  cases outcome with
  | ok doc => trivial
  | error err =>
    dsimp only
    split <;> trivial

section Build

variable {allows : SyncMoment → SyncCall → Prop} {b : ReportBuilder} {isPartial : Bool} {host : Option HostObservation}
  {now : SyncMoment} {s : Synchronizer} {built : BuiltReport}

theorem evidenced_of_fitted {report sent : NodeReport} {batch : OutboxBatch} {dropped : Bool}
    {events : List SyncEvent} (shape : report.isPartial = isPartial)
    (held : HeldAsRead events [.config, .roster, .directives] report.held)
    (read : Asked libs (.pendingOutbox b.limit) (.ok batch) events)
    (fit : fitReportToWire lib.marshal (attachOutbox report batch host) (!batch.ids.isEmpty) (b.bodyLimit lib) =
      .ok (sent, dropped)) : Evidenced libs.pkg lib b isPartial host events ⟨sent, batch.ids, dropped⟩ where
  waiting := by
    obtain ⟨entry, member, same, _, _, served | ⟨_, impossible⟩⟩ := read
    · refine ⟨entry, member, batch, same, rfl, ?_⟩
      exact fun id => carries_of_pending served.symm (fitReportToWire_ok fit).issues
        (fitReportToWire_ok fit).taskResults
    · cases impossible
  once := by
    rw [(fitReportToWire_ok fit).issues]
    exact distinctIssues_nodup batch.issues
  fitted := ⟨attachOutbox report batch host, rfl, shape, fit, fitReportToWire_ok fit⟩
  held := (fitReportToWire_ok fit).held ▸ held

theorem ensures_result {α : Type} {failed : SyncMoment → Error → Prop} (fact : List SyncEvent → Prop)
    {result : Except Error α} (fails : ∀ now err, fact now.events → failed now err) (held : fact now.events) :
    Ensures (syncing libs) allows (fun now => Yields (failed now) (fun a => fact now.events ∧ result = .ok a)) now
    (.done result) := by
  cases result with
  | ok a => exact ⟨held, rfl⟩
  | error err => exact fails now err held

theorem ensures_reads {α : Type} {good : α → Prop} {fact : List SyncEvent → Prop} {program : Syncing α}
    (kept : Kept fact) (permits : Permits allows)
    (meets : Meets (only Reads) (Yields (fun _ => True) good) program) (unacks : ∀ events, fact events → Unacked events)
    (held : fact now.events) :
    Ensures (syncing libs) allows (fun now => Yields (fun _ => Unacked now.events) (fun a =>
    fact now.events ∧ good a)) now program :=
  ensures_part kept permits (meets_weaken meets (fun _ => unacking_of_reads) (fun _ _ told => told))
    (fun now _ held _ => unacks now.events held) held

theorem ensures_reportStream {passed : List Stream} {held : List (Stream × StreamState)} {name : Stream}
    (permits : Permits allows)
    (known : Unacked now.events ∧ HeldAsRead now.events passed held) :
    Ensures (syncing libs) allows (fun now => Yields (fun _ => Unacked now.events) (fun held =>
    Unacked now.events ∧ HeldAsRead now.events (passed ++ [name]) held)) now (reportStream held name) := by
  refine ensures_bind (ensures_asked (kept_unacked.and kept_heldAsRead) permits trivial known) ?_
  rintro now answer ⟨⟨unacked, before⟩, entry, member, same, _⟩
  have grown : ∀ state, AsRead now.events (name, state) →
      HeldAsRead now.events (passed ++ [name]) (held ++ [(name, state)]) := by
    intro state read
    refine ⟨by rw [List.map_append, before.names]; rfl, fun pair present => ?_⟩
    rcases List.mem_append.mp present with earlier | last
    · exact before.read pair earlier
    · rw [List.mem_singleton.mp last]
      exact read
  cases answer with
  | ok doc => exact ⟨unacked, grown _ (Or.inl ⟨entry, member, doc, same, rfl⟩)⟩
  | error err =>
    dsimp only
    split
    · rename_i missing
      exact ⟨unacked, grown _ (Or.inr ⟨entry, member, err, same, missing, rfl⟩)⟩
    · exact unacked

theorem ensures_assembleState (nowMS : Int) (permits : Permits allows)
    (unacked : Unacked now.events) :
    Ensures (syncing libs) allows (fun now => Yields (fun _ => Unacked now.events) (fun report : NodeReport =>
    (Unacked now.events ∧ HeldAsRead now.events [.config, .roster, .directives] report.held) ∧
      report.isPartial = isPartial)) now (assembleState lib b isPartial nowMS) := by
  refine ensures_bind (ensures_reads kept_unacked permits (meets_offeredCapabilities b) (fun _ held => held) unacked)
    (fun now offered known => ?_)
  refine ensures_bind (ensures_reads kept_unacked permits (meets_reportedCore b) (fun _ held => held) known.1)
    (fun now status known => ?_)
  refine ensures_bind (ensures_each (fun passed held now => Unacked now.events ∧ HeldAsRead now.events passed held)
    ⟨known.1, rfl, nofun⟩ (fun _ _ _ _ _ _ held => ensures_reportStream permits held)) (fun now held known => ?_)
  dsimp only
  split
  · exact ⟨known, rfl⟩
  · refine ensures_yields (ensures_reads (kept_unacked.and kept_heldAsRead) permits (meets_enumerate _)
      (fun _ held => held.1) known) (fun _ _ failed => failed) ?_
    rintro now report ⟨known, shape, same⟩
    exact ⟨⟨known.1, same ▸ known.2⟩, shape⟩

theorem ensures_buildReport (permits : Permits allows) (unacked : Unacked now.events) :
    Ensures (syncing libs) allows (fun now => Yields (fun _ => Unacked now.events) (fun built =>
    Unacked now.events ∧ Evidenced libs.pkg lib b isPartial host now.events built)) now
    (buildReport lib b isPartial host) := by
  refine ensures_bind (ensures_result Unacked (fun _ _ held => held) unacked) (fun now _ known => ?_)
  refine ensures_bind (ensures_asked kept_unacked permits trivial known.1) (fun now nowMS known => ?_)
  refine ensures_bind (ensures_asked kept_unacked permits trivial known.1) (fun now answer known => ?_)
  refine ensures_bind (ensures_result Unacked (fun _ _ held => held) known.1) (fun now _ known => ?_)
  refine ensures_bind (ensures_assembleState nowMS permits known.1) (fun now report assembled => ?_)
  refine ensures_bind (ensures_asked (kept_unacked.and kept_heldAsRead) permits trivial assembled.1)
    (fun now answer read => ?_)
  let pending (events : List SyncEvent) : Prop :=
    (Unacked events ∧ HeldAsRead events [.config, .roster, .directives] report.held) ∧
      Asked libs (.pendingOutbox b.limit) answer events
  refine ensures_bind (ensures_result pending (fun _ _ held => held.1.1) read) (fun now batch decoded => ?_)
  refine ensures_bind (ensures_result pending (fun _ _ held => held.1.1) decoded.1) (fun now fit decided => ?_)
  obtain ⟨⟨⟨unacked, held⟩, read⟩, fit⟩ := decided
  rw [withError_eq_ok.mp decoded.2] at read
  exact ⟨unacked, evidenced_of_fitted assembled.2 held read fit⟩

/-- A failure counts as synced exactly when its acknowledgement was committed. -/
def Accounted (now : SyncMoment) (failure : SyncFailure) : Prop := failure.synced = true ↔ Acked now.events

theorem accounted_of_failing {failure : SyncFailure} (unacked : ¬Acked now.events) (failing : Failing failure) :
    Accounted now failure := by
  rw [Accounted, show failure.synced = false from failing]
  exact ⟨fun impossible => absurd impossible Bool.false_ne_true, fun acked => absurd acked unacked⟩

def Prepared (pkg : Package) (lib : SyncLibrary) (b : ReportBuilder) (isPartial : Bool) (built : BuiltReport)
    (events : List SyncEvent) : Prop :=
  Unacked events ∧ ∃ host, Evidenced pkg lib b isPartial host events built

theorem kept_prepared {pkg : Package} {b : ReportBuilder} : Kept (Prepared pkg lib b isPartial built) := by
  rintro events entry calm ⟨unacked, host, evidenced⟩
  exact ⟨unacked_concat unacked calm, host, kept_evidenced events entry calm evidenced⟩

theorem ensures_offline {α : Type} {good : SyncMoment → α → Prop}
    (permits : Permits allows) (err : Error) (unacked : ¬Acked now.events) :
    Ensures (syncing libs) allows (fun now => Yields (Accounted now) (good now)) now
      (withOfflineConvergence s err) := by
  refine ensures_mono (ensures_part kept_not_acked permits (meets_withOfflineConvergence s err)
    (fun _ _ held failing => accounted_of_failing held failing) unacked) (fun _ _ held => held) ?_
  intro state result done
  cases result with
  | ok _ => exact absurd done.2 id
  | error failure => exact done

theorem ensures_exchange (permits : Permits allows)
    (prepared : Prepared libs.pkg lib s.reports isPartial built now.events) :
    Ensures (syncing libs) allows (fun now => Yields (Accounted now) (fun _ =>
    Prepared libs.pkg lib s.reports isPartial built now.events ∧ Validated lib now.events built.report)) now
    (exchange lib s built) := by
  refine ensures_bind (ensures_asked kept_prepared permits trivial prepared) ?_
  rintro now answer ⟨known, entry, member, same, _⟩
  cases answer with
  | error err => exact ensures_offline permits err (not_acked_of_unacked known.1)
  | ok reply =>
    cases valid : lib.validateSyncResponse reply with
    | error text =>
      simp only [valid]
      exact ensures_offline permits _ (not_acked_of_unacked known.1)
    | ok _ =>
      simp only [valid]
      exact ⟨known, entry, member, reply, same, valid⟩

theorem ensures_acknowledge (acknowledges : Acknowledges libs.pkg lib s.reports isPartial now.events built.outboxIDs) :
    Ensures (syncing libs) (Allowed libs.pkg lib s.reports isPartial)
    (fun now => Yields (Accounted now) (fun _ => Acked now.events)) now (acknowledge s built) := by
  intro later moved
  have known : Acknowledges libs.pkg lib s.reports isPartial later.events built.outboxIDs :=
    (stable_events (fun events => Acknowledges libs.pkg lib s.reports isPartial events _)).chain moved acknowledges
  refine ⟨known, ?_⟩
  intro answer after answered
  cases answer with
  | ok _ =>
    refine ⟨⟨later.store, ⟨.ackOutbox built.outboxIDs, .ok ()⟩⟩, ?_, built.outboxIDs, rfl⟩
    rw [answered.1]
    exact List.mem_append_right _ (List.mem_singleton_self _)
  | error err =>
    have still : ¬Acked after.events := by
      rintro ⟨entry, member, ids, same⟩
      rw [answered.1] at member
      rcases List.mem_append.mp member with earlier | last
      · exact known.1 entry earlier ids _ same
      · rw [List.mem_singleton.mp last] at same
        cases same
    exact ensures_offline (fun _ _ => allowed_of_quiet) _ still

theorem ensures_processReply (reply : Reply) (permits : Permits allows)
    (acked : Acked now.events) :
    Ensures (syncing libs) allows (fun now => Yields (Accounted now) (fun _ => Acked now.events)) now
    (processReply s built reply) := by
  have meets : Meets (only Unacking) (Yields (fun failure : SyncFailure => failure.synced = true) (fun _ => True))
      (processReply s built reply) := by
    refine meets_bind (meets_ask trivial) ?_
    rintro ⟨immediately, outcome⟩ _
    cases outcome with
    | error err => exact rfl
    | ok _ =>
      dsimp only
      split
      · refine meets_bind (meets_ask trivial) ?_
        intro outcome _
        cases outcome with
        | error err => exact rfl
        | ok _ => trivial
      · trivial
  refine ensures_mono (ensures_part kept_exists permits meets
    (fun _ _ acked synced => Iff.intro (fun _ => acked) (fun _ => synced)) acked) (fun _ _ held => held) ?_
  intro state result done
  cases result with
  | ok _ => exact done.1
  | error failure => exact done

theorem ensures_syncRound (includeHost : Bool) (unacked : Unacked now.events) :
    Ensures (syncing libs) (Allowed libs.pkg lib s.reports isPartial)
    (fun now => Yields (Accounted now) (fun _ => Acked now.events)) now (syncRound lib s isPartial includeHost) := by
  have permits : Permits (Allowed libs.pkg lib s.reports isPartial) := fun _ _ => allowed_of_quiet
  have fails : ∀ (now : SyncMoment) failure, Unacked now.events → Failing failure → Accounted now failure :=
    fun _ _ held failing => accounted_of_failing (not_acked_of_unacked held) failing
  refine ensures_bind (ensures_part kept_unacked permits (meets_hostSample s includeHost) fails unacked)
    (fun now sample known => ?_)
  refine ensures_bind (ensures_part kept_unacked permits (meets_observeCore s isPartial) fails known.1)
    (fun now _ known => ?_)
  refine ensures_bind (ensures_mapError (ensures_buildReport permits known.1)
    (fun now _ held => accounted_of_failing (not_acked_of_unacked held) rfl)) (fun now built evidenced => ?_)
  have prepared : Prepared libs.pkg lib s.reports isPartial built now.events := ⟨evidenced.1, sample, evidenced.2⟩
  cases lib.validateNodeReport built.report with
  | error text => exact accounted_of_failing (not_acked_of_unacked evidenced.1) rfl
  | ok _ =>
    have worse : ∀ (now : SyncMoment) failure, Prepared libs.pkg lib s.reports isPartial built now.events →
        Failing failure → Accounted now failure := fun now failure held => fails now failure held.1
    have both : Kept (fun events => Prepared libs.pkg lib s.reports isPartial built events ∧
        Validated lib events built.report) := kept_prepared.and kept_exists
    refine ensures_bind (ensures_part kept_prepared permits (meets_captureClock s) worse prepared)
      (fun now captured known => ?_)
    refine ensures_bind (ensures_exchange permits known.1) (fun now reply known => ?_)
    refine ensures_bind (ensures_part both permits (meets_settleHost s built sample)
      (fun now failure held => worse now failure held.1) known) (fun now _ known => ?_)
    refine ensures_bind (ensures_part both permits
      (meets_settleClock s captured reply.envelope.computedAtMS)
      (fun now failure held => worse now failure held.1) known.1) (fun now _ known => ?_)
    obtain ⟨⟨⟨unacked, host, evidenced⟩, validated⟩, _⟩ := known
    refine ensures_bind (ensures_acknowledge ⟨unacked, host, built, evidenced, validated, rfl⟩)
      (fun now _ acked => ?_)
    exact ensures_processReply reply permits acked

theorem meets_recordRound (outcome : Except SyncFailure SyncResult) :
    Meets (only Unacking) (Yields (fun _ => False) (fun _ => True)) (recordRound s outcome) := by
  unfold recordRound
  split
  · split
    · exact meets_ask trivial
    · refine meets_bind (meets_ask trivial) ?_
      intro stopped _
      split
      · trivial
      · exact meets_ask trivial
  · trivial

theorem ensures_syncOnce (includeHost : Bool) (unacked : Unacked now.events) :
    Ensures (syncing libs) (Allowed libs.pkg lib s.reports isPartial)
    (fun now => Yields (Accounted now) (fun _ => Acked now.events)) now (syncOnce lib s isPartial includeHost) := by
  refine ensures_bind (ensures_attempt (ensures_syncRound includeHost unacked)) (fun now outcome told => ?_)
  have kept : Kept (fun events => Yields (fun failure : SyncFailure => failure.synced = true ↔ Acked events)
      (fun _ : SyncResult => Acked events) outcome) := by
    intro events entry calm before
    cases outcome with
    | ok result => exact kept_exists events entry calm before
    | error failure =>
      refine Iff.intro (fun synced => kept_exists events entry calm (before.mp synced)) ?_
      intro acked
      by_contra open'
      exact kept_not_acked events entry calm (fun earlier => open' (before.mpr earlier)) acked
  refine ensures_bind (ensures_part kept (fun _ _ => allowed_of_quiet) (meets_recordRound outcome)
    (fun _ _ _ impossible => impossible.elim) told) (fun now _ known => ?_)
  exact known.1

end Build

end Proof

/-- A report carries the rows that waited. A round acknowledges them once, after a validated response; the
database takes exactly those off the backlog or stays as it is; and a round that does not count as synced has
acknowledged nothing. -/
theorem only_delivered_acknowledged (libs : Libraries) (lib : SyncLibrary) :
    (∀ assembled hasOutbox maxBytes sent dropped,
      fitReportToWire lib.marshal assembled hasOutbox maxBytes = .ok (sent, dropped) →
        Fitted lib.marshal maxBytes assembled sent dropped) ∧
    (∀ b isPartial host store final built,
      Among (syncing libs) (⟨store, []⟩, buildReport lib b isPartial host) (final, .done (.ok built)) →
        Evidenced libs.pkg lib b isPartial host final.events built) ∧
    ∀ (s : Synchronizer) isPartial includeHost store now rest,
      Among (syncing libs) (⟨store, []⟩, syncOnce lib s isPartial includeHost) (now, rest) →
        (∀ ids next, rest = .call (.ackOutbox ids) next →
          Acknowledges libs.pkg lib s.reports isPartial now.events ids ∧
          ∀ answer later, (syncing libs).answers now (.ackOutbox ids) answer later →
            (answer = .ok () ∧
              undelivered later.store = (undelivered now.store).filter (fun row => decide (row.id ∉ ids))) ∨
            (later.store = now.store ∧ ∃ err, answer = .error err)) ∧
        ∀ outcome, rest = .done outcome → (syncedBy outcome = true ↔ Acked now.events) := by
  have unacked : Unacked [] := fun _ impossible => by cases impossible
  refine ⟨fun _ _ _ _ _ => fitReportToWire_ok, ?_, ?_⟩
  · intro b isPartial host store final built ran
    have ends := ensures_among (fun result => stable_events (fun events => Yields (fun _ => Unacked events)
      (fun built => Unacked events ∧ Evidenced libs.pkg lib b isPartial host events built) result)) ran
      (ensures_buildReport (fun _ _ _ => trivial) unacked : Ensures _ (fun _ _ => True) _ _ _)
    exact ends.2
  · intro s isPartial includeHost store now rest ran
    have stays := ensures_among (fun result => stable_events (fun events =>
      Yields (fun failure : SyncFailure => failure.synced = true ↔ Acked events)
        (fun _ : SyncResult => Acked events) result)) ran (ensures_syncOnce includeHost unacked)
    refine ⟨?_, ?_⟩
    · rintro ids next rfl
      have allowed : Allowed libs.pkg lib s.reports isPartial now (.ackOutbox ids) := ensures_allows stays
      refine ⟨allowed, ?_⟩
      rintro answer later ⟨_, ⟨rfl, acked⟩ | failed⟩
      · exact .inl ⟨rfl, ackOutbox_undelivered acked⟩
      · exact .inr failed
    · rintro outcome rfl
      cases outcome with
      | ok result => exact ⟨fun _ => stays, fun _ => rfl⟩
      | error failure => exact stays

section Alone

variable (libs : Libraries) (outside : (call : SyncCall) → call.Answer)

def serveSync (store : Store) : (call : SyncCall) → Store × call.Answer
  | .store call => serve libs store call
  | .applyScheduledQuotas nowMS =>
    (commit store (applyScheduledQuotas store nowMS), (applyScheduledQuotas store nowMS).map (fun _ => ()))
  | .pendingOutbox limit => (store, pendingOutbox libs.pkg store limit)
  | .ackOutbox ids => (commit store (ackOutbox store ids), (ackOutbox store ids).map (fun _ => ()))
  | call => (store, outside call)

def SyncMoment.answering (now : SyncMoment) (call : SyncCall) : SyncMoment × call.Answer :=
  (⟨(serveSync libs outside now.store call).1,
      now.events ++ [⟨now.store, ⟨call, (serveSync libs outside now.store call).2⟩⟩]⟩,
    (serveSync libs outside now.store call).2)

theorem answering_syncing (now : SyncMoment) (call : SyncCall) :
    (syncing libs).answers now call (now.answering libs outside call).2 (now.answering libs outside call).1 := by
  refine ⟨rfl, ?_⟩
  cases call with
  | store call => exact .inl rfl
  | applyScheduledQuotas nowMS =>
    simp only [Answered, SyncMoment.answering, serveSync]
    cases applyScheduledQuotas now.store nowMS with
    | ok pair => exact .inl ⟨rfl, pair.2, rfl⟩
    | error err => exact .inr ⟨rfl, err, rfl⟩
  | pendingOutbox limit => exact ⟨rfl, .inl rfl⟩
  | ackOutbox ids =>
    simp only [Answered, SyncMoment.answering, serveSync]
    cases ackOutbox now.store ids with
    | ok pair => exact .inl ⟨rfl, rfl⟩
    | error err => exact .inr ⟨rfl, err, rfl⟩
  | _ => trivial

variable {libs outside} {lib : SyncLibrary} {b : ReportBuilder} {isPartial : Bool} {host : Option HostObservation}

theorem serveSync_reads {store : Store} {call : SyncCall} (reads : Reads call) :
    (serveSync libs outside store call).1 = store := by
  cases call with
  | store call =>
    cases call with
    | stream name =>
      exact serve_invariant (fun next => next = store) rfl (fun next value done => (query_eq_ok.mp done).1)
    | objects | clients | listeners => rfl
    | _ => exact absurd reads id
  | pendingOutbox limit => rfl
  | coreStatus | capabilitySource => rfl
  | _ => exact absurd reads id

theorem meets_assembleReport (nowMS : Int) :
    Meets (only Reads) (Yields (fun _ => True) (fun _ => True)) (assembleReport lib b isPartial host nowMS) := by
  have streams : Meets (only Reads) (Yields (fun _ => True) (fun _ => True))
      (Proc.each reportStream [] [Stream.config, .roster, .directives]) :=
    meets_loop (fun held name _ => meets_reportStream held name)
  have state : Meets (only Reads) (Yields (fun _ => True) (fun _ => True)) (assembleState lib b isPartial nowMS) := by
    refine meets_bind (meets_offeredCapabilities b) (fun offered _ => meets_bind (meets_reportedCore b)
      (fun status _ => meets_bind streams (fun held _ => ?_)))
    dsimp only
    split
    · trivial
    · refine meets_mono (meets_enumerate _) ?_
      intro result _
      cases result <;> trivial
  refine meets_bind state (fun report _ => ?_)
  refine meets_bind (meets_ask trivial) (fun answer _ => meets_bind (meets_query answer) (fun batch _ => ?_))
  cases fitReportToWire lib.marshal (attachOutbox report batch host) (!batch.ids.isEmpty) (b.bodyLimit lib) with
  | ok fit => trivial
  | error err => trivial

/-- With nothing in between, a report is built from the one database that the rollovers leave. -/
theorem exec_buildReport (store : Store) :
    exec (serveSync libs outside) store (buildReport lib b isPartial host) =
      build b.agentID (outside .now) (fun advanced =>
        (exec (serveSync libs outside) advanced (assembleReport lib b isPartial host (outside .now))).2) store := by
  have reads : ∀ store : Store, (exec (serveSync libs outside) store
      (assembleReport lib b isPartial host (outside .now))).1 = store := by
    intro store
    have backs : Backs (serveSync libs outside) (only Reads) (fun state => state = store) := by
      rintro state call rfl allowed
      exact ⟨serveSync_reads allowed, trivial⟩
    exact (exec_meets backs (meets_assembleReport (outside .now)) rfl).1
  unfold build
  split
  · rename_i unnamed
    rw [buildReport, rejectIf, if_pos unnamed]
    rfl
  · rename_i named
    rw [buildReport, rejectIf, if_neg named]
    show exec (serveSync libs outside) (commit store (applyScheduledQuotas store (outside .now)))
      (Proc.bind (.done (withError (.within "advance scheduled quotas")
        ((applyScheduledQuotas store (outside .now)).map (fun _ => ())))) (fun _ => _)) = _
    cases applyScheduledQuotas store (outside .now) with
    | error err => rfl
    | ok pair => exact Prod.ext (reads pair.1) rfl

end Alone

/-- Everything is accepted, a report is as many bytes long as it has issues and task results,
and one more with a host sample. -/
def SyncLibrary.plain : SyncLibrary where
  marshal := fun report =>
    .ok (List.replicate (report.issues.length + report.taskResults.length + report.host.toList.length) 0)
  validateNodeReport := fun _ => .ok ()
  validateSyncResponse := fun _ => .ok ()
  maxSyncBodyBytes := 2
  protocolVersion1 := 1
  capabilityTaskExecutionV1 := "task_execution_v1"

def plainLibs : Libraries := ⟨.transparent, .transparent, .ofTables [] [] []⟩

def hostSynchronizer : Synchronizer where
  reports := ⟨"a1", "4.2.0", "xray", "1.8.0", "running", false, [], false, 0, 0⟩
  taskClock := false
  onTaskClockError := false
  observer := false
  localConverger := false
  onSynced := false
  host := true
  stats := false

def panelAnswers : (call : SyncCall) → call.Answer
  | .now => 1000
  | .store _ | .applyScheduledQuotas _ | .pendingOutbox _ | .ackOutbox _ => .error (.new "not asked")
  | .coreStatus => ⟨"", "", ""⟩
  | .capabilitySource => []
  | .collect => .ok (some ⟨"s1"⟩)
  | .observe => .ok false
  | .capture => .ok 0
  | .sync _ => .ok ⟨⟨1000⟩, ⟨⟨⟨0, 0⟩, "", true, none⟩, ⟨⟨0, 0⟩, "", true, none⟩, ⟨⟨0, 0⟩, "", true, none⟩, []⟩⟩
  | .process _ => (false, .ok ())
  | .cancelled => false
  | .converge | .observeClock _ _ | .onSynced => .ok ()
  | .reportWireLimitDropped | .markSent _ | .taskClockError _ | .recordSuccess | .recordFailure => ()

/-- The report had to leave the sample behind; the task result and the issue it carries are
acknowledged after the response. -/
theorem backlog_acknowledged_after_response :
    ∃ now next, Among (syncing plainLibs) (⟨exampleBacklog, []⟩, syncOnce .plain hostSynchronizer true true)
        (now, .call (.ackOutbox [2, 1]) next) ∧
      Acknowledges .transparent .plain hostSynchronizer.reports true now.events [2, 1] := by
  let reached := execFor (SyncMoment.answering plainLibs panelAnswers) 9 ⟨exampleBacklog, []⟩
    (syncOnce .plain hostSynchronizer true true)
  have asked : reached.2.asks = some (.ackOutbox [2, 1]) := by decide
  obtain ⟨next, standing⟩ := Proc.eq_call_of_asks asked
  have ran : Among (syncing plainLibs) (⟨exampleBacklog, []⟩, syncOnce .plain hostSynchronizer true true)
      (reached.1, .call (.ackOutbox [2, 1]) next) := by
    rw [← standing]
    exact among_execFor (answering_syncing plainLibs panelAnswers) 9
  exact ⟨reached.1, next, ran,
    (((only_delivered_acknowledged plainLibs .plain).2.2 _ _ _ _ _ _ ran).1 _ _ rfl).1⟩

end PasswallNode.Agent
