import PasswallNode.Agent.Lives

/-! A round among its surroundings, up to where it asks the runtime for anything. -/

namespace PasswallNode.Agent

open Foundation Protocol State Sqlite Relation

variable {libs : Libraries} {start now : Moment} {allows : Moment → ProcessCall → Prop}

section Steps

variable {α : Type} {holds : Moment → Prop} {failed : Moment → ProcessFailure → Prop} {result : Bool} {mirror : Store}
  {intake : Intake} {nowMS : Int} {p : Processor}

theorem ensures_onStore {call : StoreCall} {good : Moment → call.Value → Prop} (stable : Stable (around libs) holds)
    (initial : holds now) (permits : ∀ now, holds now → allows now (.store call))
    (done : ∀ now next value, holds now → transaction libs now.store call = .ok (next, value) →
    good ⟨next, now.events ++ [⟨.store call, .ok value⟩]⟩ value)
    (fails : ∀ now err, holds now → transaction libs now.store call = .error err →
    failed ⟨now.store, now.events ++ [⟨.store call, .error err⟩]⟩ ⟨err, result⟩) :
    Ensures (around libs) allows (fun now => Yields (failed now) (good now)) now (onStore result call) := by
  refine ensures_call stable initial ?_
  intro now held
  refine ⟨permits now held, ?_⟩
  rintro answer ⟨store, events⟩ ⟨rfl, served⟩
  change serve libs now.store call = (store, answer) at served
  cases ended : transaction libs now.store call with
  | ok pair =>
    rw [serve_ok ended] at served
    cases served
    exact done now _ _ held ended
  | error err =>
    rw [serve_error ended] at served
    cases served
    exact fails now err held ended

theorem ensures_onRuntime {op : RuntimeOp} {good : Moment → Except RuntimeError Unit → Prop}
    (stable : Stable (around libs) holds) (initial : holds now)
    (permits : ∀ now, holds now → allows now (.runtime op))
    (answered : ∀ now answer, holds now → good ⟨now.store, now.events ++ [⟨.runtime op, answer⟩]⟩ answer) :
    Ensures (around libs) allows (fun now => Yields (failed now) (good now)) now (onRuntime op) := by
  refine ensures_call stable initial ?_
  intro now held
  refine ⟨permits now held, ?_⟩
  rintro answer ⟨store, events⟩ ⟨rfl, served⟩
  cases (show store = now.store from served)
  exact answered now answer held

theorem ensures_orReturn {good : Moment → α → Prop} {call : Except Error α}
    (returns : ∀ a, call = .ok a → good now a) (fails : ∀ err, call = .error err → failed now ⟨err, result⟩) :
    Ensures (around libs) allows (fun now => Yields (failed now) (good now)) now (orReturn result call) := by
  cases call with
  | ok a => exact returns a rfl
  | error err => exact fails err rfl

theorem ends_orReturn {β : Type} {good : Moment → β → Prop} {check : Except Error α} {rest : α → Round β}
    (goes : ∀ a, check = .ok a → Ends libs allows good now (rest a)) :
    Ends libs allows good now (orReturn result check >>= rest) := by
  cases check with
  | ok a => exact goes a rfl
  | error err => trivial

def OfRuntime : ProcessCall → Prop
  | .newRound | .runtime _ => True
  | _ => False

def OpeningCall : ProcessCall → Prop
  | .store call => ¬ WritesObjects call
  | call => ¬ OfRuntime call

structure Opening (libs : Libraries) (start now : Moment) : Prop where
  sound : SoundStore libs now.store
  objects : now.store.objects = start.store.objects
  events : ∃ calls, now.events = start.events ++ calls ∧ ∀ event ∈ calls, ¬ OfRuntime event.op

theorem opening_start (sound : SoundStore libs start.store) : Opening libs start start :=
  ⟨sound, rfl, [], (List.append_nil _).symm, fun _ impossible => absurd impossible List.not_mem_nil⟩

theorem stable_opening : Stable (around libs) (Opening libs start) := by
  rintro now later ⟨same, moved⟩ ⟨sound, objects, events⟩
  have counting := elsewhere_counting moved
  exact ⟨counting_sound sound counting, counting.objects.trans objects, by rw [same]; exact events⟩

theorem openingCall_quiet {call : ProcessCall} (opening : OpeningCall call) : ¬ OfRuntime call := by
  cases call with
  | store => exact id
  | _ => exact opening

theorem Opening.answered {later : Moment} {call : ProcessCall} {answer : call.Answer}
    (before : Opening libs start now) (allowed : (soundContract libs False).allows call)
    (opening : OpeningCall call) (answered : (around libs).answers now call answer later) :
    Opening libs start later := by
  have sound := (soundContract_around before.sound allowed answered).1
  obtain ⟨logged, served⟩ := answered
  obtain ⟨calls, earlier, quiet⟩ := before.events
  refine ⟨sound, ?_, calls ++ [⟨call, answer⟩], by rw [logged, earlier, List.append_assoc], ?_⟩
  · cases call with
    | store call =>
      have kept : (serve libs now.store call).1.objects = start.store.objects := by
        refine serve_invariant (fun next => next.objects = start.store.objects) before.objects ?_
        intro next value done
        exact ((transaction_frame done).objects opening).trans before.objects
      rw [show serve libs now.store call = _ from served] at kept
      exact kept
    | _ =>
      rw [show later.store = now.store from served]
      exact before.objects
  · intro event member
    rcases List.mem_append.mp member with old | new
    · exact quiet event old
    · rw [List.mem_singleton.mp new]
      exact openingCall_quiet opening

theorem ensures_opening {α : Type} {good : α → Prop} {program : Round α}
    (meets : Meets (soundContract libs False) (Anyhow good) program) (uses : Uses OpeningCall program)
    (permits : ∀ now call, Opening libs start now → OpeningCall call → allows now call)
    (initial : Opening libs start now) :
    Ensures (around libs) allows (fun now result => Opening libs start now ∧ Anyhow good result) now program := by
  refine ensures_of_meets stable_opening ?_ ?_ (meets_uses meets uses) initial
  · intro now call answer later before allowed answered
    exact ⟨before.answered allowed.1 allowed.2 answered, (soundContract_around before.sound allowed.1 answered).2⟩
  · exact fun now call before allowed => permits now call before allowed.2

theorem openingCall_of_aside (call : ProcessCall) (aside : Aside call) : OpeningCall call := by
  cases call with
  | record | taskWake | acceptTasksFenced => exact id
  | _ => exact absurd aside id

theorem uses_onTransactions {α : Type} {result : Bool} {program : Transactions α} {allowed : ProcessCall → Prop}
    (uses : Uses (fun call => allowed (.store call)) program) : Uses allowed (onTransactions result program) := by
  induction program with
  | done outcome =>
    cases outcome with
    | ok a => exact uses_done _
    | error err => exact uses_done _
  | call op next ih =>
    obtain ⟨permitted, rest⟩ := uses_call.mp uses
    exact uses_call.mpr ⟨permitted, fun answer => ih answer (rest answer)⟩

def OnStreams (call : StoreCall) : Prop := ∃ name, OnStream name call

theorem openingCall_of_onStreams (call : StoreCall) (on : OnStreams call) : OpeningCall (.store call) := by
  obtain ⟨name, on⟩ := on
  cases call with
  | stream | saveStream | clearStreamForHigherEpoch => exact id
  | _ => exact absurd on id

theorem uses_optionalStoredBody {T : Type} (codec : Codec T) (name : Stream) :
    Uses OnStreams (optionalStoredBody codec name) :=
  uses_mono optionalStoredBody_uses (fun _ on => ⟨name, on⟩)

theorem uses_receive (catalog : Corecatalog.Catalog) (wire : Wire) (nowMS : Stream → Int)
    (response : SyncResponse) : Uses OnStreams (receive catalog wire nowMS response) := by
  refine uses_bind (uses_mono (receiveSegment_uses _) (fun _ on => ⟨.config, on⟩)) fun _ => ?_
  refine uses_bind (uses_mono (receiveSegment_uses _) (fun _ on => ⟨.roster, on⟩)) fun _ => ?_
  exact uses_bind (uses_mono (receiveSegment_uses _) (fun _ on => ⟨.directives, on⟩)) fun _ => uses_done _

theorem openRound_uses (p : Processor) (response : SyncResponse) (nowMS : Int) (result : Bool) :
    Uses OpeningCall (openRound p response nowMS result) := by
  have onStreams : ∀ {α : Type} {program : Transactions α}, Uses OnStreams program →
      Uses OpeningCall (onTransactions false program) :=
    fun uses => uses_onTransactions (uses_mono uses openingCall_of_onStreams)
  have version : ∀ result name, Uses OpeningCall (optionalStreamVersion result name) :=
    fun _ _ => uses_call.mpr ⟨id, fun _ => uses_done _⟩
  refine uses_bind (onStreams (uses_optionalStoredBody _ _)) fun _ => ?_
  refine uses_bind (onStreams (uses_optionalStoredBody _ _)) fun _ => ?_
  refine uses_bind (onStreams (uses_receive _ _ _ _)) fun _ => ?_
  refine uses_bind (uses_mono (uses_recordIssues _ _) openingCall_of_aside) fun _ => ?_
  exact uses_bind (version _ _) fun _ => uses_bind (version _ _) fun _ => uses_done _

def Mirrored (mirror : Store) (now : Moment) : Prop :=
  ∀ name, now.store.streams.find? name = mirror.streams.find? name

theorem stable_mirrored (mirror : Store) : Stable (around libs) (Mirrored mirror) := by
  intro now later moved mirrored name
  rw [(elsewhere_counting moved.2).streams]
  exact mirrored name

theorem Mirrored.served {call : StoreCall} (mirrored : Mirrored mirror now) (on : OnStreams call) :
    (serve libs now.store call).2 = (serve libs mirror call).2 ∧
    ∀ name, (serve libs now.store call).1.streams.find? name = (serve libs mirror call).1.streams.find? name := by
  obtain ⟨name, on⟩ := on
  refine ⟨(serve_local on (mirrored name)).1, ?_⟩
  intro other
  by_cases apart : other = name
  · rw [apart]
    exact (serve_local on (mirrored name)).2
  · rw [serve_frame on apart, serve_frame on apart]
    exact mirrored other

theorem ensures_onTransactions {α : Type} {program : Transactions α} {result : Bool} (uses : Uses OnStreams program)
    (mirrored : Mirrored mirror now) : Ends libs (fun _ _ => True) (fun now value => ∃ after,
    exec (serve libs) mirror program = (after, .ok value) ∧ Mirrored after now) now
    (onTransactions result program) := by
  induction program generalizing now mirror with
  | done outcome =>
    cases outcome with
    | ok a => exact ⟨mirror, rfl, mirrored⟩
    | error err => trivial
  | call op next ih =>
    obtain ⟨on, rest⟩ := uses_call.mp uses
    refine ensures_call (stable_mirrored mirror) mirrored ?_
    intro now held
    refine ⟨trivial, ?_⟩
    rintro answer ⟨store, events⟩ ⟨-, served⟩
    obtain ⟨same, streams⟩ := @Mirrored.served libs _ _ _ held on
    rw [show serve libs now.store op = (store, answer) from served] at same streams
    rw [exec_call, ← same]
    exact ih answer (rest answer) streams

theorem ensures_optionalStreamVersion {result : Bool} {name : Stream} (mirrored : Mirrored mirror now) :
    Ends libs (fun _ _ => True) (fun now version =>
    version = storedVersion mirror name ∧ Mirrored mirror now) now (optionalStreamVersion result name) := by
  refine ensures_call (stable_mirrored mirror) mirrored ?_
  intro now held
  refine ⟨trivial, ?_⟩
  rintro answer ⟨store, events⟩ ⟨-, served⟩
  change serve libs now.store (.stream name) = (store, answer) at served
  rw [storedVersion, ← held name]
  cases found : now.store.streams.find? name with
  | none =>
    have missing : transaction libs now.store (.stream name) = .error (streamNotFound name) := by
      simp [transaction, query, stream, found, orError, Except.map]
    rw [serve_error missing] at served
    cases served
    exact ⟨rfl, held⟩
  | some record =>
    rw [serve_ok (transaction_stream found)] at served
    cases served
    exact ⟨rfl, held⟩

theorem ensures_aside {α : Type} {program : Round α} (uses : Uses Aside program) (mirrored : Mirrored mirror now) :
    Ends libs (fun _ _ => True) (fun now _ => Mirrored mirror now) now program := by
  refine ensures_yields (ensures_of_uses (stable_mirrored mirror) ?_ (fun _ _ _ _ => trivial) uses mirrored)
    (fun _ _ _ => trivial) (fun _ _ held => held)
  intro now call answer later held aside answered
  cases call with
  | record | taskWake | acceptTasksFenced =>
    intro name
    rw [show later.store = now.store from answered.2]
    exact held name
  | _ => exact absurd aside id

theorem ensures_openRound {p : Processor} {response : SyncResponse} {nowMS : Int} {result : Bool}
    (sound : SoundStore libs mirror) (wired : p.wire = libs.wire) (mirrored : Mirrored mirror now) :
    Ends libs (fun _ _ => True) (fun now opened => ∃ after,
    exec (serve libs) mirror (receive p.catalog libs.wire (fun _ => nowMS) response) =
      (after, .ok opened.1.received) ∧ Mirrored after now ∧ Opened libs mirror after opened.1) now
    (openRound p response nowMS result) := by
  have decodes := storedBodiesDecode_of_sound sound
  unfold openRound
  rw [wired]
  refine ensures_bind (ensures_onTransactions (uses_optionalStoredBody _ _) mirrored) ?_
  rintro now oldConfig ⟨first, loadsConfig, mirrored⟩
  rw [exec_optionalStoredBody libs decodes.config] at loadsConfig
  cases loadsConfig
  refine ensures_bind (ensures_onTransactions (uses_optionalStoredBody _ _) mirrored) ?_
  rintro now oldRoster ⟨second, loadsRoster, mirrored⟩
  rw [exec_optionalStoredBody libs decodes.roster] at loadsRoster
  cases loadsRoster
  refine ensures_bind (ensures_onTransactions (uses_receive _ _ _ _) mirrored) ?_
  rintro now received ⟨after, receives, mirrored⟩
  refine ensures_bind (ensures_aside (uses_recordIssues _ _) mirrored) ?_
  intro now noted mirrored
  refine ensures_bind (ensures_optionalStreamVersion mirrored) ?_
  rintro now configVersion ⟨rfl, mirrored⟩
  refine ensures_bind (ensures_optionalStreamVersion mirrored) ?_
  rintro now rosterVersion ⟨rfl, mirrored⟩
  have kept := exec_meets storeContract_backs (meets_receive p.catalog (fun _ => nowMS) response) sound
  rw [receives] at kept
  exact ⟨after, receives, mirrored, rfl, rfl, receive_agrees sound receives, rfl, rfl, kept.2⟩

theorem stable_present (key : String) :
    Stable (around libs) (fun now => ∃ row, now.store.clients.find? key = some row) := by
  rintro now later moved ⟨row, found⟩
  obtain ⟨after, present, -⟩ := (elsewhere_counting moved.2).clients.later found
  exact ⟨after, present⟩

theorem stable_marked (quota : QuotaEntry) : Stable (around libs) (fun now => Marked libs.lib now.store quota) := by
  rintro now later moved ⟨row, found, marked⟩
  obtain ⟨after, present, same⟩ := (elsewhere_counting moved.2).clients.later found
  exact ⟨after, present, (sameGrant_of_chain same).2.trans marked⟩

def Rostered (intake : Intake) (now : Moment) : Prop :=
  ∀ client ∈ convergedClients intake, ∃ row, now.store.clients.find? client.key = some row

theorem stable_rostered : Stable (around libs) (Rostered intake) :=
  fun now later moved held client member => stable_present client.key now later moved (held client member)

theorem ensureClient_rostered {mirror : Store} {passed : List Client} {client : Client}
    (held : Mirrored mirror now ∧ ∀ other ∈ passed, ∃ row, now.store.clients.find? other.key = some row) :
    Ends libs (fun _ _ => True) (fun now _ => Mirrored mirror now ∧
    ∀ other ∈ passed ++ [client], ∃ row, now.store.clients.find? other.key = some row) now
    (onStore result (.ensureClient ⟨client.key, client.subject⟩ nowMS)) := by
  have stable : Stable (around libs) (fun now =>
      ∀ other ∈ passed, ∃ row, now.store.clients.find? other.key = some row) :=
    fun now later moved rows other among => stable_present other.key now later moved (rows other among)
  refine ensures_onStore ((stable_mirrored mirror).and stable) held (fun _ _ => trivial) ?_ (fun _ _ _ _ => trivial)
  rintro now next _ ⟨mirrored, rows⟩ done
  refine ⟨?_, ?_⟩
  · intro name
    rw [(transaction_frame done).streams id]
    exact mirrored name
  · intro other among
    rw [ensureClient_ok done]
    split
    · exact ⟨_, rfl⟩
    · rename_i apart
      rcases List.mem_append.mp among with earlier | last
      · exact rows other earlier
      · exact absurd (by rw [List.mem_singleton.mp last]) apart

theorem ensures_materialiseClients {mirror : Store} (mirrored : Mirrored mirror now) :
    Ends libs (fun _ _ => True) (fun now _ => Mirrored mirror now ∧ Rostered intake now) now
    (materialiseClients intake nowMS result) := by
  unfold materialiseClients Rostered convergedClients rosterDocument
  cases intake.received.roster with
  | none =>
    refine ⟨mirrored, ?_⟩
    intro client member
    split at member
    · exact absurd member List.not_mem_nil
    · exact absurd member List.not_mem_nil
  | some roster =>
    cases intake.rosterVersion.zero with
    | true => exact ⟨mirrored, fun client member => absurd member List.not_mem_nil⟩
    | false =>
      refine ensures_each (fun (passed : List Client) _ now => Mirrored mirror now ∧
        ∀ client ∈ passed, ∃ row, now.store.clients.find? client.key = some row) ?_ ?_
      · exact ⟨mirrored, fun client member => absurd member List.not_mem_nil⟩
      · exact fun passed client rest _ now _ held => ensureClient_rostered held

theorem applyQuota_marked {directives : DirectivesBody} {roster : Option RosterBody} {passed : List QuotaEntry}
    {quota : QuotaEntry} (apart : ∀ other ∈ passed, other.client ≠ quota.client)
    (held : ∀ other ∈ passed, (clientIn roster other.client).isSome = true → Marked libs.lib now.store other) :
    Ends libs (fun _ _ => True) (fun now _ =>
    ∀ other ∈ passed ++ [quota], (clientIn roster other.client).isSome = true → Marked libs.lib now.store other)
    now (applyQuotaEntry p directives roster nowMS result quota) := by
  have stable : Stable (around libs) (fun now => ∀ other ∈ passed,
      (clientIn roster other.client).isSome = true → Marked libs.lib now.store other) :=
    fun now later moved marks other among listed =>
      stable_marked other now later moved (marks other among listed)
  unfold applyQuotaEntry
  cases listed : clientIn roster quota.client with
  | none =>
    refine ensures_call stable held ?_
    intro now marks
    refine ⟨trivial, ?_⟩
    rintro answer ⟨store, events⟩ ⟨-, served⟩
    cases (show store = now.store from served)
    cases answer with
    | error err => trivial
    | ok created =>
      intro other among known
      rcases List.mem_append.mp among with earlier | last
      · exact marks other earlier known
      · rw [List.mem_singleton.mp last, listed] at known
        cases known
  | some client =>
    have grants : Ends libs (fun _ _ => True) (fun now _ =>
        ∀ other ∈ passed ++ [quota], (clientIn roster other.client).isSome = true →
          Marked libs.lib now.store other) now
        (onStore result (.applyQuota quota.client (grantOf quota) nowMS)) := by
      refine ensures_onStore stable held (fun _ _ => trivial) ?_ (fun _ _ _ _ => trivial)
      intro now next _ marks done other among known
      obtain ⟨⟨row, after, -, present, -, marked⟩, others⟩ := applyQuota_marks done
      rcases List.mem_append.mp among with earlier | last
      · obtain ⟨row, found, marked⟩ := marks other earlier known
        exact ⟨row, by rw [others other.client (apart other earlier)]; exact found, marked⟩
      · rw [List.mem_singleton.mp last]
        exact ⟨after, present, marked⟩
    exact ensures_bind grants (fun _ _ marks => marks)

theorem ensures_grantQuotas (valid : ValidDocuments libs.wire intake.received) :
    Ends libs (fun _ _ => True) (fun now _ =>
    ∀ quota ∈ appliedGrants intake.received intake.rosterVersion, Marked libs.lib now.store quota) now
    (grantQuotas p intake nowMS result) := by
  unfold grantQuotas appliedGrants
  cases received : intake.received.directives with
  | none => exact fun _ impossible => absurd impossible List.not_mem_nil
  | some directives =>
    have distinct := (valid.directives directives received).distinct
    cases ahead : directives.forRosterVersion.newer intake.rosterVersion with
    | true =>
      apply ensures_any
      intro now outcome
      cases outcome with
      | error err => trivial
      | ok noted =>
        intro quota member
        simp [ahead] at member
    | false =>
      simp only [applyDirectives, ahead, Bool.false_eq_true, if_false]
      have clears : Ends libs (fun _ _ => True) (fun _ _ => True) now
          (onStore result (.clearReferenceSkew skewDirectivesRoster Stream.directives.text)) :=
        ensures_any _ (fun _ outcome => by cases outcome <;> trivial)
      refine ensures_bind clears ?_
      intro now _ _
      -- Entries name distinct clients, so no later one takes the mark away.
      have loops : Ends libs (fun _ _ => True) (fun now _ =>
          ∀ quota ∈ directives.quota, (clientIn intake.received.roster quota.client).isSome = true →
            Marked libs.lib now.store quota) now
          (Proc.each (applyQuotaEntry p directives intake.received.roster nowMS) result directives.quota) := by
        refine ensures_each (fun (passed : List QuotaEntry) _ (now : Moment) => ∀ quota ∈ passed,
          (clientIn intake.received.roster quota.client).isSome = true → Marked libs.lib now.store quota) ?_ ?_
        · exact fun _ impossible => absurd impossible List.not_mem_nil
        · intro passed quota rest acc now whole held
          refine applyQuota_marked ?_ held
          intro other earlier
          rw [whole, List.map_append, List.map_cons] at distinct
          exact (List.nodup_append.mp distinct).2.2 _ (List.mem_map_of_mem earlier) _ List.mem_cons_self
      exact ensures_yields loops (fun _ _ _ => trivial) fun now noted marks quota member =>
        marks quota (List.mem_filter.mp member).1 (List.mem_filter.mp member).2

theorem openingCall_of_grantCall (call : ProcessCall) (grants : GrantCall call) : OpeningCall call := by
  cases call with
  | store call =>
    cases call with
    | observeReferenceSkew | clearReferenceSkew | applyQuota => exact id
    | _ => exact absurd grants id
  | record => exact id
  | _ => exact absurd grants id

theorem grantQuotas_keeps {mirror : Store} (held : Mirrored mirror now ∧ Rostered intake now) :
    Ensures (around libs) (fun _ _ => True) (fun now _ => Mirrored mirror now ∧ Rostered intake now) now
    (grantQuotas p intake nowMS result) := by
  refine ensures_of_uses ((stable_mirrored mirror).and stable_rostered) ?_ (fun _ _ _ _ => trivial)
    (grantQuotas_uses intake) held
  rintro now call answer later ⟨mirrored, rostered⟩ grants ⟨-, served⟩
  cases call with
  | store call =>
    change serve libs now.store call = _ at served
    have kept : Mirrored mirror ⟨(serve libs now.store call).1, later.events⟩ ∧
        Rostered intake ⟨(serve libs now.store call).1, later.events⟩ := by
      refine serve_invariant (fun next => Mirrored mirror ⟨next, later.events⟩ ∧
        Rostered intake ⟨next, later.events⟩) ⟨mirrored, rostered⟩ ?_
      intro next value done
      refine ⟨?_, ?_⟩
      · intro name
        cases call with
        | observeReferenceSkew | clearReferenceSkew | applyQuota =>
          rw [show next.streams = now.store.streams from (transaction_frame done).streams id]
          exact mirrored name
        | _ => exact absurd grants id
      · intro client member
        obtain ⟨row, found⟩ := rostered client member
        cases call with
        | observeReferenceSkew | clearReferenceSkew | applyQuota =>
          obtain ⟨after, present, -⟩ := transaction_accounts (fun _ => by simp) done client.key row found
          exact ⟨after, present⟩
        | _ => exact absurd grants id
    rw [served] at kept
    exact kept
  | record issue =>
    rw [Mirrored, Rostered, show later.store = now.store from served]
    exact ⟨mirrored, rostered⟩
  | _ => exact absurd grants id

theorem materialiseClients_uses : Uses OpeningCall (materialiseClients intake nowMS result) := by
  unfold materialiseClients
  split
  · exact uses_done _
  · split
    · exact uses_done _
    · exact uses_each fun _ _ => uses_onStore id

end Steps

section Process

variable {p : Processor} {nowMS : Int} {response : SyncResponse}

structure Readied (libs : Libraries) (p : Processor) (nowMS : Int) (response : SyncResponse) (start : Moment)
    (intake : Intake) (now : Moment) : Prop where
  opening : Opening libs start now
  received : ∃ after, exec (serve libs) start.store (receive p.catalog libs.wire (fun _ => nowMS) response) =
    (after, .ok intake.received) ∧ Mirrored after now
  opened : Opened libs start.store now.store intake
  rostered : Rostered intake now
  granted : ∀ quota ∈ appliedGrants intake.received intake.rosterVersion, Marked libs.lib now.store quota

section Phase

variable {α : Type} {fact : α → Prop} {good : Moment → α → Prop} {failed : Moment → ProcessFailure → Prop}
  {program : Round α}

theorem ensures_phase (meets : Meets (soundContract libs False) (Anyhow fact) program)
    (uses : Uses OpeningCall program)
    (permits : ∀ now call, Opening libs start now → OpeningCall call → allows now call)
    (fails : ∀ now failure, Opening libs start now → failed now failure) (initial : Opening libs start now)
    (more : Ends libs (fun _ _ => True) (fun now => good now) now program) : Ensures (around libs) allows
    (fun now => Yields (failed now) (fun a => Opening libs start now ∧ fact a ∧ good now a)) now program := by
  refine ensures_mono (ensures_and (ensures_opening meets uses permits initial) more) (fun _ _ held => held.1) ?_
  rintro now outcome ⟨⟨opening, met⟩, gained⟩
  cases outcome with
  | ok a => exact ⟨opening, met, gained⟩
  | error failure => exact fails now failure opening

end Phase

theorem ensures_process {failed : Moment → ProcessFailure → Prop} {good : Moment → Bool → Prop}
    (sound : SoundStore libs start.store) (wired : p.wire = libs.wire)
    (permits : ∀ now call, Opening libs start now → OpeningCall call → allows now call)
    (fails : ∀ now failure, Opening libs start now → failed now failure)
    (runs : ∀ now intake noted, 0 < nowMS → Readied libs p nowMS response start intake now →
    Ensures (around libs) allows (fun now => Yields (failed now) (good now)) now (runRound p intake nowMS noted)) :
    Ensures (around libs) allows (fun now => Yields (failed now) (good now)) start (process p nowMS response) := by
  have aside : ∀ {α : Type} {program : Round α}, Uses Aside program → Uses OpeningCall program :=
    fun uses => uses_mono uses openingCall_of_aside
  have mirrored : Mirrored start.store start := fun _ => rfl
  have clock : Meets (soundContract libs False) (Anyhow (fun _ => 0 < nowMS))
      (orReturn false (requireClock nowMS)) := by
    apply sound_orReturn
    intro _ passed
    exact Int.not_le.mp (rejectIf_eq_ok.mp passed)
  refine ensures_bind (ensures_phase clock (uses_done _) permits fails (opening_start sound)
    (ensures_aside (uses_done _) mirrored)) ?_
  rintro now _ ⟨opening, timed, mirrored⟩
  refine ensures_bind (ensures_phase (sound_acceptTasks _ _) (aside (uses_acceptTasks _ _)) permits fails opening
    (ensures_aside (uses_acceptTasks _ _) mirrored)) ?_
  rintro now result ⟨opening, -, mirrored⟩
  refine ensures_bind (ensures_phase (sound_wakeWhen _) (aside (uses_wakeWhen _)) permits fails opening
    (ensures_aside (uses_wakeWhen _) mirrored)) ?_
  rintro now _ ⟨opening, -, mirrored⟩
  refine ensures_bind (ensures_phase (sound_openRound wired _ _) (openRound_uses _ _ _ _) permits fails opening
    (ensures_openRound sound wired mirrored)) ?_
  rintro now ⟨intake, noted⟩ ⟨opening, valid, after, received, mirrored, opened⟩
  refine ensures_bind (ensures_phase (sound_materialiseClients valid) materialiseClients_uses permits fails opening
    (ensures_materialiseClients mirrored)) ?_
  rintro now _ ⟨opening, -, mirrored, rostered⟩
  have grants : Ends libs (fun _ _ => True) (fun now _ =>
      (Mirrored after now ∧ Rostered intake now) ∧
        ∀ quota ∈ appliedGrants intake.received intake.rosterVersion, Marked libs.lib now.store quota) now
      (grantQuotas p intake nowMS noted) := by
    refine ensures_mono (ensures_and (grantQuotas_keeps ⟨mirrored, rostered⟩) (ensures_grantQuotas valid))
      (fun _ _ _ => trivial) ?_
    rintro now outcome ⟨kept, granted⟩
    cases outcome with
    | ok more => exact ⟨kept, granted⟩
    | error failure => trivial
  refine ensures_bind
    (ensures_phase (sound_grantQuotas _ _) (uses_mono (grantQuotas_uses intake) openingCall_of_grantCall)
    permits fails opening grants) ?_
  rintro now more ⟨opening, -, ⟨mirrored, rostered⟩, granted⟩
  exact runs now intake more timed
    ⟨opening, ⟨after, received, mirrored⟩, opened.transfer mirrored, rostered, granted⟩

end Process

section Convergence

variable {p : Processor} {nowMS : Int} {intake : Intake} {noted : Bool} {mirror : Store}

def Steady (libs : Libraries) (mirror : Store) (now : Moment) : Prop :=
  SoundStore libs now.store ∧ Mirrored mirror now

theorem stable_steady : Stable (around libs) (Steady libs mirror) :=
  stable_sound.and (stable_mirrored mirror)

theorem roundContract_around {roster : Option RosterBody} {later : Moment} {call : ProcessCall}
    {answer : call.Answer} (valid : ∀ client ∈ rosterClients roster, ValidClient libs.wire client)
    (steady : Steady libs mirror now) (allowed : (roundContract libs roster False).allows call)
    (answered : (around libs).answers now call answer later) :
    Steady libs mirror later ∧ (roundContract libs roster False).promises call answer := by
  obtain ⟨sound, mirrored⟩ := steady
  have sounds : (soundContract libs True).allows call := by
    cases call with
    | store call => exact soundCall_of_roundCall valid allowed
    | newRound => exact absurd allowed id
    | _ => trivial
  obtain ⟨kept, told⟩ := soundContract_around sound sounds answered
  refine ⟨⟨kept, ?_⟩, told⟩
  obtain ⟨-, served⟩ := answered
  cases call with
  | store call =>
    have streams : (serve libs now.store call).1.streams = now.store.streams := by
      refine serve_invariant (fun next => next.streams = now.store.streams) rfl ?_
      intro next value done
      refine (transaction_frame done).streams ?_
      cases call with
      | saveStream | clearStreamForHigherEpoch => exact absurd allowed id
      | _ => exact id
    rw [show serve libs now.store call = _ from served] at streams
    intro name
    rw [streams]
    exact mirrored name
  | _ =>
    intro name
    rw [show later.store = now.store from served]
    exact mirrored name

theorem ensures_runRound_calls {first : Moment → Prop} (timed : 0 ≤ nowMS)
    (valid : ValidDocuments libs.wire intake.received) (stable : Stable (around libs) first) (early : first now)
    (steady : Steady libs mirror now) : Ensures (around libs) (fun now call => Steady libs mirror now ∧
      (call = .newRound ∧ first now ∨ (roundContract libs (rosterDocument intake) False).allows call))
    (fun now => Yields (fun _ => Steady libs mirror now) (fun _ => Steady libs mirror now)) now
    (runRound p intake nowMS noted) := by
  rw [runRound_eq]
  have opens : Ensures (around libs) (fun now call => Steady libs mirror now ∧
        (call = .newRound ∧ first now ∨ (roundContract libs (rosterDocument intake) False).allows call))
      (fun now => Yields (fun _ => Steady libs mirror now) (fun _ => Steady libs mirror now)) now
      (newRound noted) := by
    refine ensures_call (stable_steady.and stable) ⟨steady, early⟩ ?_
    rintro now ⟨steady, early⟩
    refine ⟨⟨steady, Or.inl ⟨rfl, early⟩⟩, ?_⟩
    rintro scope ⟨store, events⟩ ⟨-, served⟩
    cases (show store = now.store from served)
    cases scope with
    | unscoped | shared | missing => exact steady
  refine ensures_bind opens ?_
  intro now inRound steady
  have round : Meets (roundContract libs (rosterDocument intake) False)
      (Yields (Tolerated p False) (fun _ => True)) (finishRound p intake nowMS inRound noted) :=
    meets_finishRound (fun impossible => impossible.elim) timed valid inRound
  refine ensures_yields (ensures_of_meets stable_steady ?_ ?_ round steady) (fun _ _ held => held.1)
    (fun _ _ held => held.1)
  · exact fun now call answer later steady allowed answered =>
      roundContract_around (convergedClients_valid valid).1 steady allowed answered
  · exact fun now call steady allowed => ⟨steady, Or.inr allowed⟩

end Convergence

end PasswallNode.Agent
