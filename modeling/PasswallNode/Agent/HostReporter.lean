import PasswallNode.Agent.Issues
import PasswallNode.Foundation.Runs

/-! Host telemetry: one collection at a time, and one record for each episode of failures. -/

namespace PasswallNode.Agent

open Foundation Protocol State Sqlite

structure HostObservation where
  sampleID : String
  deriving DecidableEq, Repr

inductive CollectorAnswer where
  | panics
  | fails
  | observes (sample : HostObservation) (valid : Bool)
  deriving DecidableEq, Repr

structure HostCollection where
  sample : Option HostObservation
  detail : String
  deriving DecidableEq, Repr

def collectionOutcome : CollectorAnswer → HostCollection
  | .panics => ⟨none, "collector_panic"⟩
  | .fails => ⟨none, "collector_error"⟩
  | .observes sample valid => if valid then ⟨some sample, ""⟩ else ⟨none, "invalid_sample"⟩

structure HostReporter where
  lastSentAt : Option Int
  /-- A sample that was built and not delivered, and when. -/
  cached : Option (HostObservation × Int)
  period : Int
  episodeOpen : Bool
  inflight : Bool
  /-- What the channel of the last collection holds. -/
  result : Option HostCollection
  deriving DecidableEq, Repr

def HostReporter.new : HostReporter := ⟨none, none, 0, false, false, none⟩

/-- `Due`, with the answers of the protocol package: whether a sample has to be sent, and the
effective period. -/
def HostReporter.due (r : HostReporter) (shouldSend : Bool) (period : Int) : HostReporter :=
  if r.cached.isNone ∧ shouldSend then { r with period := period } else r

def HostReporter.launch (r : HostReporter) : HostReporter :=
  if r.inflight then r else { r with inflight := true, result := none }

/-- `Collect` up to where it waits: a cached sample is returned unless it is past twice the
period, and then nothing is waited for. -/
def HostReporter.collect (r : HostReporter) (now : Int) : HostReporter × Option HostObservation :=
  match r.cached with
  | none => (r.launch, none)
  | some (sample, cachedAt) =>
    if 0 < r.period ∧ now - cachedAt > 2 * r.period then ({ r with cached := none }.launch, none)
    else (r, some sample)

def HostReporter.collected (r : HostReporter) (outcome : HostCollection) (now : Int) : HostReporter :=
  { r with
    inflight := false
    cached := match outcome.sample with
      | some sample => some (sample, now)
      | none => r.cached
    result := some outcome }

def HostReporter.markSent (r : HostReporter) (sampleID : String) (sentAt : Int) : HostReporter :=
  if sampleID = "" then r
  else { r with cached := none, lastSentAt := some sentAt, episodeOpen := false }

section System

-- `protocol.IssueHostTelemetryFailed` names the issue, its code and its dedupe key.
variable (pkg : Package) (issueHostTelemetryFailed : String)

def hostIssue (detail : String) : LocalIssue where
  kind := issueHostTelemetryFailed
  stream := ""
  key := ""
  dedupeKey := issueHostTelemetryFailed
  detail := truncateUTF8 detail 256

structure HostSystem where
  store : Store
  reporter : HostReporter
  waits : Bool

/-- `recordFailureEpisode`; the answer of the sink is not looked at. A cancelled context keeps
the database from storing anything. -/
def recordFailureEpisode (system : HostSystem) (detail : String) (nowMS : Int) (cancelled : Bool) : HostSystem :=
  if system.reporter.episodeOpen then system
  else
    { system with
      reporter := { system.reporter with episodeOpen := true }
      store :=
        if cancelled then system.store
        else commit system.store (recordInOutbox pkg defaultIssueMapper nowMS system.store
          (hostIssue issueHostTelemetryFailed detail)) }

inductive HostAction where
  | due (shouldSend : Bool) (period : Int)
  | collect (now : Int)
  | collected (answer : CollectorAnswer) (now : Int)
  | receive (nowMS : Int) (cancelled : Bool)
  | giveUp
  | markSent (sampleID : String) (sentAt : Int)
  | reportWireLimitDropped (nowMS : Int) (cancelled : Bool)
  | ackOutbox (ids : List Int)
  | restart
  deriving DecidableEq, Repr

/-- The round and the collecting goroutine take turns; rows are acknowledged, and the process restarted, at any
time. -/
def hostStep (system : HostSystem) : HostAction → HostSystem
  | .due shouldSend period =>
    if system.waits then system else { system with reporter := system.reporter.due shouldSend period }
  | .collect now =>
    if system.waits then system
    else
      let (reporter, sample) := system.reporter.collect now
      { system with reporter := reporter, waits := sample.isNone }
  | .collected answer now =>
    if system.reporter.inflight then
      { system with reporter := system.reporter.collected (collectionOutcome answer) now }
    else system
  | .receive nowMS cancelled =>
    match system.waits, system.reporter.result with
    | true, some outcome =>
      let received := { system with reporter := { system.reporter with result := none }, waits := false }
      if outcome.sample.isNone then
        recordFailureEpisode pkg issueHostTelemetryFailed received outcome.detail nowMS cancelled
      else received
    | _, _ => system
  | .giveUp => { system with waits := false }
  | .markSent sampleID sentAt =>
    if system.waits then system else { system with reporter := system.reporter.markSent sampleID sentAt }
  | .reportWireLimitDropped nowMS cancelled =>
    if system.waits then system
    else recordFailureEpisode pkg issueHostTelemetryFailed system "wire_limit" nowMS cancelled
  | .ackOutbox ids => { system with store := commit system.store (ackOutbox system.store ids) }
  | .restart => { system with reporter := .new, waits := false }

def failure? (system : HostSystem) : HostAction → Option (String × Int × Bool)
  | .receive nowMS cancelled =>
    match system.waits, system.reporter.result with
    | true, some outcome => if outcome.sample.isNone then some (outcome.detail, nowMS, cancelled) else none
    | _, _ => none
  | .reportWireLimitDropped nowMS cancelled =>
    if system.waits then none else some ("wire_limit", nowMS, cancelled)
  | _ => none

def closes (system : HostSystem) : HostAction → Bool
  | .markSent sampleID _ => !system.waits && decide (sampleID ≠ "")
  | .restart => true
  | _ => false

/-- The system, and whether a collection has failed since the start of the process and since the last delivery.
-/
structure HostHistory where
  system : HostSystem
  failed : Bool

def hostHistory (history : HostHistory) (action : HostAction) : HostHistory where
  system := hostStep pkg issueHostTelemetryFailed history.system action
  failed := !closes history.system action && (history.failed || (failure? history.system action).isSome)

def opening? (history : HostHistory) (action : HostAction) : Option (String × Int × Bool) :=
  if history.failed then none else failure? history.system action

def newEpisodeRows (before after : Store) : List OutboxRow :=
  after.outbox.table.rows.filter (fun row => decide (row.kind = .issue) &&
    decide (row.dedupeKey = issueHostTelemetryFailed) && !row.delivered &&
    decide (before.outbox.sequence < row.id))

structure Recordable (store : Store) (failure : String × Int × Bool) : Prop where
  unrecorded : store.outbox.table.find? (.issue, issueHostTelemetryFailed) = none
  timed : 0 ≤ failure.2.1
  running : failure.2.2 = false
  named : isBlank issueHostTelemetryFailed = false
  coded : issueHostTelemetryFailed.utf8ByteSize ≤ pkg.maxIssueCodeBytes
  bounded : (truncateUTF8 (truncateUTF8 failure.1 256) pkg.maxIssueDetailBytes).utf8ByteSize ≤
    pkg.maxIssueDetailBytes
  encoded : ∃ body, pkg.encodeIssue ⟨issueHostTelemetryFailed, "",
    truncateUTF8 (truncateUTF8 failure.1 256) pkg.maxIssueDetailBytes⟩ = .ok body
  numbered : store.outbox.sequence < maxInt64

end System

section Episodes

variable {pkg : Package} {issueHostTelemetryFailed : String} {store next : Store} {nowMS : Int} {detail : String}

theorem episodeOpen_launch (r : HostReporter) : r.launch.episodeOpen = r.episodeOpen := by
  unfold HostReporter.launch
  split <;> rfl

theorem episodeOpen_collect (r : HostReporter) (now : Int) : (r.collect now).1.episodeOpen = r.episodeOpen := by
  unfold HostReporter.collect
  split
  · exact episodeOpen_launch r
  · split
    · exact episodeOpen_launch _
    · rfl

theorem episodeOpen_step (system : HostSystem) (action : HostAction) :
    (hostStep pkg issueHostTelemetryFailed system action).reporter.episodeOpen =
    (!closes system action && (system.reporter.episodeOpen || (failure? system action).isSome)) := by
  have recorded : ∀ (system : HostSystem) detail nowMS cancelled,
      (recordFailureEpisode pkg issueHostTelemetryFailed system detail nowMS cancelled).reporter.episodeOpen =
        true := by
    intro system detail nowMS cancelled
    unfold recordFailureEpisode
    split
    · assumption
    · rfl
  cases action with
  | due shouldSend period =>
    simp only [hostStep, closes, failure?, HostReporter.due]
    split
    · simp
    · split <;> simp
  | collect now =>
    simp only [hostStep, closes, failure?]
    split
    · simp
    · simp [episodeOpen_collect]
  | collected answer now =>
    simp only [hostStep, closes, failure?, HostReporter.collected]
    split <;> simp
  | receive nowMS cancelled =>
    simp only [hostStep, closes, failure?]
    split
    · split
      · simp [recorded]
      · simp
    · simp
  | giveUp => simp [hostStep, closes, failure?]
  | markSent sampleID sentAt =>
    simp only [hostStep, closes, failure?, HostReporter.markSent]
    cases waits : system.waits with
    | true => simp
    | false =>
      by_cases blank : sampleID = ""
      · simp [blank]
      · simp [blank]
  | reportWireLimitDropped nowMS cancelled =>
    simp only [hostStep, closes, failure?]
    cases waits : system.waits with
    | true => simp
    | false => simp [recorded]
  | ackOutbox ids => simp [hostStep, closes, failure?]
  | restart => simp [hostStep, closes, HostReporter.new]

theorem store_step (system : HostSystem) (action : HostAction) :
    (hostStep pkg issueHostTelemetryFailed system action).store =
    match action, failure? system action with
    | .ackOutbox ids, _ => commit system.store (ackOutbox system.store ids)
    | _, some (detail, nowMS, cancelled) =>
      if system.reporter.episodeOpen ∨ cancelled then system.store
      else commit system.store (recordInOutbox pkg defaultIssueMapper nowMS system.store
        (hostIssue issueHostTelemetryFailed detail))
    | _, none => system.store := by
  have recorded : ∀ (system : HostSystem) detail nowMS cancelled,
      (recordFailureEpisode pkg issueHostTelemetryFailed system detail nowMS cancelled).store =
        if system.reporter.episodeOpen ∨ cancelled then system.store
        else commit system.store (recordInOutbox pkg defaultIssueMapper nowMS system.store
          (hostIssue issueHostTelemetryFailed detail)) := by
    intro system detail nowMS cancelled
    unfold recordFailureEpisode
    cases system.reporter.episodeOpen <;> cases cancelled <;> simp
  cases action with
  | due shouldSend period => simp only [hostStep, failure?]; split <;> rfl
  | collect now => simp only [hostStep, failure?]; split <;> rfl
  | collected answer now => simp only [hostStep, failure?]; split <;> rfl
  | receive nowMS cancelled =>
    simp only [hostStep, failure?]
    split
    · split
      · rw [recorded]
      · rfl
    · rfl
  | giveUp => rfl
  | markSent sampleID sentAt => simp only [hostStep, failure?]; split <;> rfl
  | reportWireLimitDropped nowMS cancelled =>
    simp only [hostStep, failure?]
    split
    · rfl
    · rw [recorded]
  | ackOutbox ids => rfl
  | restart => rfl

theorem newEpisodeRows_of_numbers {before after : Store}
    (old : ∀ row ∈ after.outbox.table.rows, row.id ≤ before.outbox.sequence) :
    newEpisodeRows issueHostTelemetryFailed before after = [] := by
  refine List.filter_eq_nil_iff.mpr ?_
  intro row member selected
  have bound := old row member
  simp only [Bool.and_eq_true, decide_eq_true_eq] at selected
  omega

theorem newEpisodeRows_self (store : Store) : newEpisodeRows issueHostTelemetryFailed store store = [] :=
  newEpisodeRows_of_numbers store.outbox.issued

theorem ackRow_sequence {id : Int} (done : ackRow store id = .ok next) :
    next.outbox.sequence = store.outbox.sequence := by
  obtain ⟨_, _, positive⟩ := bind_eq_ok.mp done
  obtain ⟨marked, updated, continued⟩ := bind_eq_ok.mp positive
  obtain ⟨tasks, _, same⟩ := bind_eq_ok.mp continued
  cases same
  exact (Queue.update_eq_some (orError_eq_ok.mp updated)).2

theorem newEpisodeRows_acked (store : Store) (ids : List Int) :
    newEpisodeRows issueHostTelemetryFailed store (commit store (ackOutbox store ids)) = [] := by
  refine commit_invariant (fun next => newEpisodeRows issueHostTelemetryFailed store next = [])
    (newEpisodeRows_self store) ?_
  intro next _ done
  obtain ⟨final, looped, same⟩ := bind_eq_ok.mp done
  cases same
  have kept : next.outbox.sequence = store.outbox.sequence :=
    forEach_invariant (fun state : Store => state.outbox.sequence = store.outbox.sequence)
      (fun _ _ _ _ before passed => (ackRow_sequence passed).trans before) rfl looped
  refine newEpisodeRows_of_numbers ?_
  intro row member
  exact kept ▸ next.outbox.issued row member

theorem newEpisodeRows_added {outbox : Outbox} {body : Bytes}
    (rows : outbox.table.rows = store.outbox.table.rows ++
      [newOutboxRow .issue issueHostTelemetryFailed body nowMS (store.outbox.sequence + 1)]) :
    (newEpisodeRows issueHostTelemetryFailed store { store with outbox := outbox }).length = 1 := by
  have old : newEpisodeRows issueHostTelemetryFailed store store = [] := newEpisodeRows_self store
  unfold newEpisodeRows at old ⊢
  dsimp only
  rw [rows, List.filter_append, old, List.nil_append, List.filter_cons_of_pos]
  · rfl
  · simp only [newOutboxRow, decide_true, Bool.not_false, Bool.true_and]
    exact decide_eq_true (Int.lt_succ store.outbox.sequence)

theorem recordable_of_added
    (done : recordInOutbox pkg defaultIssueMapper nowMS store
      (hostIssue issueHostTelemetryFailed detail) = .ok (next, true)) :
    Recordable pkg issueHostTelemetryFailed store (detail, nowMS, false) := by
  obtain ⟨mapped, classified, named⟩ := bind_eq_ok.mp done
  obtain ⟨_, _, coded⟩ := bind_eq_ok.mp named
  obtain ⟨_, short, keyed⟩ := bind_eq_ok.mp coded
  obtain ⟨_, _, deduped⟩ := bind_eq_ok.mp keyed
  obtain ⟨_, _, queued⟩ := bind_eq_ok.mp deduped
  have same : mapped = ⟨issueHostTelemetryFailed, "", truncateUTF8 detail 256⟩ := by
    have plain := withError_eq_ok.mp classified
    unfold defaultIssueMapper at plain
    split at plain
    · cases plain
    · cases plain
      rfl
  subst same
  obtain ⟨_, blank, sized⟩ := bind_eq_ok.mp queued
  obtain ⟨_, fits, encoding⟩ := bind_eq_ok.mp sized
  have filled := rejectIf_eq_ok.mp blank
  have bounds := rejectIf_eq_ok.mp fits
  simp only [not_or, Nat.not_lt, Int.not_lt] at filled bounds
  split at encoding
  · cases encoding
  · rename_i body encoded
    obtain ⟨_, _, decided⟩ := bind_eq_ok.mp encoding
    split at decided
    · cases decided
    · rename_i absent
      obtain ⟨outbox, pushed, _⟩ := bind_eq_ok.mp decided
      exact ⟨absent, filled.2.2, rfl, by simpa using filled.2.1, bounds.1, bounds.2.2, ⟨body, encoded⟩,
        Queue.push_numbered (orError_eq_ok.mp pushed)⟩

theorem added_of_recordable {cancelled : Bool}
    (recordable : Recordable pkg issueHostTelemetryFailed store (detail, nowMS, cancelled)) :
    ∃ next, recordInOutbox pkg defaultIssueMapper nowMS store (hostIssue issueHostTelemetryFailed detail) =
    .ok (next, true) := by
  obtain ⟨absent, timed, _, filled, coded, bounded, ⟨body, encoded⟩, numbered⟩ := recordable
  have named : issueHostTelemetryFailed ≠ "" := by
    rintro rfl
    cases filled
  obtain ⟨outbox, pushed⟩ := Queue.push_of_absent
    (newOutboxRow .issue issueHostTelemetryFailed body nowMS) (fun _ => rfl) absent (decide_eq_true timed) numbered
  refine ⟨{ store with outbox := outbox }, bind_eq_ok.mpr
    ⟨⟨issueHostTelemetryFailed, "", truncateUTF8 detail 256⟩, ?_, ?_⟩⟩
  · refine withError_eq_ok.mpr ?_
    rw [defaultIssueMapper, if_neg (show (hostIssue issueHostTelemetryFailed detail).kind ≠ "" from named)]
    rfl
  · refine bind_eq_ok.mpr ⟨(), rejectIf_eq_ok.mpr named, bind_eq_ok.mpr
      ⟨(), rejectIf_eq_ok.mpr (Nat.not_lt.mpr coded), bind_eq_ok.mpr
        ⟨(), rejectIf_eq_ok.mpr (Nat.not_lt.mpr (Nat.zero_le _)), bind_eq_ok.mpr
          ⟨(), rejectIf_eq_ok.mpr named, ?_⟩⟩⟩⟩
    refine bind_eq_ok.mpr ⟨(), rejectIf_eq_ok.mpr ?_, bind_eq_ok.mpr ⟨(), rejectIf_eq_ok.mpr ?_, ?_⟩⟩
    · rintro (blank | blank | early)
      · exact Bool.false_ne_true (filled.symm.trans blank)
      · exact Bool.false_ne_true (filled.symm.trans blank)
      · exact Int.not_lt.mpr timed early
    · rintro (long | long | long)
      · exact Nat.not_lt.mpr coded long
      · exact Nat.not_lt.mpr (Nat.zero_le _) long
      · exact Nat.not_lt.mpr bounded long
    · dsimp only [hostIssue] at *
      rw [encoded]
      refine bind_eq_ok.mpr ⟨(), rejectIf_eq_ok.mpr (by simp [checkOutbox, newOutboxRow, timed]), ?_⟩
      rw [absent]
      exact bind_eq_ok.mpr ⟨outbox, orError_eq_ok.mpr pushed, rfl⟩

theorem newEpisodeRows_recorded_iff (store : Store) (detail : String) (nowMS : Int) (cancelled : Bool) :
    (newEpisodeRows issueHostTelemetryFailed store
    (if cancelled then store else commit store (recordInOutbox pkg defaultIssueMapper nowMS store
      (hostIssue issueHostTelemetryFailed detail)))).length = 1 ↔
    Recordable pkg issueHostTelemetryFailed store (detail, nowMS, cancelled) := by
  have unchanged : (newEpisodeRows issueHostTelemetryFailed store store).length ≠ 1 := by
    rw [newEpisodeRows_self]
    decide
  cases cancelled with
  | true => exact ⟨fun one => absurd one unchanged, fun recordable => by cases recordable.running⟩
  | false =>
    rw [if_neg Bool.false_ne_true]
    constructor
    · intro one
      cases done : recordInOutbox pkg defaultIssueMapper nowMS store
          (hostIssue issueHostTelemetryFailed detail) with
      | error err =>
        rw [done] at one
        exact absurd one unchanged
      | ok pair =>
        obtain ⟨next, created⟩ := pair
        obtain ⟨mapped, step⟩ := recordInOutbox_ok done
        cases step with
        | taken row found =>
          rw [done] at one
          exact absurd one unchanged
        | added body outbox encoded absent sequence rows => exact recordable_of_added done
    · intro recordable
      obtain ⟨next, done⟩ := added_of_recordable recordable
      obtain ⟨mapped, step⟩ := recordInOutbox_ok done
      rw [done]
      cases step with
      | added body outbox encoded absent sequence rows => exact newEpisodeRows_added rows

theorem episodeOpen_run (store : Store) (actions : List HostAction) :
    (run (hostHistory pkg issueHostTelemetryFailed) ⟨⟨store, .new, false⟩, false⟩ actions).failed =
    (run (hostHistory pkg issueHostTelemetryFailed) ⟨⟨store, .new, false⟩, false⟩
      actions).system.reporter.episodeOpen := by
  refine run_invariant (fun history : HostHistory => history.failed = history.system.reporter.episodeOpen)
    ?_ rfl actions
  intro history action before
  show (!closes history.system action && (history.failed || (failure? history.system action).isSome)) = _
  rw [before]
  exact (episodeOpen_step history.system action).symm

end Episodes

/-- What an episode has to leave in the outbox: the step that opens it adds one undelivered row,
every other step none. -/
def Reported (pkg : Package) (issueHostTelemetryFailed : String) (history : HostHistory) (action : HostAction) :
    Prop :=
  let rows := newEpisodeRows issueHostTelemetryFailed history.system.store
    (hostHistory pkg issueHostTelemetryFailed history action).system.store
  match opening? history action with
  | some _ => rows.length = 1
  | none => rows = []

/-- After every history, and for every next step: an episode that opens is reported exactly when the outbox
never had a row for host telemetry. -/
theorem episode_reported_iff (pkg : Package) (issueHostTelemetryFailed : String) (store : Store)
    (actions : List HostAction) (action : HostAction) :
    let history := run (hostHistory pkg issueHostTelemetryFailed) ⟨⟨store, .new, false⟩, false⟩ actions
    Reported pkg issueHostTelemetryFailed history action ↔
      ∀ failure, opening? history action = some failure →
        Recordable pkg issueHostTelemetryFailed history.system.store failure := by
  intro history
  have flag : history.failed = history.system.reporter.episodeOpen := episodeOpen_run store actions
  unfold Reported
  cases opens : opening? history action with
  | none =>
    have quiet : newEpisodeRows issueHostTelemetryFailed history.system.store
        (hostHistory pkg issueHostTelemetryFailed history action).system.store = [] := by
      rw [hostHistory, store_step]
      split
      · exact newEpisodeRows_acked _ _
      · rename_i detail nowMS cancelled _ failed
        have open' : history.system.reporter.episodeOpen = true := by
          unfold opening? at opens
          split at opens
          · exact flag.symm.trans (by assumption)
          · rw [failed] at opens
            cases opens
        rw [if_pos (Or.inl open')]
        exact newEpisodeRows_self _
      · exact newEpisodeRows_self _
    exact ⟨fun _ failure impossible => absurd impossible (by simp), fun _ => quiet⟩
  | some failure =>
    obtain ⟨detail, nowMS, cancelled⟩ := failure
    have closed : history.system.reporter.episodeOpen = false := by
      unfold opening? at opens
      split at opens
      · cases opens
      · exact flag.symm.trans (Bool.eq_false_iff.mpr (by assumption))
    have failed : failure? history.system action = some (detail, nowMS, cancelled) := by
      unfold opening? at opens
      split at opens
      · cases opens
      · exact opens
    have written : (hostHistory pkg issueHostTelemetryFailed history action).system.store =
        if cancelled then history.system.store
        else commit history.system.store (recordInOutbox pkg defaultIssueMapper nowMS history.system.store
          (hostIssue issueHostTelemetryFailed detail)) := by
      rw [hostHistory, store_step, failed]
      cases action with
      | ackOutbox ids => cases failed
      | _ => simp [closed]
    dsimp only
    rw [written, newEpisodeRows_recorded_iff]
    exact ⟨fun recordable failure same => by cases same; exact recordable, fun all => all _ rfl⟩

def deliveredEpisode : List HostAction :=
  [.due true 60, .collect 0, .collected .fails 1, .receive 1 false, .ackOutbox [1],
    .collect 60, .collected (.observes ⟨"s1"⟩ true) 61, .receive 61 false, .markSent "s1" 62]

/-- The next failure opens an episode and leaves no row: the delivered one has its key. -/
theorem second_episode_unreported :
    let history := run (hostHistory .transparent "host_telemetry_failed") ⟨⟨.fresh, .new, false⟩, false⟩
      deliveredEpisode
    opening? history (.reportWireLimitDropped 63 false) = some ("wire_limit", 63, false) ∧
      ¬ Reported .transparent "host_telemetry_failed" history (.reportWireLimitDropped 63 false) := by
  refine ⟨by decide, ?_⟩
  show (newEpisodeRows _ _ _).length ≠ 1
  decide

end PasswallNode.Agent
