import PasswallNode.Agent.RoundOpening

/-! Accounts of clients over the lives of an agent. -/

namespace PasswallNode.Agent

open Foundation Protocol State Sqlite Relation

/-- Only the applied event makes an object applied; accepting a version may leave it so. -/
def Conformance.OnlyApplied (conformance : Conformance) : Prop :=
  ∀ object transition status, conformance.advanceObject object transition = .ok status →
    status.state = .applied → transition = .applied ∨ ∃ version atMS, transition = .accepted version atMS

section Uses

variable {p : Processor} {result : Bool} {nowMS : Int} {libs : Libraries} {start now : Moment} {key : String}
  {call : ProcessCall} {answer : call.Answer} {intake : Intake} {row : ClientRuntime} {store : Store}
  {response : SyncResponse} {later : Moment} {rest next : Round Bool}

def KeepsClients : ProcessCall → Prop
  | .store (.deleteClient _) => False
  | _ => True

theorem keepsClients_of_aside (call : ProcessCall) (aside : Aside call) : KeepsClients call := by
  cases call with
  | record | taskWake | acceptTasksFenced => trivial
  | _ => exact absurd aside id

theorem recordIssue_keeps (issue : LocalIssue) : Uses KeepsClients (recordIssue result issue) :=
  uses_mono (uses_recordIssue issue) keepsClients_of_aside

theorem noteIssue_keeps (issue : Option LocalIssue) : Uses KeepsClients (noteIssue result issue) := by
  cases issue with
  | none => exact uses_done _
  | some issue => exact recordIssue_keeps issue

theorem onRuntime_keeps (op : RuntimeOp) : Uses KeepsClients (onRuntime op) :=
  uses_call.mpr ⟨trivial, fun _ => uses_done _⟩

theorem optionalObject_keeps (name : Stream) (key : String) : Uses KeepsClients (optionalObject result name key) :=
  uses_call.mpr ⟨trivial, fun _ => uses_done _⟩

theorem upsertListeners_keeps (old : Option ConfigBody) (body : ConfigBody) (version : Version) :
    Uses KeepsClients (upsertListeners p result old body version nowMS) := by
  refine uses_each fun _ listener => ?_
  refine uses_bind (uses_onStore trivial) fun _ => uses_bind (optionalObject_keeps _ _) fun current => ?_
  refine uses_bind (uses_done _) fun status => uses_bind ?_ fun _ => uses_onStore trivial
  unfold convergeListener
  split
  · exact uses_done _
  · split
    · exact uses_done _
    · exact uses_bind (onRuntime_keeps _) fun _ => uses_done _

theorem pruneOrphanObjectStates_keeps (name : Stream) (desired kept : List String) :
    Uses KeepsClients (pruneOrphanObjectStates result name desired kept) := by
  refine uses_bind (uses_onStore trivial) fun objects => uses_each fun _ status => ?_
  split
  · exact uses_done _
  · exact uses_onStore trivial

theorem removeListeners_keeps (body : ConfigBody) (version : Version) :
    Uses KeepsClients (removeListeners p result body version nowMS) := by
  refine uses_bind (uses_onStore trivial) fun rows => ?_
  refine uses_bind (uses_each fun kept row => ?_) fun kept => pruneOrphanObjectStates_keeps _ _ _
  split
  · exact uses_done _
  · refine uses_bind ?_ fun _ => uses_done _
    refine uses_bind (optionalObject_keeps _ _) fun current => uses_bind (uses_done _) fun status => ?_
    refine uses_bind (onRuntime_keeps _) fun answer => uses_bind (uses_done _) fun next => ?_
    split
    · exact uses_bind (uses_onStore trivial) fun _ => uses_done _
    · exact uses_bind (uses_onStore trivial) fun _ => uses_done _

theorem evaluateAttachment_keeps (intake : Intake) (body : RosterBody) (states : List (String × ObjectState))
    (client : Client) (state : Attachments × Bool) (key : String) :
    Uses KeepsClients (evaluateAttachment p intake body states client state key) := by
  refine uses_bind ?_ fun rounds => uses_bind (uses_done _) fun decision => ?_
  · unfold observeSkew
    split
    · exact uses_onStore trivial
    · exact uses_bind (uses_onStore trivial) fun _ => uses_done _
  · exact uses_bind (noteIssue_keeps _) fun _ => uses_done _

theorem applyClient_keeps (intake : Intake) (body : RosterBody) (states : List (String × ObjectState))
    (client : Client) : Uses KeepsClients (applyClient p intake body states nowMS result client) := by
  refine uses_bind (uses_onStore trivial) fun _ => uses_bind (optionalObject_keeps _ _) fun current => ?_
  refine uses_bind (uses_done _) fun status => ?_
  split
  · exact uses_bind (uses_onStore trivial) fun _ => uses_done _
  · refine uses_bind (uses_each fun state key => evaluateAttachment_keeps _ _ _ _ _ _) fun evaluated => ?_
    refine uses_bind ?_ fun answer => uses_bind (uses_done _) fun next => ?_
    · unfold upsertClient
      split
      · exact uses_done _
      · exact onRuntime_keeps _
    · exact uses_bind (uses_onStore trivial) fun _ => uses_done _

theorem listenerStates_keeps (intake : Intake) : Uses KeepsClients (listenerStates intake result) :=
  uses_each fun _ _ => uses_bind (optionalObject_keeps _ _) fun _ => uses_done _

theorem finalizeRound_keeps (intake : Intake) (inRound : Bool) :
    Uses KeepsClients (finalizeRound p intake inRound result) := by
  unfold finalizeRound
  split
  · exact uses_done _
  · refine uses_call.mpr ⟨trivial, fun answer => ?_⟩
    cases answer with
    | ok _ => exact uses_done _
    | error err => exact recordIssue_keeps _

theorem recordObjectTimeouts_keeps : Uses KeepsClients (recordObjectTimeouts p nowMS result) := by
  refine uses_bind (uses_call.mpr ⟨trivial, fun _ => uses_done _⟩) fun objects => ?_
  exact uses_each fun _ _ => uses_bind (uses_done _) fun _ => noteIssue_keeps _

def Succeeded (start now : Moment) (op : RuntimeOp) : Prop :=
  ∃ calls, now.events = start.events ++ calls ∧ ⟨.runtime op, .ok ()⟩ ∈ calls

def Begun (start now : Moment) : Prop := ∃ calls, now.events = start.events ++ calls

def DeletesRemoved (start now : Moment) (call : ProcessCall) : Prop :=
  ∀ key, call = .store (.deleteClient key) → Succeeded start now (.removeClient key)

theorem stable_begun : Stable (around libs) (Begun start) := by
  rintro now later ⟨same, -⟩ begun
  rw [Begun, same]
  exact begun

theorem stable_succeeded (op : RuntimeOp) : Stable (around libs) (fun now => Succeeded start now op) := by
  rintro now later ⟨same, -⟩ succeeded
  rw [Succeeded, same]
  exact succeeded

theorem Begun.answered {later : Moment} (begun : Begun start now)
    (answered : (around libs).answers now call answer later) : Begun start later := by
  obtain ⟨calls, events⟩ := begun
  exact ⟨calls ++ [⟨call, answer⟩], by rw [answered.1, events, List.append_assoc]⟩

theorem ensures_keeps {α : Type} {program : Round α} (uses : Uses KeepsClients program) (begun : Begun start now) :
    Ends libs (DeletesRemoved start) (fun now _ => Begun start now) now program := by
  refine ensures_yields (ensures_of_uses stable_begun ?_ ?_ uses begun) (fun _ _ _ => trivial) (fun _ _ begun => begun)
  · exact fun now call answer later begun _ answered => begun.answered answered
  · rintro now call - keeps key rfl
    exact absurd keeps id

theorem applyRuntimeResult_ok {status next : ObjectStatus} {answer : Except RuntimeError Unit}
    (honest : p.conformance.OnlyApplied) (converged : applyRuntimeResult p status answer nowMS = .ok next)
    (applied : next.state = .applied) : answer = .ok () := by
  cases answer with
  | ok _ => rfl
  | error err =>
    simp only [applyRuntimeResult] at converged
    split at converged
    · rcases honest _ _ _ converged applied with impossible | ⟨_, _, impossible⟩ <;> cases impossible
    · rcases honest _ _ _ converged applied with impossible | ⟨_, _, impossible⟩ <;> cases impossible

theorem ensures_removeClient (honest : p.conformance.OnlyApplied) {version : Version} (begun : Begun start now) :
    Ends libs (DeletesRemoved start) (fun now _ => Begun start now) now
    (removeObject p result .roster key version nowMS (.removeClient key) (.deleteClient key)) := by
  refine ensures_bind (ensures_keeps (optionalObject_keeps _ _) begun) ?_
  intro now current begun
  refine ensures_bind (ensures_keeps (uses_done _) begun) ?_
  intro now status begun
  have removes : Ends libs (DeletesRemoved start) (fun now answer =>
      Begun start now ∧ (answer = .ok () → Succeeded start now (.removeClient key))) now
      (onRuntime (.removeClient key)) := by
    refine ensures_onRuntime stable_begun begun (fun _ _ _ impossible => by cases impossible) ?_
    rintro now answer ⟨calls, events⟩
    refine ⟨⟨calls ++ [⟨.runtime (.removeClient key), answer⟩], by rw [events, List.append_assoc]⟩, ?_⟩
    rintro rfl
    refine ⟨calls ++ [⟨.runtime (.removeClient key), .ok ()⟩], by rw [events, List.append_assoc], ?_⟩
    exact List.mem_append_right _ List.mem_cons_self
  refine ensures_bind removes ?_
  rintro now answer ⟨begun, removed⟩
  refine ends_orReturn fun next converged => ?_
  split
  · rename_i applied
    have deletes : Ends libs (DeletesRemoved start) (fun now _ => Begun start now) now
        (onStore result (.deleteClient key)) := by
      refine ensures_onStore (stable_begun.and (stable_succeeded _)) ⟨begun,
        removed (applyRuntimeResult_ok honest converged applied)⟩ ?_ ?_
        (fun _ _ _ _ => trivial)
      · rintro now ⟨-, succeeded⟩ other same
        cases same
        exact succeeded
      · rintro now next value ⟨⟨calls, events⟩, -⟩ -
        exact ⟨_, by rw [events, List.append_assoc]⟩
    exact ensures_bind deletes (fun _ _ begun => begun)
  · exact ensures_keeps (uses_bind (uses_onStore trivial) fun _ => uses_done _) begun

theorem ensures_removeClients (honest : p.conformance.OnlyApplied) {body : RosterBody} (begun : Begun start now) :
    Ends libs (DeletesRemoved start) (fun now _ => Begun start now) now
    (removeClients p intake body nowMS result) := by
  refine ensures_bind (ensures_keeps (uses_onStore trivial) begun) ?_
  intro now rows begun
  refine ensures_bind (ensures_each (fun _ _ now => Begun start now) begun ?_) ?_
  · intro passed row rest kept now _ begun
    split
    · exact begun
    · exact ensures_bind (ensures_removeClient honest begun) (fun _ _ begun => begun)
  · exact fun now kept begun => ensures_keeps (pruneOrphanObjectStates_keeps _ _ _) begun

theorem ensures_convergeRoster_removals (honest : p.conformance.OnlyApplied) (begun : Begun start now) :
    Ends libs (DeletesRemoved start) (fun now _ => Begun start now) now (convergeRoster p intake nowMS result) := by
  unfold convergeRoster
  split
  · exact begun
  · refine ensures_bind (ensures_keeps (listenerStates_keeps _) begun) ?_
    intro now states begun
    refine ensures_bind (ensures_keeps (uses_each fun _ _ => applyClient_keeps _ _ _ _) begun) ?_
    intro now noted begun
    exact ensures_bind (ensures_removeClients honest begun) (fun _ _ begun => begun)

theorem upsertConfig_keeps (intake : Intake) : Uses KeepsClients (upsertConfig p intake nowMS result) := by
  unfold upsertConfig
  split
  · exact uses_done _
  · exact upsertListeners_keeps _ _ _

theorem removeConfig_keeps (intake : Intake) : Uses KeepsClients (removeConfig p intake nowMS result) := by
  unfold removeConfig
  split
  · exact uses_done _
  · exact removeListeners_keeps _ _

theorem ensures_convergeDocuments_removals (honest : p.conformance.OnlyApplied) (begun : Begun start now) :
    Ends libs (DeletesRemoved start) (fun now _ => Begun start now) now
    (convergeDocuments p intake nowMS result) := by
  refine ensures_bind (ensures_keeps (upsertConfig_keeps _) begun) ?_
  intro now _ begun
  refine ensures_bind (ensures_convergeRoster_removals honest begun) ?_
  intro now noted begun
  exact ensures_bind (ensures_keeps (removeConfig_keeps _) begun) (fun _ _ begun => begun)

theorem ensures_runRound_removals (honest : p.conformance.OnlyApplied) (begun : Begun start now) :
    Ends libs (DeletesRemoved start) (fun now _ => Begun start now) now (runRound p intake nowMS result) := by
  have opens : Uses KeepsClients (newRound result) := uses_call.mpr ⟨trivial, fun _ => uses_done _⟩
  refine ensures_bind (ensures_keeps opens begun) ?_
  intro now inRound begun
  refine ensures_bind (ensures_convergeDocuments_removals honest begun) ?_
  intro now noted begun
  exact ensures_keeps (uses_bind (finalizeRound_keeps _ _) fun _ => recordObjectTimeouts_keeps) begun

/-- A client may be deleted: the stored roster has a version and not the client, which the runtime has removed in
this round; if it was rostered before, this response carried the body without it. -/
structure Dismissed (libs : Libraries) (response : SyncResponse) (start now : Moment) (key : String) : Prop where
  version : (storedVersion now.store .roster).zero = false
  absent : ∃ roster, storedBody libs.wire.roster now.store .roster = some roster ∧
    key ∉ roster.clients.map Client.key
  removed : Succeeded start now (.removeClient key)
  replaced : ∀ roster, storedBody libs.wire.roster start.store .roster = some roster →
    key ∈ roster.clients.map Client.key → response.roster.unchanged = false ∧
      response.roster.body = storedBody libs.wire.roster now.store .roster

def CountersMoved (libs : Libraries) (store next : Store) : Prop :=
  ∃ call, (match call with
    | .updateCounters _ _ | .applyCounterBatch _ _ => True
    | _ => False) ∧ next = perform libs.lib store call

theorem ensures_process_deletions (sound : SoundStore libs start.store) (wired : p.wire = libs.wire)
    (honest : p.conformance.OnlyApplied) :
    Ends libs (fun now call => ∀ key, call = .store (.deleteClient key) → Dismissed libs response start now key)
      (fun _ _ => True) start (process p nowMS response) := by
  refine ensures_process sound wired ?_ (fun _ _ _ => trivial) ?_
  · rintro now call - opening key rfl
    exact absurd trivial opening
  · intro now intake noted timed readied
    obtain ⟨after, received, mirrored⟩ := readied.received
    have calls : Ensures (around libs) _ _ now (runRound p intake nowMS noted) :=
      ensures_runRound_calls timed.le readied.opened.valid stable_opening readied.opening
        ⟨readied.opening.sound, mirrored⟩
    obtain ⟨events, earlier, -⟩ := readied.opening.events
    have removals : Ensures (around libs) _ _ now (runRound p intake nowMS noted) :=
      ensures_runRound_removals honest ⟨events, earlier⟩
    refine ensures_mono (ensures_and calls removals) ?_ ?_
    · rintro later call ⟨⟨⟨-, same⟩, allowed⟩, removed⟩ key rfl
      rcases allowed with ⟨impossible, -⟩ | ⟨-, roster, document, absent⟩
      · cases impossible
      obtain ⟨present, held⟩ := rosterDocument_eq_some document
      have find : later.store.streams.find? .roster = now.store.streams.find? .roster :=
        (same .roster).trans (mirrored .roster).symm
      have stored : storedBody libs.wire.roster later.store .roster = some roster := by
        rw [storedBody_congr find, ← readied.opened.agrees.roster, held]
      refine ⟨?_, ⟨roster, stored, absent⟩, removed key rfl, ?_⟩
      · rw [storedVersion, find]
        rw [readied.opened.rosterVersion] at present
        exact present
      · intro old begun listed
        rw [storedBody_congr (same .roster)] at stored
        rcases receive_roster_source sound received with kept | ⟨changed, body, carried, accepted⟩
        · rw [kept, begun] at stored
          cases stored
          exact absurd listed absent
        · rw [storedBody_congr (same .roster)]
          exact ⟨changed, carried.trans accepted.symm⟩
    · intro later outcome _
      cases outcome <;> trivial

theorem rolledOver_account {atMS : Int} {after : ClientRuntime} (chain : ReflTransGen (RolledOver atMS) row after) :
    SameAccount row after := by
  induction chain with
  | refl => exact sameAccount_refl _
  | tail _ last ih =>
    cases last with
    | intro due => exact ih.trans ⟨rfl, rfl, rfl, rfl⟩

theorem perform_rollover {call : ClientCall}
    (scheduled : ∃ atMS, (∃ key, call = .applyScheduledQuota key atMS) ∨ call = .applyScheduledQuotas atMS) :
    AccountsKept store (perform libs.lib store call) := by
  have kept : ∃ atMS, Table.Evolves (RolledOver atMS) store.clients (perform libs.lib store call).clients := by
    obtain ⟨atMS, ⟨key, rfl⟩ | rfl⟩ := scheduled
    · exact ⟨atMS, commit_invariant (fun next : Store => Table.Evolves (RolledOver atMS) store.clients next.clients)
        (Table.evolves_refl _) (fun _ _ done => applyScheduledQuota_evolves done)⟩
    · exact ⟨atMS, commit_invariant (fun next : Store => Table.Evolves (RolledOver atMS) store.clients next.clients)
        (Table.evolves_refl _) (fun _ _ done => applyScheduledQuotas_evolves done)⟩
  obtain ⟨atMS, evolved⟩ := kept
  intro key row found
  obtain ⟨after, present, chain⟩ := evolved.later found
  exact ⟨after, present, rolledOver_account chain⟩

theorem elsewhere_accounts {after : Store} (moved : Elsewhere libs store after) :
    AccountsKept store after ∨ CountersMoved libs store after := by
  cases moved with
  | tasks tasks outbox => exact Or.inl (accountsKept_of_clients rfl)
  | count call counts =>
    cases call with
    | updateCounters update atMS => exact Or.inr ⟨_, trivial, rfl⟩
    | applyCounterBatch batch atMS => exact Or.inr ⟨_, trivial, rfl⟩
    | applyScheduledQuota key atMS => exact Or.inl (perform_rollover ⟨atMS, Or.inl ⟨key, rfl⟩⟩)
    | applyScheduledQuotas atMS => exact Or.inl (perform_rollover ⟨atMS, Or.inr rfl⟩)
    | _ => exact absurd counts id

theorem answered_accounts (answered : (around libs).answers now call answer later)
    (found : now.store.clients.find? key = some row) :
    (∃ after, later.store.clients.find? key = some after ∧ SameAccount row after) ∨
    call = .store (.deleteClient key) := by
  obtain ⟨store, events⟩ := later
  obtain ⟨-, served⟩ := answered
  cases call with
  | store call =>
    change serve libs now.store call = (store, answer) at served
    cases done : transaction libs now.store call with
    | error err =>
      rw [serve_error done] at served
      cases served
      exact Or.inl ⟨row, found, sameAccount_refl row⟩
    | ok pair =>
      rw [serve_ok done] at served
      cases served
      by_cases deletes : ∃ other, call = .deleteClient other
      · obtain ⟨other, rfl⟩ := deletes
        by_cases same : other = key
        · exact Or.inr (by rw [same])
        · refine Or.inl ⟨row, ?_, sameAccount_refl row⟩
          rw [deleteClient_ok done key, if_neg (fun eq => same eq.symm)]
          exact found
      · exact Or.inl (transaction_accounts (fun other eq => deletes ⟨other, eq⟩) done key row found)
  | _ =>
    cases (show store = now.store from served)
    exact Or.inl ⟨row, found, sameAccount_refl row⟩

/-- The row of a client stays, as it was counted unless counters are applied; or the client may be deleted. -/
theorem account_kept_until_dismissed (lived : Life libs (fun _ _ _ _ => True) start) (wired : p.wire = libs.wire)
    (honest : p.conformance.OnlyApplied)
    (ran : Among (around libs) (start, process p nowMS response) (now, rest))
    (step : (around libs).Step (now, rest) (later, next)) (row : ClientRuntime)
    (found : now.store.clients.find? key = some row) :
    (∃ after, later.store.clients.find? key = some after ∧
      (SameAccount row after ∨ CountersMoved libs now.store later.store)) ∨
    Dismissed libs response start now key := by
  have ensured := ensures_among
    (fun result => stable_const (Yields (fun _ => True) (fun _ => True) result)) ran
    (ensures_process_deletions (life_sound lived) wired honest)
  cases step with
  | move moved =>
    obtain ⟨after, present, -⟩ := (elsewhere_counting moved.2).clients.later found
    refine Or.inl ⟨after, present, ?_⟩
    rcases elsewhere_accounts moved.2 with kept | counted
    · obtain ⟨same, there, account⟩ := kept key row found
      rw [present] at there
      cases there
      exact Or.inl account
    · exact Or.inr counted
  | call answered =>
    rcases answered_accounts answered found with ⟨after, present, account⟩ | deletes
    · exact Or.inl ⟨after, present, Or.inl account⟩
    · exact Or.inr (ensures_allows ensured key deletes)

theorem plain_onlyApplied : Conformance.plain.OnlyApplied := by
  rintro object transition status ⟨⟩ applied
  cases transition with
  | applied => exact Or.inl rfl
  | accepted version atMS => exact Or.inr ⟨version, atMS, rfl⟩
  | _ => cases applied

def leaverRoster (clients : List Client) : RosterBody := ⟨⟨1, 1⟩, clients, ⟨clients.length, 0, clients.length⟩⟩

def leaverLibs : Libraries :=
  ⟨.transparent, .transparent, .ofTables [gapConfig] [leaverRoster [gapClient], leaverRoster []] [gapDirectives 1]⟩

def leaverProcessor : Processor := ⟨⟨.ok [], id⟩, leaverLibs.wire, .plain, 3, 60000, false, false⟩

def leaverResponse (version : Nat) (clients : List Client) : SyncResponse where
  config := ⟨⟨1, 1⟩, leaverLibs.lib.sha256Hex [0], false, some gapConfig⟩
  roster := ⟨⟨1, version⟩, leaverLibs.lib.sha256Hex (if clients = [] then [0, 0] else [0]), false,
    some (leaverRoster clients)⟩
  directives := ⟨⟨1, 1⟩, leaverLibs.lib.sha256Hex [0], false, some (gapDirectives 1)⟩
  tasks := []

def leaverRound (calls : Nat) (start : Moment) (response : SyncResponse) : Moment × Round Bool :=
  execFor (Moment.answering leaverLibs (fun call => (gapSurroundings () Store.fresh call).2)) calls start
    (process leaverProcessor 5 response)

def leaverStart : Moment := (leaverRound 24 ⟨Store.fresh, []⟩ (leaverResponse 1 [gapClient])).1

theorem leaver_dismissed :
    Dismissed leaverLibs (leaverResponse 2 []) leaverStart (leaverRound 16 leaverStart (leaverResponse 2 [])).1
      "c1" := by
  have wired : leaverProcessor.wire = leaverLibs.wire := rfl
  have lived : Life leaverLibs (fun _ _ _ _ => True) leaverStart := life_execFor 24 .fresh wired trivial
  have honest : leaverProcessor.conformance.OnlyApplied := plain_onlyApplied
  let now := leaverRound 16 leaverStart (leaverResponse 2 [])
  have ran : Among (around leaverLibs) (leaverStart, process leaverProcessor 5 (leaverResponse 2 []))
      (now.1, now.2) := among_execFor (answering_around leaverLibs _) 16
  have step : (around leaverLibs).Step (now.1, now.2)
      ((leaverRound 17 leaverStart (leaverResponse 2 [])).1, (leaverRound 17 leaverStart (leaverResponse 2 [])).2) :=
    step_execFor (answering_around leaverLibs _) (by decide +kernel)
  have gone : (leaverRound 17 leaverStart (leaverResponse 2 [])).1.store.clients.find? "c1" = none := by
    decide +kernel
  have there : ∃ row, now.1.store.clients.find? "c1" = some row :=
    Option.isSome_iff_exists.mp (by decide +kernel)
  obtain ⟨row, found⟩ := there
  rcases account_kept_until_dismissed lived wired honest ran step row found with
    ⟨after, present, -⟩ | dismissed
  · rw [gone] at present
    cases present
  · exact dismissed

end Uses

end PasswallNode.Agent
