import PasswallNode.Sqlite.ClientRuns

/-! A quota period is granted once, though the control plane repeats a grant on every heartbeat. -/

namespace PasswallNode.Sqlite

open Foundation Protocol State Relation

structure StoredGrant where
  baselineBytes : Option Int
  headroomBytes : Option Int
  periodEndsAtMS : Int
  nextPeriodHeadroomBytes : Option Int
  deriving DecidableEq, Repr

def storedGrant (row : ClientRuntime) : StoredGrant :=
  ⟨row.baselineBytes, row.headroomBytes, row.periodEndsAtMS, row.nextPeriodHeadroomBytes⟩

def grantedPeriod (grant : QuotaGrant) : StoredGrant :=
  ⟨pointerIfConfigured grant.baselineBytes grant.headroomBytes, grant.headroomBytes,
    grant.periodEndsAtMS, grant.nextPeriodHeadroomBytes⟩

def nextPeriod (baseline headroom : Int) : StoredGrant := ⟨some baseline, some headroom, 0, none⟩

theorem encodeGrant_injective : Function.Injective encodeGrant := by
  intro left right same
  have fields := (String.append_right_inj _).mp same
  obtain ⟨baseline, fields⟩ := append_delimited_inj (by decide) (undelimited_jsonInt _)
    (undelimited_jsonInt _) fields
  obtain ⟨headroom, fields⟩ := append_delimited_inj (by decide) (undelimited_jsonNullableInt _)
    (undelimited_jsonNullableInt _) fields
  obtain ⟨period, fields⟩ := append_delimited_inj (by decide) (undelimited_jsonInt _)
    (undelimited_jsonInt _) fields
  have next := (String.append_left_inj _).mp fields
  cases left
  cases right
  rw [QuotaGrant.mk.injEq]
  exact ⟨jsonInt_injective baseline, jsonNullableInt_injective headroom, jsonInt_injective period,
    jsonNullableInt_injective next⟩

variable {row after : ClientRuntime} {nowMS : Int} {key : String} {call : ClientCall}

theorem counted_storedGrant (chain : ReflTransGen Counted row after) :
    storedGrant after = storedGrant row ∧ after.quotaFingerprint = row.quotaFingerprint := by
  induction chain with
  | refl => exact ⟨rfl, rfl⟩
  | tail _ last ih =>
    cases last with
    | intro _ => exact ih

theorem rolledOver_once (chain : ReflTransGen (RolledOver nowMS) row after) :
    after = row ∨ ∃ baseline headroom gate, Rollover row nowMS baseline headroom gate ∧
    after = rolloverRow baseline headroom gate nowMS row := by
  induction chain with
  | refl => exact Or.inl rfl
  | tail _ last ih =>
    cases last with
    | intro due =>
      rcases ih with rfl | ⟨baseline, headroom, gate, _, rfl⟩
      · exact Or.inr ⟨_, _, _, due, rfl⟩
      · cases due.next

/-- Calls that deliver no other grant to the client and do not remove it. -/
def ClientCall.Redelivers (key : String) (grant : QuotaGrant) : ClientCall → Prop
  | .applyQuota other delivered _ => other = key → delivered = grant
  | .deleteClient other => other ≠ key
  | _ => True

/-- Calls that look for a due rollover of the client at a given time. -/
def ClientCall.Schedules (key : String) (nowMS : Int) : ClientCall → Prop
  | .applyScheduledQuota other atMS => other = key ∧ atMS = nowMS
  | .applyScheduledQuotas atMS => atMS = nowMS
  | _ => False

/-- What such a call can do to the row: leave its grant alone, or roll it over. -/
inductive PeriodStep (key : String) (call : ClientCall) : ClientRuntime → ClientRuntime → Prop where
  | kept {row after : ClientRuntime} (same : storedGrant after = storedGrant row)
      (fingerprint : after.quotaFingerprint = row.quotaFingerprint) : PeriodStep key call row after
  | rolledOver {row : ClientRuntime} {nowMS baseline headroom : Int} {gate : GateState}
      (scheduled : call.Schedules key nowMS) (due : Rollover row nowMS baseline headroom gate) :
      PeriodStep key call row (rolloverRow baseline headroom gate nowMS row)

theorem PeriodStep.fingerprint_eq (step : PeriodStep key call row after) :
    after.quotaFingerprint = row.quotaFingerprint := by
  cases step with
  | kept _ same => exact same
  | rolledOver _ _ => rfl

theorem periodStep_of_rolledOver (scheduled : call.Schedules key nowMS)
    (chain : ReflTransGen (RolledOver nowMS) row after) : PeriodStep key call row after := by
  rcases rolledOver_once chain with rfl | ⟨baseline, headroom, gate, due, rfl⟩
  · exact .kept rfl rfl
  · exact .rolledOver scheduled due

section Period

variable {lib : Library} {key : String} {grant : QuotaGrant}

variable {store next : Store} {call : ClientCall}

theorem applyQuota_repeated {row : ClientRuntime} {atMS : Int} (found : store.clients.find? key = some row)
    (current : row.quotaFingerprint = quotaFingerprint lib grant)
    (done : applyQuota lib store key grant atMS = .ok (next, ())) : next = store := by
  obtain ⟨_, clients, applied, rfl⟩ := applyQuota_ok done
  obtain ⟨other, present, ⟨_, rfl⟩ | ⟨fresh, _⟩⟩ := applyQuotaTx_ok applied
  · rfl
  · rw [found] at present
    cases present
    exact absurd current fresh

theorem applyQuota_other {other : String} {atMS : Int} (apart : other ≠ key)
    (done : applyQuota lib store other grant atMS = .ok (next, ())) :
    next.clients.find? key = store.clients.find? key := by
  obtain ⟨_, clients, applied, rfl⟩ := applyQuota_ok done
  obtain ⟨_, _, ⟨_, rfl⟩ | ⟨_, _, _, rewritten⟩⟩ := applyQuotaTx_ok applied
  · rfl
  · rw [rewritten key, if_neg (Ne.symm apart)]

theorem applyScheduledQuota_other {other : String} {nowMS : Int} {applied : Bool} (apart : other ≠ key)
    (done : applyScheduledQuota store other nowMS = .ok (next, applied)) :
    next.clients.find? key = store.clients.find? key := by
  simp only [applyScheduledQuota, bind_eq_ok] at done
  obtain ⟨⟨clients, changed⟩, rolled, finished⟩ := done
  cases finished
  obtain ⟨_, _, ⟨_, rfl, _⟩ | ⟨_, _, _, _, _, rewritten⟩⟩ := applyScheduledQuotaTx_ok rolled
  · rfl
  · rw [rewritten key, if_neg (Ne.symm apart)]

theorem perform_period {row : ClientRuntime} (found : store.clients.find? key = some row)
    (current : row.quotaFingerprint = quotaFingerprint lib grant) (redelivers : call.Redelivers key grant) :
    ∃ after, (perform lib store call).clients.find? key = some after ∧ PeriodStep key call row after := by
  have unchanged : ∃ after, store.clients.find? key = some after ∧ PeriodStep key call row after :=
    ⟨row, found, .kept rfl rfl⟩
  let holds : Store → Prop := fun s =>
    ∃ after, s.clients.find? key = some after ∧ PeriodStep key call row after
  cases call with
  | ensureClient identity atMS =>
    refine commit_invariant holds unchanged fun next _ done => ⟨row, ?_, .kept rfl rfl⟩
    rw [ensureClient_ok done, found]
    simp
  | updateCounters update atMS =>
    refine commit_invariant holds unchanged fun next _ done => ?_
    obtain ⟨after, present, chain⟩ := (updateCounters_evolves done).later found
    exact ⟨after, present, .kept (counted_storedGrant chain).1 (counted_storedGrant chain).2⟩
  | applyCounterBatch batch atMS =>
    refine commit_invariant holds unchanged fun next _ done => ?_
    obtain ⟨after, present, chain⟩ := (applyCounterBatch_evolves done).later found
    exact ⟨after, present, .kept (counted_storedGrant chain).1 (counted_storedGrant chain).2⟩
  | applyQuota other delivered atMS =>
    refine commit_invariant holds unchanged fun next _ done => ⟨row, ?_, .kept rfl rfl⟩
    by_cases here : other = key
    · cases here
      cases redelivers rfl
      rw [applyQuota_repeated found current done, found]
    · rw [applyQuota_other here done, found]
  | applyScheduledQuota other nowMS =>
    refine commit_invariant holds unchanged fun next _ done => ?_
    by_cases here : other = key
    · cases here
      obtain ⟨after, present, chain⟩ := (applyScheduledQuota_evolves done).later found
      exact ⟨after, present, periodStep_of_rolledOver ⟨rfl, rfl⟩ chain⟩
    · exact ⟨row, (applyScheduledQuota_other here done).trans found, .kept rfl rfl⟩
  | applyScheduledQuotas nowMS =>
    refine commit_invariant holds unchanged fun next _ done => ?_
    obtain ⟨after, present, chain⟩ := (applyScheduledQuotas_evolves done).later found
    exact ⟨after, present, periodStep_of_rolledOver rfl chain⟩
  | deleteClient other =>
    refine commit_invariant holds unchanged fun next _ done => ⟨row, ?_, .kept rfl rfl⟩
    rw [deleteClient_ok done, if_neg (Ne.symm redelivers), found]

def InPeriod (lib : Library) (key : String) (grant : QuotaGrant) (store : Store) : Prop :=
  ∃ row, store.clients.find? key = some row ∧
    row.quotaFingerprint = quotaFingerprint lib grant ∧
    (storedGrant row = grantedPeriod grant ∨ row.nextPeriodHeadroomBytes = none)

theorem perform_inPeriod (redelivers : call.Redelivers key grant) (before : InPeriod lib key grant store) :
    InPeriod lib key grant (perform lib store call) := by
  obtain ⟨row, found, current, phase⟩ := before
  obtain ⟨after, present, step⟩ := perform_period found current redelivers
  refine ⟨after, present, step.fingerprint_eq.trans current, ?_⟩
  cases step with
  | kept same _ =>
    rcases phase with granted | settled
    · exact Or.inl (same.trans granted)
    · exact Or.inr ((congrArg StoredGrant.nextPeriodHeadroomBytes same).trans settled)
  | rolledOver _ _ => exact Or.inr rfl

def Settled (lib : Library) (key : String) (grant : QuotaGrant) (stored : StoredGrant)
    (store : Store) : Prop :=
  stored.nextPeriodHeadroomBytes = none ∧
    ∃ row, store.clients.find? key = some row ∧
      row.quotaFingerprint = quotaFingerprint lib grant ∧ storedGrant row = stored

theorem perform_settled {stored : StoredGrant} (redelivers : call.Redelivers key grant)
    (before : Settled lib key grant stored store) : Settled lib key grant stored (perform lib store call) := by
  obtain ⟨unscheduled, row, found, current, same⟩ := before
  obtain ⟨after, present, step⟩ := perform_period found current redelivers
  refine ⟨unscheduled, after, present, step.fingerprint_eq.trans current, ?_⟩
  cases step with
  | kept kept _ => exact kept.trans same
  | rolledOver _ due =>
    have scheduled : stored.nextPeriodHeadroomBytes = some _ :=
      (congrArg StoredGrant.nextPeriodHeadroomBytes same).symm.trans due.next
    rw [unscheduled] at scheduled
    cases scheduled

def recordGrant (lib : Library) (key : String) :
    Store × Option QuotaGrant → ClientCall → Store × Option QuotaGrant
  | (store, last), call =>
    (perform lib store call,
      match call with
      | .applyQuota other grant atMS =>
        if other = key ∧ (applyQuota lib store other grant atMS).isOk then some grant else last
      | .deleteClient other =>
        if other = key ∧ (deleteClient store other).isOk then none else last
      | _ => last)

structure Remembers (lib : Library) (key : String) (store : Store) (last : Option QuotaGrant) :
    Prop where
  absent : store.clients.find? key = none → last = none
  present : ∀ row, store.clients.find? key = some row →
    row.quotaFingerprint = last.elim "" (quotaFingerprint lib)

variable {last : Option QuotaGrant} {row : ClientRuntime} {atMS : Int}

theorem remembers_of_same (same : next.clients.find? key = store.clients.find? key)
    (before : Remembers lib key store last) : Remembers lib key next last :=
  ⟨fun missing => before.absent (same ▸ missing), fun row found => before.present row (same ▸ found)⟩

theorem remembers_of_evolves {change : ClientRuntime → ClientRuntime → Prop}
    (keeps : ∀ row after, change row after → after.quotaFingerprint = row.quotaFingerprint)
    (evolved : Table.Evolves change store.clients next.clients) (before : Remembers lib key store last) :
    Remembers lib key next last := by
  constructor
  · intro missing
    cases found : store.clients.find? key with
    | none => exact before.absent found
    | some row =>
      obtain ⟨after, present, _⟩ := evolved.later found
      rw [missing] at present
      cases present
  · intro row found
    obtain ⟨origin, present, chain⟩ := evolved.origin found
    have initial := before.present origin present
    clear found
    induction chain with
    | refl => exact initial
    | tail _ step ih => exact (keeps _ _ step).trans ih

theorem Counted.fingerprint {after : ClientRuntime} (changed : Counted row after) :
    after.quotaFingerprint = row.quotaFingerprint := by cases changed; rfl

theorem RolledOver.fingerprint {nowMS : Int} {after : ClientRuntime} (changed : RolledOver nowMS row after) :
    after.quotaFingerprint = row.quotaFingerprint := by
  cases changed; rfl

theorem ensureClient_remembers {identity : ClientIdentity} (before : Remembers lib key store last)
    (done : ensureClient store identity atMS = .ok (next, ())) : Remembers lib key next last := by
  by_cases here : identity.key = key
  · cases old : store.clients.find? key with
    | some row =>
      refine remembers_of_same ?_ before
      rw [ensureClient_ok done, old, if_pos here]
      rfl
    | none =>
      have created : next.clients.find? key = some (newClient identity atMS) := by
        rw [ensureClient_ok done, old, if_pos here]
        rfl
      rw [before.absent old]
      constructor
      · intro _; rfl
      · intro row found
        rw [created] at found
        cases found
        rfl
  · refine remembers_of_same ?_ before
    rw [ensureClient_ok done, if_neg here]

theorem applyQuota_remembers {grant : QuotaGrant} (done : applyQuota lib store key grant atMS = .ok (next, ())) :
    Remembers lib key next (some grant) := by
  obtain ⟨_, clients, applied, rfl⟩ := applyQuota_ok done
  obtain ⟨current, found, ⟨repeated, rfl⟩ | ⟨_, gate, _, rewritten⟩⟩ := applyQuotaTx_ok applied
  · refine ⟨fun missing => ?_, fun row present => ?_⟩
    · rw [found] at missing; cases missing
    · rw [found] at present; cases present; exact repeated
  · have present : clients.find? key = some (grantRow lib grant gate atMS current) := by
      rw [rewritten key, if_pos rfl]
    refine ⟨fun missing => ?_, fun row stored => ?_⟩
    · rw [present] at missing; cases missing
    · rw [present] at stored; cases stored; rfl

theorem deleteClient_remembers (done : deleteClient store key = .ok (next, ())) : Remembers lib key next none := by
  have missing := deleteClient_ok done key
  rw [if_pos rfl] at missing
  exact ⟨fun _ => rfl, fun row found => by rw [missing] at found; cases found⟩

theorem recordGrant_remembers (state : Store × Option QuotaGrant) (call : ClientCall)
    (before : Remembers lib key state.1 state.2) :
    Remembers lib key (recordGrant lib key state call).1 (recordGrant lib key state call).2 := by
  obtain ⟨store, last⟩ := state
  cases call with
  | ensureClient identity atMS =>
    exact commit_invariant (fun s => Remembers lib key s last) before fun _ _ done =>
      ensureClient_remembers before done
  | updateCounters update atMS =>
    exact commit_invariant (fun s => Remembers lib key s last) before fun _ _ done =>
      remembers_of_evolves (fun _ _ => Counted.fingerprint) (updateCounters_evolves done) before
  | applyCounterBatch batch atMS =>
    exact commit_invariant (fun s => Remembers lib key s last) before fun _ _ done =>
      remembers_of_evolves (fun _ _ => Counted.fingerprint) (applyCounterBatch_evolves done) before
  | applyScheduledQuota other nowMS =>
    exact commit_invariant (fun s => Remembers lib key s last) before fun _ _ done =>
      remembers_of_evolves (fun _ _ => RolledOver.fingerprint) (applyScheduledQuota_evolves done) before
  | applyScheduledQuotas nowMS =>
    exact commit_invariant (fun s => Remembers lib key s last) before fun _ _ done =>
      remembers_of_evolves (fun _ _ => RolledOver.fingerprint) (applyScheduledQuotas_evolves done)
        before
  | applyQuota other grant atMS =>
    simp only [recordGrant, perform]
    cases result : applyQuota lib store other grant atMS with
    | error err => simpa [Except.isOk, Except.toBool, commit] using before
    | ok pair =>
      by_cases here : other = key
      · cases here
        simpa [Except.isOk, Except.toBool, commit] using applyQuota_remembers result
      · simpa [Except.isOk, Except.toBool, commit, here] using
          remembers_of_same (applyQuota_other here result) before
  | deleteClient other =>
    simp only [recordGrant, perform]
    cases result : deleteClient store other with
    | error err => simpa [Except.isOk, Except.toBool, commit] using before
    | ok pair =>
      by_cases here : other = key
      · cases here
        simpa [Except.isOk, Except.toBool, commit] using deleteClient_remembers result
      · have same := deleteClient_ok result key
        rw [if_neg (Ne.symm here)] at same
        simpa [Except.isOk, Except.toBool, commit, here] using remembers_of_same same before

theorem run_remembers (history : List ClientCall) :
    Remembers lib key (run (recordGrant lib key) (Store.fresh, none) history).1
    (run (recordGrant lib key) (Store.fresh, none) history).2 :=
  run_invariant (fun state : Store × Option QuotaGrant => Remembers lib key state.1 state.2)
    recordGrant_remembers ⟨fun _ => rfl, fun _ found => by cases found⟩ history

theorem fingerprint_of_different {grant : QuotaGrant} (remembered : Remembers lib key store last)
    (found : store.clients.find? key = some row) (different : last ≠ some grant)
    (collisionFree : ∀ previous, last = some previous → quotaFingerprint lib previous = quotaFingerprint lib grant →
      textBytes (encodeGrant previous) = textBytes (encodeGrant grant)) :
    row.quotaFingerprint ≠ quotaFingerprint lib grant := by
  rw [remembered.present row found]
  cases last with
  | none => exact (lib.sha256Hex_ne_empty _).symm
  | some previous =>
    intro same
    have encoded := textBytes_injective (collisionFree previous rfl same)
    exact different (by rw [encodeGrant_injective encoded])

theorem applyQuota_starts_period {grant : QuotaGrant} (found : store.clients.find? key = some row)
    (fresh : row.quotaFingerprint ≠ quotaFingerprint lib grant)
    (accepted : applyQuota lib store key grant atMS = .ok (next, ())) :
    ∃ started, next.clients.find? key = some started ∧ started.quotaFingerprint = quotaFingerprint lib grant ∧
    storedGrant started = grantedPeriod grant := by
  obtain ⟨_, clients, applied, rfl⟩ := applyQuota_ok accepted
  obtain ⟨current, present, ⟨repeated, _⟩ | ⟨_, gate, _, rewritten⟩⟩ := applyQuotaTx_ok applied
  · rw [found] at present
    cases present
    exact absurd repeated fresh
  · exact ⟨grantRow lib grant gate atMS current, by rw [rewritten key, if_pos rfl], rfl, rfl⟩

end Period

section OnePeriod

variable (lib : Library) (key : String) (grant : QuotaGrant)

/-- What holds of a client's row in a state where `grant` is the grant last accepted. -/
structure PeriodGrantedOnce (store : Store) (row : ClientRuntime) : Prop where
  stored : store.clients.find? key = some row
  redelivery : ∀ atMS, perform lib store (.applyQuota key grant atMS) = store
  /-- The next call leaves the grant alone or is the one rollover of the period. -/
  step : ∀ call : ClientCall, call.Redelivers key grant →
    ∃ after, (perform lib store call).clients.find? key = some after ∧
      (storedGrant after = storedGrant row ∨
        storedGrant row = grantedPeriod grant ∧
          ∃ nowMS headroom, call.Schedules key nowMS ∧ grant.periodEndsAtMS ≤ nowMS ∧
            grant.nextPeriodHeadroomBytes = some headroom ∧
            storedGrant after = nextPeriod (row.upBytes + row.downBytes) headroom)
  /-- What the row stores after the rollover it stores for good. -/
  settled : storedGrant row ≠ grantedPeriod grant →
    ∀ calls : List ClientCall, (∀ call ∈ calls, call.Redelivers key grant) →
      ∃ later, (run (perform lib) store calls).clients.find? key = some later ∧
        storedGrant later = storedGrant row

variable {lib key grant}

theorem InPeriod.grantedOnce {store : Store} (inside : InPeriod lib key grant store) :
    ∃ row, PeriodGrantedOnce lib key grant store row := by
  obtain ⟨row, found, current, phase⟩ := inside
  refine ⟨row, found, ?_, ?_, ?_⟩
  · intro atMS
    exact commit_invariant (· = store) rfl fun next _ done => applyQuota_repeated found current done
  · intro call redelivers
    obtain ⟨after, present, step⟩ := perform_period found current redelivers
    refine ⟨after, present, ?_⟩
    cases step with
    | kept same _ => exact Or.inl same
    | @rolledOver nowMS baseline headroom gate scheduled due =>
      rcases phase with granted | unscheduled
      · have next : grant.nextPeriodHeadroomBytes = some headroom :=
          (congrArg StoredGrant.nextPeriodHeadroomBytes granted).symm.trans due.next
        have deadline : row.periodEndsAtMS = grant.periodEndsAtMS :=
          congrArg StoredGrant.periodEndsAtMS granted
        have total : baseline = row.upBytes + row.downBytes := (addChecked_eq_some.mp due.total).2.2.2
        subst total
        exact Or.inr ⟨granted, nowMS, headroom, scheduled, deadline ▸ due.due, next, rfl⟩
      · rw [due.next] at unscheduled
        cases unscheduled
  · intro left calls redeliver
    have unscheduled := phase.resolve_left left
    have kept : Settled lib key grant (storedGrant row) (run (perform lib) store calls) :=
      run_invariant_of_forall (Settled lib key grant (storedGrant row))
        (fun _ _ => perform_settled) ⟨unscheduled, row, found, current, rfl⟩ redeliver
    obtain ⟨_, later, present, _, same⟩ := kept
    exact ⟨later, present, same⟩

end OnePeriod

/-- After the acceptance of a grant that is not a repetition of the last one, every
interleaving of counter updates, redeliveries and scheduled rollovers is in the one period
it opened or past its one rollover. -/
theorem quota_period_granted_once (lib : Library) (key : String) (grant : QuotaGrant) (atMS : Int)
    (history calls : List ClientCall) (before start : Store) (last : Option QuotaGrant)
    (reached : run (recordGrant lib key) (Store.fresh, none) history = (before, last))
    (different : last ≠ some grant)
    (collisionFree : ∀ previous, last = some previous →
      quotaFingerprint lib previous = quotaFingerprint lib grant →
        textBytes (encodeGrant previous) = textBytes (encodeGrant grant))
    (accepted : applyQuota lib before key grant atMS = .ok (start, ()))
    (redeliver : ∀ call ∈ calls, call.Redelivers key grant) :
    (∃ row, start.clients.find? key = some row ∧ storedGrant row = grantedPeriod grant) ∧
      ∃ row, PeriodGrantedOnce lib key grant (run (perform lib) start calls) row := by
  have remembered : Remembers lib key before last := by
    have invariant := @run_remembers lib key history
    rw [reached] at invariant
    exact invariant
  obtain ⟨_, _, applied, _⟩ := applyQuota_ok accepted
  obtain ⟨current, found, _⟩ := applyQuotaTx_ok applied
  have fresh := fingerprint_of_different remembered found different collisionFree
  obtain ⟨started, present, current, granted⟩ := applyQuota_starts_period found fresh accepted
  refine ⟨⟨started, present, granted⟩, InPeriod.grantedOnce ?_⟩
  exact run_invariant_of_forall (InPeriod lib key grant) (fun _ _ => perform_inPeriod)
    ⟨started, present, current, Or.inl granted⟩ redeliver

def monthlyGrant : QuotaGrant := ⟨0, some 10, 100, some 5⟩

def materialised : Store := run (perform .transparent) Store.fresh [.ensureClient ⟨"c1", "s1"⟩ 1]

def heartbeats : List ClientCall :=
  [.updateCounters ⟨"c1", true, 6, 4, 1, []⟩ 3, .applyScheduledQuotas 100, .applyQuota "c1" monthlyGrant 101]

theorem quota_period_granted_once_monthly :
    (applyQuota .transparent materialised "c1" monthlyGrant 2).isOk = true ∧
      ∃ row, PeriodGrantedOnce .transparent "c1" monthlyGrant
        (run (perform .transparent) (perform .transparent materialised (.applyQuota "c1" monthlyGrant 2))
          heartbeats) row := by
  have succeeds : (applyQuota .transparent materialised "c1" monthlyGrant 2).isOk = true := by decide
  have redeliver : ∀ call ∈ heartbeats, call.Redelivers "c1" monthlyGrant := by
    simp [heartbeats, ClientCall.Redelivers]
  have once := quota_period_granted_once .transparent "c1" monthlyGrant 2
    [.ensureClient ⟨"c1", "s1"⟩ 1] heartbeats materialised
    (perform .transparent materialised (.applyQuota "c1" monthlyGrant 2)) none rfl
    (by simp) (by simp) (eq_ok_of_isOk materialised succeeds) redeliver
  exact ⟨succeeds, once.2⟩

end PasswallNode.Sqlite
