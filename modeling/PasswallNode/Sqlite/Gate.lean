import PasswallNode.Sqlite.ClientRuns

/-! The stored gate is always the one the counters and the grant of its row derive. -/

namespace PasswallNode.Sqlite

open Foundation Protocol State

structure Gated (row : ClientRuntime) : Prop where
  derived : deriveGate row.upBytes row.downBytes row.baselineBytes row.headroomBytes = .ok row.gate
  together : row.baselineBytes.isSome = row.headroomBytes.isSome

theorem gated_newClient (identity : ClientIdentity) (atMS : Int) : Gated (newClient identity atMS) :=
  ⟨rfl, rfl⟩

variable {row after : ClientRuntime}

theorem Counted.gated (changed : Counted row after) (before : Gated row) : Gated after := by
  cases changed with
  | intro derived => exact ⟨derived, before.together⟩

theorem Granted.gated {lib : Library} (changed : Granted lib row after) : Gated after := by
  cases changed with
  | @intro grant gate atMS fresh derived =>
    refine ⟨derived, ?_⟩
    show (pointerIfConfigured grant.baselineBytes grant.headroomBytes).isSome = grant.headroomBytes.isSome
    cases grant.headroomBytes <;> rfl

theorem RolledOver.gated {nowMS : Int} (changed : RolledOver nowMS row after) : Gated after := by
  cases changed with
  | intro due => exact ⟨due.gated, rfl⟩

def AllGated (clients : ClientTable) : Prop := ∀ key row, clients.find? key = some row → Gated row

theorem ensureClient_allGated {store next : Store} {identity : ClientIdentity} {atMS : Int}
    (before : AllGated store.clients) (done : ensureClient store identity atMS = .ok (next, ())) :
    AllGated next.clients := by
  intro key row found
  rw [ensureClient_ok done] at found
  split at found
  · cases old : store.clients.find? key with
    | none =>
      rw [old] at found
      cases found
      exact gated_newClient identity atMS
    | some current =>
      rw [old] at found
      cases found
      exact before key current old
  · exact before key row found

theorem deleteClient_allGated {store next : Store} {key : String}
    (before : AllGated store.clients) (done : deleteClient store key = .ok (next, ())) : AllGated next.clients := by
  intro other row found
  rw [deleteClient_ok done] at found
  split at found
  · cases found
  · exact before other row found

theorem perform_allGated (lib : Library) (store : Store) (call : ClientCall)
    (before : AllGated store.clients) : AllGated (perform lib store call).clients := by
  cases call with
  | ensureClient identity atMS =>
    exact commit_invariant (fun s => AllGated s.clients) before fun _ _ done =>
      ensureClient_allGated before done
  | updateCounters update atMS =>
    exact commit_invariant (fun s => AllGated s.clients) before fun _ _ done =>
      (updateCounters_evolves done).invariant (fun _ _ => Counted.gated) before
  | applyCounterBatch batch atMS =>
    exact commit_invariant (fun s => AllGated s.clients) before fun _ _ done =>
      (applyCounterBatch_evolves done).invariant (fun _ _ => Counted.gated) before
  | applyQuota key grant atMS =>
    exact commit_invariant (fun s => AllGated s.clients) before fun _ _ done =>
      (applyQuota_evolves done).invariant (fun _ _ changed _ => changed.gated) before
  | applyScheduledQuota key nowMS =>
    exact commit_invariant (fun s => AllGated s.clients) before fun _ _ done =>
      (applyScheduledQuota_evolves done).invariant (fun _ _ changed _ => changed.gated) before
  | applyScheduledQuotas nowMS =>
    exact commit_invariant (fun s => AllGated s.clients) before fun _ _ done =>
      (applyScheduledQuotas_evolves done).invariant (fun _ _ changed _ => changed.gated) before
  | deleteClient key =>
    exact commit_invariant (fun s => AllGated s.clients) before fun _ _ done =>
      deleteClient_allGated before done

theorem run_allGated (lib : Library) (calls : List ClientCall) :
    AllGated (run (perform lib) Store.fresh calls).clients :=
  run_invariant (fun store : Store => AllGated store.clients) (perform_allGated lib)
    (fun _ _ found => by cases found) calls

/-- The conditions under which a row's gate has each value, in terms of its counters and grant. -/
structure GateMeaning (row : ClientRuntime) : Prop where
  unconfigured : row.gate = .unconfigured ↔
    (row.baselineBytes = none ∧ row.headroomBytes = none) ∨
      ∃ baseline ∈ row.baselineBytes, row.upBytes + row.downBytes < baseline
  closed : row.gate = .closed ↔
    ∃ baseline ∈ row.baselineBytes, ∃ headroom ∈ row.headroomBytes,
      baseline + headroom ≤ row.upBytes + row.downBytes
  armed : row.gate = .armed ↔
    ∃ baseline ∈ row.baselineBytes, ∃ headroom ∈ row.headroomBytes,
      baseline ≤ row.upBytes + row.downBytes ∧ row.upBytes + row.downBytes < baseline + headroom
  inRange : ∀ baseline ∈ row.baselineBytes, ∀ headroom ∈ row.headroomBytes,
    row.upBytes + row.downBytes ≤ maxInt64 ∧ baseline + headroom ≤ maxInt64

theorem Gated.meaning (gated : Gated row) : GateMeaning row := by
  obtain ⟨derived, together⟩ := gated
  cases base : row.baselineBytes with
  | none =>
    rw [base, Option.isSome_none] at together
    have head : row.headroomBytes = none := by simpa using together.symm
    rw [base, head] at derived
    have gate : row.gate = .unconfigured := (Except.ok.inj derived).symm
    constructor <;> simp [base, head, gate]
  | some baseline =>
    rw [base, Option.isSome_some] at together
    obtain ⟨headroom, head⟩ := Option.isSome_iff_exists.mp together.symm
    rw [base, head, deriveGate_of_grant] at derived
    obtain ⟨⟨_, _, total⟩, ⟨_, _, ceiling⟩, gate⟩ := derived
    constructor <;> simp only [base, head, gate, Option.mem_some_iff, exists_eq_left'] <;> grind

theorem schedule_together (passes : checkClient row = true) :
    row.periodEndsAtMS = 0 ↔ row.nextPeriodHeadroomBytes = none := by
  simp only [checkClient, Bool.and_eq_true, Bool.or_eq_true, decide_eq_true_eq] at passes
  obtain ⟨_, ⟨zero, absent⟩ | ⟨positive, present⟩⟩ := passes
  · simp_all
  · constructor
    · intro zero; omega
    · intro absent; simp [absent] at present

theorem gate_agrees_with_counters (lib : Library) (calls : List ClientCall) (row : ClientRuntime)
    (stored : row ∈ (run (perform lib) Store.fresh calls).clients.rows) :
    deriveGate row.upBytes row.downBytes row.baselineBytes row.headroomBytes = .ok row.gate ∧
      GateMeaning row ∧
      (row.baselineBytes = none ↔ row.headroomBytes = none) ∧
      (row.periodEndsAtMS = 0 ↔ row.nextPeriodHeadroomBytes = none) := by
  have gated := run_allGated lib calls row.key row (Table.find?_of_mem stored)
  refine ⟨gated.derived, gated.meaning, ?_, schedule_together (Table.checked _ row stored)⟩
  rw [← Option.isNone_iff_eq_none, ← Option.isNone_iff_eq_none, ← Option.not_isSome,
    ← Option.not_isSome, gated.together]

def spentClient : ClientRuntime where
  key := "c1"
  subject := "s1"
  present := true
  upBytes := 6
  downBytes := 4
  counterEpoch := 1
  liveIPs := []
  gate := .closed
  baselineBytes := some 0
  headroomBytes := some 10
  periodEndsAtMS := 100
  nextPeriodHeadroomBytes := some 5
  quotaFingerprint := quotaFingerprint .transparent ⟨0, some 10, 100, some 5⟩
  updatedAtMS := 3

def spendingCalls : List ClientCall :=
  [.ensureClient ⟨"c1", "s1"⟩ 1, .applyQuota "c1" ⟨0, some 10, 100, some 5⟩ 2,
    .updateCounters ⟨"c1", true, 6, 4, 1, []⟩ 3]

theorem gate_agrees_with_counters_spent :
    spentClient ∈ (run (perform .transparent) Store.fresh spendingCalls).clients.rows ∧
      deriveGate 6 4 (some 0) (some 10) = .ok .closed ∧ GateMeaning spentClient := by
  have stored : spentClient ∈ (run (perform .transparent) Store.fresh spendingCalls).clients.rows := by
    decide +kernel
  have agrees := gate_agrees_with_counters .transparent spendingCalls spentClient stored
  exact ⟨stored, agrees.1, agrees.2.1⟩

end PasswallNode.Sqlite
