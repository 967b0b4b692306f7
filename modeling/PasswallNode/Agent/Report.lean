import PasswallNode.Sqlite.ClientRuns

/-! Building a report starts with the due rollovers of every client, in one transaction. -/

namespace PasswallNode.Agent

open Foundation Protocol State Sqlite

/-- `ReportBuilder.Build`: the rollovers, then the report from the state they leave. `assemble` only reads the
store. -/
def build {β : Type} (agentID : String) (nowMS : Int) (assemble : Store → Except Error β)
    (store : Store) : Store × Except Error β :=
  if agentID = "" then (store, .error (.new "agent id is required"))
  else
    match applyScheduledQuotas store nowMS with
    | .error err => (store, .error (err.within "advance scheduled quotas"))
    | .ok (advanced, _) => (advanced, assemble advanced)

/-- The next period of a due row still fits: counters and next headroom add up within int64. -/
def NextPeriodFits (nowMS : Int) (row : ClientRuntime) : Prop :=
  scheduledBy nowMS row = true →
    ∀ headroom ∈ row.nextPeriodHeadroomBytes, row.upBytes + row.downBytes + headroom ≤ maxInt64

instance (nowMS : Int) (row : ClientRuntime) : Decidable (NextPeriodFits nowMS row) :=
  inferInstanceAs (Decidable (_ → ∀ headroom ∈ row.nextPeriodHeadroomBytes, _))

section Rollover

variable {clients : ClientTable} {key : String} {nowMS : Int} {row : ClientRuntime}

theorem checkClient_rolloverRow {baseline headroom : Int} {gate : GateState}
    (passes : checkClient row = true) (base : 0 ≤ baseline) (head : 0 ≤ headroom)
    (now : 0 ≤ nowMS) : checkClient (rolloverRow baseline headroom gate nowMS row) = true := by
  simp only [checkClient, Bool.and_eq_true, decide_eq_true_eq] at passes
  simp [checkClient, rolloverRow, passes, base, head, now]

theorem scheduledBy_iff : scheduledBy nowMS row = true ↔
    ∃ headroom, row.nextPeriodHeadroomBytes = some headroom ∧ 0 < row.periodEndsAtMS ∧
    row.periodEndsAtMS ≤ nowMS := by
  simp only [scheduledBy, Bool.and_eq_true, decide_eq_true_eq, Option.isSome_iff_exists]
  constructor
  · rintro ⟨⟨positive, headroom, next⟩, reached⟩; exact ⟨headroom, next, positive, reached⟩
  · rintro ⟨headroom, next, positive, reached⟩; exact ⟨⟨positive, headroom, next⟩, reached⟩

theorem checkClient_bounds (passes : checkClient row = true) :
    0 ≤ row.upBytes ∧ 0 ≤ row.downBytes ∧ ∀ headroom ∈ row.nextPeriodHeadroomBytes, 0 ≤ headroom := by
  simp only [checkClient, Bool.and_eq_true, decide_eq_true_eq, Option.all_eq_true] at passes
  obtain ⟨⟨⟨⟨⟨⟨⟨up, down⟩, _⟩, _⟩, _⟩, next⟩, _⟩, _⟩ := passes
  exact ⟨up, down, next⟩

theorem applyScheduledQuotaTx_succeeds_iff (found : clients.find? key = some row)
    (due : scheduledBy nowMS row = true) :
    (∃ result, applyScheduledQuotaTx clients key nowMS = .ok result) ↔ NextPeriodFits nowMS row := by
  have passes : checkClient row = true := Table.check_of_find? found
  obtain ⟨headroom, scheduled, positive, reached⟩ := scheduledBy_iff.mp due
  have refresh : QuotaEntry.refreshDue row.periodEndsAtMS row.nextPeriodHeadroomBytes nowMS = true := by
    simp [QuotaEntry.refreshDue, scheduled, reached]
  constructor
  · rintro ⟨⟨next, changed⟩, done⟩ _ other member
    obtain ⟨current, present, outcome⟩ := applyScheduledQuotaTx_ok done
    rw [found] at present
    cases present
    rcases outcome with ⟨_, _, early⟩ | ⟨_, baseline, granted, gate, rollover, _⟩
    · rw [refresh] at early
      cases early
    · have same : granted = other := Option.some.inj (rollover.next.symm.trans member)
      have total : baseline = row.upBytes + row.downBytes :=
        (addChecked_eq_some.mp rollover.total).2.2.2
      obtain ⟨_, ⟨_, _, ceiling⟩, _⟩ := deriveGate_of_grant.mp rollover.gated
      omega
  · intro fits
    obtain ⟨up, down, next⟩ := checkClient_bounds passes
    have head : 0 ≤ headroom := next headroom scheduled
    have ceiling : row.upBytes + row.downBytes + headroom ≤ maxInt64 := fits due headroom scheduled
    have total : addBytes row.upBytes row.downBytes = some (row.upBytes + row.downBytes) :=
      addChecked_of_le up down (by omega)
    have base : 0 ≤ row.upBytes + row.downBytes := by omega
    obtain ⟨gate, gated⟩ : ∃ gate, deriveGate row.upBytes row.downBytes
        (some (row.upBytes + row.downBytes)) (some headroom) = .ok gate :=
      ⟨_, deriveGate_of_grant.mpr ⟨⟨up, down, by omega⟩, ⟨base, head, ceiling⟩, rfl⟩⟩
    obtain ⟨table, updated⟩ := Table.updateKey_of_check
      (rolloverRow (row.upBytes + row.downBytes) headroom gate nowMS) (fun _ => rfl) found
      (checkClient_rolloverRow passes base head (by omega))
    refine ⟨(table, true), bind_eq_ok.mpr ⟨row, orError_eq_ok.mpr found, ?_⟩⟩
    simp only [scheduled] at refresh ⊢
    rw [if_pos refresh]
    refine bind_eq_ok.mpr ⟨_, orError_eq_ok.mpr total, bind_eq_ok.mpr ⟨_, withError_eq_ok.mpr gated, ?_⟩⟩
    exact bind_eq_ok.mpr ⟨table, orError_eq_ok.mpr updated, rfl⟩

theorem dueKeys_nodup (clients : ClientTable) (nowMS : Int) : (dueKeys clients nowMS).Nodup := by
  unfold dueKeys
  rw [(List.perm_insertionSort _ _).nodup_iff]
  exact clients.unique.sublist (List.filter_sublist.map _)

theorem mem_dueKeys : key ∈ dueKeys clients nowMS ↔
    ∃ row, clients.find? key = some row ∧ scheduledBy nowMS row = true := by
  unfold dueKeys
  rw [(List.perm_insertionSort _ _).mem_iff, List.mem_map]
  constructor
  · rintro ⟨row, member, rfl⟩
    obtain ⟨stored, due⟩ := List.mem_filter.mp member
    exact ⟨row, Table.find?_of_mem stored, due⟩
  · rintro ⟨row, found, due⟩
    exact ⟨row, List.mem_filter.mpr ⟨Table.mem_of_find? found, due⟩, Table.key_of_find? found⟩

def Untouched (clients : ClientTable) (state : ClientTable × Nat) (ahead : List String) : Prop :=
  ahead.Nodup ∧ ∀ key ∈ ahead, state.1.find? key = clients.find? key

theorem untouched_after {state : ClientTable × Nat} {ahead : List String} {next : ClientTable}
    {changed : Bool} {count : Nat} (before : Untouched clients state (key :: ahead))
    (done : applyScheduledQuotaTx state.1 key nowMS = .ok (next, changed)) :
    Untouched clients (next, count) ahead := by
  obtain ⟨distinct, same⟩ := before
  obtain ⟨fresh, rest⟩ := List.nodup_cons.mp distinct
  refine ⟨rest, fun other member => ?_⟩
  have apart : other ≠ key := fun equal => fresh (equal ▸ member)
  rw [← same other (List.mem_cons_of_mem _ member)]
  obtain ⟨_, _, ⟨_, rfl, _⟩ | ⟨_, _, _, _, _, rewritten⟩⟩ := applyScheduledQuotaTx_ok done
  · rfl
  · rw [rewritten other, if_neg apart]

theorem applyScheduledQuotasTx_succeeds_iff (clients : ClientTable) (nowMS : Int) :
    (∃ result, applyScheduledQuotasTx clients nowMS = .ok result) ↔
    ∀ row ∈ clients.rows, NextPeriodFits nowMS row := by
  have start : Untouched clients (clients, 0) (dueKeys clients nowMS) :=
    ⟨dueKeys_nodup clients nowMS, fun _ _ => rfl⟩
  constructor
  · rintro ⟨result, done⟩ row stored due
    have visited := forEach_visits (Untouched clients) ?_ start done row.key
      (mem_dueKeys.mpr ⟨row, Table.find?_of_mem stored, due⟩)
    · obtain ⟨before, ahead, after, untouched, passed⟩ := visited
      obtain ⟨rolled, passed, _⟩ := bind_eq_ok.mp passed
      have found : before.1.find? row.key = some row := by
        rw [untouched.2 row.key List.mem_cons_self, Table.find?_of_mem stored]
      exact (applyScheduledQuotaTx_succeeds_iff found due).mp ⟨rolled, passed⟩ due
    · intro state key ahead next untouched passed
      obtain ⟨rolled, succeeded, finished⟩ := bind_eq_ok.mp passed
      cases finished
      exact untouched_after untouched succeeded
  · intro fits
    refine forEach_succeeds (fun state ahead => Untouched clients state ahead ∧
      ∀ key ∈ ahead, key ∈ dueKeys clients nowMS) ?_ ⟨start, fun _ member => member⟩
    rintro state key ahead ⟨untouched, listed⟩
    obtain ⟨row, found, due⟩ := mem_dueKeys.mp (listed key List.mem_cons_self)
    have present : state.1.find? key = some row := by
      rw [untouched.2 key List.mem_cons_self, found]
    obtain ⟨rolled, passed⟩ := (applyScheduledQuotaTx_succeeds_iff present due).mpr
      (fits row (Table.mem_of_find? found))
    refine ⟨_, bind_eq_ok.mpr ⟨rolled, passed, rfl⟩, untouched_after untouched passed, ?_⟩
    intro other member
    exact listed other (List.mem_cons_of_mem _ member)

end Rollover

theorem applyScheduledQuotas_succeeds_iff (store : Store) (nowMS : Int) :
    (∃ result, applyScheduledQuotas store nowMS = .ok result) ↔
    ∀ row ∈ store.clients.rows, NextPeriodFits nowMS row := by
  rw [← applyScheduledQuotasTx_succeeds_iff]
  constructor
  · rintro ⟨result, done⟩
    obtain ⟨rolled, passed, _⟩ := bind_eq_ok.mp done
    exact ⟨rolled, passed⟩
  · rintro ⟨rolled, passed⟩
    exact ⟨_, bind_eq_ok.mpr ⟨rolled, passed, rfl⟩⟩

theorem build_eq {β : Type} {agentID : String} {nowMS : Int} {assemble : Store → Except Error β}
    {store : Store} (named : agentID ≠ "") :
    build agentID nowMS assemble store =
    match applyScheduledQuotas store nowMS with
    | .error err => (store, .error (err.within "advance scheduled quotas"))
    | .ok (advanced, _) => (advanced, assemble advanced) := by
  rw [build, if_neg named]

/-- A report gets past the rollovers, to its own contents, exactly when the next period of
every due client fits. -/
theorem build_advances_iff_next_periods_fit {β : Type} (agentID : String) (named : agentID ≠ "")
    (assemble : Store → Except Error β) (store : Store) (nowMS : Int) :
    (∃ advanced applied, applyScheduledQuotas store nowMS = .ok (advanced, applied) ∧
        build agentID nowMS assemble store = (advanced, assemble advanced)) ↔
      ∀ row ∈ store.clients.rows, NextPeriodFits nowMS row := by
  rw [← applyScheduledQuotas_succeeds_iff, build_eq named]
  constructor
  · rintro ⟨advanced, applied, done, _⟩
    exact ⟨_, done⟩
  · rintro ⟨⟨advanced, applied⟩, done⟩
    refine ⟨advanced, applied, done, ?_⟩
    rw [done]

def monthCalls (nextHeadroom : Int) : List ClientCall :=
  [.ensureClient ⟨"c1", "s1"⟩ 1, .applyQuota "c1" ⟨0, some 10, 100, some nextHeadroom⟩ 2,
    .updateCounters ⟨"c1", true, 6, 4, 1, []⟩ 3]

def monthEnd (nextHeadroom : Int) : Store :=
  run (perform .transparent) Store.fresh (monthCalls nextHeadroom)

theorem build_advances_at_month_end :
    (∀ row ∈ (monthEnd 5).clients.rows, NextPeriodFits 100 row) ∧
      ∃ advanced applied, applyScheduledQuotas (monthEnd 5) 100 = .ok (advanced, applied) ∧
        build "a1" 100 (fun _ => .ok ()) (monthEnd 5) = (advanced, .ok ()) := by
  have fits : ∀ row ∈ (monthEnd 5).clients.rows, NextPeriodFits 100 row := by decide
  exact ⟨fits, (build_advances_iff_next_periods_fit "a1" (by decide) (fun _ => .ok ()) (monthEnd 5)
    100).mpr fits⟩

/-- The largest next-period headroom is accepted, and the first byte of traffic makes every report fail from the
deadline on. -/
theorem build_blocked_by_accepted_grant :
    (monthEnd maxInt64).clients.rows.map
        (fun row => (row.key, row.upBytes, row.downBytes, row.nextPeriodHeadroomBytes)) =
        [("c1", 6, 4, some 9223372036854775807)] ∧
      (applyScheduledQuotas (monthEnd maxInt64) 100).isOk = false ∧
      (build "a1" 100 (fun _ => .ok ()) (monthEnd maxInt64)).2 =
        .error (.new ("advance scheduled quotas: derive client c1 scheduled quota gate: " ++
          "quota ceiling overflows int64")) := by
  decide

end PasswallNode.Agent
