import PasswallNode.Foundation.Runs
import PasswallNode.Sqlite.Counters

/-! Runs of the operations that touch client rows, and what they can do to one row. -/

namespace PasswallNode.Sqlite

open Foundation Protocol State

inductive ClientCall where
  | ensureClient (identity : ClientIdentity) (atMS : Int)
  | updateCounters (update : CounterUpdate) (atMS : Int)
  | applyCounterBatch (batch : CounterBatch) (atMS : Int)
  | applyQuota (key : String) (grant : QuotaGrant) (atMS : Int)
  | applyScheduledQuota (key : String) (nowMS : Int)
  | applyScheduledQuotas (nowMS : Int)
  | deleteClient (key : String)
  deriving DecidableEq, Repr

def perform (lib : Library) (store : Store) : ClientCall → Store
  | .ensureClient identity atMS => commit store (ensureClient store identity atMS)
  | .updateCounters update atMS => commit store (updateCounters lib store update atMS)
  | .applyCounterBatch batch atMS => commit store (applyCounterBatch lib store batch atMS)
  | .applyQuota key grant atMS => commit store (applyQuota lib store key grant atMS)
  | .applyScheduledQuota key nowMS => commit store (applyScheduledQuota store key nowMS)
  | .applyScheduledQuotas nowMS => commit store (applyScheduledQuotas store nowMS)
  | .deleteClient key => commit store (deleteClient store key)

inductive Counted : ClientRuntime → ClientRuntime → Prop where
  | intro {row : ClientRuntime} {update : CounterUpdate} {gate : GateState}
      {liveIPs : List String} {atMS : Int}
      (derived : deriveGate update.upBytes update.downBytes row.baselineBytes row.headroomBytes =
        .ok gate) :
      Counted row (counterRow update gate liveIPs atMS row)

inductive Granted (lib : Library) : ClientRuntime → ClientRuntime → Prop where
  | intro {row : ClientRuntime} {grant : QuotaGrant} {gate : GateState} {atMS : Int}
      (fresh : row.quotaFingerprint ≠ quotaFingerprint lib grant)
      (derived : deriveGate row.upBytes row.downBytes
        (pointerIfConfigured grant.baselineBytes grant.headroomBytes) grant.headroomBytes = .ok gate) :
      Granted lib row (grantRow lib grant gate atMS row)

inductive RolledOver (nowMS : Int) : ClientRuntime → ClientRuntime → Prop where
  | intro {row : ClientRuntime} {baseline headroom : Int} {gate : GateState}
      (due : Rollover row nowMS baseline headroom gate) :
      RolledOver nowMS row (rolloverRow baseline headroom gate nowMS row)

section Calls

variable {lib : Library} {store next : Store} {atMS : Int} {clients after : ClientTable} {changed : Bool} {key : String}
  {nowMS : Int} {update : CounterUpdate} {grant : QuotaGrant}

theorem ensureClient_ok {identity : ClientIdentity} (done : ensureClient store identity atMS = .ok (next, ()))
    (key : String) : next.clients.find? key =
    if identity.key = key then some ((store.clients.find? key).getD (newClient identity atMS))
    else store.clients.find? key := by
  simp only [ensureClient, insertClient, bind_eq_ok, rejectIf_eq_ok, orError_eq_ok] at done
  obtain ⟨⟨clients, inserted⟩, ⟨_, _, _, _, updated⟩, rest⟩ := done
  have rows := (Table.insertIgnore_eq_some updated).2.2 key
  have same : next.clients = clients := by
    cases inserted with
    | true => cases rest; rfl
    | false =>
      simp only [Bool.false_eq_true, if_false, bind_eq_ok] at rest
      obtain ⟨_, _, finished⟩ := rest
      cases finished
      rfl
  rw [same, rows]
  rfl

theorem applyClientCounter_evolves (done : applyClientCounter lib clients update atMS = .ok (after, changed)) :
    Table.Evolves Counted clients after := by
  obtain ⟨current, gate, liveIPs, found, _, derived, rewritten⟩ := applyClientCounter_ok done
  exact Table.evolves_of_rewrite found (.intro derived) rewritten

theorem updateCounters_evolves (done : updateCounters lib store update atMS = .ok (next, ())) :
    Table.Evolves Counted store.clients next.clients := by
  simp only [updateCounters, bind_eq_ok] at done
  obtain ⟨⟨clients, changed⟩, counted, finished⟩ := done
  cases finished
  exact applyClientCounter_evolves counted

theorem applyClientCounters_evolves {updates : List CounterUpdate}
    (done : applyClientCounters lib clients updates atMS = .ok (after, changed)) :
    Table.Evolves Counted clients after := by
  refine forEach_invariant (fun state => Table.Evolves Counted clients state.1) ?_
    (Table.evolves_refl clients) done
  rintro ⟨middle, _⟩ state update _ reached passed
  simp only [bind_eq_ok, withError_eq_ok] at passed
  obtain ⟨⟨table, _⟩, counted, finished⟩ := passed
  cases finished
  exact reached.trans (applyClientCounter_evolves counted)

theorem applyCounterBatch_evolves {batch : CounterBatch}
    (done : applyCounterBatch lib store batch atMS = .ok (next, changed)) :
    Table.Evolves Counted store.clients next.clients := by
  simp only [applyCounterBatch, bind_eq_ok] at done
  obtain ⟨_, _, _, _, ⟨clients, gateChanged⟩, counted, listeners, _, finished⟩ := done
  cases finished
  exact applyClientCounters_evolves counted

theorem applyQuota_ok (done : applyQuota lib store key grant atMS = .ok (next, ())) :
    validateGrant key grant atMS = .ok () ∧
    ∃ clients, applyQuotaTx lib store.clients key grant atMS = .ok clients ∧
      next = { store with clients := clients } := by
  simp only [applyQuota, bind_eq_ok] at done
  obtain ⟨_, valid, clients, applied, finished⟩ := done
  cases finished
  exact ⟨valid, clients, applied, rfl⟩

theorem applyQuota_evolves (done : applyQuota lib store key grant atMS = .ok (next, ())) :
    Table.Evolves (Granted lib) store.clients next.clients := by
  obtain ⟨_, clients, applied, rfl⟩ := applyQuota_ok done
  obtain ⟨current, found, ⟨_, rfl⟩ | ⟨fresh, gate, derived, rewritten⟩⟩ := applyQuotaTx_ok applied
  · exact Table.evolves_refl _
  · exact Table.evolves_of_rewrite found (.intro fresh derived) rewritten

theorem applyScheduledQuotaTx_evolves (done : applyScheduledQuotaTx clients key nowMS = .ok (after, changed)) :
    Table.Evolves (RolledOver nowMS) clients after := by
  obtain ⟨current, found, ⟨_, rfl, _⟩ | ⟨_, baseline, headroom, gate, due, rewritten⟩⟩ :=
    applyScheduledQuotaTx_ok done
  · exact Table.evolves_refl _
  · exact Table.evolves_of_rewrite found (.intro due) rewritten

theorem applyScheduledQuota_evolves {applied : Bool}
    (done : applyScheduledQuota store key nowMS = .ok (next, applied)) :
    Table.Evolves (RolledOver nowMS) store.clients next.clients := by
  simp only [applyScheduledQuota, bind_eq_ok] at done
  obtain ⟨⟨clients, changed⟩, rolled, finished⟩ := done
  cases finished
  exact applyScheduledQuotaTx_evolves rolled

theorem applyScheduledQuotas_evolves {applied : Nat} (done : applyScheduledQuotas store nowMS = .ok (next, applied)) :
    Table.Evolves (RolledOver nowMS) store.clients next.clients := by
  simp only [applyScheduledQuotas, applyScheduledQuotasTx, bind_eq_ok] at done
  obtain ⟨⟨clients, count⟩, rolled, finished⟩ := done
  cases finished
  refine forEach_invariant (fun state => Table.Evolves (RolledOver nowMS) store.clients state.1) ?_
    (Table.evolves_refl _) rolled
  rintro ⟨middle, _⟩ state key _ reached passed
  simp only [bind_eq_ok] at passed
  obtain ⟨⟨table, _⟩, changed, finished⟩ := passed
  cases finished
  exact reached.trans (applyScheduledQuotaTx_evolves changed)

theorem deleteClient_ok (done : deleteClient store key = .ok (next, ())) (other : String) :
    next.clients.find? other = if other = key then none else store.clients.find? other := by
  simp only [deleteClient, bind_eq_ok] at done
  obtain ⟨_, _, finished⟩ := done
  cases finished
  rw [Table.find?_deleteWhere]
  cases found : store.clients.find? other with
  | none => simp
  | some row =>
    have named : row.key = other := Table.key_of_find? found
    by_cases here : other = key <;> simp [named, here]

end Calls

end PasswallNode.Sqlite
