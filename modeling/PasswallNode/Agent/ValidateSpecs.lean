import Mathlib.Data.List.Nodup
import PasswallNode.Agent.Validate

/-! What a document that passed its checks is known to satisfy. -/

namespace PasswallNode.Agent

open Foundation Protocol State

theorem requireRowID_ok {parsed : Except String Nat} {context : String} {u : Unit} :
    requireRowID parsed context = .ok u ↔ ∃ id, parsed = .ok id := by
  cases parsed <;> simp [requireRowID]

variable {α : Type} {items : List α} {item : α}

theorem nodup_concat (distinct : items.Nodup) (fresh : item ∉ items) : (items ++ [item]).Nodup := by
  rw [← List.concat_eq_append]
  exact List.Nodup.concat fresh distinct

theorem forall_mem_concat {holds : α → Prop} (before : ∀ other ∈ items, holds other) (here : holds item) :
    ∀ other ∈ items ++ [item], holds other := by
  intro other member
  rcases List.mem_append.mp member with earlier | last
  · exact before other earlier
  · rw [List.mem_singleton.mp last]
    exact here

section Config

variable {catalog : Corecatalog.Catalog} {wire : Wire}

structure ValidConfig (wire : Wire) (body : ConfigBody) : Prop where
  distinct : (body.listeners.map Listener.key).Nodup
  listener : ∀ listener ∈ body.listeners,
    listener.key ≠ "" ∧ listener.config ≠ [] ∧ ∃ id, wire.listenerRowID listener.key = .ok id

theorem validateConfig_ok {body : ConfigBody} (valid : validateConfig catalog wire (some body) = .ok ()) :
    ValidConfig wire body := by
  simp only [validateConfig, bind_eq_ok] at valid
  obtain ⟨-, -, -, -, scan, scanned, -⟩ := valid
  have finished := forEach_collects
    (fun passed (state : Nat × List String) => state.2 = passed.map Listener.key ∧
      (passed.map Listener.key).Nodup ∧ ∀ listener ∈ passed,
        listener.key ≠ "" ∧ listener.config ≠ [] ∧ ∃ id, wire.listenerRowID listener.key = .ok id)
    ?_ ?_ scanned
  · exact ⟨finished.2.1, finished.2.2⟩
  · rintro passed ⟨i, seen⟩ listener next ⟨keys, distinct, each⟩ checked
    simp only [validateListener, bind_eq_ok, rejectIf_eq_ok, requireRowID_ok] at checked
    obtain ⟨-, named, -, row, -, fresh, -, filled, same⟩ := checked
    cases same
    simp only at keys
    subst keys
    rw [List.map_append]
    exact ⟨rfl, nodup_concat distinct fresh, forall_mem_concat each ⟨named, filled, row⟩⟩
  · exact ⟨rfl, List.nodup_nil, fun _ member => by cases member⟩

structure ValidClient (wire : Wire) (client : Client) : Prop where
  named : client.key ≠ "" ∧ client.subject ≠ ""
  row : ∃ id, wire.clientRowID client.key = .ok id
  expiry : 0 ≤ client.expiresAtMS
  distinct : client.listeners.Nodup
  attachments : ∀ key ∈ client.listeners, ∃ id, wire.listenerRowID key = .ok id

structure ValidRoster (wire : Wire) (body : RosterBody) : Prop where
  distinct : (body.clients.map Client.key).Nodup
  client : ∀ client ∈ body.clients, ValidClient wire client

theorem validateAttachments_ok {client : Client} {final : List String}
    (done : forEach (validateAttachment wire client.key) [] client.listeners = .ok final) :
    client.listeners.Nodup ∧ ∀ key ∈ client.listeners, ∃ id, wire.listenerRowID key = .ok id := by
  have finished := forEach_collects
    (fun passed state => state = passed ∧ passed.Nodup ∧
      ∀ key ∈ passed, ∃ id, wire.listenerRowID key = .ok id) ?_ ?_ done
  · exact finished.2
  · rintro passed state key next ⟨rfl, distinct, each⟩ checked
    simp only [validateAttachment, bind_eq_ok, rejectIf_eq_ok, requireRowID_ok] at checked
    obtain ⟨-, row, -, fresh, same⟩ := checked
    cases same
    exact ⟨rfl, nodup_concat distinct fresh, forall_mem_concat each row⟩
  · exact ⟨rfl, List.nodup_nil, fun _ member => by cases member⟩

theorem validateRoster_ok {body : RosterBody} (valid : validateRoster wire (some body) = .ok ()) :
    ValidRoster wire body := by
  simp only [validateRoster, bind_eq_ok] at valid
  obtain ⟨-, -, -, -, scan, scanned, -⟩ := valid
  have finished := forEach_collects
    (fun passed (state : RosterScan) => state.seen = passed.map Client.key ∧
      (passed.map Client.key).Nodup ∧ ∀ client ∈ passed, ValidClient wire client) ?_ ?_ scanned
  · exact ⟨finished.2.1, finished.2.2⟩
  · rintro passed state client next ⟨keys, distinct, each⟩ checked
    simp only [validateClient, bind_eq_ok, rejectIf_eq_ok, requireRowID_ok] at checked
    obtain ⟨-, named, -, row, -, -, -, fresh, -, expiry, -, -, attached, attaches, same⟩ := checked
    cases same
    rw [keys] at fresh
    obtain ⟨apart, known⟩ := validateAttachments_ok attaches
    rw [List.map_append]
    exact ⟨by rw [keys]; rfl, nodup_concat distinct fresh,
      forall_mem_concat each ⟨not_or.mp named, row, Int.not_lt.mp expiry, apart, known⟩⟩
  · exact ⟨rfl, List.nodup_nil, fun _ member => by cases member⟩

structure ValidQuota (wire : Wire) (quota : QuotaEntry) : Prop where
  row : ∃ id, wire.clientRowID quota.client = .ok id
  bytes : ¬ (quota.baselineBytes < 0 ∨ ∃ headroom ∈ quota.headroomBytes, headroom < 0)
  period : decide (quota.periodEndsAtMS = 0) = quota.nextPeriodHeadroomBytes.isNone
  next : ¬ (quota.periodEndsAtMS < 0 ∨ ∃ next ∈ quota.nextPeriodHeadroomBytes, next < 0)

structure ValidDirectives (wire : Wire) (body : DirectivesBody) : Prop where
  roster : body.forRosterVersion.committed = true
  distinct : (body.quota.map QuotaEntry.client).Nodup
  quota : ∀ quota ∈ body.quota, ValidQuota wire quota

theorem validateDirectives_ok {body : DirectivesBody}
    (valid : validateDirectives wire (some body) = .ok ()) : ValidDirectives wire body := by
  simp only [validateDirectives, bind_eq_ok, rejectIf_eq_ok] at valid
  obtain ⟨-, committed, -, -, scan, scanned, -⟩ := valid
  have finished := forEach_collects
    (fun passed (state : Nat × List String) => state.2 = passed.map QuotaEntry.client ∧
      (passed.map QuotaEntry.client).Nodup ∧ ∀ quota ∈ passed, ValidQuota wire quota) ?_ ?_ scanned
  · exact ⟨by simpa using committed, finished.2.1, finished.2.2⟩
  · rintro passed ⟨i, seen⟩ quota next ⟨clients, distinct, each⟩ checked
    simp only [validateQuota, bind_eq_ok, rejectIf_eq_ok, requireRowID_ok] at checked
    obtain ⟨-, row, -, fresh, -, bytes, -, period, -, next, same⟩ := checked
    cases same
    simp only at clients
    subst clients
    rw [List.map_append]
    exact ⟨rfl, nodup_concat distinct fresh, forall_mem_concat each ⟨row, bytes, not_not.mp period, next⟩⟩
  · exact ⟨rfl, List.nodup_nil, fun _ member => by cases member⟩

end Config

end PasswallNode.Agent
