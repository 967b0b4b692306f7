import PasswallNode.Agent.StoredDocuments

/-! The part of a round before the runtime. -/

namespace PasswallNode.Agent

open Foundation Protocol State Sqlite

section Accounts

structure SameAccount (row after : ClientRuntime) : Prop where
  subject : after.subject = row.subject
  up : after.upBytes = row.upBytes
  down : after.downBytes = row.downBytes
  epoch : after.counterEpoch = row.counterEpoch

theorem sameAccount_refl (row : ClientRuntime) : SameAccount row row := ⟨rfl, rfl, rfl, rfl⟩

theorem SameAccount.trans {first second third : ClientRuntime} (early : SameAccount first second)
    (late : SameAccount second third) : SameAccount first third :=
  ⟨late.subject.trans early.subject, late.up.trans early.up, late.down.trans early.down,
    late.epoch.trans early.epoch⟩

def AccountsKept (store next : Store) : Prop :=
  ∀ key row, store.clients.find? key = some row →
    ∃ after, next.clients.find? key = some after ∧ SameAccount row after

theorem accountsKept_of_clients {store next : Store} (same : next.clients = store.clients) :
    AccountsKept store next := by
  intro key row found
  exact ⟨row, by rw [same]; exact found, sameAccount_refl row⟩

variable {libs : Libraries} {store next : Store} {call : StoreCall}

theorem applyQuota_marks {key : String} {grant : QuotaGrant} {atMS : Int}
    (done : applyQuota libs.lib store key grant atMS = .ok (next, ())) :
    (∃ row after, store.clients.find? key = some row ∧ next.clients.find? key = some after ∧
    SameAccount row after ∧ after.quotaFingerprint = quotaFingerprint libs.lib grant) ∧
    ∀ other, other ≠ key → next.clients.find? other = store.clients.find? other := by
  obtain ⟨-, clients, applied, rfl⟩ := applyQuota_ok done
  obtain ⟨current, found, ⟨marked, rfl⟩ | ⟨-, gate, -, rewritten⟩⟩ := applyQuotaTx_ok applied
  · exact ⟨⟨current, current, found, found, sameAccount_refl current, marked⟩, fun _ _ => rfl⟩
  · refine ⟨⟨current, grantRow libs.lib grant gate atMS current, found, ?_, ⟨rfl, rfl, rfl, rfl⟩, rfl⟩, ?_⟩
    · exact (rewritten key).trans (if_pos rfl)
    · exact fun other apart => (rewritten other).trans (if_neg apart)

theorem transaction_accounts {value : call.Value} (keeps : ∀ key, call ≠ .deleteClient key)
    (done : transaction libs store call = .ok (next, value)) : AccountsKept store next := by
  cases call with
  | deleteClient key => exact absurd rfl (keeps key)
  | ensureClient identity atMS =>
    intro key row found
    refine ⟨row, ?_, sameAccount_refl row⟩
    rw [ensureClient_ok done key, found]
    split
    · rfl
    · rfl
  | applyQuota key grant atMS =>
    obtain ⟨⟨current, after, here, present, same, -⟩, others⟩ := applyQuota_marks done
    intro other row found
    by_cases apart : other = key
    · subst apart
      rw [here] at found
      cases found
      exact ⟨after, present, same⟩
    · exact ⟨row, by rw [others other apart]; exact found, sameAccount_refl row⟩
  | _ => exact accountsKept_of_clients ((transaction_frame done).clients (by simp [WritesClients]))

end Accounts

section Start

variable {libs : Libraries} {p : Processor} {result noted : Bool} {nowMS : Int} {allowed : ProcessCall → Prop}
  {intake : Intake}

def GrantCall : ProcessCall → Prop
  | .store (.observeReferenceSkew kind _ _) | .store (.clearReferenceSkew kind _) => kind = skewDirectivesRoster
  | .store (.applyQuota _ _ _) | .record _ => True
  | _ => False

theorem uses_onStore {call : StoreCall} (permitted : allowed (.store call)) : Uses allowed (onStore result call) :=
  uses_call.mpr ⟨permitted, fun _ => uses_done _⟩

theorem uses_each {β γ : Type} {body : β → γ → Round β} {items : List γ} {acc : β}
    (pass : ∀ acc item, Uses allowed (body acc item)) : Uses allowed (Proc.each body acc items) := by
  induction items generalizing acc with
  | nil => exact uses_done _
  | cons item rest ih => exact uses_bind (pass acc item) (fun _ => ih)

theorem grantQuotas_uses (intake : Intake) : Uses GrantCall (grantQuotas p intake nowMS result) := by
  have records : ∀ result issue, Uses GrantCall (recordIssue result issue) := by
    intro result issue
    exact uses_call.mpr ⟨trivial, fun _ => uses_done _⟩
  unfold grantQuotas
  split
  · exact uses_done _
  · unfold applyDirectives
    split
    · refine uses_bind (uses_onStore rfl) fun rounds => ?_
      split
      · exact records _ _
      · exact uses_done _
    · refine uses_bind (uses_onStore rfl) fun _ => uses_each fun acc quota => ?_
      unfold applyQuotaEntry
      split
      · exact records _ _
      · exact uses_bind (uses_onStore trivial) fun _ => uses_done _

def Marked (lib : Library) (store : Store) (quota : QuotaEntry) : Prop :=
  ∃ row, store.clients.find? quota.client = some row ∧
    row.quotaFingerprint = quotaFingerprint lib (grantOf quota)

theorem Opened.transfer {before after store : Store} (opened : Opened libs before after intake)
    (find : ∀ name, store.streams.find? name = after.streams.find? name) : Opened libs before store intake := by
  obtain ⟨oldConfig, oldRoster, ⟨config, roster, directives⟩, configVersion, rosterVersion, valid⟩ := opened
  refine ⟨oldConfig, oldRoster, ⟨?_, ?_, ?_⟩, ?_, ?_, valid⟩
  · rw [storedBody_congr (find .config)]
    exact config
  · rw [storedBody_congr (find .roster)]
    exact roster
  · rw [storedBody_congr (find .directives)]
    exact directives
  · rw [configVersion, storedVersion, storedVersion, find]
  · rw [rosterVersion, storedVersion, storedVersion, find]

theorem uses_wakeWhen (available : Bool) : Uses Aside (wakeWhen available) := by
  cases available with
  | false => exact uses_done _
  | true => exact uses_call.mpr ⟨trivial, fun _ => uses_done _⟩

theorem uses_acceptTasks (tasks : List Task) (nowMS : Int) : Uses Aside (acceptTasks p tasks nowMS) := by
  unfold acceptTasks
  split
  · exact uses_done _
  · split
    · exact uses_done _
    · refine uses_call.mpr ⟨trivial, ?_⟩
      intro answer
      cases answer with
      | ok accepted =>
        refine uses_bind (uses_recordIssues (replayFencedIssue p) _) fun _ => ?_
        exact uses_bind (uses_wakeWhen _) fun _ => uses_done _
      | error err =>
        change Uses _ (refuseTasks p err)
        unfold refuseTasks
        split
        · exact uses_call.mpr ⟨trivial, fun _ => uses_done _⟩
        · exact uses_done _

end Start

end PasswallNode.Agent
