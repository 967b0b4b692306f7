import Mathlib.Data.List.Sort
import PasswallNode.Foundation.Fallible
import PasswallNode.Foundation.Json
import PasswallNode.Sqlite.Store

/-! Client rows: counters, quota grants and the gate that compares the two. -/

namespace PasswallNode.Sqlite

open Foundation Protocol State

def addBytes (a b : Int) : Option Int := addChecked a b

def deriveGate (up down : Int) (baseline headroom : Option Int) : Except Error GateState :=
  match baseline, headroom with
  | some baseline, some headroom => do
      let current ← orError (addBytes up down) (.new "cumulative counter overflows int64")
      let ceiling ← orError (addBytes baseline headroom) (.new "quota ceiling overflows int64")
      .ok (if current < baseline then .unconfigured
        else if current ≥ ceiling then .closed
        else .armed)
  | _, _ => .ok .unconfigured

def clientNotFound (key : String) : Error := (Error.ofSentinel .notFound).within s!"client {key}"

/-- The row `EnsureClient` inserts: every other column takes its default. -/
def newClient (identity : ClientIdentity) (atMS : Int) : ClientRuntime where
  key := identity.key
  subject := identity.subject
  present := false
  upBytes := 0
  downBytes := 0
  counterEpoch := 0
  liveIPs := []
  gate := .unconfigured
  baselineBytes := none
  headroomBytes := none
  periodEndsAtMS := 0
  nextPeriodHeadroomBytes := none
  quotaFingerprint := ""
  updatedAtMS := atMS

def insertClient (clients : ClientTable) (identity : ClientIdentity) (atMS : Int) :
    Except Error (ClientTable × Bool) := do
  rejectIf (identity.key = "" ∨ identity.subject = "") (.new "client and subject keys are required")
  rejectIf (atMS < 0) (.new "client timestamp must be non-negative")
  orError (clients.insertIgnore (newClient identity atMS))
    (constraintFailed.within s!"materialise client {identity.key}")

def verifyClient (clients : ClientTable) (identity : ClientIdentity) : Except Error Unit := do
  let row ← orError (clients.find? identity.key)
    (Error.within s!"verify materialised client {identity.key}" (.new "sql: no rows in result set"))
  rejectIf (row.subject ≠ identity.subject) (.new
    s!"client {identity.key} already belongs to subject {row.subject}, not {identity.subject}")

def ensureClient (store : Store) (identity : ClientIdentity) (atMS : Int) :
    Except Error (Store × Unit) := do
  let (clients, inserted) ← insertClient store.clients identity atMS
  if inserted then .ok ({ store with clients := clients }, ())
  else do
    verifyClient clients identity
    .ok ({ store with clients := clients }, ())

/-- `SELECT … ORDER BY client_key`. -/
def clients (store : Store) : List ClientRuntime :=
  store.clients.rows.insertionSort (fun a b => a.key ≤ b.key)

def deleteClient (store : Store) (key : String) : Except Error (Store × Unit) := do
  rejectIf (key = "") (.new "client key is required")
  .ok ({ store with
    objects := store.objects.deleteWhere
      (fun o => decide (o.status.stream = .roster) && decide (o.status.key = key))
    clients := store.clients.deleteWhere (fun row => decide (row.key = key)) }, ())

section Counters

variable (lib : Library)

/-- The canonical addresses in order of first appearance; `seen` is also what was kept. -/
def canonicalIPs : List String → List String → Except Error (List String)
  | seen, [] => .ok seen
  | seen, value :: rest => do
      let canonical ← orError (lib.canonicalAddr value) (.new s!"invalid address {value.quote}")
      canonicalIPs (if canonical ∈ seen then seen else seen ++ [canonical]) rest

def normalizeIPs (values : List String) : Except Error (List String) := do
  let out ← canonicalIPs lib [] values
  .ok (out.insertionSort (· ≤ ·))

/-- Counters move backwards only together with a new epoch. -/
def counterRollback (epoch currentEpoch : Nat) (up down currentUp currentDown : Int) : Prop :=
  epoch < currentEpoch ∨ (epoch = currentEpoch ∧ (up < currentUp ∨ down < currentDown))

instance (epoch currentEpoch : Nat) (up down currentUp currentDown : Int) :
    Decidable (counterRollback epoch currentEpoch up down currentUp currentDown) :=
  inferInstanceAs (Decidable (_ ∨ _))

def counterRow (update : CounterUpdate) (gate : GateState) (liveIPs : List String) (atMS : Int)
    (row : ClientRuntime) : ClientRuntime :=
  { row with
    present := update.present
    upBytes := update.upBytes
    downBytes := update.downBytes
    counterEpoch := update.counterEpoch
    gate := gate
    updatedAtMS := atMS
    liveIPs := liveIPs }

def applyClientCounter (clients : ClientTable) (update : CounterUpdate) (atMS : Int) :
    Except Error (ClientTable × Bool) := do
  rejectIf (update.key = "" ∨ update.upBytes < 0 ∨ update.downBytes < 0 ∨ atMS < 0)
    (.new "counter update has invalid key, bytes, or timestamp")
  let current ← orError (clients.find? update.key) (clientNotFound update.key)
  rejectIf (counterRollback update.counterEpoch current.counterEpoch update.upBytes
      update.downBytes current.upBytes current.downBytes)
    ((Error.ofSentinel .counterRollback).within s!"client {update.key}")
  let gate ← withError (.within s!"derive client {update.key} quota gate")
    (deriveGate update.upBytes update.downBytes current.baselineBytes current.headroomBytes)
  let liveIPs ← withError (.within s!"normalize client {update.key} live IPs")
    (normalizeIPs lib update.liveIPs)
  let next ← orError
    (clients.updateKey update.key (counterRow update gate liveIPs atMS) (fun _ => rfl))
    (constraintFailed.within s!"update client {update.key} counters")
  .ok (next, decide (gate ≠ current.gate))

def updateCounters (store : Store) (update : CounterUpdate) (atMS : Int) :
    Except Error (Store × Unit) := do
  let (clients, _) ← applyClientCounter lib store.clients update atMS
  .ok ({ store with clients := clients }, ())

def encodeGrant (grant : QuotaGrant) : String :=
  "\x7b\"BaselineBytes\":" ++ (jsonInt grant.baselineBytes ++ (",\"HeadroomBytes\":" ++
    (jsonNullableInt grant.headroomBytes ++ (",\"PeriodEndsAtMS\":" ++
      (jsonInt grant.periodEndsAtMS ++ (",\"NextPeriodHeadroomBytes\":" ++
        (jsonNullableInt grant.nextPeriodHeadroomBytes ++ "\x7d")))))))

def quotaFingerprint (grant : QuotaGrant) : String := lib.sha256Hex (textBytes (encodeGrant grant))

def pointerIfConfigured (value : Int) (configured : Option Int) : Option Int :=
  match configured with
  | none => none
  | some _ => some value

def validateGrant (key : String) (grant : QuotaGrant) (atMS : Int) : Except Error Unit := do
  rejectIf (key = "" ∨ grant.baselineBytes < 0 ∨ atMS < 0)
    (.new "quota grant has invalid key, baseline, or timestamp")
  rejectIf (∃ headroom ∈ grant.headroomBytes, headroom < 0) (.new "quota headroom must be non-negative")
  rejectIf (decide (grant.periodEndsAtMS = 0) ≠ grant.nextPeriodHeadroomBytes.isNone)
    (.new "next-period deadline and headroom must be present together")
  rejectIf (grant.periodEndsAtMS < 0 ∨ ∃ next ∈ grant.nextPeriodHeadroomBytes, next < 0)
    (.new "next-period grant must be non-negative")

/-- The row under a grant. The fingerprint of the grant is stored with it. -/
def grantRow (grant : QuotaGrant) (gate : GateState) (atMS : Int) (row : ClientRuntime) :
    ClientRuntime :=
  { row with
    gate := gate
    baselineBytes := pointerIfConfigured grant.baselineBytes grant.headroomBytes
    headroomBytes := grant.headroomBytes
    periodEndsAtMS := grant.periodEndsAtMS
    nextPeriodHeadroomBytes := grant.nextPeriodHeadroomBytes
    quotaFingerprint := quotaFingerprint lib grant
    updatedAtMS := atMS }

def applyQuotaTx (clients : ClientTable) (key : String) (grant : QuotaGrant) (atMS : Int) :
    Except Error ClientTable := do
  let current ← orError (clients.find? key) (clientNotFound key)
  if current.quotaFingerprint = quotaFingerprint lib grant then .ok clients
  else do
    let gate ← withError (.within s!"derive client {key} quota gate")
      (deriveGate current.upBytes current.downBytes
        (pointerIfConfigured grant.baselineBytes grant.headroomBytes) grant.headroomBytes)
    orError (clients.updateKey key (grantRow lib grant gate atMS) (fun _ => rfl))
      (constraintFailed.within s!"update client {key} quota")

def applyQuota (store : Store) (key : String) (grant : QuotaGrant) (atMS : Int) :
    Except Error (Store × Unit) := do
  validateGrant key grant atMS
  let clients ← applyQuotaTx lib store.clients key grant atMS
  .ok ({ store with clients := clients }, ())

/-- The row after a rollover. The fingerprint still names the grant that ended. -/
def rolloverRow (baseline headroom : Int) (gate : GateState) (nowMS : Int) (row : ClientRuntime) :
    ClientRuntime :=
  { row with
    gate := gate
    baselineBytes := some baseline
    headroomBytes := some headroom
    periodEndsAtMS := 0
    nextPeriodHeadroomBytes := none
    updatedAtMS := nowMS }

def applyScheduledQuotaTx (clients : ClientTable) (key : String) (nowMS : Int) :
    Except Error (ClientTable × Bool) := do
  let current ← orError (clients.find? key) (clientNotFound key)
  match current.nextPeriodHeadroomBytes with
  | none => .ok (clients, false) -- `RefreshDue` needs a next-period headroom.
  | some headroom =>
    if QuotaEntry.refreshDue current.periodEndsAtMS current.nextPeriodHeadroomBytes nowMS then do
      let baseline ← orError (addBytes current.upBytes current.downBytes)
        (.new s!"client {key} cumulative counter overflows int64")
      let gate ← withError (.within s!"derive client {key} scheduled quota gate")
        (deriveGate current.upBytes current.downBytes (some baseline) (some headroom))
      let next ← orError
        (clients.updateKey key (rolloverRow baseline headroom gate nowMS) (fun _ => rfl))
        (constraintFailed.within s!"apply client {key} scheduled quota")
      .ok (next, true)
    else .ok (clients, false)

def applyScheduledQuota (store : Store) (key : String) (nowMS : Int) :
    Except Error (Store × Bool) := do
  let (clients, applied) ← applyScheduledQuotaTx store.clients key nowMS
  .ok ({ store with clients := clients }, applied)

def scheduledBy (nowMS : Int) (row : ClientRuntime) : Bool :=
  decide (0 < row.periodEndsAtMS) && row.nextPeriodHeadroomBytes.isSome &&
    decide (row.periodEndsAtMS ≤ nowMS)

def dueKeys (clients : ClientTable) (nowMS : Int) : List String :=
  ((clients.rows.filter (scheduledBy nowMS)).map (·.key)).insertionSort (· ≤ ·)

def applyScheduledQuotasTx (clients : ClientTable) (nowMS : Int) : Except Error (ClientTable × Nat) :=
  forEach
    (fun (clients, applied) key => do
      let (next, changed) ← applyScheduledQuotaTx clients key nowMS
      .ok (next, if changed then applied + 1 else applied))
    (clients, 0) (dueKeys clients nowMS)

/-- The heartbeat form: every due client in one transaction. -/
def applyScheduledQuotas (store : Store) (nowMS : Int) : Except Error (Store × Nat) := do
  let (clients, applied) ← applyScheduledQuotasTx store.clients nowMS
  .ok ({ store with clients := clients }, applied)

end Counters

section Specifications

variable {lib : Library} {clients next : ClientTable} {key : String} {atMS : Int} {changed : Bool}

theorem deriveGate_of_grant {up down baseline headroom : Int} {gate : GateState} :
    deriveGate up down (some baseline) (some headroom) = .ok gate ↔ (0 ≤ up ∧ 0 ≤ down ∧ up + down ≤ maxInt64) ∧
    (0 ≤ baseline ∧ 0 ≤ headroom ∧ baseline + headroom ≤ maxInt64) ∧
    gate = if up + down < baseline then .unconfigured
      else if up + down ≥ baseline + headroom then .closed else .armed := by
  simp only [deriveGate, bind_eq_ok, orError_eq_ok, addBytes, addChecked_eq_some, Except.ok.injEq]
  constructor
  · rintro ⟨current, ⟨up_pos, down_pos, total, rfl⟩, ceiling, ⟨base_pos, head_pos, top, rfl⟩, same⟩
    exact ⟨⟨up_pos, down_pos, total⟩, ⟨base_pos, head_pos, top⟩, same.symm⟩
  · rintro ⟨⟨up_pos, down_pos, total⟩, ⟨base_pos, head_pos, top⟩, same⟩
    exact ⟨_, ⟨up_pos, down_pos, total, rfl⟩, _, ⟨base_pos, head_pos, top, rfl⟩, same.symm⟩

def Rewrites (clients next : ClientTable) (key : String) (row : ClientRuntime) : Prop :=
  ∀ other, next.find? other = if other = key then some row else clients.find? other

theorem rewrites_of_updateKey {set : ClientRuntime → ClientRuntime} {keeps : ∀ row, (set row).key = row.key}
    {row : ClientRuntime} (found : clients.find? key = some row)
    (done : clients.updateKey key set keeps = some next) : Rewrites clients next key (set row) := by
  intro other
  rw [Table.find?_updateKey done, found, Option.map_some]

theorem applyClientCounter_ok {update : CounterUpdate}
    (done : applyClientCounter lib clients update atMS = .ok (next, changed)) :
    ∃ current gate liveIPs, clients.find? update.key = some current ∧
    ¬counterRollback update.counterEpoch current.counterEpoch update.upBytes update.downBytes
      current.upBytes current.downBytes ∧
    deriveGate update.upBytes update.downBytes current.baselineBytes current.headroomBytes = .ok gate ∧
    Rewrites clients next update.key (counterRow update gate liveIPs atMS current) := by
  simp only [applyClientCounter, bind_eq_ok, rejectIf_eq_ok, orError_eq_ok, withError_eq_ok,
    Except.ok.injEq, Prod.mk.injEq] at done
  obtain ⟨_, _, current, found, _, forward, gate, derived, liveIPs, _, table, updated, rfl, _⟩ := done
  exact ⟨current, gate, liveIPs, found, forward, derived, rewrites_of_updateKey found updated⟩

theorem applyQuotaTx_ok {grant : QuotaGrant} (done : applyQuotaTx lib clients key grant atMS = .ok next) :
    ∃ current, clients.find? key = some current ∧
    ((current.quotaFingerprint = quotaFingerprint lib grant ∧ next = clients) ∨
      (current.quotaFingerprint ≠ quotaFingerprint lib grant ∧ ∃ gate, deriveGate current.upBytes current.downBytes
            (pointerIfConfigured grant.baselineBytes grant.headroomBytes) grant.headroomBytes = .ok gate ∧
          Rewrites clients next key (grantRow lib grant gate atMS current))) := by
  simp only [applyQuotaTx, bind_eq_ok, orError_eq_ok] at done
  obtain ⟨current, found, rest⟩ := done
  refine ⟨current, found, ?_⟩
  split at rest
  · rename_i repeated
    cases rest
    exact Or.inl ⟨repeated, rfl⟩
  · rename_i fresh
    simp only [bind_eq_ok, withError_eq_ok, orError_eq_ok] at rest
    obtain ⟨gate, derived, updated⟩ := rest
    exact Or.inr ⟨fresh, gate, derived, rewrites_of_updateKey found updated⟩

/-- What a rollover needs of the row: a next-period headroom whose deadline has passed and
counters that still add up. -/
structure Rollover (row : ClientRuntime) (nowMS baseline headroom : Int) (gate : GateState) :
    Prop where
  next : row.nextPeriodHeadroomBytes = some headroom
  due : row.periodEndsAtMS ≤ nowMS
  total : addBytes row.upBytes row.downBytes = some baseline
  gated : deriveGate row.upBytes row.downBytes (some baseline) (some headroom) = .ok gate

theorem applyScheduledQuotaTx_ok {nowMS : Int}
    (done : applyScheduledQuotaTx clients key nowMS = .ok (next, changed)) :
    ∃ current, clients.find? key = some current ∧ ((changed = false ∧ next = clients ∧
        QuotaEntry.refreshDue current.periodEndsAtMS current.nextPeriodHeadroomBytes nowMS = false) ∨
      (changed = true ∧ ∃ baseline headroom gate, Rollover current nowMS baseline headroom gate ∧
        Rewrites clients next key (rolloverRow baseline headroom gate nowMS current))) := by
  simp only [applyScheduledQuotaTx, bind_eq_ok, orError_eq_ok] at done
  obtain ⟨current, found, rest⟩ := done
  refine ⟨current, found, ?_⟩
  split at rest
  · rename_i none_next
    cases rest
    exact Or.inl ⟨rfl, rfl, by simp [QuotaEntry.refreshDue, none_next]⟩
  · rename_i headroom some_next
    split at rest
    · rename_i due
      simp only [bind_eq_ok, orError_eq_ok, withError_eq_ok, Except.ok.injEq, Prod.mk.injEq] at rest
      obtain ⟨baseline, total, gate, gated, table, updated, rfl, changes⟩ := rest
      have reached : current.periodEndsAtMS ≤ nowMS := by
        simpa [QuotaEntry.refreshDue, some_next] using due
      exact Or.inr ⟨changes.symm, baseline, headroom, gate, ⟨some_next, reached, total, gated⟩,
        rewrites_of_updateKey found updated⟩
    · rename_i early
      cases rest
      exact Or.inl ⟨rfl, rfl, by simpa using early⟩

end Specifications

end PasswallNode.Sqlite
