import Mathlib.Algebra.Group.Nat.Defs
import PasswallNode.Sqlite.ClientRuns

/-! Counter epochs: every new core process gets a higher epoch, and counters may start over
only under a higher one. -/

namespace PasswallNode.Sqlite

open Foundation Protocol State

def maxUint64 : Nat := 18446744073709551615

structure CoreEpoch where
  processIdentity : String
  counterEpoch : Nat
  deriving DecidableEq, Repr

def validateEpochIdentity (identity : String) : Except Error Unit :=
  rejectIf (trimSpace identity = "" ∨ identity.utf8ByteSize > 512)
    (.new "core process identity must contain 1..512 bytes")

/-- `seed` is the random number the first claim draws. -/
def claimCoreCounterEpoch (seed : Nat) (row : Option CoreEpoch) (identity : String) :
    Except Error (CoreEpoch × Nat) := do
  validateEpochIdentity identity
  match row with
  | none =>
    let epoch := seed % 2 ^ 62 + 1
    .ok (⟨identity, epoch⟩, epoch)
  | some current => do
      rejectIf (current.counterEpoch = 0) (.new "stored core counter epoch is zero")
      if current.processIdentity = identity then .ok (current, current.counterEpoch)
      else do
        rejectIf (current.counterEpoch = maxUint64) (.new "core counter epoch exhausted")
        .ok (⟨identity, current.counterEpoch + 1⟩, current.counterEpoch + 1)

def stamp (epoch : Nat) (batch : CounterBatch) : CounterBatch where
  clients := batch.clients.map (fun update => { update with counterEpoch := epoch })
  listeners := batch.listeners.map (fun update => { update with counterEpoch := epoch })

abbrev Seen := String → Option (Int × Int)

def Seen.nothing : Seen := fun _ => none

def Seen.record (seen : Seen) (readings : List (String × Int × Int)) : Seen :=
  fun key =>
    match readings.find? (fun reading => decide (reading.1 = key)) with
    | some reading => some reading.2
    | none => seen key

def clientReadings (batch : CounterBatch) : List (String × Int × Int) :=
  batch.clients.map (fun update => (update.key, update.upBytes, update.downBytes))

def listenerReadings (batch : CounterBatch) : List (String × Int × Int) :=
  batch.listeners.map (fun update => (update.key, update.upBytes, update.downBytes))

structure Observation where
  identity : String
  seed : Nat
  batch : CounterBatch
  atMS : Int

inductive CounterAction where
  | observe (observation : Observation)
  | ensureClient (identity : ClientIdentity) (atMS : Int)
  | ensureListener (key : String) (atMS : Int)
  | deleteClient (key : String)
  | deleteListener (key : String)

/-- The two tables and the epoch row; beside them what was observed under the present process
and how often the process changed. -/
structure CounterSystem where
  store : Store
  epoch : Option CoreEpoch
  clientsSeen : Seen
  listenersSeen : Seen
  changes : Nat

def CounterSystem.start : CounterSystem := ⟨.fresh, none, .nothing, .nothing, 0⟩

def CounterSystem.observing (system : CounterSystem) (identity : String) : Prop :=
  system.epoch.map (·.processIdentity) = some identity

instance (system : CounterSystem) (identity : String) : Decidable (system.observing identity) :=
  inferInstanceAs (Decidable (_ = _))

def CounterSystem.claimed (system : CounterSystem) : Nat :=
  (system.epoch.map (·.counterEpoch)).getD 0

def Seen.under (seen : Seen) (system : CounterSystem) (identity : String) : Seen :=
  if system.observing identity then seen else .nothing

/-- An observation claims the epoch and then commits its counters; the batch may be refused. -/
def observe (lib : Library) (system : CounterSystem) (observation : Observation) : CounterSystem :=
  match claimCoreCounterEpoch observation.seed system.epoch observation.identity with
  | .error _ => system
  | .ok (row, epoch) =>
    { store := commit system.store
        (applyCounterBatch lib system.store (stamp epoch observation.batch) observation.atMS)
      epoch := some row
      clientsSeen := (system.clientsSeen.under system observation.identity).record
        (clientReadings observation.batch)
      listenersSeen := (system.listenersSeen.under system observation.identity).record
        (listenerReadings observation.batch)
      changes := if system.epoch = none ∨ system.observing observation.identity then system.changes
        else system.changes + 1 }

def counterStep (lib : Library) (system : CounterSystem) : CounterAction → CounterSystem
  | .observe observation => observe lib system observation
  | .ensureClient identity atMS =>
    { system with store := commit system.store (ensureClient system.store identity atMS) }
  | .ensureListener key atMS =>
    { system with store := commit system.store (ensureListener system.store key atMS) }
  | .deleteClient key => { system with store := commit system.store (deleteClient system.store key) }
  | .deleteListener key =>
    { system with store := commit system.store (deleteListener system.store key) }

def Seen.climbs (seen : Seen) (readings : List (String × Int × Int)) : Prop :=
  ∀ reading ∈ readings, ∀ before ∈ seen reading.1,
    before.1 ≤ reading.2.1 ∧ before.2 ≤ reading.2.2

instance (seen : Seen) (readings : List (String × Int × Int)) : Decidable (seen.climbs readings) :=
  inferInstanceAs (Decidable (∀ reading ∈ readings, ∀ before ∈ seen reading.1, _ ∧ _))

def Climbs (system : CounterSystem) : CounterAction → Prop
  | .observe observation =>
    (system.clientsSeen.under system observation.identity).climbs (clientReadings observation.batch) ∧
      (system.listenersSeen.under system observation.identity).climbs
        (listenerReadings observation.batch)
  | _ => True

instance decidableClimbs (system : CounterSystem) : ∀ action, Decidable (Climbs system action)
  | .observe _ => inferInstanceAs (Decidable (_ ∧ _))
  | .ensureClient _ _ => isTrue trivial
  | .ensureListener _ _ => isTrue trivial
  | .deleteClient _ => isTrue trivial
  | .deleteListener _ => isTrue trivial

section Claim

variable {seed : Nat} {row : Option CoreEpoch} {identity : String} {next : CoreEpoch} {epoch : Nat} {claimed : Nat}
  {seen : Seen} {key : String} {up down : Int} {readings : List (String × Int × Int)} {lib : Library} {atMS : Int}
  {clients : ClientTable} {store : Store} {observation : Observation} {listeners : ListenerTable}
  {update : ListenerCounterUpdate} {batch : CounterBatch} {system : CounterSystem}

theorem claimCoreCounterEpoch_ok (done : claimCoreCounterEpoch seed row identity = .ok (next, epoch)) :
    next = ⟨identity, epoch⟩ ∧ ((row = none ∧ epoch = seed % 2 ^ 62 + 1) ∨
      ∃ current, row = some current ∧ 0 < current.counterEpoch ∧
        ((current.processIdentity = identity ∧ epoch = current.counterEpoch) ∨
          (current.processIdentity ≠ identity ∧ epoch = current.counterEpoch + 1))) := by
  obtain ⟨_, _, rest⟩ := bind_eq_ok.mp done
  cases row with
  | none =>
    cases rest
    exact ⟨rfl, Or.inl ⟨rfl, rfl⟩⟩
  | some current =>
    obtain ⟨_, positive, claims⟩ := bind_eq_ok.mp rest
    have nonzero : 0 < current.counterEpoch := Nat.pos_of_ne_zero (rejectIf_eq_ok.mp positive)
    split at claims
    · rename_i same
      cases claims
      exact ⟨by cases same; rfl, Or.inr ⟨next, rfl, nonzero, Or.inl ⟨same, rfl⟩⟩⟩
    · rename_i differs
      obtain ⟨_, _, result⟩ := bind_eq_ok.mp claims
      cases result
      exact ⟨rfl, Or.inr ⟨current, rfl, nonzero, Or.inr ⟨differs, rfl⟩⟩⟩

theorem claimCoreCounterEpoch_succeeds (valid : validateEpochIdentity identity = .ok ())
    (positive : ∀ current ∈ row, 0 < current.counterEpoch)
    (room : ∀ current ∈ row, current.counterEpoch < maxUint64) :
    ∃ next epoch, claimCoreCounterEpoch seed row identity = .ok (next, epoch) := by
  unfold claimCoreCounterEpoch
  rw [valid]
  cases row with
  | none => exact ⟨_, _, rfl⟩
  | some current =>
    have nonzero := positive current rfl
    have below := room current rfl
    simp only [rejectIf, if_neg (Nat.pos_iff_ne_zero.mp nonzero), if_neg (Nat.ne_of_lt below)]
    by_cases same : current.processIdentity = identity
    · exact ⟨_, _, if_pos same⟩
    · exact ⟨_, _, if_neg same⟩

/-- Counters held under an epoch: not beyond the claimed one, and under it not above what was observed. -/
structure Behind (claimed : Nat) (seen : Seen) (key : String) (epoch : Nat) (up down : Int) : Prop where
  below : epoch ≤ claimed
  counters : 0 < epoch → epoch = claimed →
    ∃ before, seen key = some before ∧ up ≤ before.1 ∧ down ≤ before.2

theorem behind_zero (claimed : Nat) (seen : Seen) (key : String) (up down : Int) :
    Behind claimed seen key 0 up down :=
  ⟨Nat.zero_le _, fun impossible => absurd impossible (Nat.lt_irrefl 0)⟩

theorem Behind.fresh (behind : Behind claimed seen key epoch up down) {next : Nat}
    (higher : claimed < next) (later : Seen) : Behind next later key epoch up down :=
  ⟨Nat.le_of_lt (Nat.lt_of_le_of_lt behind.below higher),
    fun _ same => absurd (same ▸ behind.below) (Nat.not_le_of_lt higher)⟩

theorem Behind.record (behind : Behind claimed seen key epoch up down)
    (climbs : seen.climbs readings) : Behind claimed (seen.record readings) key epoch up down := by
  refine ⟨behind.below, fun positive same => ?_⟩
  obtain ⟨before, known, upper, lower⟩ := behind.counters positive same
  unfold Seen.record
  cases found : readings.find? (fun reading => decide (reading.1 = key)) with
  | none => exact ⟨before, known, upper, lower⟩
  | some reading =>
    have named : reading.1 = key := of_decide_eq_true (List.find?_some found :)
    obtain ⟨first, second⟩ := climbs reading (List.mem_of_find?_eq_some found) before (named ▸ known)
    exact ⟨reading.2, rfl, Int.le_trans upper first, Int.le_trans lower second⟩

theorem record_of_mem (distinct : (readings.map (·.1)).Nodup) {reading : String × Int × Int}
    (member : reading ∈ readings) : seen.record readings reading.1 = some reading.2 := by
  unfold Seen.record
  cases found : readings.find? (fun other => decide (other.1 = reading.1)) with
  | none =>
    have absent := List.find?_eq_none.mp found reading member
    simp at absent
  | some other =>
    have same : other.1 = reading.1 := of_decide_eq_true (List.find?_some found :)
    rw [List.inj_on_of_nodup_map distinct (List.mem_of_find?_eq_some found) member same]

theorem Behind.no_rollback (behind : Behind claimed seen key epoch up down) (positive : 0 < claimed)
    {newUp newDown : Int} (now : seen key = some (newUp, newDown)) :
    ¬counterRollback claimed epoch newUp newDown up down := by
  rintro (higher | ⟨same, lower⟩)
  · exact absurd behind.below (Nat.not_le_of_lt higher)
  · obtain ⟨before, known, upBound, downBound⟩ := behind.counters (same ▸ positive) same.symm
    cases now.symm.trans known
    simp only at upBound downBound
    omega

theorem firstRepeat_none {seen keys : List String} (none : firstRepeat seen keys = none) :
    keys.Nodup ∧ ∀ key ∈ keys, key ∉ seen := by
  induction keys generalizing seen with
  | nil => exact ⟨List.nodup_nil, by simp⟩
  | cons key rest ih =>
    unfold firstRepeat at none
    split at none
    · cases none
    · rename_i new
      obtain ⟨distinct, apart⟩ := ih none
      refine ⟨List.nodup_cons.mpr ⟨fun again => apart key again List.mem_cons_self, distinct⟩, ?_⟩
      intro other member
      rcases List.mem_cons.mp member with rfl | later
      · exact new
      · exact fun earlier => apart other later (List.mem_cons_of_mem _ earlier)

theorem validateCounterBatch_ok {batch : CounterBatch} (valid : validateCounterBatch batch = .ok ()) :
    (batch.clients.map (·.key)).Nodup ∧ (batch.listeners.map (·.key)).Nodup := by
  unfold validateCounterBatch at valid
  split at valid
  · cases valid
  · rename_i clients
    split at valid
    · cases valid
    · rename_i listeners
      exact ⟨(firstRepeat_none clients).1, (firstRepeat_none listeners).1⟩

def ClientsBehind (claimed : Nat) (seen : Seen) (clients : ClientTable) : Prop :=
  ∀ key row, clients.find? key = some row →
    Behind claimed seen key row.counterEpoch row.upBytes row.downBytes

def ListenersBehind (claimed : Nat) (seen : Seen) (listeners : ListenerTable) : Prop :=
  ∀ key row, listeners.find? key = some row →
    Behind claimed seen key row.counterEpoch row.upBytes row.downBytes

def NotRollback (err : Error) : Prop := err.isSentinel .counterRollback = false

theorem behind_now (claimed : Nat) {key : String} {up down : Int} (now : seen key = some (up, down)) :
    Behind claimed seen key claimed up down :=
  ⟨Nat.le_refl _, fun _ _ => ⟨(up, down), now, Int.le_refl _, Int.le_refl _⟩⟩

theorem notRollback_within (context : String) (err : Error) (other : NotRollback err) :
    NotRollback (err.within context) := other

theorem deriveGate_notRollback (up down : Int) (baseline headroom : Option Int) :
    FailsWith NotRollback (deriveGate up down baseline headroom) := by
  unfold deriveGate
  split
  · exact failsWith_bind (failsWith_orError rfl) (fun _ _ =>
      failsWith_bind (failsWith_orError rfl) (fun _ _ => failsWith_ok _))
  · exact failsWith_ok _

theorem canonicalIPs_notRollback (seen values : List String) :
    FailsWith NotRollback (canonicalIPs lib seen values) := by
  induction values generalizing seen with
  | nil => exact failsWith_ok _
  | cons value rest ih => exact failsWith_bind (failsWith_orError rfl) (fun _ _ => ih _)

theorem applyClientCounter_behind {update : CounterUpdate} (behind : ClientsBehind claimed seen clients)
    (positive : 0 < claimed) (epoch : update.counterEpoch = claimed)
    (now : seen update.key = some (update.upBytes, update.downBytes)) :
    FailsWith NotRollback (applyClientCounter lib clients update atMS) ∧
    ∀ next changed, applyClientCounter lib clients update atMS = .ok (next, changed) →
      ClientsBehind claimed seen next := by
  constructor
  · refine failsWith_bind (failsWith_rejectIf rfl) (fun _ _ => ?_)
    refine failsWith_bind (failsWith_orError rfl) (fun current found => ?_)
    have held := orError_eq_ok.mp found
    refine failsWith_bind ?_ (fun _ _ => ?_)
    · intro err failed
      have rollback := (rejectIf_eq_error.mp failed).1
      rw [epoch] at rollback
      exact absurd rollback ((behind _ _ held).no_rollback positive now)
    · refine failsWith_bind (failsWith_withError (notRollback_within _)
        (deriveGate_notRollback _ _ _ _)) (fun _ _ => ?_)
      refine failsWith_bind (failsWith_withError (notRollback_within _)
        (failsWith_bind (canonicalIPs_notRollback _ _) (fun _ _ => failsWith_ok _))) (fun _ _ => ?_)
      exact failsWith_bind (failsWith_orError rfl) (fun _ _ => failsWith_ok _)
  · intro next changed done
    obtain ⟨current, gate, liveIPs, found, _, _, rewritten⟩ := applyClientCounter_ok done
    intro key row present
    rw [rewritten key] at present
    split at present
    · rename_i here
      cases present
      simp only [counterRow, epoch, here]
      exact behind_now claimed now
    · exact behind key row present

theorem applyListenerCounter_ok {next : ListenerTable}
    (done : applyListenerCounter listeners update atMS = .ok next) (key : String) (row : ListenerRuntime)
    (found : next.find? key = some row) :
    listeners.find? key = some row ∨ (key = update.key ∧ row.counterEpoch = update.counterEpoch ∧
    row.upBytes = update.upBytes ∧ row.downBytes = update.downBytes) := by
  simp only [applyListenerCounter, bind_eq_ok, rejectIf_eq_ok, orError_eq_ok] at done
  obtain ⟨_, _, current, held, _, _, updated⟩ := done
  rw [Table.find?_updateKey updated, held, Option.map_some] at found
  split at found
  · rename_i here
    cases found
    exact Or.inr ⟨here, rfl, rfl, rfl⟩
  · exact Or.inl found

theorem applyListenerCounter_behind (behind : ListenersBehind claimed seen listeners) (positive : 0 < claimed)
    (epoch : update.counterEpoch = claimed) (now : seen update.key = some (update.upBytes, update.downBytes)) :
    FailsWith NotRollback (applyListenerCounter listeners update atMS) ∧
    ∀ next, applyListenerCounter listeners update atMS = .ok next → ListenersBehind claimed seen next := by
  constructor
  · refine failsWith_bind (failsWith_rejectIf rfl) (fun _ _ => ?_)
    refine failsWith_bind (failsWith_orError rfl) (fun current found => ?_)
    have held := orError_eq_ok.mp found
    refine failsWith_bind ?_ (fun _ _ => failsWith_orError rfl)
    intro err failed
    have rollback := (rejectIf_eq_error.mp failed).1
    rw [epoch] at rollback
    exact absurd rollback ((behind _ _ held).no_rollback positive now)
  · intro next done key row present
    rcases applyListenerCounter_ok done key row present with same | ⟨here, counted, up, down⟩
    · exact behind key row same
    · rw [counted, up, down, epoch, here]
      exact behind_now claimed now

theorem client_reading {update : CounterUpdate} (distinct : ((stamp claimed batch).clients.map (·.key)).Nodup)
    (member : update ∈ (stamp claimed batch).clients) : update.counterEpoch = claimed ∧
    seen.record (clientReadings batch) update.key = some (update.upBytes, update.downBytes) := by
  obtain ⟨raw, inside, rfl⟩ := List.mem_map.mp member
  have keys : ((clientReadings batch).map (·.1)).Nodup := by
    simpa [stamp, clientReadings, Function.comp_def] using distinct
  have listed : (raw.key, raw.upBytes, raw.downBytes) ∈ clientReadings batch :=
    List.mem_map.mpr ⟨raw, inside, rfl⟩
  exact ⟨rfl, record_of_mem keys listed⟩

theorem listener_reading (distinct : ((stamp claimed batch).listeners.map (·.key)).Nodup)
    (member : update ∈ (stamp claimed batch).listeners) : update.counterEpoch = claimed ∧
    seen.record (listenerReadings batch) update.key = some (update.upBytes, update.downBytes) := by
  obtain ⟨raw, inside, rfl⟩ := List.mem_map.mp member
  have keys : ((listenerReadings batch).map (·.1)).Nodup := by
    simpa [stamp, listenerReadings, Function.comp_def] using distinct
  have listed : (raw.key, raw.upBytes, raw.downBytes) ∈ listenerReadings batch :=
    List.mem_map.mpr ⟨raw, inside, rfl⟩
  exact ⟨rfl, record_of_mem keys listed⟩

theorem applyClientCounters_behind {updates : List CounterUpdate} (behind : ClientsBehind claimed seen clients)
    (positive : 0 < claimed)
    (now : ∀ update ∈ updates,
      update.counterEpoch = claimed ∧ seen update.key = some (update.upBytes, update.downBytes)) :
    FailsWith NotRollback (applyClientCounters lib clients updates atMS) ∧
    ∀ next changed, applyClientCounters lib clients updates atMS = .ok (next, changed) →
      ClientsBehind claimed seen next := by
  refine (failsWith_forEach (fun state : ClientTable × Bool => ClientsBehind claimed seen state.1) ?_ behind).imp_right
    (fun keeps next changed => keeps (next, changed))
  intro state update member kept
  obtain ⟨fails, keeps⟩ := applyClientCounter_behind kept positive (now update member).1 (now update member).2
  refine ⟨failsWith_bind (failsWith_withError (notRollback_within _) fails) (fun _ _ => failsWith_ok _), ?_⟩
  intro next done
  simp only [bind_eq_ok, withError_eq_ok] at done
  obtain ⟨⟨table, changed⟩, counted, result⟩ := done
  cases result
  exact keeps table changed counted

theorem applyListenerCounters_behind {updates : List ListenerCounterUpdate}
    (behind : ListenersBehind claimed seen listeners) (positive : 0 < claimed)
    (now : ∀ update ∈ updates,
      update.counterEpoch = claimed ∧ seen update.key = some (update.upBytes, update.downBytes)) :
    FailsWith NotRollback (forEach (fun listeners (update : ListenerCounterUpdate) =>
        withError (.within s!"apply counter batch listener {update.key}")
          (applyListenerCounter listeners update atMS)) listeners updates) ∧ ∀ next, forEach
      (fun listeners (update : ListenerCounterUpdate) =>
        withError (.within s!"apply counter batch listener {update.key}")
          (applyListenerCounter listeners update atMS)) listeners updates = .ok next →
      ListenersBehind claimed seen next := by
  refine failsWith_forEach (ListenersBehind claimed seen) ?_ behind
  intro state update member kept
  obtain ⟨fails, keeps⟩ := applyListenerCounter_behind kept positive (now update member).1 (now update member).2
  exact ⟨failsWith_withError (notRollback_within _) fails, fun next done => keeps next (withError_eq_ok.mp done)⟩

theorem applyCounterBatch_behind {clientsSeen listenersSeen : Seen}
    (clients : ClientsBehind claimed (clientsSeen.record (clientReadings batch)) store.clients)
    (listeners : ListenersBehind claimed (listenersSeen.record (listenerReadings batch)) store.listeners)
    (positive : 0 < claimed) : FailsWith NotRollback (applyCounterBatch lib store (stamp claimed batch) atMS) ∧
    ∀ next changed, applyCounterBatch lib store (stamp claimed batch) atMS = .ok (next, changed) →
      ClientsBehind claimed (clientsSeen.record (clientReadings batch)) next.clients ∧
        ListenersBehind claimed (listenersSeen.record (listenerReadings batch)) next.listeners := by
  have checks : FailsWith NotRollback (validateCounterBatch (stamp claimed batch)) := by
    unfold validateCounterBatch
    split
    · exact failsWith_error rfl
    · split
      · exact failsWith_error rfl
      · exact failsWith_ok _
  constructor
  · refine failsWith_bind (failsWith_rejectIf rfl) (fun _ _ => ?_)
    refine failsWith_bind checks (fun _ valid => ?_)
    obtain ⟨clientKeys, listenerKeys⟩ := validateCounterBatch_ok valid
    refine failsWith_bind (applyClientCounters_behind clients positive
      (fun _ member => client_reading clientKeys member)).1 (fun _ _ => ?_)
    exact failsWith_bind (applyListenerCounters_behind listeners positive
      (fun _ member => listener_reading listenerKeys member)).1 (fun _ _ => failsWith_ok _)
  · intro next changed done
    obtain ⟨_, _, rest⟩ := bind_eq_ok.mp done
    obtain ⟨_, valid, loops⟩ := bind_eq_ok.mp rest
    obtain ⟨⟨table, gates⟩, counted, later⟩ := bind_eq_ok.mp loops
    obtain ⟨others, listened, result⟩ := bind_eq_ok.mp later
    cases result
    obtain ⟨clientKeys, listenerKeys⟩ := validateCounterBatch_ok valid
    exact ⟨(applyClientCounters_behind clients positive
        (fun _ member => client_reading clientKeys member)).2 table changed counted,
      (applyListenerCounters_behind listeners positive
        (fun _ member => listener_reading listenerKeys member)).2 others listened⟩

structure EpochInvariant (system : CounterSystem) : Prop where
  positive : ∀ current, system.epoch = some current → 0 < current.counterEpoch
  bounded : ∀ current, system.epoch = some current →
    current.counterEpoch ≤ 2 ^ 62 + system.changes
  clients : ClientsBehind system.claimed system.clientsSeen system.store.clients
  listeners : ListenersBehind system.claimed system.listenersSeen system.store.listeners

theorem epochInvariant_start : EpochInvariant .start where
  positive := by intro current impossible; cases impossible
  bounded := by intro current impossible; cases impossible
  clients := by intro key row impossible; cases impossible
  listeners := by intro key row impossible; cases impossible

theorem behind_claim {row : CoreEpoch} {epoch : Nat} (invariant : EpochInvariant system)
    (climbs : Climbs system (.observe observation))
    (done : claimCoreCounterEpoch observation.seed system.epoch observation.identity = .ok (row, epoch)) :
    0 < epoch ∧ ClientsBehind epoch ((system.clientsSeen.under system observation.identity).record
      (clientReadings observation.batch)) system.store.clients ∧
    ListenersBehind epoch ((system.listenersSeen.under system observation.identity).record
      (listenerReadings observation.batch)) system.store.listeners := by
  obtain ⟨_, ⟨none, first⟩ | ⟨current, held, positive, ⟨same, kept⟩ | ⟨differs, raised⟩⟩⟩ :=
    claimCoreCounterEpoch_ok done
  · have above : system.claimed < epoch := by
      simp only [CounterSystem.claimed, none, Option.map_none, Option.getD_none]
      omega
    exact ⟨by omega, fun key row found => (invariant.clients key row found).fresh above _,
      fun key row found => (invariant.listeners key row found).fresh above _⟩
  · have observing : system.observing observation.identity := by
      simp [CounterSystem.observing, held, same]
    have claimed : system.claimed = epoch := by simp [CounterSystem.claimed, held, kept]
    simp only [Climbs, Seen.under, if_pos observing] at climbs ⊢
    rw [← claimed]
    refine ⟨by rw [claimed, kept]; exact positive,
      fun key row found => (invariant.clients key row found).record climbs.1,
      fun key row found => (invariant.listeners key row found).record climbs.2⟩
  · have above : system.claimed < epoch := by simp [CounterSystem.claimed, held, raised]
    exact ⟨by omega, fun key row found => (invariant.clients key row found).fresh above _,
      fun key row found => (invariant.listeners key row found).fresh above _⟩

theorem epochInvariant_observe (invariant : EpochInvariant system) (climbs : Climbs system (.observe observation)) :
    EpochInvariant (observe lib system observation) := by
  unfold observe
  cases done : claimCoreCounterEpoch observation.seed system.epoch observation.identity with
  | error err => exact invariant
  | ok result =>
    obtain ⟨row, epoch⟩ := result
    obtain ⟨positive, clients, listeners⟩ := behind_claim invariant climbs done
    obtain ⟨rfl, claims⟩ := claimCoreCounterEpoch_ok done
    have kept : ∀ next changed, applyCounterBatch lib system.store (stamp epoch observation.batch)
        observation.atMS = .ok (next, changed) → _ :=
      (applyCounterBatch_behind clients listeners positive).2
    constructor
    · intro current same
      cases same
      exact positive
    · intro current same
      cases same
      dsimp only
      rcases claims with ⟨none, first⟩ | ⟨current, held, _, ⟨same, same'⟩ | ⟨differs, raised⟩⟩
      · have below := Nat.mod_lt observation.seed (show 0 < 2 ^ 62 by decide)
        omega
      · have bound := invariant.bounded current held
        split <;> omega
      · have bound := invariant.bounded current held
        have changed : ¬(system.epoch = none ∨ system.observing observation.identity) := by
          simp [CounterSystem.observing, held, differs]
        rw [if_neg changed]
        omega
    · exact commit_invariant (fun next : Store => ClientsBehind epoch _ next.clients) clients
        (fun next changed applied => (kept next changed applied).1)
    · exact commit_invariant (fun next : Store => ListenersBehind epoch _ next.listeners) listeners
        (fun next changed applied => (kept next changed applied).2)

theorem ensureListener_ok {next : Store} {key : String} {atMS : Int}
    (done : ensureListener store key atMS = .ok (next, ())) :
    next.clients = store.clients ∧ ∀ other row, next.listeners.find? other = some row →
    store.listeners.find? other = some row ∨ row = newListener key atMS := by
  simp only [ensureListener, bind_eq_ok, rejectIf_eq_ok, orError_eq_ok] at done
  obtain ⟨_, _, ⟨listeners, inserted⟩, tried, result⟩ := done
  cases result
  refine ⟨rfl, ?_⟩
  intro other row found
  rw [(Table.insertIgnore_eq_some tried).2.2 other] at found
  split at found
  · cases held : store.listeners.find? other with
    | none =>
      rw [held] at found
      exact Or.inr (Option.some.inj found).symm
    | some old =>
      rw [held] at found
      exact Or.inl found
  · exact Or.inl found

theorem deleteListener_ok {next : Store} {key : String} (done : deleteListener store key = .ok (next, ())) :
    next.clients = store.clients ∧ ∀ other row, next.listeners.find? other = some row →
    store.listeners.find? other = some row := by
  obtain ⟨_, _, result⟩ := bind_eq_ok.mp done
  cases result
  refine ⟨rfl, ?_⟩
  intro other row found
  rw [Table.find?_deleteWhere] at found
  exact (Option.filter_eq_some_iff.mp found).1

theorem ensureClient_listeners {next : Store} {identity : ClientIdentity} {atMS : Int}
    (done : ensureClient store identity atMS = .ok (next, ())) : next.listeners = store.listeners := by
  simp only [ensureClient, bind_eq_ok] at done
  obtain ⟨⟨clients, inserted⟩, _, rest⟩ := done
  cases inserted with
  | true => cases rest; rfl
  | false =>
    simp only [Bool.false_eq_true, if_false, bind_eq_ok] at rest
    obtain ⟨_, _, result⟩ := rest
    cases result
    rfl

theorem epochInvariant_commit (invariant : EpochInvariant system) {result : Except Error (Store × Unit)}
    (rows : ∀ next value, result = .ok (next, value) →
      (∀ key row, next.clients.find? key = some row →
        system.store.clients.find? key = some row ∨ row.counterEpoch = 0) ∧
      ∀ key row, next.listeners.find? key = some row →
        system.store.listeners.find? key = some row ∨ row.counterEpoch = 0) :
    EpochInvariant { system with store := commit system.store result } := by
  refine commit_invariant (fun next : Store => EpochInvariant { system with store := next }) invariant ?_
  intro next value done
  obtain ⟨clients, listeners⟩ := rows next value done
  refine ⟨invariant.positive, invariant.bounded, ?_, ?_⟩
  · intro key row found
    rcases clients key row found with same | zero
    · exact invariant.clients key row same
    · rw [zero]
      exact behind_zero _ _ _ _ _
  · intro key row found
    rcases listeners key row found with same | zero
    · exact invariant.listeners key row same
    · rw [zero]
      exact behind_zero _ _ _ _ _

theorem epochInvariant_step (action : CounterAction) (invariant : EpochInvariant system)
    (climbs : Climbs system action) : EpochInvariant (counterStep lib system action) := by
  cases action with
  | observe observation => exact epochInvariant_observe invariant climbs
  | ensureClient identity atMS =>
    refine epochInvariant_commit invariant (fun next _ done => ⟨?_, ?_⟩)
    · intro key row found
      rw [ensureClient_ok done] at found
      split at found
      · cases held : system.store.clients.find? key with
        | none =>
          rw [held] at found
          cases found
          exact Or.inr rfl
        | some old =>
          rw [held] at found
          exact Or.inl found
      · exact Or.inl found
    · intro key row found
      rw [ensureClient_listeners done] at found
      exact Or.inl found
  | ensureListener key atMS =>
    refine epochInvariant_commit invariant (fun next _ done => ?_)
    obtain ⟨same, listeners⟩ := ensureListener_ok done
    refine ⟨fun key row found => Or.inl (same ▸ found), ?_⟩
    intro other row found
    rcases listeners other row found with kept | rfl
    · exact Or.inl kept
    · exact Or.inr rfl
  | deleteClient key =>
    refine epochInvariant_commit invariant (fun next _ done => ⟨?_, ?_⟩)
    · intro other row found
      rw [deleteClient_ok done] at found
      split at found
      · cases found
      · exact Or.inl found
    · intro other row found
      obtain ⟨_, _, result⟩ := bind_eq_ok.mp done
      cases result
      exact Or.inl found
  | deleteListener key =>
    refine epochInvariant_commit invariant (fun next _ done => ?_)
    obtain ⟨same, listeners⟩ := deleteListener_ok done
    exact ⟨fun key row found => Or.inl (same ▸ found), fun other row found => Or.inl (listeners other row found)⟩

/-- Over every run whose counters climb under each process: no row is above the claimed
epoch, and the next observation gets the epoch of its process, a higher one for a new
process, never zero; its batch is not refused for moving backwards. -/
theorem epochs_and_counters_compose (lib : Library) (actions : List CounterAction)
    (climbing : Admits (counterStep lib) Climbs .start actions)
    (few : (run (counterStep lib) .start actions).changes < 2 ^ 63) :
    let system := run (counterStep lib) .start actions
    (∀ row ∈ system.store.clients.rows, row.counterEpoch ≤ system.claimed) ∧
      (∀ row ∈ system.store.listeners.rows, row.counterEpoch ≤ system.claimed) ∧
      ∀ observation, Climbs system (.observe observation) →
        (validateEpochIdentity observation.identity = .ok () → ∃ row epoch,
          claimCoreCounterEpoch observation.seed system.epoch observation.identity =
            .ok (row, epoch)) ∧
        ∀ row epoch,
          claimCoreCounterEpoch observation.seed system.epoch observation.identity =
            .ok (row, epoch) →
          epoch ≠ 0 ∧
            (∀ current, system.epoch = some current →
              (current.processIdentity = observation.identity → epoch = current.counterEpoch) ∧
                (current.processIdentity ≠ observation.identity → current.counterEpoch < epoch)) ∧
            ∀ err, applyCounterBatch lib system.store (stamp epoch observation.batch)
              observation.atMS = .error err → err.isSentinel .counterRollback = false := by
  intro system
  have invariant : EpochInvariant system :=
    run_invariant_of_admits EpochInvariant
      (fun _ action kept climbs => epochInvariant_step action kept climbs) epochInvariant_start climbing
  refine ⟨?_, ?_, ?_⟩
  · intro row member
    exact (invariant.clients row.key row (Table.find?_of_mem member)).below
  · intro row member
    exact (invariant.listeners row.key row (Table.find?_of_mem member)).below
  · intro observation climbs
    refine ⟨?_, ?_⟩
    · intro valid
      refine claimCoreCounterEpoch_succeeds valid invariant.positive ?_
      intro current held
      have bound := invariant.bounded current held
      have changed : system.changes < 2 ^ 63 := few
      have limit : (2 : Nat) ^ 62 + 2 ^ 63 < maxUint64 := by decide
      omega
    · intro row epoch done
      obtain ⟨positive, clients, listeners⟩ := behind_claim invariant climbs done
      refine ⟨Nat.ne_of_gt positive, ?_, (applyCounterBatch_behind clients listeners positive).1⟩
      intro current held
      obtain ⟨_, ⟨none, _⟩ | ⟨found, present, _, cases⟩⟩ := claimCoreCounterEpoch_ok done
      · rw [held] at none
        cases none
      · cases held.symm.trans present
        rcases cases with ⟨same, kept⟩ | ⟨differs, raised⟩
        · exact ⟨fun _ => kept, fun apart => absurd same apart⟩
        · exact ⟨fun same => absurd same differs, fun _ => by omega⟩

def returningProcess : List CounterAction :=
  let observation (identity : String) (up : Int) : CounterAction :=
    .observe ⟨identity, 7, ⟨[⟨"cli_1", true, up, 0, 0, []⟩], []⟩, 1⟩
  [.ensureClient ⟨"cli_1", "sub_1"⟩ 1, observation "first" 10, observation "second" 3,
    observation "second" 4, observation "first" 1]

theorem returning_process_composes :
    Admits (counterStep .transparent) Climbs .start returningProcess ∧
      ∀ row ∈ (run (counterStep .transparent) .start returningProcess).store.clients.rows,
        row.counterEpoch ≤ (run (counterStep .transparent) .start returningProcess).claimed :=
  ⟨by decide, (epochs_and_counters_compose .transparent returningProcess (by decide) (by decide)).1⟩

end Claim

end PasswallNode.Sqlite
