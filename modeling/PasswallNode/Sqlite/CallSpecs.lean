import PasswallNode.Sqlite.ClientRuns
import PasswallNode.Sqlite.Transactions

/-! What the calls of a sync round can do to each table, and when they are refused. -/

namespace PasswallNode.Sqlite

open Foundation Protocol State

def WritesStreams : StoreCall → Prop
  | .saveStream _ | .clearStreamForHigherEpoch _ _ => True
  | _ => False

def WritesClients : StoreCall → Prop
  | .ensureClient _ _ | .deleteClient _ | .applyQuota _ _ _ => True
  | _ => False

def WritesListeners : StoreCall → Prop
  | .ensureListener _ _ | .deleteListener _ => True
  | _ => False

def WritesSkews (kind : String) : StoreCall → Prop
  | .observeReferenceSkew counted _ _ | .clearReferenceSkew counted _ => counted = kind
  | _ => False

def WritesObjects : StoreCall → Prop
  | .saveObject _ _ | .deleteObject _ _ | .deleteClient _ | .deleteListener _ => True
  | _ => False

section Objects

variable {libs : Libraries} {store next : Store} {status : ObjectStatus} {rounds : Int} {after : ClientRuntime}
  {identity : ClientIdentity} {atMS : Int} {lib : Library} {key : String} {grant : QuotaGrant} {row : ClientRuntime}
  {kind : String} {version : Version} {err : Error}

theorem saveObject_ok {atMS : Int} (done : saveObject libs.pkg libs.wire store status atMS = .ok (next, ())) :
    validateObject libs.pkg libs.wire status atMS = .ok () ∧
    ∃ objects, store.objects.put ⟨status, atMS⟩ = some objects ∧ next = { store with objects := objects } := by
  simp only [saveObject, bind_eq_ok, orError_eq_ok] at done
  obtain ⟨_, valid, objects, put, same⟩ := done
  cases same
  exact ⟨valid, objects, put, rfl⟩

theorem saveObject_of_valid {atMS : Int} (valid : validateObject libs.pkg libs.wire status atMS = .ok ()) :
    ∃ next, saveObject libs.pkg libs.wire store status atMS = .ok (next, ()) := by
  have content := valid
  simp only [validateObject, validateObjectContent, bind_eq_ok, rejectIf_eq_ok, not_or, not_lt] at content
  obtain ⟨_, _, _, _, _, ⟨failed, updated⟩, _⟩ := content
  have passes : checkObject ⟨status, atMS⟩ = true := by simp [checkObject, failed, updated]
  obtain ⟨objects, put⟩ : ∃ objects, store.objects.put ⟨status, atMS⟩ = some objects :=
    Table.put_of_check passes
  exact ⟨_, bind_eq_ok.mpr ⟨(), valid, bind_eq_ok.mpr ⟨objects, orError_eq_ok.mpr put, rfl⟩⟩⟩

theorem insertClient_tried (store : Store) (named : identity.key ≠ "" ∧ identity.subject ≠ "" ∧ 0 ≤ atMS) : ∃ clients,
    insertClient store.clients identity atMS = .ok (clients, (store.clients.find? identity.key).isNone) ∧
    ∀ row, store.clients.find? identity.key = some row → clients.find? identity.key = some row := by
  have passes : checkClient (newClient identity atMS) = true := by simp [checkClient, newClient, named.2.2]
  have tries : ∃ clients inserted, store.clients.insertIgnore (newClient identity atMS) =
    some (clients, inserted) := Table.insertIgnore_of_check passes
  obtain ⟨clients, inserted, put⟩ := tries
  obtain ⟨-, rfl, rows⟩ := Table.insertIgnore_eq_some put
  have here : (newClient identity atMS).key = identity.key := rfl
  refine ⟨clients, ?_, fun row found => by rw [rows, here, if_pos rfl, found]; rfl⟩
  simp only [insertClient, bind_eq_ok, rejectIf_eq_ok, orError_eq_ok]
  exact ⟨(), by simp [named.1, named.2.1], (), by omega, put⟩

theorem ensureClient_conflict {row : ClientRuntime} (named : identity.key ≠ "" ∧ identity.subject ≠ "" ∧ 0 ≤ atMS)
    (found : store.clients.find? identity.key = some row) (apart : row.subject ≠ identity.subject) :
    ensureClient store identity atMS = .error (.new
    s!"client {identity.key} already belongs to subject {row.subject}, not {identity.subject}") := by
  obtain ⟨clients, inserts, kept⟩ := insertClient_tried store named
  simp [ensureClient, inserts, found, verifyClient, kept row found, orError, rejectIf, apart, bind, Except.bind]

theorem ensureClient_isOk (named : identity.key ≠ "" ∧ identity.subject ≠ "" ∧ 0 ≤ atMS)
    (agrees : ∀ row, store.clients.find? identity.key = some row → row.subject = identity.subject) :
    ∃ done, ensureClient store identity atMS = .ok done := by
  obtain ⟨clients, inserts, kept⟩ := insertClient_tried store named
  cases found : store.clients.find? identity.key with
  | none => simp [ensureClient, inserts, found, bind, Except.bind]
  | some row =>
    simp [ensureClient, inserts, found, verifyClient, kept row found, orError, rejectIf, agrees row found,
      bind, Except.bind]

theorem ensureClient_frame (done : ensureClient store identity atMS = .ok (next, ())) :
    next = { store with clients := next.clients } := by
  simp only [ensureClient, bind_eq_ok] at done
  obtain ⟨⟨clients, inserted⟩, -, rest⟩ := done
  cases inserted with
  | true =>
    cases rest
    rfl
  | false =>
    simp only [Bool.false_eq_true, if_false, bind_eq_ok] at rest
    obtain ⟨-, -, same⟩ := rest
    cases same
    rfl

/-- The ceiling of a grant is a number the counters can reach. -/
def CeilingFits (grant : QuotaGrant) : Prop :=
  ∀ headroom ∈ grant.headroomBytes, grant.baselineBytes + headroom ≤ maxInt64

def SumsFit (counted : Int) (grant : QuotaGrant) : Prop :=
  ∀ headroom ∈ grant.headroomBytes, counted ≤ maxInt64 ∧ grant.baselineBytes + headroom ≤ maxInt64

theorem sumsFit_iff {counted : Int} (total : counted ≤ maxInt64) : SumsFit counted grant ↔ CeilingFits grant :=
  ⟨fun fits headroom here => (fits headroom here).2, fun fits headroom here => ⟨total, fits headroom here⟩⟩

theorem grantRow_checked {gate : GateState} (valid : validateGrant key grant atMS = .ok ())
    (checked : checkClient row = true) (configured : gate = .unconfigured ∨ grant.headroomBytes.isSome = true) :
    checkClient (grantRow lib grant gate atMS row) = true := by
  simp only [validateGrant, bind_eq_ok, rejectIf_eq_ok, not_or, not_exists, not_and, not_lt, ne_eq,
    not_not] at valid
  obtain ⟨-, ⟨-, baseline, timed⟩, -, headroom, -, period, ends, next⟩ := valid
  simp only [checkClient, Bool.and_eq_true, decide_eq_true_eq, Bool.or_eq_true] at checked
  obtain ⟨⟨⟨⟨⟨⟨⟨up, down⟩, -⟩, -⟩, -⟩, -⟩, -⟩, -⟩ := checked
  cases head : grant.headroomBytes with
  | none =>
    cases later : grant.nextPeriodHeadroomBytes with
    | none => simp_all [checkClient, grantRow, pointerIfConfigured]
    | some bytes =>
      rw [later] at period next
      have positive : 0 < grant.periodEndsAtMS := by
        have nonzero : grant.periodEndsAtMS ≠ 0 := by simpa using period
        omega
      simp_all [checkClient, grantRow, pointerIfConfigured]
  | some bytes =>
    cases later : grant.nextPeriodHeadroomBytes with
    | none => simp_all [checkClient, grantRow, pointerIfConfigured]
    | some upcoming =>
      rw [later] at period next
      have positive : 0 < grant.periodEndsAtMS := by
        have nonzero : grant.periodEndsAtMS ≠ 0 := by simpa using period
        omega
      simp_all [checkClient, grantRow, pointerIfConfigured]

theorem applyQuota_of_fits (valid : validateGrant key grant atMS = .ok ())
    (found : store.clients.find? key = some row)
    (fits : row.quotaFingerprint = quotaFingerprint lib grant ∨ SumsFit (row.upBytes + row.downBytes) grant) :
    ∃ next, applyQuota lib store key grant atMS = .ok (next, ()) := by
  have checked := store.clients.checked row (Table.mem_of_find? found)
  by_cases marked : row.quotaFingerprint = quotaFingerprint lib grant
  · refine ⟨_, bind_eq_ok.mpr ⟨(), valid, bind_eq_ok.mpr ⟨store.clients, ?_, rfl⟩⟩⟩
    simp [applyQuotaTx, found, orError, marked, bind, Except.bind]
  · have sums := fits.resolve_left marked
    have derives : ∃ gate, deriveGate row.upBytes row.downBytes
        (pointerIfConfigured grant.baselineBytes grant.headroomBytes) grant.headroomBytes = .ok gate ∧
        (gate = .unconfigured ∨ grant.headroomBytes.isSome = true) := by
      cases head : grant.headroomBytes with
      | none => exact ⟨.unconfigured, rfl, Or.inl rfl⟩
      | some headroom =>
        have counters : 0 ≤ row.upBytes ∧ 0 ≤ row.downBytes := by
          simp only [checkClient, Bool.and_eq_true, decide_eq_true_eq] at checked
          exact ⟨checked.1.1.1.1.1.1.1, checked.1.1.1.1.1.1.2⟩
        simp only [validateGrant, bind_eq_ok, rejectIf_eq_ok, not_or, not_exists, not_and, not_lt] at valid
        obtain ⟨-, ⟨-, baseline, -⟩, -, bytes, -⟩ := valid
        obtain ⟨total, ceiling⟩ := sums headroom head
        exact ⟨_, deriveGate_of_grant.mpr ⟨⟨counters.1, counters.2, total⟩,
          ⟨baseline, bytes headroom (by rw [head]; rfl), ceiling⟩, rfl⟩, Or.inr rfl⟩
    obtain ⟨gate, derived, configured⟩ := derives
    obtain ⟨clients, updated⟩ := Table.updateKey_of_check (grantRow lib grant gate atMS) (fun _ => rfl) found
      (grantRow_checked valid checked configured)
    refine ⟨_, bind_eq_ok.mpr ⟨(), valid, bind_eq_ok.mpr ⟨clients, ?_, rfl⟩⟩⟩
    simp [applyQuotaTx, found, orError, marked, derived, withError, updated, bind, Except.bind]

theorem applyQuota_of_overflow (valid : validateGrant key grant atMS = .ok ())
    (found : store.clients.find? key = some row) (fresh : row.quotaFingerprint ≠ quotaFingerprint lib grant)
    (exceeds : ¬ SumsFit (row.upBytes + row.downBytes) grant) :
    ∃ err, applyQuota lib store key grant atMS = .error (Error.within s!"derive client {key} quota gate" err) := by
  simp only [SumsFit, not_forall] at exceeds
  obtain ⟨headroom, head, above⟩ := exceeds
  rw [Option.mem_def] at head
  have refuses : ∃ err, deriveGate row.upBytes row.downBytes (some grant.baselineBytes) (some headroom) =
      .error err := by
    cases derived : deriveGate row.upBytes row.downBytes (some grant.baselineBytes) (some headroom) with
    | error err => exact ⟨err, rfl⟩
    | ok gate =>
      obtain ⟨⟨-, -, total⟩, ⟨-, -, ceiling⟩, -⟩ := deriveGate_of_grant.mp derived
      exact absurd ⟨total, ceiling⟩ above
  obtain ⟨err, refused⟩ := refuses
  refine ⟨err, ?_⟩
  simp [applyQuota, valid, applyQuotaTx, found, orError, fresh, head, pointerIfConfigured, refused, withError,
    bind, Except.bind]

theorem ensureListener_of_valid (keyed : key ≠ "") (timed : 0 ≤ atMS) :
    ∃ next, ensureListener store key atMS = .ok (next, ()) := by
  have passes : checkListener (newListener key atMS) = true := by simp [checkListener, newListener, timed]
  have tries : ∃ listeners inserted, store.listeners.insertIgnore (newListener key atMS) =
    some (listeners, inserted) := Table.insertIgnore_of_check passes
  obtain ⟨listeners, inserted, put⟩ := tries
  exact ⟨_, bind_eq_ok.mpr ⟨(), rejectIf_eq_ok.mpr (by simp [keyed, timed]),
    bind_eq_ok.mpr ⟨_, orError_eq_ok.mpr put, rfl⟩⟩⟩

theorem ensureListener_rows (done : ensureListener store key atMS = .ok (next, ())) :
    next = { store with listeners := next.listeners } ∧
      ∀ other row, next.listeners.find? other = some row →
        (∃ old, store.listeners.find? other = some old) ∨ other = key := by
  simp only [ensureListener, bind_eq_ok, rejectIf_eq_ok, orError_eq_ok] at done
  obtain ⟨-, -, ⟨listeners, inserted⟩, put, same⟩ := done
  cases same
  refine ⟨rfl, ?_⟩
  intro other row found
  have rows := (Table.insertIgnore_eq_some put).2.2 other
  rw [rows] at found
  by_cases here : (newListener key atMS).key = other
  · exact Or.inr here.symm
  · rw [if_neg here] at found
    exact Or.inl ⟨row, found⟩

def SkewExhausted (err : Error) : Prop :=
  ∃ kind key : String, err = .new s!"reference skew {kind}/{key} round counter overflow"

def skewCount (store : Store) (kind key : String) (version : Version) : Int :=
  (store.skews.find? (kind, key)).elim 0 (fun skew => if skew.version = version then skew.rounds else 0)

theorem skewRounds_eq_ok : skewRounds kind key version (store.skews.find? (kind, key)) = .ok rounds ↔
    skewCount store kind key version ≠ maxInt64 ∧ rounds = skewCount store kind key version + 1 := by
  have below : (0 : Int) ≠ maxInt64 := by decide
  unfold skewCount
  cases store.skews.find? (kind, key) with
  | none => simp [skewRounds, below, eq_comm (a := rounds)]
  | some skew =>
    by_cases same : skew.version = version
    · simp only [skewRounds, if_pos same, bind_eq_ok, rejectIf_eq_ok, Option.elim_some, Except.ok.injEq]
      constructor
      · intro counted
        obtain ⟨_, room, more⟩ := counted
        exact ⟨room, more.symm⟩
      · intro counted
        exact ⟨(), counted.1, counted.2.symm⟩
    · simp [skewRounds, same, below, eq_comm (a := rounds)]

theorem observeReferenceSkew_fails (kinded : isBlank kind = false) (keyed : isBlank key = false)
    (present : version.zero = false) (failed : observeReferenceSkew store kind key version = .error err) :
    skewCount store kind key version = maxInt64 ∧ SkewExhausted err := by
  rw [observeReferenceSkew] at failed
  have named : rejectIf (isBlank kind = true ∨ isBlank key = true ∨ version.zero = true)
      (Error.new "reference skew requires kind, key, and non-zero version") = .ok () :=
    rejectIf_eq_ok.mpr (by simp [kinded, keyed, present])
  rcases bind_eq_error.mp failed with bad | ⟨_, _, failed⟩
  · rw [named] at bad
    cases bad
  · rcases bind_eq_error.mp failed with counts | ⟨rounds, counted, failed⟩
    · refine ⟨?_, ?_⟩
      · by_contra room
        rw [skewRounds_eq_ok.mpr ⟨room, rfl⟩] at counts
        cases counts
      cases current : store.skews.find? (kind, key) with
      | none =>
        rw [current] at counts
        cases counts
      | some skew =>
        rw [current, skewRounds] at counts
        split at counts
        · rcases bind_eq_error.mp counts with full | ⟨_, _, impossible⟩
          · exact ⟨kind, key, (rejectIf_eq_error.mp full).2.symm⟩
          · cases impossible
        · cases counts
    · have positive : 0 < rounds := by
        cases current : store.skews.find? (kind, key) with
        | none =>
          rw [current] at counted
          cases counted
          decide
        | some skew =>
          have kept : 0 < skew.rounds := by
            simpa [checkSkew] using store.skews.checked skew (Table.mem_of_find? current)
          rw [current, skewRounds] at counted
          split at counted
          · simp only [bind_eq_ok, Except.ok.injEq] at counted
            obtain ⟨-, -, rfl⟩ := counted
            omega
          · cases counted
            decide
      have puts : ∃ skews, store.skews.put ⟨kind, key, version, rounds⟩ = some skews :=
        Table.put_of_check (by simp [checkSkew, positive])
      obtain ⟨skews, put⟩ := puts
      rw [put] at failed
      cases failed

theorem skewCount_congr {next : Store} (same : next.skews.find? (kind, key) = store.skews.find? (kind, key)) :
    skewCount next kind key version = skewCount store kind key version := by
  rw [skewCount, same, skewCount]

theorem observeReferenceSkew_counts {next : Store}
    (done : observeReferenceSkew store kind key version = .ok (next, rounds)) :
    skewCount store kind key version ≠ maxInt64 ∧ ∀ other, skewCount next kind other version =
      if other = key then skewCount store kind key version + 1 else skewCount store kind other version := by
  simp only [observeReferenceSkew, bind_eq_ok, orError_eq_ok] at done
  obtain ⟨-, -, counted, counts, skews, put, same⟩ := done
  cases same
  obtain ⟨room, rfl⟩ := skewRounds_eq_ok.mp counts
  refine ⟨room, ?_⟩
  intro other
  have found := Table.find?_put put (kind, other)
  split
  · rename_i here
    rw [here] at found ⊢
    rw [skewCount, found, if_pos rfl]
    simp
  · rename_i apart
    refine skewCount_congr (found.trans (if_neg ?_))
    exact fun here => apart (Prod.mk.inj here).2.symm

theorem clearReferenceSkew_of_named (kinded : isBlank kind = false) (keyed : isBlank key = false) :
    ∃ next, clearReferenceSkew store kind key = .ok (next, ()) :=
  ⟨_, bind_eq_ok.mpr ⟨(), rejectIf_eq_ok.mpr (by simp [kinded, keyed]), rfl⟩⟩

/-- A call that does not write a kind of rows leaves their table as it is. -/
structure Frame (call : StoreCall) (store next : Store) : Prop where
  streams : ¬ WritesStreams call → next.streams = store.streams
  clients : ¬ WritesClients call → next.clients = store.clients
  listeners : ¬ WritesListeners call → next.listeners = store.listeners
  objects : ¬ WritesObjects call → next.objects = store.objects
  skews : ∀ kind key, ¬ WritesSkews kind call → next.skews.find? (kind, key) = store.skews.find? (kind, key)

theorem frame_refl (call : StoreCall) (store : Store) : Frame call store store :=
  ⟨fun _ => rfl, fun _ => rfl, fun _ => rfl, fun _ => rfl, fun _ _ _ => rfl⟩

theorem transaction_frame {call : StoreCall} {value : call.Value}
    (done : transaction libs store call = .ok (next, value)) : Frame call store next := by
  cases call with
  | stream name =>
    obtain ⟨rfl, -⟩ := query_eq_ok.mp done
    exact frame_refl _ _
  | object name key =>
    obtain ⟨rfl, -⟩ := query_eq_ok.mp done
    exact frame_refl _ _
  | objects | clients | listeners =>
    cases done
    exact frame_refl _ _
  | saveStream doc =>
    obtain ⟨-, ⟨rfl, -⟩ | ⟨-, stored⟩⟩ := saveStream_ok done
    · exact frame_refl _ _
    · rw [stored.1]
      exact ⟨fun apart => absurd trivial apart, fun _ => rfl, fun _ => rfl, fun _ => rfl, fun _ _ _ => rfl⟩
  | clearStreamForHigherEpoch name epoch =>
    obtain ⟨-, rfl⟩ | ⟨_, -, -, stored⟩ := clearStreamForHigherEpoch_ok done
    · exact frame_refl _ _
    · rw [stored.1]
      exact ⟨fun apart => absurd trivial apart, fun _ => rfl, fun _ => rfl, fun _ => rfl, fun _ _ _ => rfl⟩
  | saveObject status atMS =>
    obtain ⟨-, _, -, rfl⟩ := saveObject_ok done
    exact ⟨fun _ => rfl, fun _ => rfl, fun _ => rfl, fun apart => absurd trivial apart, fun _ _ _ => rfl⟩
  | deleteObject name key =>
    obtain ⟨_, -, same⟩ := bind_eq_ok.mp done
    cases same
    exact ⟨fun _ => rfl, fun _ => rfl, fun _ => rfl, fun apart => absurd trivial apart, fun _ _ _ => rfl⟩
  | ensureClient identity atMS =>
    rw [ensureClient_frame done]
    exact ⟨fun _ => rfl, fun apart => absurd trivial apart, fun _ => rfl, fun _ => rfl, fun _ _ _ => rfl⟩
  | deleteClient key =>
    obtain ⟨_, -, same⟩ := bind_eq_ok.mp done
    cases same
    exact ⟨fun _ => rfl, fun apart => absurd trivial apart, fun _ => rfl, fun apart => absurd trivial apart,
      fun _ _ _ => rfl⟩
  | applyQuota key grant atMS =>
    obtain ⟨-, _, -, rfl⟩ := applyQuota_ok done
    exact ⟨fun _ => rfl, fun apart => absurd trivial apart, fun _ => rfl, fun _ => rfl, fun _ _ _ => rfl⟩
  | ensureListener key atMS =>
    rw [(ensureListener_rows done).1]
    exact ⟨fun _ => rfl, fun _ => rfl, fun apart => absurd trivial apart, fun _ => rfl, fun _ _ _ => rfl⟩
  | deleteListener key =>
    obtain ⟨_, -, same⟩ := bind_eq_ok.mp done
    cases same
    exact ⟨fun _ => rfl, fun _ => rfl, fun apart => absurd trivial apart, fun apart => absurd trivial apart,
      fun _ _ _ => rfl⟩
  | observeReferenceSkew kind key version =>
    simp only [transaction, observeReferenceSkew, bind_eq_ok] at done
    obtain ⟨-, -, rounds, -, skews, put, same⟩ := done
    cases same
    refine ⟨fun _ => rfl, fun _ => rfl, fun _ => rfl, fun _ => rfl, ?_⟩
    intro other reference apart
    change skews.find? (other, reference) = _
    rw [Table.find?_put (orError_eq_ok.mp put), if_neg]
    exact fun here => apart (Prod.mk.inj here).1
  | clearReferenceSkew kind key =>
    obtain ⟨_, -, same⟩ := bind_eq_ok.mp done
    cases same
    refine ⟨fun _ => rfl, fun _ => rfl, fun _ => rfl, fun _ => rfl, ?_⟩
    intro other reference apart
    change (store.skews.deleteWhere _).find? (other, reference) = _
    rw [Table.find?_deleteWhere]
    cases found : store.skews.find? (other, reference) with
    | none => rfl
    | some skew =>
      have named := Table.key_of_find? found
      obtain ⟨kinded, -⟩ := Prod.mk.inj named
      have elsewhere : skew.kind ≠ kind := fun here => apart (here.symm.trans kinded)
      simp [Option.filter, elsewhere]

def Counts : ClientCall → Prop
  | .updateCounters _ _ | .applyCounterBatch _ _ | .applyScheduledQuota _ _ | .applyScheduledQuotas _ => True
  | _ => False

def SameGrant (row after : ClientRuntime) : Prop :=
  after.subject = row.subject ∧ after.quotaFingerprint = row.quotaFingerprint

theorem sameGrant_of_chain {row : ClientRuntime} (chain : Relation.ReflTransGen SameGrant row after) :
    SameGrant row after := by
  induction chain with
  | refl => exact ⟨rfl, rfl⟩
  | tail _ last ih => exact ⟨last.1.trans ih.1, last.2.trans ih.2⟩

theorem sameGrant_of_counted {row : ClientRuntime} (counted : Counted row after) : SameGrant row after := by
  cases counted
  exact ⟨rfl, rfl⟩

theorem sameGrant_of_rolledOver {nowMS : Int} {row : ClientRuntime} (rolled : RolledOver nowMS row after) :
    SameGrant row after := by
  cases rolled
  exact ⟨rfl, rfl⟩

structure Counting (store next : Store) : Prop where
  streams : next.streams = store.streams
  objects : next.objects = store.objects
  clients : Table.Evolves SameGrant store.clients next.clients
  listeners : ∀ key row, next.listeners.find? key = some row →
    ∃ old, store.listeners.find? key = some old

theorem counting_refl (store : Store) : Counting store store :=
  ⟨rfl, rfl, Table.evolves_refl _, fun _ row found => ⟨row, found⟩⟩

theorem applyListenerCounter_origin {listeners next : ListenerTable} {update : ListenerCounterUpdate}
    {atMS : Int} (done : applyListenerCounter listeners update atMS = .ok next) (key : String)
    (row : ListenerRuntime) (found : next.find? key = some row) : ∃ old, listeners.find? key = some old := by
  simp only [applyListenerCounter, bind_eq_ok, rejectIf_eq_ok, orError_eq_ok] at done
  obtain ⟨_, _, current, held, _, _, updated⟩ := done
  rw [Table.find?_updateKey updated] at found
  split at found
  · rename_i here
    rw [here]
    exact ⟨current, held⟩
  · exact ⟨row, found⟩

theorem applyCounterBatch_counting {batch : CounterBatch} {atMS : Int} {next : Store} {changed : Bool}
    (done : applyCounterBatch lib store batch atMS = .ok (next, changed)) : Counting store next := by
  have evolved := (applyCounterBatch_evolves done).mono (fun _ _ => sameGrant_of_counted)
  simp only [applyCounterBatch, bind_eq_ok] at done
  obtain ⟨_, -, _, -, ⟨clients, gateChanged⟩, -, listeners, counted, same⟩ := done
  cases same
  refine ⟨rfl, rfl, evolved, ?_⟩
  refine forEach_invariant (fun table : ListenerTable => ∀ key row, table.find? key = some row →
    ∃ old, store.listeners.find? key = some old) ?_ (fun _ row found => ⟨row, found⟩) counted
  intro table next update _ reached passed key row found
  obtain ⟨old, present⟩ := applyListenerCounter_origin (withError_eq_ok.mp passed) key row found
  exact reached key old present

theorem perform_counting {call : ClientCall} (counts : Counts call) : Counting store (perform lib store call) := by
  cases call with
  | updateCounters update atMS =>
    refine commit_invariant (Counting store) (counting_refl store) ?_
    intro next _ done
    have evolved := (updateCounters_evolves done).mono (fun _ _ => sameGrant_of_counted)
    obtain ⟨⟨clients, changed⟩, -, same⟩ := bind_eq_ok.mp done
    cases same
    exact ⟨rfl, rfl, evolved, fun _ row found => ⟨row, found⟩⟩
  | applyCounterBatch batch atMS =>
    refine commit_invariant (Counting store) (counting_refl store) ?_
    intro next _ done
    exact applyCounterBatch_counting done
  | applyScheduledQuota key nowMS =>
    refine commit_invariant (Counting store) (counting_refl store) ?_
    intro next _ done
    have evolved := (applyScheduledQuota_evolves done).mono (fun _ _ => sameGrant_of_rolledOver)
    obtain ⟨⟨clients, changed⟩, -, same⟩ := bind_eq_ok.mp done
    cases same
    exact ⟨rfl, rfl, evolved, fun _ row found => ⟨row, found⟩⟩
  | applyScheduledQuotas nowMS =>
    refine commit_invariant (Counting store) (counting_refl store) ?_
    intro next _ done
    have evolved := (applyScheduledQuotas_evolves done).mono (fun _ _ => sameGrant_of_rolledOver)
    obtain ⟨⟨clients, count⟩, -, same⟩ := bind_eq_ok.mp done
    cases same
    exact ⟨rfl, rfl, evolved, fun _ row found => ⟨row, found⟩⟩
  | ensureClient | applyQuota | deleteClient => exact absurd counts id

end Objects

end PasswallNode.Sqlite
