import PasswallNode.Agent.IntakeSpecs
import PasswallNode.Agent.SegmentIsolation
import PasswallNode.Agent.StreamHistory

/-! Accepted content that cannot be applied: applying a stored document checks it again. -/

namespace PasswallNode.Agent

open Foundation Protocol State Sqlite

def storedVersion (store : Store) (name : Stream) : Version :=
  (store.streams.find? name).elim ⟨0, 0⟩ (·.document.version)

/-- The quota entries that a round applies: those of directives that are not ahead of the
stored roster, for clients of the roster. -/
def appliedGrants (documents : ReceivedDocuments) (rosterVersion : Version) : List QuotaEntry :=
  match documents.directives with
  | none => []
  | some directives =>
    if directives.forRosterVersion.newer rosterVersion then []
    else directives.quota.filter (fun quota => (clientIn documents.roster quota.client).isSome)

def AlreadyGranted (lib : Library) (store : Store) (quota : QuotaEntry) : Prop :=
  ∃ row, store.clients.find? quota.client = some row ∧
    row.quotaFingerprint = quotaFingerprint lib (grantOf quota)

def counted (store : Store) (key : String) : Int :=
  (store.clients.find? key).elim 0 (fun row => row.upBytes + row.downBytes)

structure ContentFits (lib : Library) (store : Store) (documents : ReceivedDocuments)
    (rosterVersion : Version) : Prop where
  subjects : rosterVersion.zero = false → ∀ roster ∈ documents.roster, Bound roster.clients store
  grants : ∀ quota ∈ appliedGrants documents rosterVersion,
    CeilingFits (grantOf quota) ∨ AlreadyGranted lib store quota

section Runs

variable {σ α : Type} {libs : Libraries} {surroundings : Surroundings σ} {world : RoundWorld σ} {result : Bool}
  {p : Processor} {after : Store} {documents : ReceivedDocuments} {client : Client} {next : Store} {atMS : Int}
  {intake : Intake} {lib : Library} {final : RoundWorld σ} {response : SyncResponse} {clients : List Client}
  {middle : Store} {err : Error} {call : StoreCall} {key : String} {quota : QuotaEntry} {version : Version}
  {directives : DirectivesBody} {roster : Option RosterBody} {store : Store} {nowMS : Int}

theorem exec_onTransactions (libs : Libraries) (surroundings : Surroundings σ) (world : RoundWorld σ) (result : Bool)
    (program : Transactions α) : ∃ log, exec (serveRound libs surroundings) world (onTransactions result program) =
    (⟨(exec (serve libs) world.store program).1, world.outside, log⟩,
      (exec (serve libs) world.store program).2.mapError (fun err => ⟨err, result⟩)) := by
  induction program generalizing world with
  | done outcome =>
    cases outcome with
    | ok a => exact ⟨world.log, rfl⟩
    | error err => exact ⟨world.log, rfl⟩
  | call call next ih => exact ih _ _

theorem exec_recordIssue (libs : Libraries) (faultless : Faultless surroundings) (world : RoundWorld σ) (result : Bool)
    (issue : LocalIssue) :
    ∃ next noted, exec (serveRound libs surroundings) world (recordIssue result issue) = (next, .ok noted) ∧
    next.store = world.store := by
  obtain ⟨created, recorded⟩ := faultless.record world.outside world.store issue
  refine ⟨(serveRound libs surroundings world (.record issue)).1, result || created, ?_, rfl⟩
  simp only [recordIssue, exec_call, serveRound, recorded]
  rfl

theorem exec_recordIssues (libs : Libraries) (faultless : Faultless surroundings) (world : RoundWorld σ) (result : Bool)
    (issue : α → LocalIssue) (items : List α) : ∃ next noted, exec (serveRound libs surroundings) world
      (Proc.each (fun result item => recordIssue result (issue item)) result items) = (next, .ok noted) ∧
    next.store = world.store := by
  have decided : Decides (serveRound libs surroundings) (∀ item ∈ items, True) (fun next => next.store = world.store)
      (fun _ => False) world (Proc.each (fun result item => recordIssue result (issue item)) result items) := by
    refine exec_each_decides (fun _ (next : RoundWorld σ) => next.store = world.store) ?_ rfl
    intro passed item rest acc state _ held
    obtain ⟨next, noted, ran, kept⟩ := exec_recordIssue libs faultless state acc (issue item)
    exact Or.inl ⟨trivial, next, noted, ran, kept.trans held⟩
  exact (decided.resolve_right fun misfit => misfit.1 fun _ _ => trivial).2

theorem exec_optionalStreamVersion (libs : Libraries) (surroundings : Surroundings σ) (world : RoundWorld σ)
    (result : Bool) (name : Stream) :
    ∃ log, exec (serveRound libs surroundings) world (optionalStreamVersion result name) =
    (⟨world.store, world.outside, log⟩, .ok (storedVersion world.store name)) := by
  refine ⟨world.log ++ [.store (.stream name)], ?_⟩
  simp only [optionalStreamVersion, exec_call, serveRound, storedVersion]
  cases found : world.store.streams.find? name with
  | some record =>
    rw [serve_ok (transaction_stream found)]
    rfl
  | none =>
    have missing : transaction libs world.store (.stream name) = .error (streamNotFound name) := by
      simp [transaction, query, stream, found, orError, Except.map]
    rw [serve_error missing]
    rfl

theorem StreamOf.stored {T : Type} {codec : Codec T} {name : Stream} {valid : T → Prop} {store : Store}
    (streamOf : StreamOf libs.wire codec name valid) (sound : SoundStore libs store) :
    StreamDecodes codec store name ∧ ∀ body, storedBody codec store name = some body → valid body := by
  have decodes : ∀ record, store.streams.find? name = some record →
      ∃ body, codec.unmarshal record.document.body = .ok body ∧ valid body := by
    intro record found
    have named := Table.key_of_find? found
    exact streamOf.decodes record.document named (sound.streams name record found)
  refine ⟨fun record found => (decodes record found).imp fun _ decoded => decoded.1, fun body stored => ?_⟩
  obtain ⟨record, found⟩ := storedBody_some body stored
  obtain ⟨back, decoded, valid⟩ := decodes record found
  rw [storedBody_of_find? found decoded] at stored
  cases stored
  exact valid

theorem exec_onTransactions_ok {α : Type} {program : Transactions α} {value : α} (surroundings : Surroundings σ)
    (world : RoundWorld σ) (result : Bool) (ran : exec (serve libs) world.store program = (after, .ok value)) :
    ∃ log, exec (serveRound libs surroundings) world (onTransactions result program) =
    (⟨after, world.outside, log⟩, .ok value) := by
  obtain ⟨log, runs⟩ := exec_onTransactions libs surroundings world result program
  rw [ran] at runs
  exact ⟨log, runs⟩

theorem exec_openRound (world : RoundWorld σ) {nowMS : Int} (result : Bool) (sound : SoundStore libs world.store)
    (faultless : Faultless surroundings) (wired : p.wire = libs.wire)
    (received :
      exec (serve libs) world.store (receive p.catalog libs.wire (fun _ => nowMS) response) = (after, .ok documents)) :
    ∃ next oldConfig oldRoster noted,
    exec (serveRound libs surroundings) world (openRound p response nowMS result) =
      (next, .ok (⟨oldConfig, oldRoster, documents, storedVersion after .config,
        storedVersion after .roster⟩, noted)) ∧ next.store = after := by
  have loadsConfig := exec_optionalStoredBody libs ((streamOf_config libs.wire).stored sound).1
  have loadsRoster := exec_optionalStoredBody libs ((streamOf_roster libs.wire).stored sound).1
  unfold openRound
  rw [wired]
  obtain ⟨first, ran⟩ := exec_onTransactions_ok surroundings world false loadsConfig
  rw [exec_bind_ok ran]
  obtain ⟨second, ran⟩ :=
    exec_onTransactions_ok surroundings ⟨world.store, world.outside, first⟩ false loadsRoster
  rw [exec_bind_ok ran]
  obtain ⟨third, ran⟩ :=
    exec_onTransactions_ok surroundings ⟨world.store, world.outside, second⟩ false received
  rw [exec_bind_ok ran]
  obtain ⟨reported, noted, ran, kept⟩ := exec_recordIssues libs faultless
    ⟨after, world.outside, third⟩ (result || documents.needImmediatePoll) (segmentIssue p response)
    documents.failures
  rw [exec_bind_ok ran]
  obtain ⟨fourth, ran⟩ := exec_optionalStreamVersion libs surroundings reported noted .config
  rw [exec_bind_ok ran]
  obtain ⟨fifth, ran⟩ := exec_optionalStreamVersion libs surroundings
    ⟨reported.store, reported.outside, fourth⟩ noted .roster
  rw [exec_bind_ok ran, kept]
  exact ⟨_, _, _, noted, rfl, rfl⟩

structure Materialised (clients : List Client) (store next : Store) : Prop where
  frame : next = { store with clients := next.clients }
  kept : ∀ key row, store.clients.find? key = some row → next.clients.find? key = some row
  added : ∀ key row, next.clients.find? key = some row → store.clients.find? key = some row ∨
    (row.quotaFingerprint = "" ∧ row.upBytes = 0 ∧ row.downBytes = 0)
  others : ∀ key, key ∉ clients.map Client.key → next.clients.find? key = store.clients.find? key
  present : ∀ client ∈ clients, ∃ row, next.clients.find? client.key = some row ∧
    row.subject = client.subject

theorem materialised_nil (store : Store) : Materialised [] store store :=
  ⟨rfl, fun _ _ found => found, fun _ _ found => Or.inl found, fun _ _ => rfl,
    fun _ member => absurd member List.not_mem_nil⟩

theorem materialised_concat {store : Store} (before : Materialised clients store middle)
    (new : client.key ∉ clients.map Client.key)
    (bound : ∀ row, store.clients.find? client.key = some row → row.subject = client.subject)
    (done : ensureClient middle ⟨client.key, client.subject⟩ atMS = .ok (next, ())) :
    Materialised (clients ++ [client]) store next := by
  have rows := ensureClient_ok done
  simp only at rows
  have here := before.others client.key new
  refine ⟨?_, ?_, ?_, ?_, ?_⟩
  · rw [ensureClient_frame done]
    simp only
    rw [before.frame]
  · intro key row found
    rw [rows key, before.kept key row found]
    split
    · rfl
    · rfl
  · intro key row found
    rw [rows key] at found
    split at found
    · rename_i same
      subst same
      cases old : middle.clients.find? client.key with
      | none =>
        rw [old] at found
        cases found
        exact Or.inr ⟨rfl, rfl, rfl⟩
      | some known =>
        rw [old] at found
        cases found
        exact before.added client.key known old
    · exact before.added key row found
  · intro key absent
    rw [List.map_append, List.mem_append, not_or] at absent
    rw [rows key, if_neg (by simpa [eq_comm] using absent.2)]
    exact before.others key absent.1
  · intro other member
    rcases List.mem_append.mp member with earlier | last
    · obtain ⟨row, found, owned⟩ := before.present other earlier
      have apart : client.key ≠ other.key := by
        intro same
        exact new (by rw [same]; exact List.mem_map_of_mem earlier)
      exact ⟨row, by rw [rows, if_neg apart]; exact found, owned⟩
    · rw [List.mem_singleton.mp last]
      rw [rows, if_pos rfl, here]
      cases old : store.clients.find? client.key with
      | none => exact ⟨_, rfl, rfl⟩
      | some known => exact ⟨known, rfl, bound known old⟩

theorem not_skewExhausted (first : Char) (text : err.text.toList.head? = some first) (apart : first ≠ 'r') :
    ¬ SkewExhausted err := by
  rintro ⟨kind, key, rfl⟩
  have reference : (Error.new s!"reference skew {kind}/{key} round counter overflow").text.toList.head? =
      some 'r' := by
    simp only [Error.new, String.toList_append, List.head?_append, Option.or_eq_some_iff]
    exact Or.inl (Or.inl (Or.inl (Or.inl rfl)))
  rw [text] at reference
  exact apart (Option.some.inj reference)

theorem materialiseClients_eq (intake : Intake) (nowMS : Int) (result : Bool) :
    materialiseClients intake nowMS result =
    Proc.each (fun _ client => onStore result (.ensureClient ⟨client.key, client.subject⟩ nowMS)) ()
      (convergedClients intake) := by
  unfold materialiseClients convergedClients rosterDocument
  cases received : intake.received.roster with
  | none =>
    cases intake.rosterVersion.zero with
    | true => rfl
    | false => rfl
  | some roster =>
    cases intake.rosterVersion.zero with
    | true => rfl
    | false => rfl

theorem exec_onStore_ok {world : RoundWorld σ} {value : call.Value} (result : Bool)
    (done : transaction libs world.store call = .ok (next, value)) :
    exec (serveRound libs surroundings) world (onStore result call) =
    (⟨next, world.outside, world.log ++ [.store call]⟩, .ok value) := by
  simp only [onStore, exec_call, serveRound, serve_ok done]
  rfl

theorem exec_onStore_error {world : RoundWorld σ} (result : Bool)
    (failed : transaction libs world.store call = .error err) :
    exec (serveRound libs surroundings) world (onStore result call) =
    (⟨world.store, world.outside, world.log ++ [.store call]⟩, .error ⟨err, result⟩) := by
  simp only [onStore, exec_call, serveRound, serve_error failed]
  rfl

theorem exec_materialiseClients (surroundings : Surroundings σ) (world : RoundWorld σ) {nowMS : Int} (result : Bool)
    (timed : 0 ≤ nowMS) (valid : ValidDocuments libs.wire intake.received) :
    Decides (serveRound libs surroundings) (Bound (convergedClients intake) world.store)
      (fun next => Materialised (convergedClients intake) world.store next.store)
      (fun failure => ¬ SkewExhausted failure.err) world (materialiseClients intake nowMS result) := by
  obtain ⟨clients, distinct⟩ := convergedClients_valid valid
  rw [materialiseClients_eq]
  refine exec_each_decides (fun passed (next : RoundWorld σ) => Materialised passed world.store next.store) ?_
    (materialised_nil world.store)
  intro passed client rest _ state whole held
  have member : client ∈ convergedClients intake := by rw [whole]; simp
  obtain ⟨named, subjected⟩ := (clients client member).named
  have new : client.key ∉ passed.map Client.key := by
    rw [whole, List.map_append, List.map_cons] at distinct
    intro again
    exact (List.nodup_append.mp distinct).2.2 _ again _ List.mem_cons_self rfl
  have here := held.others client.key new
  by_cases fits : ∀ row, world.store.clients.find? client.key = some row → row.subject = client.subject
  · have ensures : ∃ done, ensureClient state.store ⟨client.key, client.subject⟩ nowMS = .ok done :=
      ensureClient_isOk ⟨named, subjected, timed⟩ (by rw [here]; exact fits)
    obtain ⟨⟨next, _⟩, ensured⟩ := ensures
    exact Or.inl ⟨fits, _, (), exec_onStore_ok result ensured, materialised_concat held new fits ensured⟩
  · have conflict := fits
    simp only [not_forall] at conflict
    obtain ⟨row, found, apart⟩ := conflict
    rw [← here] at found
    have refused : ensureClient state.store ⟨client.key, client.subject⟩ nowMS = .error _ :=
      ensureClient_conflict ⟨named, subjected, timed⟩ found apart
    refine Or.inr ⟨fits, _, _, exec_onStore_error result refused, ?_⟩
    refine not_skewExhausted 'c' ?_ (by decide)
    simp only [Error.new, String.toList_append, List.head?_append, Option.or_eq_some_iff]
    exact Or.inl (Or.inl (Or.inl (Or.inl (Or.inl rfl))))

theorem validateGrant_of_quota (valid : ValidQuota libs.wire quota) (timed : 0 ≤ atMS) :
    validateGrant quota.client (grantOf quota) atMS = .ok () := by
  have named : quota.client ≠ "" := by
    intro empty
    obtain ⟨id, read⟩ := valid.row
    rw [empty] at read
    exact libs.wire.clientRowID_empty id read
  have bytes := valid.bytes
  rw [not_or] at bytes
  simp only [validateGrant, bind_eq_ok, rejectIf_eq_ok]
  refine ⟨(), ?_, (), bytes.2, (), not_not.mpr valid.period, valid.next⟩
  rintro (empty | negative | early)
  · exact named empty
  · exact bytes.1 negative
  · omega

theorem zero_of_not_newer {stored : Version} (committed : version.committed = true)
    (reached : version.newer stored = false) : stored.zero = false := by
  simp only [Version.committed, decide_eq_true_eq] at committed
  simp only [Version.newer, decide_eq_false_iff_not, not_or] at reached
  simp only [Version.zero, decide_eq_false_iff_not]
  rintro ⟨noEpoch, noVersion⟩
  omega

theorem clientIn_mem {roster : Option RosterBody} (found : clientIn roster key = some client) :
    ∃ body ∈ roster, client ∈ body.clients ∧ client.key = key := by
  unfold clientIn at found
  have named : client.key = key := by simpa using List.find?_some found
  have member := List.mem_reverse.mp (List.mem_of_find?_eq_some found)
  cases roster with
  | none => cases member
  | some body => exact ⟨body, rfl, member, named⟩

def SameSubjects (store next : Store) : Prop :=
  ∀ key row, next.clients.find? key = some row →
    ∃ old, store.clients.find? key = some old ∧ row.subject = old.subject

theorem applyQuota_rows {store : Store} {grant : QuotaGrant}
    (done : applyQuota libs.lib store key grant atMS = .ok (next, ())) :
    (∀ other, other ≠ key → next.clients.find? other = store.clients.find? other) ∧ SameSubjects store next := by
  obtain ⟨-, clients, applied, rfl⟩ := applyQuota_ok done
  obtain ⟨current, found, ⟨-, rfl⟩ | ⟨-, gate, -, rewritten⟩⟩ := applyQuotaTx_ok applied
  · exact ⟨fun _ _ => rfl, fun _ row present => ⟨row, present, rfl⟩⟩
  · refine ⟨fun other apart => by rw [rewritten other, if_neg apart], ?_⟩
    intro other row present
    simp only at present
    rw [rewritten other] at present
    split at present
    · rename_i here
      cases present
      exact ⟨current, by rw [here]; exact found, rfl⟩
    · exact ⟨row, present, rfl⟩

theorem granted_row {store : Store} (materialised : Materialised clients store middle) (member : client ∈ clients)
    (named : client.key = quota.client) : ∃ row, middle.clients.find? quota.client = some row ∧
    row.upBytes + row.downBytes = counted store quota.client ∧
    (row.quotaFingerprint = quotaFingerprint libs.lib (grantOf quota) ↔ AlreadyGranted libs.lib store quota) := by
  obtain ⟨row, found, -⟩ := materialised.present client member
  rw [named] at found
  refine ⟨row, found, ?_, ?_⟩
  · unfold counted
    cases before : store.clients.find? quota.client with
    | none =>
      rcases materialised.added _ row found with old | ⟨-, up, down⟩
      · rw [before] at old
        cases old
      · rw [up, down]
        rfl
    | some old =>
      have same := (materialised.kept _ old before).symm.trans found
      cases same
      rfl
  · constructor
    · intro marked
      rcases materialised.added _ row found with old | ⟨blank, -⟩
      · exact ⟨row, old, marked⟩
      · rw [blank] at marked
        exact absurd marked.symm (libs.lib.sha256Hex_ne_empty _)
    · rintro ⟨old, present, marked⟩
      have same := (materialised.kept _ old present).symm.trans found
      cases same
      exact marked

def Grantable (lib : Library) (store : Store) (roster : Option RosterBody) (quota : QuotaEntry) : Prop :=
  ∀ client, clientIn roster quota.client = some client →
    SumsFit (counted store quota.client) (grantOf quota) ∨ AlreadyGranted lib store quota

/-- The client of the entry, if the roster has it, has a row, and its count and mark are as in `store`. -/
def FindsRow (lib : Library) (store current : Store) (roster : Option RosterBody) (quota : QuotaEntry) : Prop :=
  ∀ client, clientIn roster quota.client = some client → ∃ row,
    current.clients.find? quota.client = some row ∧
      row.upBytes + row.downBytes = counted store quota.client ∧
      (row.quotaFingerprint = quotaFingerprint lib (grantOf quota) ↔ AlreadyGranted lib store quota)

theorem exec_applyQuotaEntry (p : Processor) (directives : DirectivesBody) (acc : Bool) (timed : 0 ≤ nowMS)
    (faultless : Faultless surroundings) (valid : ValidQuota libs.wire quota)
    (finds : FindsRow libs.lib store world.store roster quota) :
    Decides (serveRound libs surroundings) (Grantable libs.lib store roster quota) (fun next =>
      (∀ other, other ≠ quota.client → next.store.clients.find? other = world.store.clients.find? other) ∧
      SameSubjects world.store next.store) (fun failure => ¬ SkewExhausted failure.err) world
    (applyQuotaEntry p directives roster nowMS acc quota) := by
  unfold applyQuotaEntry
  cases listed : clientIn roster quota.client with
  | none =>
    obtain ⟨next, noted, ran, kept⟩ := exec_recordIssue libs faultless world acc
      (directiveUnknownClientIssue p directives quota)
    refine Or.inl ⟨?_, next, noted, ran, ?_, ?_⟩
    · intro client impossible
      rw [listed] at impossible
      cases impossible
    · exact fun other _ => by rw [kept]
    · exact fun key row found => ⟨row, by rw [← kept]; exact found, rfl⟩
  | some client =>
    obtain ⟨row, found, total, marked⟩ := finds client listed
    have checked := validateGrant_of_quota valid timed
    by_cases fits : SumsFit (counted store quota.client) (grantOf quota) ∨ AlreadyGranted libs.lib store quota
    · have applies : ∃ next, applyQuota libs.lib world.store quota.client (grantOf quota) nowMS = .ok (next, ()) :=
        applyQuota_of_fits checked found (fits.symm.imp marked.mpr (by rw [total]; exact id))
      obtain ⟨next, applied⟩ := applies
      exact Or.inl ⟨fun _ _ => fits, _, acc, exec_bind_ok (exec_onStore_ok acc applied), applyQuota_rows applied⟩
    · have refuses := not_or.mp fits
      have overflows : ∃ err, applyQuota libs.lib world.store quota.client (grantOf quota) nowMS =
          .error (Error.within s!"derive client {quota.client} quota gate" err) :=
        applyQuota_of_overflow checked found (fun same => refuses.2 (marked.mp same)) (by rw [total]; exact refuses.1)
      obtain ⟨err, refused⟩ := overflows
      refine Or.inr ⟨fun all => fits (all client listed), _, _,
        exec_bind_error (exec_onStore_error acc refused), ?_⟩
      refine not_skewExhausted 'd' ?_ (by decide)
      simp only [Error.within, String.toList_append, List.head?_append, Option.or_eq_some_iff]
      exact Or.inl (Or.inl (Or.inl (Or.inl rfl)))

theorem sameSubjects_trans {first second third : Store} (early : SameSubjects first second)
    (late : SameSubjects second third) : SameSubjects first third := by
  intro key row found
  obtain ⟨middle, between, same⟩ := late key row found
  obtain ⟨old, present, equal⟩ := early key middle between
  exact ⟨old, present, same.trans equal⟩

theorem exec_applyQuotas (p : Processor) (world : RoundWorld σ) (acc : Bool) (timed : 0 ≤ nowMS)
    (faultless : Faultless surroundings) (valid : ValidDirectives libs.wire directives)
    (finds : ∀ quota, FindsRow libs.lib store world.store roster quota) :
    Decides (serveRound libs surroundings) (∀ quota ∈ directives.quota, Grantable libs.lib store roster quota)
      (fun next => (∀ key, key ∉ directives.quota.map QuotaEntry.client →
        next.store.clients.find? key = world.store.clients.find? key) ∧ SameSubjects world.store next.store)
      (fun failure => ¬ SkewExhausted failure.err) world
    (Proc.each (applyQuotaEntry p directives roster nowMS) acc directives.quota) := by
  -- Entries name distinct clients, so each one finds the row as it was before the loop.
  refine exec_each_decides (fun passed (next : RoundWorld σ) => (∀ key, key ∉ passed.map QuotaEntry.client →
    next.store.clients.find? key = world.store.clients.find? key) ∧ SameSubjects world.store next.store) ?_
    ⟨fun _ _ => rfl, fun _ row found => ⟨row, found, rfl⟩⟩
  intro passed quota rest acc state whole held
  have member : quota ∈ directives.quota := by rw [whole]; simp
  have new : quota.client ∉ passed.map QuotaEntry.client := by
    have distinct := valid.distinct
    rw [whole, List.map_append, List.map_cons] at distinct
    intro again
    exact (List.nodup_append.mp distinct).2.2 _ again _ List.mem_cons_self rfl
  have row : FindsRow libs.lib store state.store roster quota := by
    intro client listed
    rw [held.1 quota.client new]
    exact finds quota client listed
  rcases exec_applyQuotaEntry p directives acc timed faultless (valid.quota quota member) row with
    ⟨fits, next, after, ran, others, same⟩ | misfit
  · refine Or.inl ⟨fits, next, after, ran, ?_, sameSubjects_trans held.2 same⟩
    intro key absent
    rw [List.map_append, List.mem_append, not_or] at absent
    rw [others key (by simpa using absent.2), held.1 key absent.1]
  · exact Or.inr misfit

theorem grantable_applied (received : documents.directives = some directives)
    (reached : directives.forRosterVersion.newer version = false) : (∀ quota ∈ appliedGrants documents version,
      SumsFit (counted store quota.client) (grantOf quota) ∨ AlreadyGranted lib store quota) ↔
    ∀ quota ∈ directives.quota, Grantable lib store documents.roster quota := by
  have grants : appliedGrants documents version =
      directives.quota.filter (fun quota => (clientIn documents.roster quota.client).isSome) := by
    simp [appliedGrants, received, reached]
  rw [grants]
  constructor
  · intro all quota member client listed
    exact all quota (List.mem_filter.mpr ⟨member, by rw [listed]; rfl⟩)
  · intro all quota member
    obtain ⟨inside, listed⟩ := List.mem_filter.mp member
    obtain ⟨client, found⟩ := Option.isSome_iff_exists.mp listed
    exact all quota inside client found

def DirectivesLast (store : Store) (documents : ReceivedDocuments) (rosterVersion : Version) : Prop :=
  ∀ directives ∈ documents.directives, directives.forRosterVersion.newer rosterVersion = true →
    skewCount store skewDirectivesRoster Stream.directives.text directives.forRosterVersion ≠ maxInt64

theorem exec_directivesAhead (p : Processor) (result : Bool) (faultless : Faultless surroundings)
    (valid : ValidDirectives libs.wire directives) (ahead : directives.forRosterVersion.newer version = true) :
    (∃ next after, exec (serveRound libs surroundings) world
      (applyDirectives p directives version roster nowMS result) = (next, .ok after) ∧
    next.store.clients = world.store.clients ∧
    skewCount world.store skewDirectivesRoster Stream.directives.text directives.forRosterVersion ≠ maxInt64) ∨
    ∃ next failure, exec (serveRound libs surroundings) world
      (applyDirectives p directives version roster nowMS result) = (next, .error failure) ∧
    SkewExhausted failure.err ∧
    skewCount world.store skewDirectivesRoster Stream.directives.text directives.forRosterVersion = maxInt64 := by
  unfold applyDirectives
  rw [if_pos ahead]
  let call : StoreCall :=
    .observeReferenceSkew skewDirectivesRoster Stream.directives.text directives.forRosterVersion
  cases observed : transaction libs world.store call with
  | error err =>
    refine Or.inr ⟨_, _, exec_bind_error (exec_onStore_error result observed), ?_⟩
    have present : directives.forRosterVersion.zero = false := zero_of_committed valid.roster
    exact (observeReferenceSkew_fails (by decide) (by decide) present observed).symm
  | ok pair =>
    obtain ⟨store, rounds⟩ := pair
    have kept : store.clients = world.store.clients :=
      (transaction_frame observed).clients (by simp [call, WritesClients])
    have room := (observeReferenceSkew_counts observed).1
    rw [exec_bind_ok (exec_onStore_ok result observed)]
    left
    split
    · obtain ⟨next, noted, ran, same⟩ := exec_recordIssue libs faultless
        ⟨store, world.outside, world.log ++ [.store call]⟩ result (directivesAheadIssue p directives version rounds)
      exact ⟨next, noted, ran, by rw [same]; exact kept, room⟩
    · exact ⟨_, result, rfl, kept, room⟩

theorem exec_directivesReached (p : Processor) (result : Bool) (timed : 0 ≤ nowMS)
    (faultless : Faultless surroundings) (valid : ValidDirectives libs.wire directives)
    (reached : directives.forRosterVersion.newer version = false)
    (finds : ∀ quota, FindsRow libs.lib store world.store roster quota) :
    Decides (serveRound libs surroundings) (∀ quota ∈ directives.quota, Grantable libs.lib store roster quota)
      (fun next => SameSubjects world.store next.store) (fun failure => ¬ SkewExhausted failure.err) world
    (applyDirectives p directives version roster nowMS result) := by
  let call : StoreCall := .clearReferenceSkew skewDirectivesRoster Stream.directives.text
  have clears : ∃ next, transaction libs world.store call = .ok (next, ()) :=
    clearReferenceSkew_of_named (by decide) (by decide)
  obtain ⟨cleared, done⟩ := clears
  have kept : cleared.clients = world.store.clients := (transaction_frame done).clients id
  have decided := exec_applyQuotas p ⟨cleared, world.outside, world.log ++ [.store call]⟩ result timed
    faultless valid (fun quota client listed => by rw [kept]; exact finds quota client listed)
  unfold applyDirectives Decides
  rw [reached, if_neg Bool.false_ne_true, exec_bind_ok (exec_onStore_ok result done)]
  rcases decided with ⟨all, next, after, ran, -, same⟩ | failed
  · refine Or.inl ⟨all, next, after, ran, ?_⟩
    intro key row found
    obtain ⟨old, before, owned⟩ := same key row found
    exact ⟨old, by rw [← kept]; exact before, owned⟩
  · exact Or.inr failed

theorem findsRow_of_materialised {current : Store} (present : intake.rosterVersion.zero = false)
    (materialised : Materialised (convergedClients intake) store current) (quota : QuotaEntry) :
    FindsRow libs.lib store current intake.received.roster quota := by
  intro client listed
  obtain ⟨body, received, member, named⟩ := clientIn_mem listed
  have converges : convergedClients intake = body.clients := by
    simp [convergedClients, rosterClients, rosterDocument, present, Option.mem_def.mp received]
  exact granted_row materialised (by rw [converges]; exact member) named

theorem exec_grantQuotas (p : Processor) (result : Bool) (timed : 0 ≤ nowMS) (faultless : Faultless surroundings)
    (valid : ValidDocuments libs.wire intake.received)
    (materialised : Materialised (convergedClients intake) store world.store) :
    ((∀ quota ∈ appliedGrants intake.received intake.rosterVersion,
      SumsFit (counted store quota.client) (grantOf quota) ∨ AlreadyGranted libs.lib store quota) ∧
    ((∃ next after, exec (serveRound libs surroundings) world (grantQuotas p intake nowMS result) =
        (next, .ok after) ∧ SameSubjects world.store next.store ∧
        DirectivesLast world.store intake.received intake.rosterVersion) ∨
      ∃ next failure, exec (serveRound libs surroundings) world (grantQuotas p intake nowMS result) =
        (next, .error failure) ∧ SkewExhausted failure.err ∧
        ¬ DirectivesLast world.store intake.received intake.rosterVersion)) ∨
    ((¬ ∀ quota ∈ appliedGrants intake.received intake.rosterVersion,
      SumsFit (counted store quota.client) (grantOf quota) ∨ AlreadyGranted libs.lib store quota) ∧
    ∃ next failure, exec (serveRound libs surroundings) world (grantQuotas p intake nowMS result) =
      (next, .error failure) ∧ ¬ SkewExhausted failure.err) := by
  unfold grantQuotas
  cases received : intake.received.directives with
  | none =>
    refine Or.inl ⟨?_, Or.inl ⟨world, result, rfl, fun _ row found => ⟨row, found, rfl⟩, ?_⟩⟩
    · intro quota member
      rw [appliedGrants, received] at member
      cases member
    · intro directives member
      rw [received] at member
      cases member
  | some directives =>
    have checked := valid.directives directives received
    cases ahead : directives.forRosterVersion.newer intake.rosterVersion with
    | true =>
      refine Or.inl ⟨?_, ?_⟩
      · intro quota member
        simp [appliedGrants, received, ahead] at member
      · rcases exec_directivesAhead p result faultless checked ahead with
          ⟨next, after, ran, kept, room⟩ | ⟨next, failure, ran, exhausted, full⟩
        · refine Or.inl ⟨next, after, ran, fun key row found => ⟨row, by rw [← kept]; exact found, rfl⟩, ?_⟩
          intro body member _
          rw [received] at member
          cases member
          exact room
        · exact Or.inr ⟨next, failure, ran, exhausted, fun last => last directives received ahead full⟩
    | false =>
      rw [grantable_applied received ahead]
      have finds : ∀ quota, FindsRow libs.lib store world.store intake.received.roster quota :=
        findsRow_of_materialised (zero_of_not_newer checked.roster ahead) materialised
      rcases exec_directivesReached p result timed faultless checked ahead finds with
        ⟨all, next, after, ran, same⟩ | misfit
      · refine Or.inl ⟨all, Or.inl ⟨next, after, ran, same, ?_⟩⟩
        intro body member passed
        rw [received] at member
        cases member
        rw [ahead] at passed
        cases passed
      · exact Or.inr misfit

/-- The runtime was asked for a round, and a round it gave was finished; the upserts and removals stand between
the two. -/
def ReachesRuntime (surroundings : Surroundings σ) (log : List ProcessCall) : Prop :=
  .newRound ∈ log ∧
    ((∀ outside store, (surroundings outside store .newRound).2 = .shared) → .runtime .finalize ∈ log)

/-- The round reached the runtime, or failed on a counter of rounds or on what the conformance package refused
behind the grants. -/
def Applied (p : Processor) (surroundings : Surroundings σ) : RoundWorld σ × Except ProcessFailure Bool → Prop
  | (world, .ok _) => ReachesRuntime surroundings world.log
  | (world, .error failure) => SkewExhausted failure.err ∨
      (.newRound ∈ world.log ∧ p.conformance.Refuses failure.err)

theorem exec_log_grows {ε α : Type} {program : Proc ProcessCall ProcessCall.Answer ε α} {world : RoundWorld σ}
    {outcome : Except ε α} (ran : exec (serveRound libs surroundings) world program = (final, outcome)) :
    world.log <+: final.log := by
  induction program generalizing world with
  | done result =>
    cases ran
    exact List.prefix_refl _
  | call call next ih =>
    have logged : world.log <+: (serveRound libs surroundings world call).1.log := by
      cases call with
      | _ => exact List.prefix_append _ _
    exact logged.trans (ih _ ran)

theorem mem_log_of_call {ε α : Type} {call : ProcessCall}
    {next : call.Answer → Proc ProcessCall ProcessCall.Answer ε α} {world : RoundWorld σ} {outcome : Except ε α}
    (ran : exec (serveRound libs surroundings) world (.call call next) = (final, outcome)) : call ∈ final.log := by
  have logged : call ∈ (serveRound libs surroundings world call).1.log := by
    cases call with
    | _ => exact List.mem_append_right _ List.mem_cons_self
  rw [exec_call] at ran
  exact (exec_log_grows ran).subset logged

theorem finalize_mem_log {nowMS : Int} {result value : Bool} {world : RoundWorld σ}
    (sharing : ∀ outside store, (surroundings outside store .newRound).2 = .shared)
    (ran : exec (serveRound libs surroundings) world (runRound p intake nowMS result) = (final, .ok value)) :
    .runtime .finalize ∈ final.log := by
  obtain ⟨first, inRound, opened, converges⟩ := exec_bind_eq_ok.mp ran
  obtain ⟨second, converged, -, finishes⟩ := exec_bind_eq_ok.mp converges
  obtain ⟨third, finished, finalized, records⟩ := exec_bind_eq_ok.mp finishes
  have inside : inRound = true := by
    simp only [newRound, exec_call, serveRound, sharing, exec_done, Prod.mk.injEq, Except.ok.injEq] at opened
    exact opened.2.symm
  subst inside
  rw [finalizeRound, if_neg (by simp)] at finalized
  exact (exec_log_grows records).subset (mem_log_of_call finalized)

theorem exec_runRound_applied {nowMS : Int} {result : Bool} {world : RoundWorld σ} (timed : 0 ≤ nowMS)
    (faultless : Faultless surroundings) (lawful : p.conformance.Lawful libs)
    (valid : ValidDocuments libs.wire intake.received) (sound : SoundStore libs world.store)
    (bound : Bound (convergedClients intake) world.store) :
    Applied p surroundings (exec (serveRound libs surroundings) world (runRound p intake nowMS result)) := by
  obtain ⟨clients, distinct⟩ := convergedClients_valid valid
  have backs : Backs (serveRound libs surroundings) (roundContract libs (rosterDocument intake) True) _ :=
    roundContract_backs clients distinct (fun _ => faultless)
  rcases ran : exec (serveRound libs surroundings) world (runRound p intake nowMS result) with ⟨final, outcome⟩
  have opened : .newRound ∈ final.log := mem_log_of_call ran
  have given : ∃ inRound, exec (serveRound libs surroundings) world (newRound result) =
      ((serveRound libs surroundings world .newRound).1, .ok inRound) := by
    have present := faultless.newRound world.outside world.store
    simp only [newRound, exec_call, serveRound]
    cases scope : (surroundings world.outside world.store .newRound).2 with
    | unscoped | shared => exact ⟨_, rfl⟩
    | missing => exact absurd scope present
  obtain ⟨inRound, opens⟩ := given
  have meets : Meets (roundContract libs (rosterDocument intake) True) (Yields (Tolerated p True) (fun _ => True))
      (finishRound p intake nowMS inRound result) := meets_finishRound (fun _ => lawful) timed valid inRound
  have start : SoundStore libs (serveRound libs surroundings world .newRound).1.store ∧
      (True → Bound (convergedClients intake) (serveRound libs surroundings world .newRound).1.store) :=
    ⟨sound, fun _ => bound⟩
  obtain ⟨-, ends⟩ := exec_meets backs meets start
  have finished := ran
  rw [runRound_eq, exec_bind_ok opens] at finished
  rw [finished] at ends
  cases outcome with
  | ok value => exact ⟨opened, fun sharing => finalize_mem_log sharing ran⟩
  | error failure => exact (ends trivial).imp id (fun refused => ⟨opened, refused⟩)

theorem phase_kept {α : Type} {good : α → Prop} {program : Round α} {world next : RoundWorld σ}
    {outcome : Except ProcessFailure α} (meets : Meets (soundContract libs False) (Anyhow good) program)
    (before : SoundStore libs world.store ∧ .newRound ∉ world.log)
    (ran : exec (serveRound libs surroundings) world program = (next, outcome)) :
    SoundStore libs next.store ∧ .newRound ∉ next.log := by
  have backs : Backs (serveRound libs surroundings) (soundContract libs False) _ := soundContract_backs
  have kept := (exec_meets backs meets before).1
  rw [ran] at kept
  exact kept

theorem receive_rows {catalog : Corecatalog.Catalog} {nowMS : Stream → Int} {store : Store}
    {outcome : Except Error ReceivedDocuments}
    (ran : exec (serve libs) store (receive catalog libs.wire nowMS response) = (after, outcome)) :
    after.clients = store.clients ∧ after.objects = store.objects ∧ after.listeners = store.listeners := by
  have apart : ∀ name call, OnStream name call →
      ¬ WritesClients call ∧ ¬ WritesObjects call ∧ ¬ WritesListeners call := by
    intro name call on
    cases call with
    | stream | saveStream | clearStreamForHigherEpoch => exact ⟨id, id, id⟩
    | _ => exact absurd on (by simp [OnStream])
  have uses : Uses (fun call => ¬ WritesClients call ∧ ¬ WritesObjects call ∧ ¬ WritesListeners call)
      (receive catalog libs.wire nowMS response) := by
    refine uses_bind (uses_mono (receiveSegment_uses _) (apart .config)) fun _ => ?_
    refine uses_bind (uses_mono (receiveSegment_uses _) (apart .roster)) fun _ => ?_
    exact uses_bind (uses_mono (receiveSegment_uses _) (apart .directives)) fun _ => uses_done _
  let kept (next : Store) : Prop :=
    next.clients = store.clients ∧ next.objects = store.objects ∧ next.listeners = store.listeners
  have ended : kept (exec (serve libs) store (receive catalog libs.wire nowMS response)).1 := by
    refine exec_invariant kept ?_ uses ⟨rfl, rfl, rfl⟩
    intro state call allowed held
    refine serve_invariant kept held ?_
    intro next value done
    have frame := transaction_frame done
    exact ⟨(frame.clients allowed.1).trans held.1, (frame.objects allowed.2.1).trans held.2.1,
      (frame.listeners allowed.2.2).trans held.2.2⟩
  rw [ran] at ended
  exact ended

theorem exec_wakeWhen (world : RoundWorld σ) (available : Bool) :
    ∃ outside log, exec (serveRound libs surroundings) world (wakeWhen available) =
    (⟨world.store, outside, log⟩, .ok ()) := by
  cases available with
  | false => exact ⟨world.outside, world.log, rfl⟩
  | true => exact ⟨_, _, rfl⟩

theorem counted_le {store : Store} (key : String)
    (counters : ∀ key row, store.clients.find? key = some row → row.upBytes + row.downBytes ≤ maxInt64) :
    counted store key ≤ maxInt64 := by
  unfold counted
  cases found : store.clients.find? key with
  | none => exact (by decide : (0 : Int) ≤ maxInt64)
  | some row => exact counters key row found

theorem bound_converged_iff {store : Store} : Bound (convergedClients intake) store ↔
    (intake.rosterVersion.zero = false → ∀ roster ∈ intake.received.roster, Bound roster.clients store) := by
  unfold convergedClients rosterClients rosterDocument
  cases intake.rosterVersion.zero with
  | true => simp [Bound]
  | false => cases intake.received.roster <;> simp [Bound]

theorem contentFits_iff {store : Store}
    (counters : ∀ key row, store.clients.find? key = some row → row.upBytes + row.downBytes ≤ maxInt64) :
    ContentFits lib store intake.received intake.rosterVersion ↔ Bound (convergedClients intake) store ∧
      ∀ quota ∈ appliedGrants intake.received intake.rosterVersion,
        SumsFit (counted store quota.client) (grantOf quota) ∨ AlreadyGranted lib store quota := by
  rw [bound_converged_iff]
  have sums : ∀ quota : QuotaEntry,
    SumsFit (counted store quota.client) (grantOf quota) ↔ CeilingFits (grantOf quota) :=
    fun quota => sumsFit_iff (counted_le quota.client counters)
  simp only [sums]
  exact ⟨fun fits => ⟨fits.subjects, fits.grants⟩, fun fits => ⟨fits.1, fits.2⟩⟩

theorem ContentFits.transfer {store other : Store} {version : Version} (same : other.clients = store.clients)
    (fits : ContentFits lib store documents version) :
    ContentFits lib other documents version where
  subjects := by
    intro present roster received client member row found
    rw [same] at found
    exact fits.subjects present roster received client member row found
  grants := by
    intro quota member
    refine (fits.grants quota member).imp id ?_
    rintro ⟨row, found, marked⟩
    exact ⟨row, by rw [same]; exact found, marked⟩

theorem exec_rest_applied_iff (p : Processor) (intake : Intake) {nowMS : Int} (result : Bool)
    (world : RoundWorld σ) (timed : 0 ≤ nowMS) (faultless : Faultless surroundings) (lawful : p.conformance.Lawful libs)
    (valid : ValidDocuments libs.wire intake.received)
    (before : SoundStore libs world.store ∧ .newRound ∉ world.log)
    (counters : ∀ key row, world.store.clients.find? key = some row →
    row.upBytes + row.downBytes ≤ maxInt64) :
    Applied p surroundings (exec (serveRound libs surroundings) world (do
    materialiseClients intake nowMS result
    let result ← grantQuotas p intake nowMS result
    runRound p intake nowMS result)) ↔
    ContentFits libs.lib world.store intake.received intake.rosterVersion := by
  rw [contentFits_iff counters]
  rcases exec_materialiseClients surroundings world result timed valid with
    ⟨bound, materialisedWorld, _, ran, materialised⟩ | ⟨unbound, final, failure, ran, bad⟩
  · rw [exec_bind_ok ran]
    have kept := phase_kept (sound_materialiseClients valid) before ran
    rcases exec_grantQuotas p result timed faultless valid materialised with
      ⟨fits, ⟨granted, noted, ran, same, -⟩ | ⟨final, failure, ran, exhausted, -⟩⟩ | ⟨misfit, final, failure, ran, bad⟩
    · rw [exec_bind_ok ran]
      have still := phase_kept (sound_grantQuotas intake nowMS) kept ran
      refine iff_of_true (exec_runRound_applied timed faultless lawful valid still.1 ?_) ⟨bound, fits⟩
      intro client member row found
      obtain ⟨old, present, owned⟩ := same client.key row found
      obtain ⟨row, here, subject⟩ := materialised.present client member
      rw [present] at here
      cases here
      exact owned.trans subject
    · rw [exec_bind_error ran]
      exact iff_of_true (Or.inl exhausted) ⟨bound, fits⟩
    · rw [exec_bind_error ran]
      have still := phase_kept (sound_grantQuotas intake nowMS) kept ran
      refine iff_of_false ?_ (fun both => misfit both.2)
      rintro (exhausted | ⟨opened, -⟩)
      · exact bad exhausted
      · exact still.2 opened
  · rw [exec_bind_error ran]
    have kept := phase_kept (sound_materialiseClients valid) before ran
    refine iff_of_false ?_ (fun both => unbound both.1)
    rintro (exhausted | ⟨opened, -⟩)
    · exact bad exhausted
    · exact kept.2 opened

theorem accepted_content_applies_iff (libs : Libraries) (p : Processor) (surroundings : Surroundings σ)
    (outside : σ) {store after : Store} {documents : ReceivedDocuments} {response : SyncResponse} {nowMS : Int}
    (lived : AgentRun libs store none) (wired : p.wire = libs.wire) (clock : 0 < nowMS)
    (taskless : response.tasks = [])
    (counters : ∀ key row, store.clients.find? key = some row → row.upBytes + row.downBytes ≤ maxInt64)
    (faultless : Faultless surroundings) (lawful : p.conformance.Lawful libs)
    (received : exec (serve libs) store (receive p.catalog p.wire (fun _ => nowMS) response) =
      (after, .ok documents)) :
    Applied p surroundings
        (exec (serveRound libs surroundings) ⟨store, outside, []⟩ (process p nowMS response)) ↔
      ContentFits libs.lib store documents (storedVersion after .roster) := by
  have sound := (agentRun_sound lived).1
  rw [wired] at received
  have clients := (receive_rows received).1
  have valid : ValidDocuments libs.wire documents := by
    have ends := (exec_meets storeContract_backs (meets_receive p.catalog (fun _ => nowMS) response) sound).2
    rw [received] at ends
    exact ends
  unfold process
  have ticks : requireClock nowMS = .ok () := rejectIf_eq_ok.mpr (by omega)
  rw [ticks, exec_bind_ok rfl, acceptTasks, if_pos taskless, exec_bind_ok rfl]
  have woken : ∃ outside' log, exec (serveRound libs surroundings) ⟨store, outside, []⟩ (wakeHeldTasks p) =
      (⟨store, outside', log⟩, .ok ()) := exec_wakeWhen _ _
  obtain ⟨outside', log, woke⟩ := woken
  rw [exec_bind_ok woke]
  have start : SoundStore libs store ∧ .newRound ∉ log :=
    phase_kept (sound_wakeWhen _) ⟨sound, List.not_mem_nil⟩ woke
  obtain ⟨next, oldConfig, oldRoster, noted, ran, same⟩ :=
    exec_openRound ⟨store, outside', log⟩ false sound faultless wired received
  rw [exec_bind_ok ran]
  have kept := phase_kept (sound_openRound wired response nowMS) start ran
  have decided := exec_rest_applied_iff p
    ⟨oldConfig, oldRoster, documents, storedVersion after .config, storedVersion after .roster⟩ noted next
    clock.le faultless lawful valid kept (by rw [same, clients]; exact counters)
  rw [decided, same]
  exact ⟨fun fits => fits.transfer clients.symm, fun fits => fits.transfer clients⟩

def gapClient : Client := ⟨"c1", "s1", true, 0, ⟨"ann", "u", "", ""⟩, []⟩
def gapConfig : ConfigBody := ⟨⟨"", "", false⟩, [], ⟨0, 0, 0⟩⟩
def gapRoster : RosterBody := ⟨⟨1, 1⟩, [gapClient], ⟨1, 0, 1⟩⟩

def gapDirectives (headroom : Int) : DirectivesBody := ⟨⟨1, 1⟩, [⟨"c1", 1, some headroom, 0, none⟩], [], ⟨1, 0, 0⟩⟩

def gapLibs (headroom : Int) : Libraries :=
  ⟨.transparent, .transparent, .ofTables [gapConfig] [gapRoster] [gapDirectives headroom]⟩

/-- An object is taken where the transition says, if that is a status the store takes. -/
def gapConformance (libs : Libraries) : Conformance :=
  { Conformance.plain with advanceObject := fun object transition => do
      validateObject libs.pkg libs.wire (object.advance transition) 0
      .ok (object.advance transition) }

def gapProcessor (headroom : Int) : Processor :=
  ⟨⟨.ok [], id⟩, (gapLibs headroom).wire, gapConformance (gapLibs headroom), 3, 60000, false, false⟩

def gapSurroundings : Surroundings Unit := fun _ _ call =>
  match call with
  | .store _ => ((), .error (.new "no such call"))
  | .acceptTasksFenced _ _ => ((), .error (.new "no such call"))
  | .taskWake => ((), ())
  | .record _ => ((), .ok true)
  | .newRound => ((), .shared)
  | .runtime _ => ((), .ok ())

def gapResponse (headroom : Int) : SyncResponse where
  config := ⟨⟨1, 1⟩, (gapLibs headroom).lib.sha256Hex [0], false, some gapConfig⟩
  roster := ⟨⟨1, 1⟩, (gapLibs headroom).lib.sha256Hex [0], false, some gapRoster⟩
  directives := ⟨⟨1, 1⟩, (gapLibs headroom).lib.sha256Hex [0], false, some (gapDirectives headroom)⟩
  tasks := []

def gapHeartbeat (headroom : Int) : SyncResponse where
  config := ⟨⟨1, 1⟩, (gapLibs headroom).lib.sha256Hex [0], true, none⟩
  roster := ⟨⟨1, 1⟩, (gapLibs headroom).lib.sha256Hex [0], true, none⟩
  directives := ⟨⟨1, 1⟩, (gapLibs headroom).lib.sha256Hex [0], true, none⟩
  tasks := []

def gapRound (headroom : Int) (store : Store) (response : SyncResponse) :
    RoundWorld Unit × Except ProcessFailure Bool :=
  exec (serveRound (gapLibs headroom) gapSurroundings) ⟨store, (), []⟩
    (process (gapProcessor headroom) 5 response)

theorem gapSurroundings_faultless : Faultless gapSurroundings :=
  ⟨fun _ _ _ => ⟨true, rfl⟩, fun _ _ impossible => by cases impossible⟩

theorem gapConformance_lawful (libs : Libraries) : (gapConformance libs).Lawful libs := by
  constructor
  · intro object transition status advanced
    obtain ⟨_, -, same⟩ := bind_eq_ok.mp advanced
    cases same
    cases transition with
    | accepted version atMS =>
      cases object with
      | unknown name key => rfl
      | known status => unfold TrackedObject.advance; dsimp only; split <;> rfl
    | _ => rfl
  · intro object transition status _ advanced
    obtain ⟨_, valid, same⟩ := bind_eq_ok.mp advanced
    cases same
    exact (wellFormed_of_valid valid).2

def gapDocuments (headroom : Int) : ReceivedDocuments :=
  ⟨some gapConfig, some gapRoster, some (gapDirectives headroom), true, true, true, false, []⟩

theorem fitting_grant_applied :
    Applied (gapProcessor 10) gapSurroundings (gapRound 10 Store.fresh (gapResponse 10)) := by
  have received : (exec (serve (gapLibs 10)) Store.fresh
      (receive (gapProcessor 10).catalog (gapProcessor 10).wire (fun _ => 5) (gapResponse 10))).2 =
        .ok (gapDocuments 10) := by decide +kernel
  refine (accepted_content_applies_iff (gapLibs 10) (gapProcessor 10) gapSurroundings () .fresh rfl
    (by decide) rfl ?_ gapSurroundings_faultless (gapConformance_lawful (gapLibs 10)) (Prod.ext rfl received)).mpr ?_
  · rintro key row ⟨⟩
  · refine ⟨?_, ?_⟩
    · rintro - roster - client - row ⟨⟩
    · intro quota member
      have listed : quota ∈ (gapDirectives 10).quota := by
        unfold appliedGrants gapDocuments at member
        simp only at member
        split at member
        · cases member
        · exact List.mem_of_mem_filter member
      rw [List.mem_singleton.mp listed]
      refine Or.inl ?_
      rintro headroom ⟨⟩
      decide

/-- A grant whose ceiling is beyond the last integer is accepted and stored with the roster. The round that
brings it and every round after it fail before the runtime is asked. -/
theorem overflowing_grant_stops_rounds :
    let first := gapRound maxInt64 Store.fresh (gapResponse maxInt64)
    let second := gapRound maxInt64 first.1.store (gapHeartbeat maxInt64)
    (exec (serve (gapLibs maxInt64)) Store.fresh (receive (gapProcessor maxInt64).catalog
      (gapProcessor maxInt64).wire (fun _ => 5) (gapResponse maxInt64))).2 = .ok (gapDocuments maxInt64) ∧
    first.2 = .error ⟨.new "derive client c1 quota gate: quota ceiling overflows int64", false⟩ ∧
    .newRound ∉ first.1.log ∧ second.2 = first.2 ∧ .newRound ∉ second.1.log := by
  refine ⟨by decide +kernel, by decide +kernel, by decide +kernel, by decide +kernel, by decide +kernel⟩

end Runs

end PasswallNode.Agent
