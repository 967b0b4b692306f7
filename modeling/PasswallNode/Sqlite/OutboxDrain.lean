import PasswallNode.Sqlite.TaskDelivery

/-! The outbox drains: every round takes at least the first row. -/

namespace PasswallNode.Sqlite

open Foundation Protocol State

def undelivered (store : Store) : List OutboxRow :=
  store.outbox.table.rows.filter (fun row => !row.delivered)

def selectedRows (store : Store) (limit : Int) : List OutboxRow :=
  ((undelivered store).insertionSort deliversBefore).take limit.toNat

theorem mem_selectedRows {store : Store} {limit : Int} {row : OutboxRow}
    (member : row ∈ selectedRows store limit) : row ∈ undelivered store :=
  (List.mem_insertionSort deliversBefore).mp (List.mem_of_mem_take member)

section Reading

variable (pkg : Package)

def ReadsBack (row : OutboxRow) : Prop :=
  match row.kind with
  | .issue => ∃ issue, pkg.decodeIssue row.payload = .ok issue
  | .taskResult => ∃ result, pkg.decodeTaskResult row.payload = .ok result

/-- Every row that waits can be read back, under a number of the sequence. -/
structure Legible (outbox : Outbox) : Prop where
  started : 0 ≤ outbox.sequence
  numbered : ∀ row ∈ outbox.table.rows, 0 < row.id
  reads : ∀ row ∈ outbox.table.rows, row.delivered = false → ReadsBack pkg row

def ResultsFit (store : Store) : Prop :=
  ∀ row ∈ undelivered store, row.kind = .taskResult → ∀ result,
    pkg.decodeTaskResult row.payload = .ok result →
      (result.result.getD []).length ≤ pkg.maxTaskResultBytesPerReport

def FitsIn (batch : OutboxBatch) (row : OutboxRow) : Prop :=
  batch.taskResults.length < pkg.maxTaskResultsPerReport ∧
    ∃ result, pkg.decodeTaskResult row.payload = .ok result ∧
      (result.result.getD []).length + taskResultBytes batch.taskResults ≤ pkg.maxTaskResultBytesPerReport

structure WithinCaps (batch : OutboxBatch) : Prop where
  issues : batch.issues.length ≤ pkg.maxIssuesPerReport
  results : batch.taskResults.length ≤ pkg.maxTaskResultsPerReport
  bytes : taskResultBytes batch.taskResults ≤ pkg.maxTaskResultBytesPerReport

inductive CollectStep (batch : OutboxBatch) (row : OutboxRow) : OutboxBatch → Prop where
  | issue (issue : Issue) (kind : row.kind = .issue)
      (room : batch.issues.length < pkg.maxIssuesPerReport)
      (decoded : pkg.decodeIssue row.payload = .ok issue) :
      CollectStep batch row
        { batch with issues := batch.issues ++ [issue], ids := batch.ids ++ [row.id] }
  | result (result : TaskResult) (kind : row.kind = .taskResult)
      (room : batch.taskResults.length < pkg.maxTaskResultsPerReport)
      (decoded : pkg.decodeTaskResult row.payload = .ok result)
      (fits : (result.result.getD []).length + taskResultBytes batch.taskResults ≤
        pkg.maxTaskResultBytesPerReport) :
      CollectStep batch row
        { batch with taskResults := batch.taskResults ++ [result], ids := batch.ids ++ [row.id] }
  | issueSkipped (kind : row.kind = .issue) (full : pkg.maxIssuesPerReport ≤ batch.issues.length) :
      CollectStep batch row batch
  | resultSkipped (kind : row.kind = .taskResult) (unfit : ¬FitsIn pkg batch row) :
      CollectStep batch row batch

variable {pkg} {batch after : OutboxBatch} {row : OutboxRow} {seen : List OutboxRow}

theorem collectRow_ok (done : collectRow pkg batch row = .ok after) : CollectStep pkg batch row after := by
  unfold collectRow at done
  split at done
  · rename_i kind
    split at done
    · rename_i full
      cases done
      exact .issueSkipped kind full
    · rename_i room
      split at done
      · cases done
      · rename_i issue decoded
        cases done
        exact .issue issue kind (Nat.not_le.mp room) decoded
  · rename_i kind
    split at done
    · rename_i full
      cases done
      exact .resultSkipped kind (fun fits => Nat.not_lt.mpr full fits.1)
    · rename_i room
      split at done
      · cases done
      · rename_i result decoded
        split at done
        · rename_i large
          cases done
          refine .resultSkipped kind ?_
          rintro ⟨_, other, same, fits⟩
          rw [decoded] at same
          cases same
          exact Nat.not_lt.mpr fits large
        · rename_i fits
          cases done
          exact .result result kind (Nat.not_le.mp room) decoded (Nat.not_lt.mp fits)

theorem collectRow_succeeds (reads : ReadsBack pkg row) : ∃ after, collectRow pkg batch row = .ok after := by
  cases kind : row.kind with
  | issue =>
    simp only [ReadsBack, kind] at reads
    obtain ⟨issue, decoded⟩ := reads
    simp only [collectRow, kind, decoded]
    split
    · exact ⟨_, rfl⟩
    · exact ⟨_, rfl⟩
  | taskResult =>
    simp only [ReadsBack, kind] at reads
    obtain ⟨result, decoded⟩ := reads
    simp only [collectRow, kind, decoded]
    split
    · exact ⟨_, rfl⟩
    · split
      · exact ⟨_, rfl⟩
      · exact ⟨_, rfl⟩

theorem taskResultBytes_append (results : List TaskResult) (last : TaskResult) :
    taskResultBytes (results ++ [last]) = (last.result.getD []).length + taskResultBytes results := by
  induction results with
  | nil => rfl
  | cons result rest ih =>
    rw [List.cons_append, taskResultBytes, ih, taskResultBytes]
    omega

/-- The batch is made of these rows: their numbers, and in their order the decoded issues and results. -/
structure Payloads (pkg : Package) (rows : List OutboxRow) (batch : OutboxBatch) : Prop where
  ids : batch.ids = rows.map OutboxRow.id
  issues : List.Forall₂ (fun row issue => pkg.decodeIssue row.payload = .ok issue)
    (rows.filter (fun row => decide (row.kind = .issue))) batch.issues
  results : List.Forall₂ (fun row result => pkg.decodeTaskResult row.payload = .ok result)
    (rows.filter (fun row => decide (row.kind = .taskResult))) batch.taskResults

structure Collected (pkg : Package) (seen : List OutboxRow) (batch : OutboxBatch) : Prop where
  caps : WithinCaps pkg batch
  payloads : ∃ rows, rows.Sublist seen ∧ Payloads pkg rows batch
  blank : seen = [] → batch = ⟨[], [], []⟩
  taken : (∀ row ∈ seen, row.kind = .taskResult → FitsIn pkg ⟨[], [], []⟩ row) →
    0 < pkg.maxIssuesPerReport → seen ≠ [] → batch.ids ≠ []
  omitted : ∀ row ∈ seen, row.kind = .taskResult → row.id ∉ batch.ids → ¬FitsIn pkg batch row

theorem fitsIn_of_grown {fewer more : OutboxBatch} (count : fewer.taskResults.length ≤ more.taskResults.length)
    (bytes : taskResultBytes fewer.taskResults ≤ taskResultBytes more.taskResults)
    (fits : FitsIn pkg more row) : FitsIn pkg fewer row := by
  obtain ⟨room, result, decoded, within_⟩ := fits
  exact ⟨Nat.lt_of_le_of_lt count room, result, decoded, by omega⟩

theorem collected_nil : Collected pkg [] ⟨[], [], []⟩ where
  caps := ⟨Nat.zero_le _, Nat.zero_le _, Nat.zero_le _⟩
  payloads := ⟨[], .slnil, rfl, .nil, .nil⟩
  blank := fun _ => rfl
  taken := fun _ _ empty => absurd rfl empty
  omitted := fun _ member => by cases member

theorem Collected.ids (collected : Collected pkg seen batch) : batch.ids.Sublist (seen.map OutboxRow.id) := by
  obtain ⟨rows, among, held⟩ := collected.payloads
  rw [held.ids]
  exact among.map _

theorem mem_seen_concat {other : OutboxRow} (member : other ∈ seen ++ [row]) : other ∈ seen ∨ other = row :=
  (List.mem_append.mp member).imp_right List.mem_singleton.mp

theorem Collected.take (before : Collected pkg seen batch) (caps : WithinCaps pkg after)
    (payloads : ∀ rows, Payloads pkg rows batch → Payloads pkg (rows ++ [row]) after)
    (ids : after.ids = batch.ids ++ [row.id]) (count : batch.taskResults.length ≤ after.taskResults.length)
    (bytes : taskResultBytes batch.taskResults ≤ taskResultBytes after.taskResults) :
    Collected pkg (seen ++ [row]) after where
  caps := caps
  payloads := by
    obtain ⟨rows, among, held⟩ := before.payloads
    exact ⟨rows ++ [row], among.append (.refl _), payloads rows held⟩
  blank := fun empty => absurd empty (by simp)
  taken := fun _ _ _ => by simp [ids]
  omitted := by
    intro other member kind absent fits
    rw [ids, List.mem_append, List.mem_singleton, not_or] at absent
    rcases mem_seen_concat member with earlier | rfl
    · exact before.omitted other earlier kind absent.1 (fitsIn_of_grown count bytes fits)
    · exact absent.2 rfl

theorem Collected.skip (before : Collected pkg seen batch)
    (issues : row.kind = .issue → pkg.maxIssuesPerReport ≤ batch.issues.length)
    (results : row.kind = .taskResult → ¬FitsIn pkg batch row) :
    Collected pkg (seen ++ [row]) batch where
  caps := before.caps
  payloads := by
    obtain ⟨rows, among, held⟩ := before.payloads
    exact ⟨rows, among.trans (List.sublist_append_left _ _), held⟩
  blank := fun empty => absurd empty (by simp)
  taken := by
    intro fit room _
    by_cases first : seen = []
    · -- Nothing is skipped by an empty batch.
      have empty := before.blank first
      cases kind : row.kind with
      | issue =>
        have full := issues kind
        rw [empty] at full
        exact absurd full (Nat.not_le.mpr room)
      | taskResult =>
        have unfit := results kind
        rw [empty] at unfit
        exact absurd (fit row (by simp) kind) unfit
    · exact before.taken (fun other member => fit other (List.mem_append_left _ member)) room first
  omitted := by
    intro other member kind absent
    rcases mem_seen_concat member with earlier | rfl
    · exact before.omitted other earlier kind absent
    · exact results kind

theorem Collected.step (before : Collected pkg seen batch) (done : collectRow pkg batch row = .ok after) :
    Collected pkg (seen ++ [row]) after := by
  obtain ⟨issuesFit, resultsFit, bytesFit⟩ := before.caps
  cases collectRow_ok done with
  | issue issue kind room decoded =>
    refine before.take ⟨?_, resultsFit, bytesFit⟩ (fun rows held => ⟨by simp [held.ids], ?_, ?_⟩) rfl
      (Nat.le_refl _) (Nat.le_refl _)
    · simp only [List.length_append, List.length_singleton]
      omega
    · simpa [kind] using List.rel_append held.issues (.cons decoded .nil)
    · simpa [kind] using held.results
  | result result kind room decoded fits =>
    refine before.take ⟨issuesFit, ?_, ?_⟩ (fun rows held => ⟨by simp [held.ids], ?_, ?_⟩) rfl ?_ ?_
    · simp only [List.length_append, List.length_singleton]
      omega
    · simp only [taskResultBytes_append]
      exact fits
    · simpa [kind] using held.issues
    · simpa [kind] using List.rel_append held.results (.cons decoded .nil)
    · simp only [List.length_append, List.length_singleton]
      omega
    · simp only [taskResultBytes_append]
      omega
  | issueSkipped kind full =>
    exact before.skip (fun _ => full) (fun other => by rw [kind] at other; cases other)
  | resultSkipped kind unfit =>
    exact before.skip (fun other => by rw [kind] at other; cases other) (fun _ => unfit)

end Reading

section Rounds

variable {pkg : Package} {store next : Store} {limit : Int} {id : Int} {ids : List Int} {u : Unit}

theorem pendingOutbox_collected {batch : OutboxBatch} (done : pendingOutbox pkg store limit = .ok batch) :
    Collected pkg (selectedRows store limit) batch := by
  obtain ⟨_, _, looped⟩ := bind_eq_ok.mp done
  exact forEach_collects (Collected pkg) (fun _ _ _ _ before passed => before.step passed)
    collected_nil looped

theorem reads_of_undelivered (legible : Legible pkg store.outbox) {row : OutboxRow}
    (member : row ∈ undelivered store) : ReadsBack pkg row := by
  obtain ⟨present, waits⟩ := List.mem_filter.mp member
  exact legible.reads row present (by simpa using waits)

theorem pendingOutbox_succeeds (legible : Legible pkg store.outbox)
    (bounds : 1 ≤ limit ∧ limit ≤ maxOutboxBatch) : ∃ batch, pendingOutbox pkg store limit = .ok batch := by
  have reading : ∃ batch, forEach (collectRow pkg) ⟨[], [], []⟩ (selectedRows store limit) = .ok batch := by
    refine forEach_succeeds (fun _ ahead => ∀ row ∈ ahead, ReadsBack pkg row) ?_
      (fun row member => reads_of_undelivered legible (mem_selectedRows member))
    intro batch row rest reads
    obtain ⟨after, collected⟩ := @collectRow_succeeds pkg batch row (reads row List.mem_cons_self)
    exact ⟨after, collected, fun other member => reads other (List.mem_cons_of_mem _ member)⟩
  obtain ⟨batch, collected⟩ := reading
  refine ⟨batch, bind_eq_ok.mpr ⟨(), rejectIf_eq_ok.mpr ?_, collected⟩⟩
  omega

theorem markDelivered_succeeds (tasks : TaskTable) (outbox : Outbox) (id : Int) :
    ∃ marked, markDelivered tasks outbox id = .ok marked := by
  unfold markDelivered
  split
  · exact ⟨_, rfl⟩
  · rename_i row _
    split
    · have passes : ∀ task ∈ tasks.rows, decide (task.id = row.dedupeKey) = true →
          checkTask { task with resultDelivered := true } = true :=
        fun task member _ => tasks.checked task member
      unfold Table.updateKey Table.update
      rw [dif_pos passes]
      exact ⟨_, rfl⟩
    · exact ⟨_, rfl⟩

theorem ackRow_succeeds (positive : 0 < id) : ∃ next, ackRow store id = .ok next := by
  obtain ⟨outbox, marked⟩ : ∃ outbox, store.outbox.update (fun row => decide (row.id = id))
      (fun row => { row with delivered := true }) (fun _ => rfl) (fun _ => rfl) = some outbox :=
    Queue.update_of_checks (fun row member _ => store.outbox.table.checked row member)
  obtain ⟨tasks, journalled⟩ := markDelivered_succeeds store.tasks outbox id
  refine ⟨_, bind_eq_ok.mpr ⟨(), rejectIf_eq_ok.mpr (Int.not_le.mpr positive), bind_eq_ok.mpr
    ⟨outbox, orError_eq_ok.mpr marked, bind_eq_ok.mpr ⟨tasks, journalled, rfl⟩⟩⟩⟩

theorem ackRow_undelivered (done : ackRow store id = .ok next) :
    undelivered next = (undelivered store).filter (fun row => decide (row.id ≠ id)) := by
  obtain ⟨_, _, positive⟩ := bind_eq_ok.mp done
  obtain ⟨marked, updated, continued⟩ := bind_eq_ok.mp positive
  obtain ⟨tasks, _, same⟩ := bind_eq_ok.mp continued
  cases same
  have rows := (Table.update_eq_some.mp (Queue.update_eq_some (orError_eq_ok.mp updated)).1).2
  show List.filter _ (List.filter _ marked.table.rows) = _
  rw [rows, undelivered, List.filter_filter, List.filter_filter]
  induction store.outbox.table.rows with
  | nil => rfl
  | cons row rest ih =>
    by_cases here : row.id = id
    · -- Whether the marked row is compacted away or kept, it no longer waits.
      simpa [here] using ih
    · simp only [List.map_cons, here, decide_false, Bool.false_eq_true, if_false, List.filter_cons, ih]
      simp [here]

theorem ackOutbox_undelivered (done : ackOutbox store ids = .ok (next, u)) :
    undelivered next = (undelivered store).filter (fun row => decide (row.id ∉ ids)) := by
  obtain ⟨final, looped, same⟩ := bind_eq_ok.mp done
  cases same
  refine forEach_collects
    (fun seen state => undelivered state = (undelivered store).filter (fun row => decide (row.id ∉ seen)))
    ?_ (by simp) looped
  intro seen state id after before passed
  rw [ackRow_undelivered passed, before, List.filter_filter]
  refine List.filter_congr (fun row _ => ?_)
  simp only [List.mem_append, List.mem_singleton, not_or, Bool.decide_and, Bool.and_comm]

theorem ackOutbox_succeeds (positive : ∀ id ∈ ids, 0 < id) : ∃ next, ackOutbox store ids = .ok (next, ()) := by
  have loop : ∃ final, forEach ackRow store ids = .ok final := by
    refine forEach_succeeds (fun _ ahead => ∀ id ∈ ahead, 0 < id) ?_ positive
    intro state id rest ahead
    obtain ⟨after, acked⟩ := @ackRow_succeeds state id (ahead id List.mem_cons_self)
    exact ⟨after, acked, fun other member => ahead other (List.mem_cons_of_mem _ member)⟩
  obtain ⟨final, acked⟩ := loop
  exact ⟨final, bind_eq_ok.mpr ⟨final, acked, rfl⟩⟩

/-- What the package encodes it can decode again. -/
structure Decodes (pkg : Package) : Prop where
  issues : ∀ issue body, pkg.encodeIssue issue = .ok body → ∃ read, pkg.decodeIssue body = .ok read
  results : ∀ result body, pkg.encodeTaskResult result = .ok body →
    ∃ read, pkg.decodeTaskResult body = .ok read

theorem Legible.grow {outbox after : Outbox} (legible : Legible pkg outbox) (numbers : Numbers outbox after)
    (reads : ∀ row ∈ after.table.rows, row.delivered = false → row ∈ outbox.table.rows ∨ ReadsBack pkg row) :
    Legible pkg after where
  started := Int.le_trans legible.started numbers.sequence
  numbered := by
    intro row member
    rcases numbers.fresh row member with ⟨old, present, same⟩ | later
    · exact same ▸ legible.numbered old present
    · exact Int.lt_of_le_of_lt legible.started later
  reads := by
    intro row member waits
    rcases reads row member waits with present | readable
    · exact legible.reads row present waits
    · exact readable

theorem Legible.settles (decodes : Decodes pkg) (legible : Legible pkg store.outbox) {task : TaskExecution}
    {row : OutboxRow} (settles : Settles pkg store next task row) : Legible pkg next.outbox := by
  refine legible.grow settles.numbers ?_
  intro other member _
  have found := Table.find?_of_mem member
  rw [settles.offers] at found
  split at found
  · rename_i named
    cases found
    refine Or.inr ?_
    unfold ReadsBack
    rw [show row.kind = .taskResult from congrArg Prod.fst named]
    exact decodes.results _ _ settles.encoded
  · exact Or.inl (Table.mem_of_find? found)

theorem Legible.acked (legible : Legible pkg store.outbox) (done : ackRow store id = .ok next) :
    Legible pkg next.outbox := by
  obtain ⟨tasks, outbox, rfl, numbers, _, rows⟩ := ackRow_ok done
  refine legible.grow numbers ?_
  intro row member waits
  have found := Table.find?_of_mem member
  rw [rows] at found
  obtain ⟨old, present, kept⟩ := Option.bind_eq_some_iff.mp found
  unfold ackedRow at kept
  split at kept
  · cases kept
    exact Or.inl (Table.mem_of_find? present)
  · split at kept
    · cases kept
    · cases kept
      cases waits

theorem Legible.ackOutbox (legible : Legible pkg store.outbox) (done : ackOutbox store ids = .ok (next, u)) :
    Legible pkg next.outbox := by
  obtain ⟨final, looped, same⟩ := bind_eq_ok.mp done
  cases same
  exact forEach_invariant (fun state : Store => Legible pkg state.outbox)
    (fun _ _ _ _ before passed => before.acked passed) legible looped

theorem Legible.accepted (decodes : Decodes pkg) {atMS : Int} {state after : Acceptance} {task : Task}
    (legible : Legible pkg state.store.outbox) (done : acceptTask pkg atMS state task = .ok after) :
    Legible pkg after.store.outbox := by
  cases acceptTask_ok done with
  | inserted tasks absent authorised sets => exact legible
  | fenced absent limited unproved => exact legible
  | rearmed current store row found same terminal settles => exact legible.settles decodes settles
  | held current found same unfinished => exact legible

theorem performTask_legible (decodes : Decodes pkg) (store : Store) (call : TaskCall)
    (legible : Legible pkg store.outbox) : Legible pkg (performTask pkg store call).outbox := by
  cases call with
  | acceptTasksFenced tasks atMS clock =>
    refine commit_invariant (fun store : Store => Legible pkg store.outbox) legible ?_
    intro next _ done
    obtain ⟨_, _, timed⟩ := bind_eq_ok.mp done
    split at timed
    · cases timed
    · obtain ⟨final, looped, same⟩ := bind_eq_ok.mp timed
      cases same
      exact forEach_invariant (fun state : Acceptance => Legible pkg state.store.outbox)
        (fun _ _ _ _ before passed => before.accepted decodes passed) legible looped
  | claimNextTaskFenced atMS clock entropy =>
    refine commit_invariant (fun store : Store => Legible pkg store.outbox) legible ?_
    intro next claim done
    have step := claimNextTaskFenced_ok done
    generalize claim.task = claimed at step
    cases step with
    | expired task bounds next row found received limited reads past settles =>
      exact legible.settles decodes settles
    | started task token tasks found received drawn ahead sets => exact legible
  | releaseTaskClaim task =>
    refine commit_invariant (fun store : Store => Legible pkg store.outbox) legible ?_
    intro next _ done
    obtain ⟨row, tasks, _, _, _, _, _, rfl⟩ := releaseTaskClaim_ok done
    exact legible
  | completeTask id terminal result atMS =>
    refine commit_invariant (fun store : Store => Legible pkg store.outbox) legible ?_
    intro next _ done
    cases completeTask_ok done with
    | rearmed current row found ended same settles => exact legible.settles decodes settles
    | finished current row found running settles => exact legible.settles decodes settles
  | enqueueIssue dedupeKey issue atMS =>
    refine commit_invariant (fun store : Store => Legible pkg store.outbox) legible ?_
    intro next inserted done
    cases enqueueIssue_step done with
    | taken row found => exact legible
    | added body outbox encoded absent sequence rows =>
      refine legible.grow (numbers_of_push sequence rows rfl) ?_
      intro row member _
      rw [rows] at member
      rcases mem_seen_concat member with earlier | rfl
      · exact Or.inl earlier
      · exact Or.inr (decodes.issues issue body encoded)
  | pendingOutbox limit => exact legible
  | ackOutbox ids =>
    exact commit_invariant (fun store : Store => Legible pkg store.outbox) legible
      (fun _ _ done => legible.ackOutbox done)

theorem legible_fresh (pkg : Package) : Legible pkg Store.fresh.outbox := by
  refine ⟨Int.le_refl _, ?_, ?_⟩
  · intro row member
    cases member
  · intro row member
    cases member

theorem run_performTask_legible (decodes : Decodes pkg) (legible : Legible pkg store.outbox)
    (calls : List TaskCall) : Legible pkg (run (performTask pkg) store calls).outbox :=
  run_invariant (fun store : Store => Legible pkg store.outbox) (performTask_legible decodes) legible calls

end Rounds

def drainOnce (pkg : Package) (limit : Int) (store : Store) : Except Error (Store × OutboxBatch) := do
  let batch ← pendingOutbox pkg store limit
  let (next, _) ← ackOutbox store batch.ids
  .ok (next, batch)

def drain (pkg : Package) (limit : Int) : Nat → Store → Except Error Store
  | 0, store => .ok store
  | rounds + 1, store => do
      let (next, _) ← drainOnce pkg limit store
      drain pkg limit rounds next

/-- A round that took a batch off the backlog. A result is left out only where the finished
report has no room for it. -/
structure Drains (pkg : Package) (limit : Int) (store next : Store) (batch : OutboxBatch) : Prop where
  read : pendingOutbox pkg store limit = .ok batch
  payloads : ∃ rows, rows.Sublist (selectedRows store limit) ∧ Payloads pkg rows batch
  acked : ackOutbox store batch.ids = .ok (next, ())
  fewer : undelivered store ≠ [] → (undelivered next).length < (undelivered store).length
  caps : WithinCaps pkg batch
  count : (batch.ids.length : Int) ≤ limit
  first : ∀ row ∈ selectedRows store limit, row.kind = .taskResult → row.id ∉ batch.ids →
    ¬FitsIn pkg batch row

section Drain

variable {pkg : Package} {store next : Store} {limit : Int} {batch : OutboxBatch}

theorem selectedRows_eq_nil (positive : 1 ≤ limit) (none : selectedRows store limit = []) :
    undelivered store = [] := by
  rcases List.take_eq_nil_iff.mp none with zero | empty
  · omega
  · have same := (undelivered store).length_insertionSort deliversBefore
    rw [empty] at same
    exact List.eq_nil_of_length_eq_zero same.symm

theorem fitsIn_empty (legible : Legible pkg store.outbox) (fit : ResultsFit pkg store)
    (results : 1 ≤ pkg.maxTaskResultsPerReport) {row : OutboxRow} (member : row ∈ undelivered store)
    (kind : row.kind = .taskResult) : FitsIn pkg ⟨[], [], []⟩ row := by
  have reads := reads_of_undelivered legible member
  unfold ReadsBack at reads
  rw [kind] at reads
  obtain ⟨result, decoded⟩ := reads
  exact ⟨results, result, decoded, fit row member kind result decoded⟩

theorem fewer_of_acked (collected : Collected pkg (selectedRows store limit) batch)
    (taken : batch.ids ≠ []) (done : ackOutbox store batch.ids = .ok (next, ())) :
    (undelivered next).length < (undelivered store).length := by
  obtain ⟨id, member⟩ := List.exists_mem_of_ne_nil _ taken
  obtain ⟨row, selected, rfl⟩ := List.mem_map.mp (collected.ids.subset member)
  rw [ackOutbox_undelivered done, List.length_filter_lt_length_iff_exists]
  exact ⟨row, mem_selectedRows selected, by simp [member]⟩

theorem drains_once (issues : 1 ≤ pkg.maxIssuesPerReport) (results : 1 ≤ pkg.maxTaskResultsPerReport)
    (bounds : 1 ≤ limit ∧ limit ≤ maxOutboxBatch) (legible : Legible pkg store.outbox)
    (fit : ResultsFit pkg store) : ∃ next batch, Drains pkg limit store next batch := by
  obtain ⟨batch, read⟩ := pendingOutbox_succeeds legible bounds
  have collected := pendingOutbox_collected read
  have listed : ∀ id ∈ batch.ids, 0 < id := by
    intro id member
    obtain ⟨row, selected, rfl⟩ := List.mem_map.mp (collected.ids.subset member)
    exact legible.numbered row (List.mem_of_mem_filter (mem_selectedRows selected))
  obtain ⟨next, acked⟩ := @ackOutbox_succeeds store batch.ids listed
  refine ⟨next, batch, read, collected.payloads, acked, ?_, collected.caps, ?_, collected.omitted⟩
  · intro waiting
    refine fewer_of_acked collected (collected.taken ?_ issues ?_) acked
    · intro row selected kind
      exact fitsIn_empty legible fit results (mem_selectedRows selected) kind
    · intro none
      exact waiting (selectedRows_eq_nil bounds.1 none)
  · have shorter := collected.ids.length_le
    rw [List.length_map] at shorter
    have taken := (undelivered store).insertionSort deliversBefore |>.length_take_le limit.toNat
    unfold selectedRows at shorter
    omega

theorem Drains.run (drained : Drains pkg limit store next batch) : drainOnce pkg limit store = .ok (next, batch) :=
  bind_eq_ok.mpr ⟨batch, drained.read, bind_eq_ok.mpr ⟨(next, ()), drained.acked, rfl⟩⟩

theorem ResultsFit.acked {ids : List Int} {u : Unit} (fit : ResultsFit pkg store)
    (done : ackOutbox store ids = .ok (next, u)) : ResultsFit pkg next := by
  intro row member
  rw [ackOutbox_undelivered done] at member
  exact fit row (List.mem_of_mem_filter member)

end Drain

/-- From every content of the outbox, with every limit: each round reads a batch within the
caps and takes it off the backlog, and after as many rounds as rows there are none left. -/
theorem outbox_drains (pkg : Package) (issues : 1 ≤ pkg.maxIssuesPerReport)
    (results : 1 ≤ pkg.maxTaskResultsPerReport) (store : Store) (legible : Legible pkg store.outbox)
    (fit : ResultsFit pkg store) (limit : Int) (bounds : 1 ≤ limit ∧ limit ≤ maxOutboxBatch) (rounds : Nat) :
    ∃ reached next batch, drain pkg limit rounds store = .ok reached ∧
      (undelivered reached).length ≤ (undelivered store).length - rounds ∧
      Drains pkg limit reached next batch := by
  induction rounds generalizing store with
  | zero =>
    obtain ⟨next, batch, drained⟩ := drains_once issues results bounds legible fit
    exact ⟨store, next, batch, rfl, Nat.le_refl _, drained⟩
  | succ rounds ih =>
    obtain ⟨next, batch, drained⟩ := drains_once issues results bounds legible fit
    obtain ⟨reached, later, last, continued, shorter, round⟩ :=
      ih next (legible.ackOutbox drained.acked) (fit.acked drained.acked)
    refine ⟨reached, later, last, bind_eq_ok.mpr ⟨(next, batch), drained.run, continued⟩, ?_, round⟩
    by_cases waiting : undelivered store = []
    · have none : undelivered next = [] := by
        rw [ackOutbox_undelivered drained.acked, waiting, List.filter_nil]
      rw [none] at shorter
      rw [waiting]
      simpa using shorter
    · have fewer := drained.fewer waiting
      omega

def exampleBacklog : Store :=
  run (performTask .transparent) Store.fresh
    (.enqueueIssue "host_telemetry_failed" ⟨"host_telemetry_failed", "", "collector_error"⟩ 700 ::
      exampleCompletion)

theorem decodes_transparent : Decodes .transparent :=
  ⟨fun _ _ _ => ⟨_, rfl⟩, fun _ _ _ => ⟨_, rfl⟩⟩

theorem outbox_drains_one_by_one :
    (undelivered exampleBacklog).map OutboxRow.kind = [.issue, .taskResult] ∧
    ∃ reached next batch, drain .transparent 1 2 exampleBacklog = .ok reached ∧
      (undelivered reached).length ≤ (undelivered exampleBacklog).length - 2 ∧
      Drains .transparent 1 reached next batch := by
  have legible : Legible .transparent exampleBacklog.outbox :=
    run_performTask_legible decodes_transparent (legible_fresh _) _
  have fit : ResultsFit .transparent exampleBacklog := by
    intro row _ _ result decoded
    cases decoded
    exact Nat.zero_le _
  exact ⟨by decide, outbox_drains .transparent (by decide) (by decide) exampleBacklog legible fit 1
    (by decide) 2⟩

end PasswallNode.Sqlite
