import PasswallNode.Sqlite.Tasks

/-! What each journal operation can do, stated once. -/

namespace PasswallNode.Sqlite

open Foundation Protocol State

def Sets (tasks next : TaskTable) (id : String) (row : TaskExecution) : Prop :=
  ∀ other, next.find? other = if other = id then some row else tasks.find? other

def Offers (outbox next : Outbox) (id : String) (row : OutboxRow) : Prop :=
  ∀ key, next.table.find? key = if key = (.taskResult, id) then some row else outbox.table.find? key

/-- Numbers are issued in increasing order: a later row has a number of before or a new one. -/
structure Numbers (outbox next : Outbox) : Prop where
  sequence : outbox.sequence ≤ next.sequence
  fresh : ∀ row ∈ next.table.rows,
    (∃ old ∈ outbox.table.rows, old.id = row.id) ∨ outbox.sequence < row.id

theorem numbers_refl (outbox : Outbox) : Numbers outbox outbox :=
  ⟨Int.le_refl _, fun row member => Or.inl ⟨row, member, rfl⟩⟩

theorem Numbers.trans {first second third : Outbox} (one : Numbers first second)
    (two : Numbers second third) : Numbers first third := by
  refine ⟨Int.le_trans one.sequence two.sequence, ?_⟩
  intro row member
  rcases two.fresh row member with ⟨old, present, same⟩ | later
  · rcases one.fresh old present with ⟨older, earlier, equal⟩ | new
    · exact Or.inl ⟨older, earlier, equal.trans same⟩
    · exact Or.inr (same ▸ new)
  · exact Or.inr (Int.lt_of_le_of_lt one.sequence later)

variable {outbox next : Outbox} {tasks : TaskTable} {id : String} {set : TaskExecution → TaskExecution}
  {keeps : ∀ t, (set t).id = t.id} {row : TaskExecution}

theorem Numbers.retired (numbers : Numbers outbox next) {n : Int} (issued : n ≤ outbox.sequence)
    (gone : ∀ row ∈ outbox.table.rows, row.id ≠ n) : ∀ row ∈ next.table.rows, row.id ≠ n := by
  intro row member same
  rcases numbers.fresh row member with ⟨old, present, equal⟩ | later
  · exact gone old present (equal.trans same)
  · omega

theorem numbers_of_push {row : OutboxRow} (sequence : next.sequence = outbox.sequence + 1)
    (rows : next.table.rows = outbox.table.rows ++ [row]) (numbered : row.id = outbox.sequence + 1) :
    Numbers outbox next := by
  refine ⟨by omega, ?_⟩
  intro other member
  rw [rows] at member
  rcases List.mem_append.mp member with inside | only
  · exact Or.inl ⟨other, inside, rfl⟩
  · rw [List.mem_singleton.mp only]
    exact Or.inr (by omega)

theorem updateTask_sets {next : TaskTable} {state : TaskState} (found : tasks.find? id = some row)
    (held : row.state = state) (done : updateTask tasks id state set keeps = some next) :
    Sets tasks next id (set row) := by
  intro other
  rw [Table.find?_update done]
  by_cases here : other = id
  · subst here
    rw [if_pos rfl, found, Option.map_some]
    simp [Table.key_of_find? found, held]
  · rw [if_neg here]
    cases present : tasks.find? other with
    | none => rfl
    | some old => simp [Table.key_of_find? present, here]

theorem updateKey_sets {next : TaskTable} (found : tasks.find? id = some row)
    (done : tasks.updateKey id set keeps = some next) : Sets tasks next id (set row) := by
  intro other
  rw [Table.find?_updateKey done, found, Option.map_some]

section Results

variable {outbox next : Outbox} {id : String} {body : Bytes} {atMS : Int}

theorem key_of_found {key : OutboxKind × String} {row : OutboxRow}
    (found : outbox.table.find? key = some row) : row.kind = key.1 ∧ row.dedupeKey = key.2 := by
  have named := Table.key_of_find? found
  exact ⟨congrArg Prod.fst named, congrArg Prod.snd named⟩

theorem find?_rearmed (found : ∃ row, outbox.table.find? (.taskResult, id) = some row)
    (done : outbox.update (fun row => decide (row.kind = .taskResult) && decide (row.dedupeKey = id))
    (fun row => { row with delivered := false }) (fun _ => rfl) (fun _ => rfl) = some next) :
    ∃ row, outbox.table.find? (.taskResult, id) = some row ∧
      Offers outbox next id { row with delivered := false } ∧ Numbers outbox next := by
  obtain ⟨row, present⟩ := found
  obtain ⟨updated, sequence⟩ := Queue.update_eq_some done
  refine ⟨row, present, ?_, Int.le_of_eq sequence.symm, ?_⟩
  · intro key
    rw [Table.find?_update updated]
    by_cases here : key = (.taskResult, id)
    · subst here
      simp [present, (key_of_found present).1, (key_of_found present).2]
    · rw [if_neg here]
      cases other : outbox.table.find? key with
      | none => rfl
      | some old =>
        have apart : ¬(old.kind = .taskResult ∧ old.dedupeKey = id) := by
          rintro ⟨kind, dedupe⟩
          have named := key_of_found other
          exact here (Prod.ext (named.1.symm.trans kind) (named.2.symm.trans dedupe))
        simp only [Option.map_some, Bool.and_eq_true, decide_eq_true_eq, if_neg apart]
  · intro changed member
    obtain ⟨old, inside, rfl⟩ := (Table.mem_update updated).mp member
    exact Or.inl ⟨old, inside, by split <;> rfl⟩

theorem putImmutableTaskResult_ok (done : putImmutableTaskResult outbox id body atMS = .ok next) :
    ∃ row, row.payload = body ∧ row.delivered = false ∧ row.kind = .taskResult ∧
    row.dedupeKey = id ∧ Offers outbox next id row ∧ Numbers outbox next := by
  unfold putImmutableTaskResult at done
  split at done
  · rw [orError_eq_ok] at done
    obtain ⟨_, sequence, rows, found⟩ := Queue.push_eq_some done
    refine ⟨newOutboxRow .taskResult id body atMS (outbox.sequence + 1), rfl, rfl, rfl, rfl, ?_,
      numbers_of_push sequence rows rfl⟩
    intro key
    rw [found key]
    exact if_congr ⟨Eq.symm, Eq.symm⟩ rfl rfl
  · rename_i row present
    split at done
    · cases done
    · rename_i same
      rw [orError_eq_ok] at done
      obtain ⟨other, again, offers, numbers⟩ := find?_rearmed ⟨row, present⟩ done
      rw [present] at again
      cases again
      have named := key_of_found present
      exact ⟨{ row with delivered := false }, not_not.mp same, rfl, named.1, named.2, offers, numbers⟩

end Results

section Journal

variable {pkg : Package} {store next : Store} {atMS : Int} {result : TaskResult} {task : TaskExecution}
  {clock : TaskStartClock} {claim : Claim} {terminal : TaskState} {rest : TaskStartClock} {entropy : Entropy}
  {state after : Acceptance} {bounds : TaskTimeBounds} {found : Option TaskTimeBounds} {u : Unit} {dedupeKey : String}
  {issue : Issue} {inserted : Bool}

/-- A task reaches, or keeps, its terminal row, and the outbox offers exactly the result that
the row stands for. -/
structure Settles (pkg : Package) (store next : Store) (task : TaskExecution) (row : OutboxRow) :
    Prop where
  sets : Sets store.tasks next.tasks task.id task
  offers : Offers store.outbox next.outbox task.id row
  numbers : Numbers store.outbox next.outbox
  terminal : task.state.terminal = true
  unsent : task.resultDelivered = false
  undelivered : row.delivered = false
  encoded : pkg.encodeTaskResult (taskResult task) = .ok row.payload

theorem marshalResult_ok {context : String} {body : Bytes} (done : marshalResult pkg result context = .ok body) :
    pkg.encodeTaskResult result = .ok body := by
  unfold marshalResult at done
  split at done
  · cases done
  · rename_i encoded
    cases done
    exact encoded

theorem rearmTaskResult_ok (found : store.tasks.find? task.id = some task) (terminal : task.state.terminal = true)
    (done : rearmTaskResult pkg store task atMS = .ok next) :
    ∃ row, Settles pkg store next { task with resultDelivered := false } row := by
  obtain ⟨body, marshalled, continued⟩ := bind_eq_ok.mp done
  obtain ⟨outbox, put, rearmed⟩ := bind_eq_ok.mp continued
  obtain ⟨tasks, updated, same⟩ := bind_eq_ok.mp rearmed
  cases same
  obtain ⟨row, rfl, undelivered, _, _, offers, numbers⟩ := putImmutableTaskResult_ok put
  exact ⟨row, updateKey_sets found (orError_eq_ok.mp updated), offers, numbers, terminal, rfl,
    undelivered, marshalResult_ok marshalled⟩

theorem result_of_unfinished (checked : checkTask task = true) (unfinished : task.state.terminal = false) :
    task.result = [] := by
  cases state : task.state <;> simp_all [checkTask, TaskState.terminal]

theorem expireTask_ok (found : store.tasks.find? task.id = some task) (received : task.state = .received)
    (done : expireTask pkg store task atMS clock = .ok (next, claim)) :
    claim = ⟨expiredTask atMS task, clock⟩ ∧
    ∃ row, Settles pkg store next { expiredTask atMS task with resultDelivered := false } row := by
  obtain ⟨_, _, validated⟩ := bind_eq_ok.mp done
  obtain ⟨tasks, updated, continued⟩ := bind_eq_ok.mp validated
  obtain ⟨body, marshalled, encoded⟩ := bind_eq_ok.mp continued
  obtain ⟨outbox, put, same⟩ := bind_eq_ok.mp encoded
  cases same
  obtain ⟨row, rfl, undelivered, _, _, offers, numbers⟩ := putImmutableTaskResult_ok put
  have empty : task.result = [] :=
    result_of_unfinished (Table.check_of_find? found) (by rw [received]; rfl)
  have rebuilt : pkg.encodeTaskResult
      (taskResult { expiredTask atMS task with resultDelivered := false }) = .ok row.payload := by
    rw [← marshalResult_ok marshalled]
    -- The encoder does not tell the stored empty result from the absent one.
    have agree := pkg.encodeTaskResult_nil (expiredResult task)
    have shape : taskResult { expiredTask atMS task with resultDelivered := false } =
        { expiredResult task with result := some [] } := by
      simp [taskResult, expiredTask, expiredResult, empty]
    rw [shape, ← agree]
    rfl
  exact ⟨rfl, row, updateTask_sets found received (orError_eq_ok.mp updated), offers, numbers,
    rfl, rfl, undelivered, rebuilt⟩

theorem taskResult_completedTask
    (identity : task.id = result.id ∧ task.kind = result.kind ∧ task.inputSHA256 = result.inputSHA256 ∧
      task.notAfterMS = result.notAfterMS)
    (agrees : resultMatchesState terminal result = true) :
    taskResult (completedTask terminal result atMS task) =
    { result with result := some (result.result.getD []) } := by
  cases result
  cases terminal <;> simp_all [taskResult, completedTask, resultMatchesState]

theorem encode_getD (result : TaskResult) :
    pkg.encodeTaskResult { result with result := some (result.result.getD []) } =
      pkg.encodeTaskResult result := by
  obtain ⟨id, kind, sha, notAfter, ok, indeterminate, body, code, text⟩ := result
  cases body with
  | none =>
    exact (pkg.encodeTaskResult_nil ⟨id, kind, sha, notAfter, ok, indeterminate, none, code, text⟩).symm
  | some bytes => rfl

theorem finishTask_ok (found : store.tasks.find? task.id = some task) (running : task.state = .running)
    (final : terminal.terminal = true)
    (identity : task.id = result.id ∧ task.kind = result.kind ∧ task.inputSHA256 = result.inputSHA256 ∧
      task.notAfterMS = result.notAfterMS)
    (agrees : resultMatchesState terminal result = true)
    (done : finishTask pkg store task.id terminal result atMS = .ok next) :
    ∃ row, Settles pkg store next (completedTask terminal result atMS task) row := by
  obtain ⟨tasks, updated, continued⟩ := bind_eq_ok.mp done
  obtain ⟨body, marshalled, encoded⟩ := bind_eq_ok.mp continued
  obtain ⟨outbox, put, same⟩ := bind_eq_ok.mp encoded
  cases same
  obtain ⟨row, rfl, undelivered, _, _, offers, numbers⟩ := putImmutableTaskResult_ok put
  have rebuilt : pkg.encodeTaskResult (taskResult (completedTask terminal result atMS task)) =
      .ok row.payload := by
    rw [taskResult_completedTask identity agrees, encode_getD]
    exact marshalResult_ok marshalled
  exact ⟨row, updateTask_sets found running (orError_eq_ok.mp updated), offers, numbers, final,
    rfl, undelivered, rebuilt⟩

def SameInput (current : TaskExecution) (task : Task) : Prop :=
  current.kind = task.kind ∧ current.inputSHA256 = task.inputSHA256 ∧
    current.notAfterMS = task.notAfterMS ∧ current.args = task.args

/-- What the accepting transaction can do with one task of its batch. -/
inductive AcceptStep (pkg : Package) (atMS : Int) (state : Acceptance) (task : Task) :
    Acceptance → Prop where
  | inserted (tasks : TaskTable) (absent : state.store.tasks.find? task.id = none)
      (authorised : 0 < task.notAfterMS →
        authorises (taskBounds state.clock).1 task.notAfterMS = true)
      (sets : Sets state.store.tasks tasks task.id (receivedTask task atMS)) :
      AcceptStep pkg atMS state task
        { store := { state.store with tasks := tasks }
          accepted := { state.accepted with workAvailable := true }
          clock := if 0 < task.notAfterMS then (taskBounds state.clock).2 else state.clock }
  | fenced (absent : state.store.tasks.find? task.id = none) (limited : 0 < task.notAfterMS)
      (unproved : authorises (taskBounds state.clock).1 task.notAfterMS = false) :
      AcceptStep pkg atMS state task
        { store := state.store
          accepted := { state.accepted with replayFenced := state.accepted.replayFenced ++ [task] }
          clock := (taskBounds state.clock).2 }
  | rearmed (current : TaskExecution) (store : Store) (row : OutboxRow)
      (found : state.store.tasks.find? task.id = some current) (same : SameInput current task)
      (terminal : current.state.terminal = true)
      (settles : Settles pkg state.store store { current with resultDelivered := false } row) :
      AcceptStep pkg atMS state task
        { state with store := store, accepted := { state.accepted with resultAvailable := true } }
  | held (current : TaskExecution) (found : state.store.tasks.find? task.id = some current)
      (same : SameInput current task) (unfinished : current.state.terminal = false) :
      AcceptStep pkg atMS state task state

theorem insertTask_ok {task : Task} (absent : state.store.tasks.find? task.id = none)
    (done : insertTask state task atMS clock = .ok after) :
    ∃ tasks, Sets state.store.tasks tasks task.id (receivedTask task atMS) ∧
    after = ⟨{ state.store with tasks := tasks }, { state.accepted with workAvailable := true }, clock⟩ := by
  obtain ⟨⟨tasks, inserted⟩, updated, same⟩ := bind_eq_ok.mp done
  cases same
  obtain ⟨_, _, found⟩ := Table.insertIgnore_eq_some (orError_eq_ok.mp updated)
  refine ⟨tasks, ?_, rfl⟩
  intro other
  rw [found other]
  by_cases here : other = task.id
  · subst here
    rw [absent]
    rfl
  · rw [if_neg here, if_neg (fun same => here same.symm)]

theorem acceptTask_ok {task : Task} (done : acceptTask pkg atMS state task = .ok after) :
    AcceptStep pkg atMS state task after := by
  unfold acceptTask at done
  split at done
  · rename_i absent
    unfold acceptUnknown at done
    split at done
    · rename_i limited
      dsimp only at done
      split at done
      · rename_i authorised
        obtain ⟨tasks, sets, rfl⟩ := insertTask_ok absent done
        have inserted : AcceptStep pkg atMS state task _ :=
          .inserted tasks absent (fun _ => authorised) sets
        rwa [if_pos limited] at inserted
      · rename_i unproved
        cases done
        exact .fenced absent limited (Bool.not_eq_true _ ▸ unproved)
    · rename_i unlimited
      obtain ⟨tasks, sets, rfl⟩ := insertTask_ok absent done
      have inserted : AcceptStep pkg atMS state task _ :=
        .inserted tasks absent (fun limited => absurd limited unlimited) sets
      rwa [if_neg unlimited] at inserted
  · rename_i current found
    obtain ⟨_, accepted, continued⟩ := bind_eq_ok.mp done
    have same : SameInput current task := by
      have input := rejectIf_eq_ok.mp accepted
      simpa only [SameInput, not_or, not_not] using input
    split at continued
    · rename_i terminal
      obtain ⟨store, rearmed, final⟩ := bind_eq_ok.mp continued
      cases final
      have named : current.id = task.id := Table.key_of_find? found
      obtain ⟨row, settles⟩ := rearmTaskResult_ok (named ▸ found) terminal rearmed
      exact .rearmed current store row found same terminal settles
    · rename_i unfinished
      cases continued
      exact .held current found same (Bool.not_eq_true _ ▸ unfinished)

def Reads (clock : TaskStartClock) (bounds : TaskTimeBounds) : Prop :=
  ∃ samples, clock = some samples ∧ ∃ sample ∈ samples, Sample.valid? sample = some bounds

theorem reads_of_taskBounds (read : taskBounds clock = (some bounds, rest)) : Reads clock bounds := by
  unfold taskBounds at read
  split at read
  · cases read
  · cases read
  · rename_i sample samples
    exact ⟨sample :: samples, rfl, sample, List.mem_cons_self, congrArg Prod.fst read⟩

theorem Reads.earlier (step : taskBounds clock = (found, rest)) (reads : Reads rest bounds) : Reads clock bounds := by
  unfold taskBounds at step
  split at step
  · cases step
    exact reads
  · cases step
    exact reads
  · rename_i sample samples
    cases step
    obtain ⟨_, same, valid, member, holds⟩ := reads
    cases same
    exact ⟨sample :: samples, rfl, valid, List.mem_cons_of_mem _ member, holds⟩

inductive ClaimStep (pkg : Package) (store : Store) (atMS : Int) (entropy : Entropy)
    (clock : TaskStartClock) : Store → TaskExecution → Prop where
  | expired (task : TaskExecution) (bounds : TaskTimeBounds) (next : Store) (row : OutboxRow)
      (found : store.tasks.find? task.id = some task) (received : task.state = .received)
      (limited : 0 < task.notAfterMS) (reads : Reads clock bounds)
      (past : task.notAfterMS ≤ bounds.lowerMS)
      (settles : Settles pkg store next { expiredTask atMS task with resultDelivered := false } row) :
      ClaimStep pkg store atMS entropy clock next (expiredTask atMS task)
  | started (task : TaskExecution) (token : String) (tasks : TaskTable)
      (found : store.tasks.find? task.id = some task) (received : task.state = .received)
      (drawn : newTaskClaimToken entropy = .ok token)
      (ahead : 0 < task.notAfterMS → ∃ bounds, Reads clock bounds ∧ bounds.upperMS < task.notAfterMS)
      (sets : Sets store.tasks tasks task.id (startedTask atMS token task)) :
      ClaimStep pkg store atMS entropy clock { store with tasks := tasks } (startedTask atMS token task)

theorem ClaimStep.earlier (step : taskBounds clock = (found, rest))
    (claimed : ClaimStep pkg store atMS entropy rest next task) :
    ClaimStep pkg store atMS entropy clock next task := by
  cases claimed with
  | expired task bounds next row found received limited reads past settles =>
    exact .expired task bounds next row found received limited (reads.earlier step) past settles
  | started task token tasks found received drawn ahead sets =>
    refine .started task token tasks found received drawn ?_ sets
    intro limited
    obtain ⟨bounds, reads, below⟩ := ahead limited
    exact ⟨bounds, reads.earlier step, below⟩

theorem startTask_ok (found : store.tasks.find? task.id = some task) (received : task.state = .received)
    (ahead : 0 < task.notAfterMS → ∃ bounds, Reads clock bounds ∧ bounds.upperMS < task.notAfterMS)
    (done : startTask store task atMS entropy rest = .ok (next, claim)) :
    ClaimStep pkg store atMS entropy clock next claim.task := by
  obtain ⟨token, drawn, continued⟩ := bind_eq_ok.mp done
  obtain ⟨tasks, updated, same⟩ := bind_eq_ok.mp continued
  cases same
  exact .started task token tasks found received drawn ahead
    (updateTask_sets found received (orError_eq_ok.mp updated))

theorem claimFrom_ok {candidates : List TaskExecution}
    (received : ∀ task ∈ candidates, store.tasks.find? task.id = some task ∧ task.state = .received)
    (done : claimFrom pkg store atMS entropy candidates clock = .ok (next, claim)) :
    ClaimStep pkg store atMS entropy clock next claim.task := by
  induction candidates generalizing clock with
  | nil => cases done
  | cons task rest ih =>
    obtain ⟨found, waiting⟩ := received task List.mem_cons_self
    have others := fun other member => received other (List.mem_cons_of_mem _ member)
    unfold claimFrom at done
    split at done
    · rename_i limited
      split at done
      · rename_i later step
        exact (ih others done).earlier step
      · rename_i bounds later step
        have reads := reads_of_taskBounds step
        split at done
        · rename_i past
          obtain ⟨rfl, row, settles⟩ := expireTask_ok found waiting done
          exact .expired task bounds next row found waiting limited reads past settles
        · split at done
          · exact (ih others done).earlier step
          · rename_i ahead
            exact startTask_ok found waiting (fun _ => ⟨bounds, reads, Int.not_le.mp ahead⟩) done
    · rename_i unlimited
      exact startTask_ok found waiting (fun limited => absurd limited unlimited) done

theorem mem_receivedTasks {cond : TaskExecution → Bool} (member : task ∈ receivedTasks store cond) :
    store.tasks.find? task.id = some task ∧ task.state = .received := by
  rw [receivedTasks, List.mem_insertionSort, List.mem_filter, Bool.and_eq_true, decide_eq_true_eq] at member
  exact ⟨Table.find?_of_mem member.1, member.2.1⟩

theorem mem_claimCandidates (member : task ∈ claimCandidates store clock) :
    store.tasks.find? task.id = some task ∧ task.state = .received := by
  unfold claimCandidates at member
  split at member
  · exact mem_receivedTasks (List.mem_of_mem_take member)
  · dsimp only at member
    split at member
    · rcases List.mem_append.mp member with inside | inside
      · exact mem_receivedTasks (List.mem_of_mem_take inside)
      · exact mem_receivedTasks (List.mem_of_mem_take inside)
    · exact mem_receivedTasks (List.mem_of_mem_take member)

theorem claimNextTaskFenced_ok (done : claimNextTaskFenced pkg store atMS clock entropy = .ok (next, claim)) :
    ClaimStep pkg store atMS entropy clock next claim.task := by
  obtain ⟨_, _, claimed⟩ := bind_eq_ok.mp done
  exact claimFrom_ok (fun _ => mem_claimCandidates) claimed

theorem matchesClaim_iff {row : TaskExecution} : matchesClaim task row = true ↔
    row.id = task.id ∧ row.kind = task.kind ∧ row.inputSHA256 = task.inputSHA256 ∧
    row.notAfterMS = task.notAfterMS ∧ row.state = .running ∧
    row.startedAtMS = task.startedAtMS ∧ row.claimToken = task.claimToken := by
  simp only [matchesClaim, Bool.and_eq_true, decide_eq_true_eq, and_assoc]

theorem releaseTaskClaim_ok (done : releaseTaskClaim store task = .ok (next, u)) :
    ∃ row tasks, store.tasks.find? task.id = some row ∧ row.state = .running ∧
    row.claimToken = task.claimToken ∧ task.claimToken ≠ "" ∧
    Sets store.tasks tasks task.id (releasedTask row) ∧ next = { store with tasks := tasks } := by
  obtain ⟨_, complete, continued⟩ := bind_eq_ok.mp done
  obtain ⟨tasks, updated, counted⟩ := bind_eq_ok.mp continued
  obtain ⟨_, one, same⟩ := bind_eq_ok.mp counted
  cases same
  have exactly : store.tasks.rows.countP (matchesClaim task) = 1 := not_not.mp (rejectIf_eq_ok.mp one)
  obtain ⟨row, member, held⟩ := List.countP_pos_iff.mp (by omega : 0 < store.tasks.rows.countP (matchesClaim task))
  obtain ⟨named, _, _, _, running, _, token⟩ := matchesClaim_iff.mp held
  have found : store.tasks.find? task.id = some row := named ▸ Table.find?_of_mem member
  refine ⟨row, tasks, found, running, token, ?_, ?_, rfl⟩
  · intro empty
    exact rejectIf_eq_ok.mp complete (Or.inr (Or.inr (Or.inr empty)))
  · intro other
    rw [Table.find?_update (orError_eq_ok.mp updated)]
    by_cases here : other = task.id
    · subst here
      rw [if_pos rfl, found, Option.map_some, if_pos held]
    · rw [if_neg here]
      cases present : store.tasks.find? other with
      | none => rfl
      | some old =>
        have apart : ¬matchesClaim task old = true := by
          intro matched
          exact here ((Table.key_of_find? present).symm.trans (matchesClaim_iff.mp matched).1)
        rw [Option.map_some, if_neg apart]

inductive CompleteStep (pkg : Package) (store : Store) (id : String) (terminal : TaskState)
    (result : TaskResult) (atMS : Int) (next : Store) : Prop where
  | rearmed (current : TaskExecution) (row : OutboxRow) (found : store.tasks.find? id = some current)
      (ended : current.state.terminal = true) (same : sameTerminal current terminal result = true)
      (settles : Settles pkg store next { current with resultDelivered := false } row)
  | finished (current : TaskExecution) (row : OutboxRow) (found : store.tasks.find? id = some current)
      (running : current.state = .running)
      (settles : Settles pkg store next (completedTask terminal result atMS current) row)

theorem completeTask_ok {id : String} (done : completeTask pkg store id terminal result atMS = .ok (next, u)) :
    CompleteStep pkg store id terminal result atMS next := by
  obtain ⟨_, final, continued⟩ := bind_eq_ok.mp done
  obtain ⟨_, _, validated⟩ := bind_eq_ok.mp continued
  obtain ⟨_, agreed, matched⟩ := bind_eq_ok.mp validated
  obtain ⟨current, lookup, present⟩ := bind_eq_ok.mp matched
  obtain ⟨_, identified, decided⟩ := bind_eq_ok.mp present
  have found := orError_eq_ok.mp lookup
  have named : current.id = id := Table.key_of_find? found
  have input := rejectIf_eq_ok.mp identified
  have agreement := rejectIf_eq_ok.mp agreed
  have terminates := rejectIf_eq_ok.mp final
  simp only [not_or, not_not, Bool.not_eq_false] at input agreement terminates
  split at decided
  · rename_i ended
    obtain ⟨_, equal, rearming⟩ := bind_eq_ok.mp decided
    obtain ⟨store', rearmed, same⟩ := bind_eq_ok.mp rearming
    cases same
    obtain ⟨row, settles⟩ := rearmTaskResult_ok (named ▸ found) ended rearmed
    exact .rearmed current row found ended (Bool.not_eq_false _ ▸ rejectIf_eq_ok.mp equal) settles
  · obtain ⟨_, held, finishing⟩ := bind_eq_ok.mp decided
    obtain ⟨store', finished, same⟩ := bind_eq_ok.mp finishing
    cases same
    have running : current.state = .running := not_not.mp (rejectIf_eq_ok.mp held)
    subst named
    obtain ⟨row, settles⟩ := finishTask_ok found running terminates.1
      ⟨agreement.1, input.1, input.2.1, input.2.2⟩ agreement.2 finished
    exact .finished current row found running settles

inductive EnqueueStep (pkg : Package) (store : Store) (dedupeKey : String) (issue : Issue) (atMS : Int) :
    Store → Bool → Prop where
  | taken (row : OutboxRow) (found : store.outbox.table.find? (.issue, dedupeKey) = some row) :
      EnqueueStep pkg store dedupeKey issue atMS store false
  | added (body : Bytes) (outbox : Outbox) (encoded : pkg.encodeIssue issue = .ok body)
      (absent : store.outbox.table.find? (.issue, dedupeKey) = none)
      (sequence : outbox.sequence = store.outbox.sequence + 1)
      (rows : outbox.table.rows =
        store.outbox.table.rows ++ [newOutboxRow .issue dedupeKey body atMS (store.outbox.sequence + 1)]) :
      EnqueueStep pkg store dedupeKey issue atMS { store with outbox := outbox } true

theorem enqueueIssue_step (done : enqueueIssue pkg store dedupeKey issue atMS = .ok (next, inserted)) :
    EnqueueStep pkg store dedupeKey issue atMS next inserted := by
  obtain ⟨_, _, named⟩ := bind_eq_ok.mp done
  obtain ⟨_, _, sized⟩ := bind_eq_ok.mp named
  split at sized
  · cases sized
  · rename_i body encoded
    obtain ⟨_, _, decided⟩ := bind_eq_ok.mp sized
    split at decided
    · rename_i row found
      cases decided
      exact .taken row found
    · rename_i absent
      obtain ⟨outbox, pushed, same⟩ := bind_eq_ok.mp decided
      cases same
      obtain ⟨_, sequence, rows, _⟩ := Queue.push_eq_some (orError_eq_ok.mp pushed)
      exact .added body outbox encoded absent sequence rows

theorem enqueueIssue_ok (done : enqueueIssue pkg store dedupeKey issue atMS = .ok (next, inserted)) :
    ∃ outbox, next = { store with outbox := outbox } ∧ Numbers store.outbox outbox ∧
      ∀ id, outbox.table.find? (.taskResult, id) = store.outbox.table.find? (.taskResult, id) := by
  cases enqueueIssue_step done with
  | taken row found => exact ⟨store.outbox, rfl, numbers_refl _, fun _ => rfl⟩
  | added body outbox encoded absent sequence rows =>
    refine ⟨outbox, rfl, numbers_of_push sequence rows rfl, fun id => ?_⟩
    simp [Table.find?, rows, newOutboxRow]

section Acknowledgement

def ackedRow (tasks : TaskTable) (id : Int) (row : OutboxRow) : Option OutboxRow :=
  if row.id ≠ id then some row
  else if row.kind = .taskResult ∧ (tasks.find? row.dedupeKey).isSome then none
  else some { row with delivered := true }

def resultAt (outbox : Outbox) (task : String) (id : Int) : Bool :=
  (outbox.table.find? (.taskResult, task)).any (fun row => decide (row.id = id))

theorem resultAt_of_mem {outbox : Outbox} {row : OutboxRow} (member : row ∈ outbox.table.rows) (task : String) :
    resultAt outbox task row.id = true ↔ row.kind = .taskResult ∧ row.dedupeKey = task := by
  constructor
  · intro holds
    cases found : outbox.table.find? (.taskResult, task) with
    | none => simp [resultAt, found] at holds
    | some other =>
      have same : other.id = row.id := by simpa [resultAt, found] using holds
      rw [← Queue.eq_of_number (Table.mem_of_find? found) member same]
      exact key_of_found found
  · rintro ⟨kind, rfl⟩
    have found : outbox.table.find? (.taskResult, row.dedupeKey) = some row :=
      kind ▸ Table.find?_of_mem member
    simp [resultAt, found]

theorem resultAt_of_absent {outbox : Outbox} {id : Int}
    (absent : ∀ row ∈ outbox.table.rows, row.id ≠ id) (task : String) : resultAt outbox task id = false := by
  unfold resultAt
  cases found : outbox.table.find? (.taskResult, task) with
  | none => rfl
  | some row => exact decide_eq_false (absent row (Table.mem_of_find? found))

theorem mark_ok {outbox next : Outbox} {id : Int}
    (done : outbox.update (fun row => decide (row.id = id)) (fun row => { row with delivered := true })
      (fun _ => rfl) (fun _ => rfl) = some next) :
    Numbers outbox next ∧
      (∀ key, next.table.find? key = (outbox.table.find? key).map
        (fun row => if row.id = id then { row with delivered := true } else row)) ∧
      next.at? id = (outbox.at? id).map (fun row => { row with delivered := true }) := by
  obtain ⟨updated, sequence⟩ := Queue.update_eq_some done
  have members := fun row => @Table.mem_update _ _ _ _ _ _ _ _ _ updated row
  refine ⟨⟨Int.le_of_eq sequence.symm, ?_⟩, ?_, ?_⟩
  · intro changed member
    obtain ⟨old, inside, rfl⟩ := (members changed).mp member
    exact Or.inl ⟨old, inside, by split <;> rfl⟩
  · intro key
    rw [Table.find?_update updated]
    simp only [decide_eq_true_eq]
  · cases at? : outbox.at? id with
    | none =>
      refine Queue.at?_eq_none.mpr ?_
      intro changed member
      obtain ⟨old, inside, rfl⟩ := (members changed).mp member
      have apart := Queue.at?_eq_none.mp at? old inside
      rwa [if_neg (by simpa using apart)]
    | some row =>
      obtain ⟨inside, same⟩ := Queue.at?_eq_some.mp at?
      refine Queue.at?_eq_some.mpr ⟨(members _).mpr ⟨row, inside, ?_⟩, same⟩
      rw [if_pos (by simpa using same)]

def AckedTasks (store : Store) (id : Int) (tasks : TaskTable) : Prop :=
  ∀ other, tasks.find? other = (store.tasks.find? other).map (fun t =>
    if resultAt store.outbox other id then { t with resultDelivered := true } else t)

theorem ackedTasks_of_unmarked {id : Int} (unmarked : ∀ other, resultAt store.outbox other id = false) :
    AckedTasks store id store.tasks := by
  intro other
  simp [unmarked other]

theorem ackedTasks_of_update {row : OutboxRow} {tasks : TaskTable}
    (member : row ∈ store.outbox.table.rows) (kind : row.kind = .taskResult)
    (done : store.tasks.updateKey row.dedupeKey (fun t => { t with resultDelivered := true })
      (fun _ => rfl) = some tasks) : AckedTasks store row.id tasks := by
  intro other
  rw [Table.find?_updateKey done]
  have marked := resultAt_of_mem member other
  by_cases here : other = row.dedupeKey
  · subst here
    rw [if_pos rfl]
    simp only [marked.mpr ⟨kind, rfl⟩, if_true]
  · have unmarked : resultAt store.outbox other row.id ≠ true :=
      fun holds => here (marked.mp holds).2.symm
    rw [if_neg here]
    simp [unmarked]

theorem ackRow_ok {id : Int} (done : ackRow store id = .ok next) :
    ∃ tasks outbox, next = { store with tasks := tasks, outbox := outbox } ∧
      Numbers store.outbox outbox ∧ AckedTasks store id tasks ∧
      ∀ key, outbox.table.find? key = (store.outbox.table.find? key).bind (ackedRow store.tasks id) := by
  obtain ⟨_, _, positive⟩ := bind_eq_ok.mp done
  obtain ⟨marked, updated, continued⟩ := bind_eq_ok.mp positive
  obtain ⟨tasks, journalled, same⟩ := bind_eq_ok.mp continued
  cases same
  obtain ⟨numbers, found, numbered⟩ := mark_ok (orError_eq_ok.mp updated)
  have acked : AckedTasks store id tasks := by
    unfold markDelivered at journalled
    rw [numbered] at journalled
    cases at? : store.outbox.at? id with
    | none =>
      rw [at?] at journalled
      cases journalled
      exact ackedTasks_of_unmarked (resultAt_of_absent (Queue.at?_eq_none.mp at?))
    | some row =>
      rw [at?] at journalled
      obtain ⟨member, rfl⟩ := Queue.at?_eq_some.mp at?
      dsimp only [Option.map_some] at journalled
      split at journalled
      · rename_i kind
        exact ackedTasks_of_update member kind (orError_eq_ok.mp journalled)
      · rename_i kind
        cases journalled
        refine ackedTasks_of_unmarked (fun other => ?_)
        exact Bool.not_eq_true _ ▸ fun holds => kind ((resultAt_of_mem member other).mp holds).1
  have deleted : ∀ row, row ∈ (marked.deleteWhere (fun row => decide (row.id = id) &&
      decide (row.kind = .taskResult) && (tasks.find? row.dedupeKey).isSome)).table.rows →
      row ∈ marked.table.rows := fun row member => (Table.mem_deleteWhere.mp member).1
  refine ⟨tasks, _, rfl, ⟨numbers.sequence, fun row member => numbers.fresh row (deleted row member)⟩, acked, ?_⟩
  intro key
  show (marked.table.deleteWhere _).find? key = _
  rw [Table.find?_deleteWhere, found]
  cases present : store.outbox.table.find? key with
  | none => rfl
  | some row =>
    have journal := acked row.dedupeKey
    by_cases here : row.id = id
    · cases kind : row.kind with
      | issue => simp [ackedRow, here, kind]
      | taskResult =>
        cases listed : store.tasks.find? row.dedupeKey with
        | none => simp [ackedRow, here, kind, journal, listed]
        | some task => simp [ackedRow, here, kind, journal, listed]
    · simp [ackedRow, here]

end Acknowledgement

end Journal

end PasswallNode.Sqlite
