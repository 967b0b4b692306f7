import PasswallNode.Protocol

/-! Rebinding an installed node: the service is stopped, the previous identity and state are moved
aside and a new connection is written; whatever fails is undone. Every step may fail. -/

namespace PasswallNode.Manage

open Protocol

inductive Step where
  | systemctlPath
  | getServiceState
  | stop
  | ensureBackups
  | makeBackup
  | readEnvironment
  | readCredential
  | backupEnvironment
  | backupCredential
  | moveData
  | makeData
  | chownData
  | validate
  | writeCredential
  | writeEnvironment
  | chownCredential
  | chownEnvironment
  | start
  | removeData
  | restoreData
  | restoreEnvironment
  | restoreCredential
  | rechownEnvironment
  | rechownCredential
  | restart
  deriving DecidableEq, Repr

inductive Service where
  | stopped
  | previous
  | started (cause : Step)
  deriving DecidableEq, Repr

/-- A data directory is a value of `Tree`. -/
structure Host (Tree : Type) where
  environment : Option Bytes
  credential : Option Bytes
  data : Option Tree
  activeState : String
  running : Bool

/-- The host during the call, the commands issued, and from `oldEnvironment` on the variables of the
call. -/
structure Machine (Tree : Type) where
  environment : Option Bytes
  credential : Option Bytes
  data : Option Tree
  backupEnvironment : Option Bytes
  backupCredential : Option Bytes
  backupData : Option Tree
  activeState : String
  service : Service
  issued : List Step
  oldEnvironment : Option Bytes
  oldCredential : Option Bytes
  wasRunning : Bool
  dataMoved : Bool
  connectionMayHaveChanged : Bool

def Host.entered {Tree : Type} (host : Host Tree) : Machine Tree where
  environment := host.environment
  credential := host.credential
  data := host.data
  backupEnvironment := none
  backupCredential := none
  backupData := none
  activeState := host.activeState
  service := if host.running then .previous else .stopped
  issued := []
  oldEnvironment := none
  oldCredential := none
  wasRunning := false
  dataMoved := false
  connectionMayHaveChanged := false

/-- A step that fails has no effect, except that a service command may have taken effect, a written backup may
be torn, and a removal may leave anything. -/
structure Outcome (Tree : Type) where
  ok : Bool
  took : Bool
  torn : Option Bytes
  remains : Option Tree

/-- A connection, with what `nodeconfig.EnvironmentFile` and `nodeconfig.Validate` make of it. -/
structure Connection where
  credential : Bytes
  environmentFile : Bytes
  valid : Bool

section Rebind

variable {Tree : Type} (empty : Tree) (outcome : Step → Outcome Tree) (connection : Connection)

def succeeds (m : Machine Tree) (step : Step) : Bool :=
  match step with
  | .validate => connection.valid
  | .readEnvironment => (outcome step).ok && m.environment.isSome
  | .readCredential => (outcome step).ok && m.credential.isSome
  | .moveData => (outcome step).ok && m.data.isSome
  | .restoreData => (outcome step).ok && m.backupData.isSome
  | _ => (outcome step).ok

def startedBy (step : Step) : Service → Service
  | .stopped => .started step
  | running => running

def performed (m : Machine Tree) : Step → Machine Tree
  | .getServiceState => { m with wasRunning := decide (m.activeState = "active") }
  | .stop => { m with service := .stopped }
  | .makeBackup => { m with backupEnvironment := none, backupCredential := none, backupData := none }
  | .readEnvironment => { m with oldEnvironment := m.environment }
  | .readCredential => { m with oldCredential := m.credential }
  | .backupEnvironment => { m with backupEnvironment := m.oldEnvironment }
  | .backupCredential => { m with backupCredential := m.oldCredential }
  | .moveData => { m with data := none, backupData := m.data, dataMoved := true }
  | .makeData => { m with data := some empty }
  | .chownData => { m with connectionMayHaveChanged := true }
  | .writeCredential => { m with credential := some (connection.credential ++ [10]) }
  | .writeEnvironment => { m with environment := some connection.environmentFile }
  | .start => { m with service := startedBy .start m.service }
  | .removeData => { m with data := none }
  | .restoreData => { m with data := m.backupData, backupData := none }
  | .restoreEnvironment => { m with environment := m.oldEnvironment }
  | .restoreCredential => { m with credential := m.oldCredential }
  | .restart => { m with service := startedBy .restart m.service }
  | _ => m

def failed (m : Machine Tree) (step : Step) : Machine Tree :=
  match step with
  | .stop | .start | .restart => if (outcome step).took then performed empty connection m step else m
  | .backupEnvironment => { m with backupEnvironment := (outcome step).torn }
  | .backupCredential => { m with backupCredential := (outcome step).torn }
  | .removeData => { m with data := (outcome step).remains }
  | _ => m

def Machine.note (m : Machine Tree) (step : Step) : Machine Tree :=
  { m with issued := m.issued ++ [step] }

def attempt : Machine Tree → List Step → Machine Tree × Option Step
  | m, [] => (m, none)
  | m, step :: rest =>
    if succeeds outcome connection m step then attempt ((performed empty connection m step).note step) rest
    else ((failed empty outcome connection m step).note step, some step)

def insist : Machine Tree → List Step → Machine Tree × List Step
  | m, [] => (m, [])
  | m, step :: rest =>
    if succeeds outcome connection m step then insist ((performed empty connection m step).note step) rest
    else
      let later := insist ((failed empty outcome connection m step).note step) rest
      (later.1, step :: later.2)

def undoing (m : Machine Tree) : List Step :=
  (if m.dataMoved then [.removeData, .restoreData] else []) ++
    (if m.connectionMayHaveChanged then
      [.restoreEnvironment, .restoreCredential, .rechownEnvironment, .rechownCredential] else []) ++
    if m.wasRunning then [.restart] else []

/-- The step that failed, and those of the rollback that did: "automatic rollback was incomplete" is
said if there are any. -/
structure Failure where
  step : Step
  incomplete : List Step
  deriving DecidableEq, Repr

def opening : List Step := [.systemctlPath, .getServiceState, .stop]

def preparing : List Step :=
  [.ensureBackups, .makeBackup, .readEnvironment, .readCredential, .backupEnvironment, .backupCredential, .moveData,
    .makeData, .chownData, .validate, .writeCredential, .writeEnvironment, .chownCredential, .chownEnvironment]

def applyRebind (host : Host Tree) : Machine Tree × Except Failure Unit :=
  match attempt empty outcome connection host.entered opening with
  | (m, some step) => (m, .error ⟨step, []⟩)
  | (m, none) =>
    match attempt empty outcome connection m (preparing ++ [.start]) with
    | (m, none) => (m, .ok ())
    | (m, some step) =>
      let undone := insist empty outcome connection m (undoing m)
      (undone.1, .error ⟨step, undone.2⟩)

end Rebind

def Step.starts : Step → Bool
  | .start | .restart => true
  | _ => false

def Step.restores : Step → Bool
  | .removeData | .restoreData | .restoreEnvironment | .restoreCredential => true
  | _ => false

def startedSince (issued : List Step) : Bool :=
  issued.foldl (fun started step => step.starts || started && !step.restores) false

section Undo

variable {Tree : Type} {empty : Tree} {outcome : Step → Outcome Tree} {connection : Connection} {m s : Machine Tree}
  {step : Step} {rest : List Step} {good bad : Machine Tree → Prop} {host : Host Tree}

def Ends (empty : Tree) (outcome : Step → Outcome Tree) (connection : Connection) (m : Machine Tree)
    (steps : List Step) (good bad : Machine Tree → Prop) : Prop :=
  (∃ s, attempt empty outcome connection m steps = (s, none) ∧ good s) ∨
    ∃ s step, attempt empty outcome connection m steps = (s, some step) ∧ step ∈ steps ∧ bad s

theorem ends_nil (holds : good m) : Ends empty outcome connection m [] good bad :=
  .inl ⟨m, rfl, holds⟩

theorem ends_cons
    (refused : succeeds outcome connection m step = false → bad ((failed empty outcome connection m step).note step))
    (goes : succeeds outcome connection m step = true →
    Ends empty outcome connection ((performed empty connection m step).note step) rest good bad) :
    Ends empty outcome connection m (step :: rest) good bad := by
  cases works : succeeds outcome connection m step with
  | false => exact .inr ⟨_, step, by simp [attempt, works], by simp, refused works⟩
  | true =>
    have same : attempt empty outcome connection m (step :: rest) =
        attempt empty outcome connection ((performed empty connection m step).note step) rest := by
      simp [attempt, works]
    rcases goes works with ⟨s, eq, holds⟩ | ⟨s, culprit, eq, mem, holds⟩
    · exact .inl ⟨s, same.trans eq, holds⟩
    · exact .inr ⟨s, culprit, same.trans eq, List.mem_cons_of_mem _ mem, holds⟩

/-- The variables of the call tell what there is to undo. -/
structure Undoable (m s : Machine Tree) : Prop where
  data : s.dataMoved = false ∧ s.data = m.data ∨ s.dataMoved = true ∧ s.backupData = m.data
  files : s.connectionMayHaveChanged = false ∧ s.environment = m.environment ∧ s.credential = m.credential ∨
    s.connectionMayHaveChanged = true ∧ s.oldEnvironment = m.environment ∧ s.oldCredential = m.credential
  running : s.wasRunning = m.wasRunning

structure Unstarted (m s : Machine Tree) : Prop extends Undoable m s where
  service : s.service = m.service
  issued : startedSince s.issued = startedSince m.issued

structure Prepares (outcome : Step → Outcome Tree) (connection : Connection) (m : Machine Tree) : Prop where
  valid : connection.valid = true
  environment : m.environment.isSome = true
  credential : m.credential.isSome = true
  data : m.data.isSome = true
  steps : ∀ step ∈ preparing, step ≠ .validate → (outcome step).ok = true

def Machine.prepared (m : Machine Tree) (empty : Tree) (connection : Connection) : Machine Tree :=
  { m with
    environment := some connection.environmentFile, credential := some (connection.credential ++ [10]),
      data := some empty
    backupEnvironment := m.environment, backupCredential := m.credential, backupData := m.data
    oldEnvironment := m.environment, oldCredential := m.credential
    issued := m.issued ++ preparing, dataMoved := true, connectionMayHaveChanged := true }

theorem preparing_ends (moved : m.dataMoved = false) (unchanged : m.connectionMayHaveChanged = false)
    (fails : ∀ s, Unstarted m s → bad s) (goes : Prepares outcome connection m →
    Ends empty outcome connection (m.prepared empty connection) rest good bad) :
    Ends empty outcome connection m (preparing ++ rest) good bad := by
  refine ends_cons ?_ fun ensured => ends_cons ?_ fun made => ends_cons ?_ fun environment =>
    ends_cons ?_ fun credential => ends_cons ?_ fun savedEnvironment => ends_cons ?_ fun savedCredential =>
    ends_cons ?_ fun data => ends_cons ?_ fun renewed => ends_cons ?_ fun owned => ends_cons ?_ fun valid =>
    ends_cons ?_ fun wroteCredential => ends_cons ?_ fun wroteEnvironment => ends_cons ?_ fun ownedCredential =>
    ends_cons ?_ fun ownedEnvironment =>
      (congrArg (Ends empty outcome connection · rest good bad) ?_).mpr (goes ?_)
  case refine_15 => simp [performed, Machine.note, Machine.prepared, preparing]
  case refine_16 =>
      simp only [succeeds, performed, Machine.note, Bool.and_eq_true] at *
      exact ⟨valid, environment.2, credential.2, data.2, by simp [preparing, *]⟩
  all_goals
    intro refused
    refine fails _ ⟨⟨?_, ?_, ?_⟩, ?_, ?_⟩
    all_goals simp [performed, failed, Machine.note, startedSince, Step.starts, Step.restores, moved, unchanged]

theorem attempt_works (works : succeeds outcome connection m step = true) :
    attempt empty outcome connection m (step :: rest) =
    attempt empty outcome connection ((performed empty connection m step).note step) rest := by
  simp [attempt, works]

theorem attempt_preparing (prepares : Prepares outcome connection m) :
    attempt empty outcome connection m (preparing ++ rest) =
    attempt empty outcome connection (m.prepared empty connection) rest := by
  have ok (step : Step) (mem : step ∈ preparing) (ne : step ≠ .validate) := prepares.steps step mem ne
  simp only [preparing, List.mem_cons, List.not_mem_nil, or_false, forall_eq_or_imp, forall_eq] at ok
  simp only [preparing, List.cons_append, List.nil_append]
  iterate 14 rw [attempt_works (by
    simp [succeeds, performed, Machine.note, prepares.valid, prepares.environment, prepares.credential,
      prepares.data, ok])]
  simp [performed, Machine.note, Machine.prepared, preparing]

theorem ok_of_succeeds (works : succeeds outcome connection m step = true) (ne : step ≠ .validate) :
    (outcome step).ok = true := by
  cases step <;> simp_all [succeeds]

theorem insist_cons_complete : (insist empty outcome connection m (step :: rest)).2 = [] ↔
    succeeds outcome connection m step = true ∧
      (insist empty outcome connection ((performed empty connection m step).note step) rest).2 = [] := by
  cases works : succeeds outcome connection m step <;> simp [insist, works]

theorem ok_of_complete {steps : List Step} (complete : (insist empty outcome connection m steps).2 = [])
    (mem : step ∈ steps) (ne : step ≠ .validate) : (outcome step).ok = true := by
  induction steps generalizing m with
  | nil => cases mem
  | cons first rest ih =>
    obtain ⟨works, complete⟩ := insist_cons_complete.mp complete
    rcases List.mem_cons.mp mem with rfl | mem
    · exact ok_of_succeeds works ne
    · exact ih complete mem

def replay (empty : Tree) (connection : Connection) (m : Machine Tree) (steps : List Step) : Machine Tree :=
  steps.foldl (fun m step => (performed empty connection m step).note step) m

theorem insist_complete {steps : List Step} (complete : (insist empty outcome connection m steps).2 = []) :
    (insist empty outcome connection m steps).1 = replay empty connection m steps := by
  induction steps generalizing m with
  | nil => rfl
  | cons step rest ih =>
    obtain ⟨works, complete⟩ := insist_cons_complete.mp complete
    simpa [insist, works, replay] using ih complete

def Machine.undone (m : Machine Tree) : Machine Tree :=
  { m with
    data := if m.dataMoved then m.backupData else m.data
    backupData := if m.dataMoved then none else m.backupData
    environment := if m.connectionMayHaveChanged then m.oldEnvironment else m.environment
    credential := if m.connectionMayHaveChanged then m.oldCredential else m.credential
    service := if m.wasRunning then startedBy .restart m.service else m.service
    issued := m.issued ++ undoing m }

theorem replay_undoing (m : Machine Tree) : replay empty connection m (undoing m) = m.undone := by
  obtain ⟨_, _, _, _, _, _, _, _, _, _, _, running, moved, changed⟩ := m
  cases running <;> cases moved <;> cases changed <;>
    simp [replay, undoing, Machine.undone, performed, Machine.note]

theorem complete_of_ok (kept : m.dataMoved = true → m.backupData.isSome = true)
    (ok : ∀ step ∈ undoing m, (outcome step).ok = true) :
    (insist empty outcome connection m (undoing m)).2 = [] := by
  cases moved : m.dataMoved <;> cases changed : m.connectionMayHaveChanged <;> cases running : m.wasRunning
  all_goals simp_all [undoing, insist, succeeds, performed, Machine.note]

theorem startedSince_undoing (m : Machine Tree) (quiet : startedSince m.issued = false ∨ m.dataMoved = true) :
    startedSince (m.issued ++ undoing m) = m.wasRunning := by
  unfold startedSince at *
  cases moved : m.dataMoved <;> cases changed : m.connectionMayHaveChanged <;> cases running : m.wasRunning
  all_goals simp_all [undoing, Step.starts, Step.restores]

theorem Undoable.restored (undoable : Undoable m s) :
    s.undone.environment = m.environment ∧ s.undone.credential = m.credential ∧ s.undone.data = m.data := by
  rcases undoable.data with ⟨moved, data⟩ | ⟨moved, data⟩ <;>
    rcases undoable.files with ⟨changed, environment, credential⟩ | ⟨changed, environment, credential⟩ <;>
    simp [Machine.undone, *]

def Host.stopped (host : Host Tree) : Machine Tree :=
  { host.entered with
    wasRunning := decide (host.activeState = "active"), service := .stopped, issued := opening }

theorem opening_ends (empty : Tree) (outcome : Step → Outcome Tree) (connection : Connection) (host : Host Tree) :
    Ends empty outcome connection host.entered opening
    (fun s => s = host.stopped ∧ ∀ step ∈ opening, (outcome step).ok = true)
    (fun s => s.service ≠ .started .start) := by
  have entered : host.entered.service ≠ .started .start := by
    cases running : host.running <;> simp [Host.entered, running]
  refine ends_cons (fun _ => entered) fun path => ends_cons (fun _ => entered) fun state =>
    ends_cons (fun refused => ?_) fun stopped => ends_nil ⟨rfl, ?_⟩
  · cases took : (outcome .stop).took
    · simpa [failed, took, Machine.note, performed] using entered
    · simp [failed, took, Machine.note, performed]
  · simp only [succeeds] at *
    simp [opening, *]

structure AtStart (empty : Tree) (outcome : Step → Outcome Tree) (connection : Connection)
    (m s : Machine Tree) : Prop where
  prepares : Prepares outcome connection m
  refused : (outcome .start).ok = false
  state : s = (failed empty outcome connection (m.prepared empty connection) .start).note .start

theorem rebind_ends (empty : Tree) (outcome : Step → Outcome Tree) (connection : Connection) (host : Host Tree) :
    Ends empty outcome connection host.stopped (preparing ++ [.start])
    (fun s => s = (performed empty connection (host.stopped.prepared empty connection) .start).note .start ∧
      Prepares outcome connection host.stopped)
    (fun s => Unstarted host.stopped s ∨ AtStart empty outcome connection host.stopped s) := by
  apply preparing_ends rfl rfl (fun s unstarted => .inl unstarted)
  intro prepares
  apply ends_cons
  · intro refused
    exact .inr ⟨prepares, refused, rfl⟩
  · intro works
    exact ends_nil ⟨rfl, prepares⟩

theorem applyRebind_cases (empty : Tree) (outcome : Step → Outcome Tree) (connection : Connection)
    (host : Host Tree) :
    (∃ s step, applyRebind empty outcome connection host = (s, .error ⟨step, []⟩) ∧ step ∈ opening ∧
      s.service ≠ .started .start) ∨ (∀ step ∈ opening, (outcome step).ok = true) ∧
      (applyRebind empty outcome connection host =
          ((performed empty connection (host.stopped.prepared empty connection) .start).note .start, .ok ()) ∧
          Prepares outcome connection host.stopped ∨ ∃ s step, applyRebind empty outcome connection host =
            ((insist empty outcome connection s (undoing s)).1,
              .error ⟨step, (insist empty outcome connection s (undoing s)).2⟩) ∧
          (Unstarted host.stopped s ∨ AtStart empty outcome connection host.stopped s)) := by
  rcases opening_ends empty outcome connection host with
    ⟨_, opened, rfl, ok⟩ | ⟨s, step, opened, mem, unstarted⟩
  · refine .inr ⟨ok, ?_⟩
    rcases rebind_ends empty outcome connection host with
      ⟨_, eq, rfl, prepares⟩ | ⟨s, step, eq, -, stopped⟩
    · exact .inl ⟨by simp only [applyRebind, opened, eq], prepares⟩
    · exact .inr ⟨s, step, by simp only [applyRebind, opened, eq], stopped⟩
  · exact .inl ⟨s, step, by simp only [applyRebind, opened], mem, unstarted⟩

theorem AtStart.undoable (stopped : AtStart empty outcome connection m s) : Undoable m s := by
  cases took : (outcome .start).took <;> rw [stopped.state] <;>
    constructor <;> simp [failed, took, performed, Machine.note, Machine.prepared]

theorem AtStart.moved (stopped : AtStart empty outcome connection m s) : s.dataMoved = true := by
  cases took : (outcome .start).took <;> simp [stopped.state, failed, took, performed, Machine.note, Machine.prepared]

structure Restored (host : Host Tree) (s : Machine Tree) : Prop where
  environment : s.environment = host.environment
  credential : s.credential = host.credential
  data : s.data = host.data
  restarted : startedSince s.issued = true ↔ host.activeState = "active"

structure Replaced (host : Host Tree) (connection : Connection) (s : Machine Tree) : Prop where
  backupEnvironment : s.backupEnvironment = host.environment ∧ host.environment.isSome = true
  backupCredential : s.backupCredential = host.credential ∧ host.credential.isSome = true
  backupData : s.backupData = host.data ∧ host.data.isSome = true
  environment : s.environment = some connection.environmentFile
  credential : s.credential = some (connection.credential ++ [10])

/-- A rebind that fails once the service is stopped, and does not report an incomplete rollback, is
undone; one that succeeds has the previous node in the backup. -/
theorem failed_rebind_is_undone (empty : Tree) (outcome : Step → Outcome Tree) (connection : Connection)
    (host : Host Tree) :
    (∀ failure, (applyRebind empty outcome connection host).2 = .error failure → failure.step ∉ opening →
        failure.incomplete = [] → Restored host (applyRebind empty outcome connection host).1) ∧
      ((applyRebind empty outcome connection host).2 = .ok () →
        Replaced host connection (applyRebind empty outcome connection host).1) := by
  rcases applyRebind_cases empty outcome connection host with
    ⟨s, step, eq, mem, -⟩ | ⟨-, ⟨eq, prepares⟩ | ⟨s, step, eq, stopped⟩⟩
  · rw [eq]
    refine ⟨?_, nofun⟩
    rintro _ ⟨⟩ late -
    exact absurd mem late
  · rw [eq]
    exact ⟨nofun, fun _ => ⟨⟨rfl, prepares.environment⟩, ⟨rfl, prepares.credential⟩, ⟨rfl, prepares.data⟩, rfl, rfl⟩⟩
  · rw [eq]
    refine ⟨?_, nofun⟩
    rintro _ ⟨⟩ - complete
    have undoable : Undoable host.stopped s := stopped.elim (·.toUndoable) (·.undoable)
    have quiet : startedSince s.issued = false ∨ s.dataMoved = true := stopped.imp (·.issued) (·.moved)
    rw [insist_complete complete, replay_undoing]
    obtain ⟨environment, credential, data⟩ := undoable.restored
    refine ⟨environment, credential, data, ?_⟩
    rw [show s.undone.issued = s.issued ++ undoing s from rfl, startedSince_undoing s quiet, undoable.running]
    exact decide_eq_true_iff

def restoring : List Step :=
  [.removeData, .restoreData, .restoreEnvironment, .restoreCredential, .rechownEnvironment, .rechownCredential]

/-- The rebound start reports an error and yet leaves the service running, and the rollback succeeds. -/
structure LeftRunning (outcome : Step → Outcome Tree) (connection : Connection) (host : Host Tree) : Prop where
  opened : ∀ step ∈ opening, (outcome step).ok = true
  prepares : Prepares outcome connection host.stopped
  refused : (outcome .start).ok = false
  took : (outcome .start).took = true
  undone : ∀ step ∈ restoring, (outcome step).ok = true
  restarted : host.activeState = "active" → (outcome .restart).ok = true

def Host.rebound (host : Host Tree) (empty : Tree) (connection : Connection) : Machine Tree :=
  (performed empty connection (host.stopped.prepared empty connection) .start).note .start

theorem AtStart.rebound (stopped : AtStart empty outcome connection host.stopped s)
    (took : (outcome .start).took = true) : s = host.rebound empty connection := by
  rw [stopped.state]
  simp [failed, took, Host.rebound]

theorem mem_undoing_rebound {step : Step} : step ∈ undoing (host.rebound empty connection) ↔
    step ∈ restoring ∨ host.activeState = "active" ∧ step = .restart := by
  by_cases active : host.activeState = "active" <;>
    simp [undoing, Host.rebound, performed, Machine.note, Machine.prepared, Host.stopped, active, restoring, or_assoc]

theorem LeftRunning.runs (left : LeftRunning outcome connection host) : applyRebind empty outcome connection host =
    ((host.rebound empty connection).undone, .error ⟨.start, []⟩) := by
  have opened : attempt empty outcome connection host.entered opening = (host.stopped, none) := by
    have ok := left.opened
    simp only [opening, List.mem_cons, List.not_mem_nil, or_false, forall_eq_or_imp, forall_eq] at ok
    unfold opening
    iterate 3 rw [attempt_works (by simp [succeeds, ok])]
    rfl
  have stopped : attempt empty outcome connection host.stopped (preparing ++ [.start]) =
      (host.rebound empty connection, some .start) := by
    rw [attempt_preparing left.prepares]
    simp [attempt, succeeds, left.refused, failed, left.took, Host.rebound]
  have complete : (insist empty outcome connection (host.rebound empty connection)
      (undoing (host.rebound empty connection))).2 = [] := by
    apply complete_of_ok
    · exact fun _ => left.prepares.data
    · intro step mem
      rcases mem_undoing_rebound.mp mem with mem | ⟨active, rfl⟩
      · exact left.undone step mem
      · exact left.restarted active
  simp only [applyRebind, opened, stopped, insist_complete complete, complete, replay_undoing]

/-- A rebind that fails without reporting an incomplete rollback leaves the instance it started
itself running exactly if the start took effect though it reported an error. -/
theorem rebound_instance_stops_iff (empty : Tree) (outcome : Step → Outcome Tree) (connection : Connection)
    (host : Host Tree) :
    (∀ failure, (applyRebind empty outcome connection host).2 = .error failure → failure.incomplete = [] →
        (applyRebind empty outcome connection host).1.service ≠ .started .start) ↔
      ¬LeftRunning outcome connection host := by
  constructor
  · intro stops left
    rw [left.runs] at stops
    apply stops ⟨.start, []⟩ rfl rfl
    by_cases active : host.activeState = "active" <;>
      simp [Machine.undone, Host.rebound, performed, Machine.note, startedBy, Machine.prepared, Host.stopped]
  · intro allowed failure eq complete started
    apply allowed
    rcases applyRebind_cases empty outcome connection host with
      ⟨s, step, run, -, unstarted⟩ | ⟨opened, ⟨run, -⟩ | ⟨s, step, run, stopped⟩⟩ <;> rw [run] at eq started
    · exact absurd started unstarted
    · cases eq
    · cases eq
      rw [insist_complete complete, replay_undoing] at started
      have quiet (still : s.service = .stopped) : False := by
        cases running : s.wasRunning <;> simp [Machine.undone, still, running, startedBy] at started
      rcases stopped with unstarted | stopped
      · exact (quiet unstarted.service).elim
      · have took : (outcome .start).took = true := by
          by_contra idle
          exact quiet (by simp [stopped.state, failed, idle, Machine.note, Machine.prepared, Host.stopped])
        obtain rfl := stopped.rebound took
        refine ⟨opened, stopped.prepares, stopped.refused, took, ?_, ?_⟩
        · intro step mem
          exact ok_of_complete complete (mem_undoing_rebound.mpr (.inl mem)) (by rintro rfl; revert mem; decide)
        · intro active
          exact ok_of_complete complete (mem_undoing_rebound.mpr (.inr ⟨active, rfl⟩)) (by decide)

def lateStart (step : Step) : Outcome Nat :=
  { ok := step ≠ .start, took := true, torn := none, remains := none }

def boundNode : Host Nat :=
  { environment := some [1], credential := some [2], data := some 3, activeState := "active", running := true }

def newConnection : Connection := { credential := [4], environmentFile := [5], valid := true }

/-- The files are the previous ones again, and the instance that read the new ones is running. -/
theorem lateStart_keeps_running :
    (applyRebind 0 lateStart newConnection boundNode).2 = .error ⟨.start, []⟩ ∧
      (applyRebind 0 lateStart newConnection boundNode).1.environment = some [1] ∧
      (applyRebind 0 lateStart newConnection boundNode).1.service = .started .start := by
  decide

end Undo

end PasswallNode.Manage
