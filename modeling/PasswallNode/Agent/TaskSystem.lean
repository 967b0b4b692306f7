import PasswallNode.Agent.Tasks

/-! The task system: workers that may stop after any step, and other callers, on one database. -/

namespace PasswallNode.Agent

open Foundation Protocol State Sqlite

structure TaskSystem where
  store : Store
  workers : Nat → TaskWorker
  trace : List TaskEvent

def TaskWorker.off : TaskWorker := ⟨fun _ => none, false, .down⟩

def TaskSystem.boot (store : Store) : TaskSystem := ⟨store, fun _ => .off, []⟩

inductive TaskAction where
  /-- A call of the database by someone who is not a worker. -/
  | call (made : TaskCall)
  | start (worker : Nat) (registry : TaskRegistry)
  | stop (worker : Nat)
  | work (worker : Nat) (input : WorkerInput)

def callEvents (pkg : Package) (store : Store) : TaskCall → List TaskEvent
  | .claimNextTaskFenced atMS clock entropy =>
    claimEvents none clock (claimNextTaskFenced pkg store atMS clock entropy)
  | _ => []

def TaskSystem.setWorker (system : TaskSystem) (id : Nat) (worker : TaskWorker) : TaskSystem :=
  { system with workers := fun n => if n = id then worker else system.workers n }

def TaskSystem.after (system : TaskSystem) (id : Nat) (cancelled : Bool) (done : WorkerStep) : TaskSystem where
  store := done.store
  workers := fun n =>
    if n = id then ⟨(system.workers id).registry, cancelled, done.phase⟩ else system.workers n
  trace := system.trace ++ done.events

def TaskSystem.work (pkg : Package) (system : TaskSystem) (id : Nat) (input : WorkerInput) : TaskSystem :=
  let worker := system.workers id
  system.after id (worker.cancelled || input.cancelled) (workerStep pkg id system.store worker input)

def taskStep (pkg : Package) (system : TaskSystem) : TaskAction → TaskSystem
  | .call made =>
    { system with
      store := performTask pkg system.store made
      trace := system.trace ++ callEvents pkg system.store made }
  | .start id registry => system.setWorker id ⟨registry, false, .starting⟩
  | .stop id => system.setWorker id .off
  | .work id input => system.work pkg id input

/-- Callers other than workers never surrender the claim of a worker. -/
def SurrendersOwn (system : TaskSystem) : TaskAction → Prop
  | .call (.releaseTaskClaim task) =>
    ∀ worker claim, .claimed (some worker) claim ∈ system.trace → claim.claimToken ≠ task.claimToken
  | _ => True

def executes (id : String) : TaskEvent → Bool
  | .executed _ task => decide (task.id = id)
  | _ => false

def executions (trace : List TaskEvent) (id : String) : Nat := trace.countP (executes id)

def TaskSystem.holds (system : TaskSystem) (worker : Nat) (task : TaskExecution) : Prop :=
  (system.workers worker).phase.holds = some task

end PasswallNode.Agent
