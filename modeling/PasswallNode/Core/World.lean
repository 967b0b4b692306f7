import PasswallNode.Core.Runtime
import PasswallNode.Sqlite.CoreDeployment
import PasswallNode.Sqlite.Transactions

/-! The runtime against a database and a machine, which answers arbitrarily. -/

namespace PasswallNode.Core

open Foundation Protocol State Sqlite

/-- The answers from outside the database, each by the number of answers given before it. -/
structure Machine where
  clock : Nat → Int
  status : Nat → Status
  install : Nat → InstallRequest → Except String Installation
  deploy : Nat → Deployment → Except String Unit

def Machine.willing (clock : Nat → Int) : Machine where
  clock := clock
  status := fun _ => ⟨.stopped, "", "", ""⟩
  install := fun _ request => .ok ⟨request.engine, request.version, "/core"⟩
  deploy := fun _ _ => .ok ()

structure CoreWorld where
  store : Store
  deployment : Option CoreDeployment
  asked : Nat
  handed : List Deployment

def CoreWorld.tick (world : CoreWorld) : CoreWorld := { world with asked := world.asked + 1 }

variable (libs : Libraries) (machine : Machine)

def serveCore (world : CoreWorld) : (call : RuntimeCall) → CoreWorld × call.Answer
  | .store call => ({ world with store := (serve libs world.store call).1 }, (serve libs world.store call).2)
  | .coreDeployment => (world, coreDeployment libs.lib libs.wire world.deployment)
  | .saveCoreDeployment deployment =>
    match saveCoreDeployment libs.lib libs.wire deployment with
    | .ok (row, _) => ({ world with deployment := row }, .ok ())
    | .error err => (world, .error err)
  | .now => (world.tick, machine.clock world.asked)
  | .status => (world.tick, machine.status world.asked)
  | .install request => (world.tick, machine.install world.asked request)
  | .deploy deployment =>
    ({ world.tick with handed := world.handed ++ [deployment] }, machine.deploy world.asked deployment)
  | .wakeExpirySchedule => (world, ())

variable (options : Options)

def desiredOf (store : Store) : Except Failure (ConfigBody × Option RosterBody) := do
  let config ← failWith (Failure.ofError "load desired config")
    (bodyOf options.wire.config .config (stream store .config))
  let roster ← failWith (Failure.ofError "load desired roster")
    (optionally (bodyOf options.wire.roster .roster (stream store .roster)))
  .ok (config, roster)

structure Plan where
  config : ConfigBody
  roster : Option RosterBody
  selection : CoreSelection
  compiler : Compiler
  artifact : Artifact
  deriving DecidableEq, Repr

def planOf (store : Store) (nowMS : Int) : Except Failure Plan := do
  let (config, roster) ← desiredOf options store
  let (selection, compiler) ← chooseCompiler options config
  let artifact ← compileSnapshot options compiler (snapshotOf config roster (clients store) nowMS)
  .ok ⟨config, roster, selection, compiler, artifact⟩

section Load

variable {libs machine options} {world after : CoreWorld} {α : Type} {plan : Plan}

theorem exec_ask {call : RuntimeCall} {rest : call.Answer → Convergence α} :
    exec (serveCore libs machine) world (ask call >>= rest) =
    exec (serveCore libs machine) (serveCore libs machine world call).1
      (rest (serveCore libs machine world call).2) := rfl

theorem exec_bind_lifted {β : Type} {result : Except Failure α} {rest : α → Convergence β}
    {pure : α → Except Failure β} (alike : ∀ a, exec (serveCore libs machine) world (rest a) = (world, pure a)) :
    exec (serveCore libs machine) world ((Proc.done result : Convergence α) >>= rest) =
    (world, result >>= pure) := by
  cases result with
  | error failure => rfl
  | ok a => exact alike a

theorem serve_stream (name : Stream) :
    serveCore libs machine world (.store (.stream name)) = (world, stream world.store name) := by
  simp only [serveCore, serve, transaction, query]
  cases stream world.store name <;> rfl

theorem exec_loadDesired :
    exec (serveCore libs machine) world (loadDesired options) = (world, desiredOf options world.store) := by
  have loads : ∀ {T : Type} (codec : Codec T) (name : Stream),
      exec (serveCore libs machine) world (loadBody codec name) =
        (world, .ok (bodyOf codec name (stream world.store name))) := by
    intro T codec name
    rw [loadBody, exec_ask, serve_stream]
    rfl
  have loadsRoster : exec (serveCore libs machine) world (optionalBody options.wire.roster .roster) =
      (world, .ok (optionally (bodyOf options.wire.roster .roster (stream world.store .roster)))) := by
    rw [optionalBody, exec_bind_ok (loads _ _)]
    rfl
  rw [loadDesired, exec_bind_ok (loads _ _), desiredOf]
  apply exec_bind_lifted
  intro config
  rw [exec_bind_ok loadsRoster]
  apply exec_bind_lifted
  intro roster
  rfl

theorem exec_takeSnapshot (config : ConfigBody) (roster : Option RosterBody) :
    exec (serveCore libs machine) world (takeSnapshot config roster) =
    (world.tick, .ok (snapshotOf config roster (clients world.store) (machine.clock world.asked))) := by
  cases roster <;> rfl

theorem exec_converge_planned {plan : Plan}
    (planned : planOf options world.store (machine.clock world.asked) = .ok plan) :
    exec (serveCore libs machine) world (converge options) = exec (serveCore libs machine) world.tick
      (deployArtifact options plan.selection plan.artifact plan.config plan.roster) := by
  simp only [planOf, bind_eq_ok] at planned
  obtain ⟨⟨config, roster⟩, desired, ⟨selection, compiler⟩, chosen, artifact, compiled, same⟩ := planned
  cases same
  rw [converge, exec_bind_ok (by rw [exec_loadDesired, desired])]
  simp only [chosen]
  rw [exec_bind_ok rfl, exec_bind_ok (exec_takeSnapshot _ _)]
  simp only [compiled]
  rw [exec_bind_ok rfl]

def readings (options : Options) (store : Store) : Nat :=
  match desiredOf options store >>= fun desired => chooseCompiler options desired.1 with
  | .ok _ => 1
  | .error _ => 0

theorem exec_converge_unplanned {failure : Failure}
    (failed : planOf options world.store (machine.clock world.asked) = .error failure) :
    exec (serveCore libs machine) world (converge options) =
    ({ world with asked := world.asked + readings options world.store }, .error failure) := by
  simp only [planOf, bind_eq_error] at failed
  rw [converge]
  obtain undesired | ⟨⟨config, roster⟩, desired, unchosen | ⟨⟨selection, compiler⟩, chosen, rejected | failed⟩⟩ :=
    failed
  · have unread : readings options world.store = 0 := by
      rw [readings, undesired]
      rfl
    rw [exec_bind_error (by rw [exec_loadDesired, undesired]), unread]
    rfl
  · have unread : readings options world.store = 0 := by
      rw [readings, desired]
      change (match chooseCompiler options config with | .ok _ => 1 | .error _ => 0) = 0
      rw [unchosen]
    rw [exec_bind_ok (by rw [exec_loadDesired, desired]), unread]
    simp only [unchosen]
    rfl
  · have read : readings options world.store = 1 := by
      rw [readings, desired]
      change (match chooseCompiler options config with | .ok _ => 1 | .error _ => 0) = 1
      rw [chosen]
    rw [exec_bind_ok (by rw [exec_loadDesired, desired]), read]
    simp only [chosen]
    rw [exec_bind_ok rfl, exec_bind_ok (exec_takeSnapshot _ _)]
    simp only [rejected]
    rfl
  · obtain ⟨artifact, -, impossible⟩ := failed
    cases impossible

/-- The database still holds the documents, and the row names the plan's core and artifact, its roster as it is
encoded again and the second clock reading. -/
structure Recorded (libs : Libraries) (options : Options) (plan : Plan) (appliedAtMS : Int)
    (world after : CoreWorld) (deployment : CoreDeployment) : Prop where
  store : after.store = world.store
  row : coreDeployment libs.lib libs.wire after.deployment = .ok deployment
  core : deployment.engine = plan.selection.engine ∧ deployment.version = plan.selection.version
  artifact : deployment.artifact = plan.artifact.config ∧ deployment.configDigest = plan.artifact.digest
  roster : options.wire.roster.marshal (plan.roster.getD ⟨⟨0, 0⟩, [], ⟨0, 0, 0⟩⟩) = .ok deployment.rosterBody
  time : deployment.appliedAtMS = appliedAtMS

def Plan.deployment (plan : Plan) (path : String) : Deployment :=
  ⟨plan.artifact, plan.selection.engine, path, plan.selection.version⟩

/-- The supervisor reports that the plan's artifact runs already, or it is handed the artifact and takes it. -/
def Runs (machine : Machine) (plan : Plan) (world after : CoreWorld) : Prop :=
  (machine.status world.asked =
      ⟨.running, plan.selection.engine, plan.selection.version, plan.artifact.digest⟩ ∧
    after.handed = world.handed) ∨
  ∃ path, path ≠ "" ∧ machine.deploy (world.asked + 2) (plan.deployment path) = .ok () ∧
    after.handed = world.handed ++ [plan.deployment path]

theorem saveDeployment_ok
    (done : exec (serveCore libs machine) world
      (saveDeployment options plan.selection plan.artifact plan.config plan.roster) = (after, .ok ())) :
    ∃ deployment, Recorded libs options plan (machine.clock world.asked) world after deployment ∧
    after.handed = world.handed := by
  obtain ⟨configBody, -, done⟩ := exec_done_bind_eq_ok.mp done
  obtain ⟨rosterBody, encodes, done⟩ := exec_done_bind_eq_ok.mp done
  rw [exec_ask] at done
  obtain ⟨-, -, done⟩ := exec_done_bind_eq_ok.mp done
  rw [exec_ask] at done
  obtain ⟨_, recorded, done⟩ := exec_done_bind_eq_ok.mp done
  cases saved : saveCoreDeployment libs.lib libs.wire ⟨plan.selection.engine, plan.selection.version,
      plan.artifact.digest, plan.artifact.config, configBody, rosterBody, machine.clock world.asked⟩ with
  | error err => simp [serveCore, saved] at recorded
  | ok pair =>
    obtain ⟨stored, valid⟩ := saveCoreDeployment_ok libs.lib libs.wire saved
    have ends : after = { world.tick with deployment := pair.1 } := by
      simp only [serveCore, saved] at done
      exact (congrArg Prod.fst done).symm
    subst ends
    exact ⟨_, ⟨rfl, valid, ⟨rfl, rfl⟩, ⟨rfl, rfl⟩, failWith_eq_ok.mp encodes, rfl⟩, rfl⟩

theorem installAndDeploy_ok
    (done : exec (serveCore libs machine) world (installAndDeploy plan.selection plan.artifact) = (after, .ok ())) :
    after.store = world.store ∧ after.asked = world.asked + 2 ∧ ∃ path, path ≠ "" ∧
      machine.deploy (world.asked + 1) (plan.deployment path) = .ok () ∧
      after.handed = world.handed ++ [plan.deployment path] := by
  unfold installAndDeploy at done
  rw [exec_ask] at done
  obtain ⟨installed, -, done⟩ := exec_done_bind_eq_ok.mp done
  obtain ⟨_, same, done⟩ := exec_done_bind_eq_ok.mp done
  obtain ⟨engine, version, path⟩ : installed.engine = plan.selection.engine ∧
      installed.version = plan.selection.version ∧ installed.binaryPath ≠ "" := by
    simpa only [not_or, not_not] using rejectIf_eq_ok.mp same
  rw [exec_ask] at done
  have deployed := failWith_eq_ok.mp (congrArg Prod.snd done)
  cases congrArg Prod.fst done
  rw [engine, version] at deployed
  refine ⟨rfl, rfl, installed.binaryPath, path, deployed, ?_⟩
  simp only [serveCore, CoreWorld.tick, Plan.deployment, engine, version]

theorem deployArtifact_ok
    (done : exec (serveCore libs machine) world
      (deployArtifact options plan.selection plan.artifact plan.config plan.roster) = (after, .ok ())) :
    ∃ deployment, Recorded libs options plan (machine.clock (world.asked +
      if alreadyRunning (machine.status world.asked) plan.selection plan.artifact then 1 else 3))
      world after deployment ∧ Runs machine plan world after := by
  rw [deployArtifact, exec_ask] at done
  change exec _ world.tick (if alreadyRunning (machine.status world.asked) plan.selection plan.artifact then _ else _) =
    _ at done
  by_cases running : alreadyRunning (machine.status world.asked) plan.selection plan.artifact = true
  · rw [if_pos running] at done ⊢
    obtain ⟨deployment, recorded, handed⟩ := saveDeployment_ok done
    exact ⟨deployment, { recorded with }, .inl ⟨of_decide_eq_true running, handed⟩⟩
  · rw [if_neg running] at done ⊢
    obtain ⟨middle, _, installs, saves⟩ := exec_bind_eq_ok.mp done
    obtain ⟨kept, asked, path, named, deployed, handed⟩ := installAndDeploy_ok installs
    obtain ⟨deployment, recorded, still⟩ := saveDeployment_ok saves
    rw [asked] at recorded
    exact ⟨deployment, { recorded with store := recorded.store.trans kept },
      .inr ⟨path, named, deployed, still.trans handed⟩⟩

/-- When `saveDeployment` reads the clock: after the calls of the snapshot and those of the deployment. -/
def recordedAt (machine : Machine) (world : CoreWorld) (plan : Plan) : Int :=
  machine.clock (world.asked + 1 +
    if alreadyRunning (machine.status (world.asked + 1)) plan.selection plan.artifact then 1 else 3)

theorem converge_ok (done : exec (serveCore libs machine) world (converge options) = (after, .ok ())) :
    ∃ plan deployment, planOf options world.store (machine.clock world.asked) = .ok plan ∧
    Recorded libs options plan (recordedAt machine world plan) world after deployment := by
  cases planned : planOf options world.store (machine.clock world.asked) with
  | error failure =>
    rw [exec_converge_unplanned planned] at done
    cases congrArg Prod.snd done
  | ok plan =>
    rw [exec_converge_planned planned] at done
    obtain ⟨deployment, recorded, -⟩ := deployArtifact_ok done
    exact ⟨plan, deployment, rfl, { recorded with }⟩

end Load

end PasswallNode.Core
