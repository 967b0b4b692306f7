import PasswallNode.Core.Runtime
import PasswallNode.Foundation.Runs

/-! The supervisor of the core: one loop owns the child, and a deployment is a switch with a way back. -/

namespace PasswallNode.Core

open Foundation Protocol

/-- What becomes of `start`: no command, a child that did not start or last, one given up, or one that
outlived its grace period. -/
inductive Started where
  | unresolved (reason : String)
  | failed (reason : String)
  | cancelled (reason : String)
  | survived

/-- A replacement of a file may fail after it took effect. -/
inductive Written where
  | done
  | failed (reason : String) (took : Bool)

def Written.put {α : Type} (after before : α) : Written → α
  | .failed _ false => before
  | _ => after

def Written.error : Written → Option String
  | .done => none
  | .failed reason _ => some reason

structure Switch where
  preserve : Option String
  replace : Written
  stop : Option String
  start : Started
  restore : Written
  restart : Started

/-- A deployment, how its binary and its candidate file were found, and what its switch meets. -/
structure Request where
  deployment : Deployment
  binary : Except String Unit
  candidate : Except String Unit
  switch : Switch

structure Loop where
  current : Deployment
  child : Bool
  retryDelay : Nat
  status : Status
  binaryPath : String
  handle : Bool
  file : Option Bytes
  ended : Bool

def validateDeployment (sha256 : Bytes → String) (binary : Except String Unit) (d : Deployment) :
    Except String Unit := do
  rejectIf (d.artifact.config = []) "core config is empty"
  rejectIf (d.artifact.digest ≠ sha256 d.artifact.config)
    s!"core config digest mismatch: got {d.artifact.digest.quote}, want {(sha256 d.artifact.config).quote}"
  rejectIf (d.binaryPath.startsWith "/" = false) "deployment core binary path must be absolute"
  rejectIf (trimSpace d.engine = "" ∨ trimSpace d.engine ≠ d.engine)
    "deployment core engine is required and must be canonical"
  binary
  rejectIf (trimSpace d.version = "") "deployment core version is required"

def nextBackoff (current maximum : Nat) : Nat := if current ≥ maximum / 2 then maximum else current * 2

namespace Loop

def set (l : Loop) (state : ProcessState) : Loop := { l with status := { l.status with state := state } }

def start (l : Loop) : Started → Loop × Option String
  | .unresolved reason => (l, some reason)
  | .failed reason => (l.set .starting, some reason)
  | .cancelled reason => ({ l.set .starting with handle := false }, some reason)
  | .survived => ({ l.set .starting with handle := true }, none)

def installCandidate (l : Loop) (config : Bytes) (s : Switch) : Loop × Option String :=
  match if l.current.artifact.config = [] then none else s.preserve with
  | some reason => (l, some ("preserve previous config: " ++ reason))
  | none => ({ l with file := s.replace.put (some config) l.file }, s.replace.error)

def restoreConfig (l : Loop) (config : Bytes) (written : Written) : Loop :=
  { l with file := written.put (if config = [] then none else some config) l.file }

def rollBack (l : Loop) (s : Switch) (err : String) : Loop × Except String Unit :=
  let old := l.current.artifact.config
  let l := (l.restoreConfig old s.restore).set .degraded
  match s.restore.error with
  | some failure =>
    ({ l with
        current := { l.current with artifact := ⟨[], ""⟩ }
        status := { l.status with configDigest := "" } }, .error (err ++ "\nrestore previous config: " ++ failure))
  | none =>
    if old = [] then (l, .error err)
    else
      match l.start s.restart with
      | (l, none) => ({ l.set .degraded with child := true }, .error err)
      | (l, some reason) => (l.set .degraded, .error (err ++ "\nstart rollback core config: " ++ reason))

/-- `handleApply` behind the stop of the old child. -/
def switchTo (l : Loop) (d : Deployment) (s : Switch) : Loop × Except String Unit :=
  match l.start s.start with
  | (l, none) =>
    ({ l with
        current := d, child := true, binaryPath := d.binaryPath
        status := ⟨.running, d.engine, d.version, d.artifact.digest⟩ }, .ok ())
  | (l, some reason) => l.rollBack s ("start candidate core config: " ++ reason)

def handleApply (l : Loop) (d : Deployment) (s : Switch) : Loop × Except String Unit :=
  let old := l.current
  if d.artifact.digest = old.artifact.digest ∧ d.engine = old.engine ∧ d.binaryPath = old.binaryPath ∧
      d.version = old.version ∧ l.child = true then (l, .ok ())
  else
    match l.installCandidate d.artifact.config s with
    | (l, some reason) => (l, .error ("install core config: " ++ reason))
    | (l, none) =>
      match if l.child then s.stop else none with
      | some reason =>
        let more := s.restore.error.map (fun failure => "\nrestore previous config: " ++ failure)
        ({ (l.restoreConfig old.artifact.config s.restore).set .degraded with handle := false },
          .error (reason ++ more.getD ""))
      | none => { l with child := false, handle := !l.child && l.handle }.switchTo d s

/-- `deployLocked`: a deployment that is refused here does not reach the loop. -/
def deploy (sha256 : Bytes → String) (l : Loop) (r : Request) : Loop × Except String Unit :=
  match validateDeployment sha256 r.binary r.deployment >>= fun _ => r.candidate with
  | .error err => (l, .error err)
  | .ok _ => l.handleApply r.deployment r.switch

end Loop

inductive Wait where
  | request (r : Request)
  | timer
  | cancelled

/-- The outcome of a start, whether the context has ended by then, the exit of the child if that is taken up,
and what is waited for. -/
structure Turn where
  start : Started
  cancelled : Bool
  exit : Option String
  wait : Wait

structure RetryOptions where
  retryMin : Nat
  retryMax : Nat
  ordered : retryMin ≤ retryMax

/-- The delays that `NewSupervisor` takes, in nanoseconds, with its defaults. -/
def RetryOptions.new (retryMin retryMax : Int) : Except String RetryOptions :=
  let low := if retryMin ≤ 0 then 500000000 else retryMin.toNat
  let high := if retryMax ≤ 0 then 30000000000 else retryMax.toNat
  if ordered : low ≤ high then .ok ⟨low, high, ordered⟩
  else .error "maximum retry delay is below minimum retry delay"

example : (RetryOptions.new 0 0).map RetryOptions.retryMax = .ok 30000000000 := rfl

namespace Loop

variable (sha256 : Bytes → String) (options : RetryOptions)

def ensureChild (l : Loop) (t : Turn) : Loop :=
  if l.child = false ∧ l.current.artifact.config ≠ [] then
    match l.start t.start with
    | (l, none) => { l.set .running with child := true, retryDelay := options.retryMin }
    | (l, some _) => l.set .degraded
  else l

def await (l : Loop) : Wait → Loop
  | .request r => (l.deploy sha256 r).1
  | .timer => { l with retryDelay := nextBackoff l.retryDelay options.retryMax }
  | .cancelled => l

/-- Without a configuration there is no timer, and beside a child there is none either. -/
def turn (l : Loop) (t : Turn) : Loop :=
  if l.ended then l
  else
    let l := l.ensureChild options t
    if t.cancelled then { l.set .stopped with child := false, handle := !l.child && l.handle, ended := true }
    else
      match l.child, t.exit, t.wait with
      | true, some _, wait =>
        let l := ({ l.set .degraded with child := false, handle := false }).await sha256 options wait
        { l with retryDelay := if l.child then options.retryMin else l.retryDelay }
      | _, _, .request r => (l.deploy sha256 r).1
      | false, _, wait => if l.current.artifact.config = [] then l else l.await sha256 options wait
      | true, none, _ => l

/-- The loop before its first turn; `confirmed` is the digest that the stored file must have, if one is
required. -/
def boot (first : Deployment) (confirmed : Option String) (file : Option Bytes) : Loop :=
  let config := file.getD []
  let stored : Artifact := if config = [] then ⟨[], ""⟩ else ⟨config, sha256 config⟩
  let trusted := confirmed.all (fun digest => decide (stored.digest = digest))
  let artifact : Artifact := if trusted then stored else ⟨[], ""⟩
  let doubted : Bool := !trusted && (decide (config ≠ []) || decide (confirmed ≠ some ""))
  { current := { first with artifact := artifact }, child := false, retryDelay := options.retryMin
    status := ⟨if doubted then .degraded else .stopped, first.engine, first.version, artifact.digest⟩
    binaryPath := first.binaryPath, handle := false, file := file, ended := false }

def runTurns (first : Deployment) (confirmed : Option String) (file : Option Bytes) (turns : List Turn) : Loop :=
  run (turn sha256 options) (boot sha256 options first confirmed file) turns

def Published (l : Loop) : Prop :=
  l.status.engine = l.current.engine ∧ l.status.version = l.current.version ∧
    l.status.configDigest = l.current.artifact.digest ∧ l.binaryPath = l.current.binaryPath ∧
    (l.current.artifact.config ≠ [] → l.current.artifact.digest = sha256 l.current.artifact.config)

structure Truthful (l : Loop) : Prop where
  published : Published sha256 l
  delay : options.retryMin ≤ l.retryDelay ∧ l.retryDelay ≤ options.retryMax
  running : l.status.state = .running → l.child = true
  settled : l.status.state ≠ .starting
  handled : l.handle = true → l.child = true
  fed : l.child = true → l.current.artifact.config ≠ []

/-- A success is in force and published; otherwise the previous deployment is kept, or nothing is left to start.
-/
def Settles (l : Loop) (d : Deployment) (result : Loop × Except String Unit) : Prop :=
  match result.2 with
  | .ok _ => result.1.child = true ∧ (result.1 = l ∨ result.1.status.state = .running) ∧
      result.1.status = ⟨result.1.status.state, d.engine, d.version, d.artifact.digest⟩
  | .error _ => result.1.current = l.current ∨ result.1.current = { l.current with artifact := ⟨[], ""⟩ }

def Coherent (l : Loop) : Prop := l.current.artifact.config ≠ [] → l.file = some l.current.artifact.config

/-- No replacement fails after it took effect, and a switch that cannot stop the child restores the file. -/
def Recoverable : Wait → Prop
  | .request r => (∀ reason, r.switch.replace ≠ .failed reason true) ∧
      ∀ reason, r.switch.restore = .failed reason false → r.switch.stop = none
  | _ => True

structure Supervised (turns : List Turn) (l : Loop) : Prop where
  truthful : Truthful sha256 options l
  settles : ∀ r, Settles l r.deployment (l.deploy sha256 r)
  coherent : (∀ t ∈ turns, Recoverable t.wait) → Coherent l

structure Halted (before l : Loop) : Prop where
  published : Published sha256 l
  idle : l.child = false
  bare : l.handle = false
  delay : options.retryMin ≤ l.retryDelay ∧ l.retryDelay ≤ options.retryMax
  same : l.current = before.current

structure Applied (l : Loop) (r : Request) (result : Loop × Except String Unit) : Prop where
  truthful : Truthful sha256 options result.1
  settles : Settles l r.deployment result
  coherent : Recoverable (.request r) → Coherent l → Coherent result.1

variable {sha256 options} {l before : Loop} {r : Request}

theorem rollBack_applied (halted : Halted sha256 options before l) (err : String) :
    Applied sha256 options before r (l.rollBack r.switch err) := by
  have ⟨published, idle, bare, delay, same⟩ := halted
  have down : l.handle = true → l.child = true := by simp [bare]
  have unfed : ∀ {config : Bytes}, l.child = true → config ≠ [] := by simp [idle]
  unfold rollBack
  cases r.switch.restore with
  | failed reason took =>
    obtain ⟨engine, version, -, binary, -⟩ := published
    exact ⟨⟨⟨engine, version, rfl, binary, nofun⟩, delay, nofun, nofun, down, unfed⟩, .inr (by rw [← same]; rfl),
      fun _ _ empty => absurd rfl empty⟩
  | done =>
    by_cases empty : l.current.artifact.config = []
    · simp only [Written.error, if_pos empty]
      exact ⟨⟨published, delay, nofun, nofun, down, unfed⟩, .inl same, fun _ _ some => absurd empty some⟩
    · have back : (if l.current.artifact.config = [] then none else some l.current.artifact.config) =
          some l.current.artifact.config := if_neg empty
      simp only [Written.error, if_neg empty]
      cases r.switch.restart with
      | survived =>
        exact ⟨⟨published, delay, nofun, nofun, fun _ => rfl, fun _ => empty⟩, .inl same, fun _ _ _ => back⟩
      | unresolved | failed =>
        exact ⟨⟨published, delay, nofun, nofun, down, unfed⟩, .inl same, fun _ _ _ => back⟩
      | cancelled => exact ⟨⟨published, delay, nofun, nofun, nofun, unfed⟩, .inl same, fun _ _ _ => back⟩

theorem switchTo_applied (halted : Halted sha256 options before l) (fed : r.deployment.artifact.config ≠ [])
    (hash : r.deployment.artifact.digest = sha256 r.deployment.artifact.config)
    (placed : l.file = some r.deployment.artifact.config) :
    Applied sha256 options before r (l.switchTo r.deployment r.switch) := by
  have ⟨published, idle, bare, delay, same⟩ := halted
  unfold switchTo
  cases r.switch.start with
  | survived =>
    exact ⟨⟨⟨rfl, rfl, rfl, rfl, fun _ => hash⟩, delay, fun _ => rfl, nofun, fun _ => rfl, fun _ => fed⟩,
      ⟨rfl, .inr rfl, rfl⟩, fun _ _ _ => placed⟩
  | unresolved => exact rollBack_applied halted _
  | failed => exact rollBack_applied ⟨published, idle, bare, delay, same⟩ _
  | cancelled => exact rollBack_applied (by exact ⟨published, idle, rfl, delay, same⟩) _

theorem Truthful.stopped (truthful : Truthful sha256 options l) : (!l.child && l.handle) = false := by
  cases child : l.child with
  | true => rfl
  | false => simpa [child] using truthful.handled

theorem handleApply_applied (truthful : Truthful sha256 options l) (fed : r.deployment.artifact.config ≠ [])
    (hash : r.deployment.artifact.digest = sha256 r.deployment.artifact.config) :
    Applied sha256 options l r (l.handleApply r.deployment r.switch) := by
  have ⟨published, delay, running, settled, handled, old⟩ := truthful
  unfold handleApply
  dsimp only
  split
  · rename_i equal
    refine ⟨truthful, ⟨equal.2.2.2.2, .inl rfl, ?_⟩, fun _ kept => kept⟩
    rw [equal.1, equal.2.1, equal.2.2.2.1, ← published.1, ← published.2.1, ← published.2.2.1]
  unfold installCandidate
  cases (if l.current.artifact.config = [] then none else r.switch.preserve) with
  | some reason => exact ⟨truthful, .inl rfl, fun _ kept => kept⟩
  | none =>
    cases replaced : r.switch.replace with
    | failed reason took =>
      refine ⟨⟨published, delay, running, settled, handled, old⟩, .inl rfl, fun recoverable kept some => ?_⟩
      cases took with
      | true => exact absurd replaced (recoverable.1 reason)
      | false => exact kept some
    | done =>
      dsimp only [Written.error, Written.put]
      split
      · rename_i reason stopped
        refine ⟨⟨published, delay, nofun, nofun, nofun, old⟩, .inl rfl, fun recoverable _ some => ?_⟩
        have back : (if l.current.artifact.config = [] then none else .some l.current.artifact.config) =
          .some l.current.artifact.config := if_neg some
        cases restored : r.switch.restore with
        | done => exact back
        | failed failure took =>
          cases took with
          | true => exact back
          | false =>
            rw [recoverable.2 failure restored] at stopped
            split at stopped <;> cases stopped
      · exact switchTo_applied ⟨published, rfl, truthful.stopped, delay, rfl⟩ fed hash rfl

theorem deploy_applied (truthful : Truthful sha256 options l) (r : Request) :
    Applied sha256 options l r (l.deploy sha256 r) := by
  unfold deploy
  split
  · exact ⟨truthful, .inl rfl, fun _ kept => kept⟩
  · rename_i accepted
    simp only [validateDeployment, bind_eq_ok, rejectIf_eq_ok, not_not] at accepted
    obtain ⟨_, ⟨_, fed, _, hash, -⟩, -⟩ := accepted
    exact handleApply_applied truthful fed hash

theorem ensureChild_truthful {t : Turn} (truthful : Truthful sha256 options l) :
    Truthful sha256 options (l.ensureChild options t) ∧ (Coherent l → Coherent (l.ensureChild options t)) := by
  have ⟨published, delay, running, settled, handled, old⟩ := truthful
  unfold ensureChild
  split
  · rename_i idle
    cases t.start with
    | survived =>
      exact ⟨⟨published, ⟨Nat.le_refl _, options.ordered⟩, fun _ => rfl, nofun, fun _ => rfl, fun _ => idle.2⟩, id⟩
    | unresolved | failed => exact ⟨⟨published, delay, nofun, nofun, handled, old⟩, id⟩
    | cancelled => exact ⟨⟨published, delay, nofun, nofun, nofun, old⟩, id⟩
  · exact ⟨truthful, id⟩

theorem await_truthful (truthful : Truthful sha256 options l) (wait : Wait) :
    Truthful sha256 options (l.await sha256 options wait) ∧
    (Recoverable wait → Coherent l → Coherent (l.await sha256 options wait)) := by
  cases wait with
  | request r => exact ⟨(deploy_applied truthful r).truthful, (deploy_applied truthful r).coherent⟩
  | cancelled => exact ⟨truthful, fun _ => id⟩
  | timer =>
    have ⟨published, ⟨low, high⟩, running, settled, handled, old⟩ := truthful
    refine ⟨⟨published, ?_, running, settled, handled, old⟩, fun _ => id⟩
    have ordered := options.ordered
    dsimp only [await, nextBackoff]
    split <;> omega

theorem turn_truthful (truthful : Truthful sha256 options l) (t : Turn) :
    Truthful sha256 options (l.turn sha256 options t) ∧
    (Recoverable t.wait → Coherent l → Coherent (l.turn sha256 options t)) := by
  unfold turn
  split
  · exact ⟨truthful, fun _ => id⟩
  obtain ⟨ensured, kept⟩ := ensureChild_truthful truthful (t := t)
  generalize l.ensureChild options t = l at ensured kept
  have ⟨published, delay, running, settled, handled, old⟩ := ensured
  dsimp only
  split
  · exact ⟨⟨published, delay, nofun, nofun, by simp [ensured.stopped], nofun⟩, fun _ => kept⟩
  split
  · have idle : Truthful sha256 options { l.set .degraded with child := false, handle := false } :=
      ⟨published, delay, nofun, nofun, nofun, nofun⟩
    obtain ⟨⟨published, delay, running, settled, handled, old⟩, coherent⟩ := await_truthful idle t.wait
    refine ⟨⟨published, ?_, running, settled, handled, old⟩, fun mended before => coherent mended (kept before)⟩
    dsimp only
    split
    · exact ⟨Nat.le_refl _, options.ordered⟩
    · exact delay
  · rename_i same _
    rw [same]
    exact ⟨(deploy_applied ensured _).truthful,
      fun mended before => (deploy_applied ensured _).coherent mended (kept before)⟩
  · split
    · exact ⟨ensured, fun _ => kept⟩
    · exact ⟨(await_truthful ensured _).1, fun mended before => (await_truthful ensured _).2 mended (kept before)⟩
  · exact ⟨ensured, fun _ => kept⟩

theorem boot_truthful (first : Deployment) (confirmed : Option String) (file : Option Bytes) :
    Truthful sha256 options (boot sha256 options first confirmed file) ∧
    Coherent (boot sha256 options first confirmed file) := by
  have stated : ∀ doubted : Bool, (if doubted then ProcessState.degraded else .stopped) ≠ .running ∧
      (if doubted then ProcessState.degraded else .stopped) ≠ .starting := by decide
  refine ⟨⟨⟨rfl, rfl, rfl, rfl, ?_⟩, ⟨Nat.le_refl _, options.ordered⟩, fun up => absurd up (stated _).1, (stated _).2,
    nofun, nofun⟩, ?_⟩
  all_goals
    dsimp only [boot, Coherent]
    cases file with
    | none => simp
    | some config =>
      by_cases empty : config = []
      · simp [empty]
      · simp only [Option.getD_some, empty, if_false]
        split <;> simp_all

/-- The loop publishes what it holds, and what it would start is in the file unless a replacement went wrong
half-way. -/
theorem supervisor_truthful (sha256 : Bytes → String) (options : RetryOptions) (first : Deployment)
    (confirmed : Option String) (file : Option Bytes) (turns : List Turn) :
    Supervised sha256 options turns (runTurns sha256 options first confirmed file turns) := by
  obtain ⟨initial, coherent⟩ := @boot_truthful sha256 options first confirmed file
  have truthful := run_invariant (Truthful sha256 options) (fun _ t kept => (turn_truthful kept t).1) initial turns
  refine ⟨truthful, fun r => (deploy_applied truthful r).settles, fun recoverable => ?_⟩
  exact (run_invariant_of_forall (fun l => Truthful sha256 options l ∧ Coherent l)
    (fun _ t mended kept => ⟨(turn_truthful kept.1 t).1, (turn_truthful kept.1 t).2 mended kept.2⟩)
    ⟨initial, coherent⟩ recoverable).2

end Loop

end PasswallNode.Core
