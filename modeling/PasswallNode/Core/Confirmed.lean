import PasswallNode.Core.Supervisor
import PasswallNode.Foundation.Interference

/-! A deployment is recorded as confirmed only while the supervisor goes on with it. -/

namespace PasswallNode.Core

open Foundation Protocol State Loop

structure Node (options : Options) (retry : RetryOptions) where
  loop : Loop
  confirmed : Option CoreDeployment
  truthful : Truthful options.std.sha256Hex retry loop

variable (options : Options) (retry : RetryOptions)

/-- A started node, which wants the file of the deployment that is recorded. -/
def Node.boot (first : Deployment) (confirmed : Option CoreDeployment) (file : Option Bytes) : Node options retry :=
  ⟨Loop.boot options.std.sha256Hex retry first (confirmed.map CoreDeployment.configDigest) file, confirmed,
    (boot_truthful first (confirmed.map CoreDeployment.configDigest) file).1⟩

def supervised : Environment (Node options retry) RuntimeCall RuntimeCall.Answer where
  answers now call answer after :=
    match call, answer with
    | .status, status => status = now.loop.status ∧ after = now
    | .deploy d, result => after = now ∧ result ≠ .ok () ∨
        ∃ r : Request, r.deployment = d ∧ after.loop = (now.loop.deploy options.std.sha256Hex r).1 ∧
          after.confirmed = now.confirmed ∧ (result = .ok () → (now.loop.deploy options.std.sha256Hex r).2 = .ok ())
    | .saveCoreDeployment row, result => after = now ∧ result ≠ .ok () ∨ after = { now with confirmed := some row }
    | _, _ => after = now
  moves now after := after.confirmed = now.confirmed ∧ ∃ t : Turn, (∀ r, t.wait ≠ .request r) ∧
    after.loop = now.loop.turn options.std.sha256Hex retry t

variable {options retry} {selection : CoreSelection} {artifact : Artifact} {now : Node options retry}

/-- The recorded deployment is the published one, and after a restart the node goes on with it if the file is as
it should be. -/
structure Confirms (now : Node options retry) (row : CoreDeployment) : Prop where
  published : now.loop.status = ⟨now.loop.status.state, row.engine, row.version, row.configDigest⟩
  digest : row.configDigest = options.std.sha256Hex row.artifact
  resumed : Coherent now.loop → ∀ first, (boot options.std.sha256Hex retry first (some row.configDigest)
    now.loop.file).current.artifact = now.loop.current.artifact

def Carries (selection : CoreSelection) (artifact : Artifact) (now : Node options retry) : Prop :=
  now.loop.current.engine = selection.engine ∧ now.loop.current.version = selection.version ∧
    now.loop.current.artifact.digest = artifact.digest ∧ now.loop.current.artifact.config ≠ []

abbrev Goes {α : Type} (good : Node options retry → α → Prop) : Node options retry → Convergence α → Prop :=
  Ensures (supervised options retry) (fun now call => ∀ row, call = .saveCoreDeployment row → Confirms now row)
    (fun now => Yields (fun _ => True) (good now))

theorem turn_current {sha256 : Bytes → String} {l : Loop} {t : Turn} (idle : ∀ r, t.wait ≠ .request r) :
    (l.turn sha256 retry t).current = l.current := by
  have started : (l.ensureChild retry t).current = l.current := by
    unfold ensureChild
    split
    · cases t.start <;> rfl
    · rfl
  have waits : ∀ l : Loop, (l.await sha256 retry t.wait).current = l.current := by
    intro l
    cases wait : t.wait with
    | request r => exact absurd wait (idle r)
    | timer | cancelled => rfl
  unfold turn
  split
  · rfl
  dsimp only
  split
  · exact started
  split
  · exact (waits _).trans started
  · rename_i same _
    exact absurd same (idle _)
  · split
    · exact started
    · exact (waits _).trans started
  · exact started

theorem carries_stable : Stable (supervised options retry) (Carries selection artifact) := by
  rintro now after ⟨_, t, idle, turned⟩ carried
  unfold Carries at *
  rw [turned, turn_current idle]
  exact carried

theorem carries_of_status {state : ProcessState} (child : now.loop.child = true)
    (status : now.loop.status = ⟨state, selection.engine, selection.version, artifact.digest⟩) :
    Carries selection artifact now := by
  have ⟨engine, version, digest, _⟩ := now.truthful.published
  rw [status] at engine version digest
  exact ⟨engine.symm, version.symm, digest.symm, now.truthful.fed child⟩

theorem Carries.confirms (carried : Carries selection artifact now)
    (hash : artifact.digest = options.std.sha256Hex artifact.config) (configBody rosterBody : Bytes) (atMS : Int) :
    Confirms now
    ⟨selection.engine, selection.version, artifact.digest, artifact.config, configBody, rosterBody, atMS⟩ := by
  obtain ⟨sameEngine, sameVersion, sameDigest, fed⟩ := carried
  have ⟨engine, version, digest, _, hashed⟩ := now.truthful.published
  refine ⟨?_, hash, fun coherent first => ?_⟩
  · rw [← sameEngine, ← sameVersion, ← sameDigest, ← engine, ← version, ← digest]
  · simp [boot, coherent fed, fed, ← sameDigest, ← hashed fed]

section Rules

variable {α β : Type} {good : Node options retry → β → Prop}

theorem goes_lifted {result : Except Failure α} {rest : α → Convergence β}
    (goes : ∀ a, result = .ok a → Goes good now (rest a)) :
    Goes good now ((Proc.done result : Convergence α) >>= rest) := by
  cases result with
  | error failure => trivial
  | ok a => exact goes a rfl

theorem goes_ask {holds : Node options retry → Prop} {call : RuntimeCall} {rest : call.Answer → Convergence β}
    (stable : Stable (supervised options retry) holds) (initial : holds now)
    (answered : ∀ now, holds now → (∀ row, call = .saveCoreDeployment row → Confirms now row) ∧ ∀ answer after,
      (supervised options retry).answers now call answer after → Goes good after (rest answer)) :
    Goes good now (ask call >>= rest) := ensures_call stable initial answered

theorem goes_quiet {program : Convergence α}
    (quiet : Uses (fun call => ∀ row, call ≠ .saveCoreDeployment row) program) :
    Goes (fun _ _ => True) now program := by
  exact ensures_yields (ensures_of_uses (stable_const True) (fun _ _ _ _ _ _ _ => trivial)
    (fun now call _ quiet row same => absurd same (quiet row)) quiet trivial) (fun _ _ held => held)
      (fun _ _ held => held)

end Rules

theorem goes_saveDeployment (carried : Carries selection artifact now)
    (hash : artifact.digest = options.std.sha256Hex artifact.config) (config : ConfigBody)
    (roster : Option RosterBody) :
    Goes (fun now _ => ∃ row ∈ now.confirmed, Confirms now row) now
    (saveDeployment options selection artifact config roster) := by
  refine goes_lifted fun configBody _ => goes_lifted fun rosterBody _ => ?_
  refine goes_ask carries_stable carried fun now carried => ⟨nofun, ?_⟩
  rintro appliedAtMS _ rfl
  refine goes_lifted fun _ _ => ?_
  refine goes_ask carries_stable carried fun now carried => ⟨?_, ?_⟩
  · rintro row ⟨⟩
    exact carried.confirms hash _ _ _
  · rintro answer after saved
    refine goes_lifted fun _ fine => ?_
    obtain ⟨_, failed⟩ | rfl := saved
    · exact absurd (failWith_eq_ok.mp fine) failed
    · have recorded : ∀ row, Stable (supervised options retry) (fun now => now.confirmed = some row) :=
        fun _ _ _ moved same => moved.1.trans same
      refine ensures_call (carries_stable.and (recorded _)) ⟨carried, rfl⟩ fun now both => ⟨nofun, ?_⟩
      rintro _ _ rfl
      exact ⟨_, both.2, both.1.confirms hash _ _ _⟩

theorem goes_installAndDeploy : Goes (fun now _ => Carries selection artifact now) now
    (installAndDeploy selection artifact) := by
  refine goes_ask (stable_const True) trivial fun now _ => ⟨nofun, fun _ _ _ => ?_⟩
  refine goes_lifted fun installed _ => goes_lifted fun _ accepted => ?_
  refine goes_ask (stable_const True) trivial fun now _ => ⟨nofun, ?_⟩
  rintro (err | _) after answered
  · trivial
  · obtain ⟨_, failed⟩ | ⟨r, same, moved, _, done⟩ := answered
    · exact absurd rfl failed
    · have settles := (deploy_applied now.truthful r).settles
      have matching := rejectIf_eq_ok.mp accepted
      simp only [not_or, not_not] at matching
      unfold Settles at settles
      rw [done rfl, same, matching.1, matching.2.1, ← moved] at settles
      exact carries_of_status settles.1 settles.2.2

/-- Whatever becomes of the core meanwhile, a deployment is recorded only if it is the published one, and it is
when a convergence succeeds. -/
theorem confirmed_is_deployed (options : Options) (retry : RetryOptions) (now : Node options retry) :
    Goes (fun now _ => ∃ row ∈ now.confirmed, Confirms now row) now (converge options) := by
  have loads : ∀ {T : Type} (codec : Codec T) (name : Stream),
      Uses (fun call => ∀ row, call ≠ .saveCoreDeployment row) (loadBody codec name) :=
    fun _ _ => uses_call.mpr ⟨nofun, fun _ => uses_done _⟩
  refine ensures_bind (goes_quiet (uses_bind (loads _ _) fun _ => uses_bind (uses_done _) fun _ =>
    uses_bind (uses_bind (loads _ _) fun _ => uses_done _) fun _ => uses_bind (uses_done _) fun _ => uses_done _)) ?_
  rintro now ⟨config, roster⟩ _
  refine goes_lifted ?_
  rintro ⟨selection, compiler⟩ _
  refine ensures_bind (goes_quiet ?_) fun now snapshot _ => goes_lifted fun artifact compiled => ?_
  · refine uses_call.mpr ⟨nofun, fun _ => ?_⟩
    cases roster with
    | none => exact uses_done _
    | some roster =>
      exact uses_call.mpr
        ⟨nofun, fun _ => uses_bind (uses_done _) fun _ => uses_bind (uses_done _) fun _ => uses_done _⟩
  have hash : artifact.digest = options.std.sha256Hex artifact.config := by
    obtain ⟨_, _, checked⟩ := bind_eq_ok.mp compiled
    obtain ⟨_, valid, same⟩ := bind_eq_ok.mp checked
    cases same
    obtain ⟨_, _, digest⟩ := bind_eq_ok.mp valid
    exact not_not.mp (rejectIf_eq_ok.mp digest)
  refine goes_ask (stable_const True) trivial fun now _ => ⟨nofun, ?_⟩
  rintro status now ⟨rfl, rfl⟩
  split
  · rename_i running
    have status := of_decide_eq_true running
    exact goes_saveDeployment (carries_of_status (now.truthful.running (by rw [status])) status) hash _ _
  · exact ensures_bind goes_installAndDeploy fun now _ carried => goes_saveDeployment carried hash _ _

theorem confirmed_after_boot : ∃ retry, RetryOptions.new 0 0 = .ok retry ∧ ∀ options first confirmed file,
    Goes (fun now _ => ∃ row ∈ now.confirmed, Confirms now row) (Node.boot options retry first confirmed file)
      (converge options) :=
  ⟨_, rfl, fun options _ _ _ => confirmed_is_deployed options _ _⟩

end PasswallNode.Core
