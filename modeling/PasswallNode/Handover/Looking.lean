import PasswallNode.Foundation.Contract
import PasswallNode.Handover.HandOver

/-! The parts of an updater that touch neither the journal nor the lock. -/

namespace PasswallNode.Handover

open Foundation Protocol State

def Looks : UpdaterCall → Prop
  | .storeHandover _ | .quarantine | .tryLock | .unlock | .random => False
  | _ => True

def Observes : UpdaterCall → Prop
  | .createReplacement _ _ _ _ | .renameContainer _ _ => False
  | call => Looks call

theorem looks_of_observes (op : UpdaterCall) (observes : Observes op) : Looks op := by
  cases op <;> first | exact observes | exact observes.elim

theorem looks_request {call : UpdaterCall} (looks : Observes call) : Uses Observes (request call) :=
  uses_call.mpr ⟨looks, fun _ => uses_done _⟩

theorem looks_ask {α : Type} {call : UpdaterCall} {result : call.Answer → Except Upgrade.Failure α}
    (looks : Observes call) : Uses Observes (.call call (fun answer => .done (result answer)) : Updating α) :=
  uses_call.mpr ⟨looks, fun _ => uses_done _⟩

theorem looks_inspect (name : String) : Uses Observes (inspect name) := looks_ask trivial

def Mutation.Issues (allowed : UpdaterCall → Prop) : Mutation → Prop
  | .create name source image reference => allowed (.createReplacement name source image reference)
  | .rename _ newName => ∀ id, allowed (.renameContainer id newName)
  | _ => True

namespace Controller

variable (c : Controller)

section Mutations

variable {allowed : UpdaterCall → Prop} {m : Mutation}

theorem uses_issue (looking : ∀ op, Observes op → allowed op) (issues : m.Issues allowed) (id : String) :
    Uses allowed (m.issue id) := by
  cases m with
  | create name source image reference => exact uses_done _
  | rename target newName => exact uses_call.mpr ⟨issues id, fun _ => uses_done _⟩
  | _ => exact uses_mono (looks_ask trivial) looking

theorem uses_actOnUpdater (looking : ∀ op, Observes op → allowed op) (issues : m.Issues allowed) (agent : Container) :
    Uses allowed (c.actOnUpdater m agent) := by
  refine uses_bind (uses_done _) (fun _ => ?_)
  refine uses_bind (uses_mono (looks_inspect _) looking) (fun current => ?_)
  refine uses_bind (uses_done _) (fun _ => ?_)
  exact uses_bind (uses_issue looking issues current.id) (fun _ => uses_done _)

theorem uses_mutate (looking : ∀ op, Observes op → allowed op) (issues : m.Issues allowed) :
    Uses allowed (c.mutate m) := by
  refine uses_bind (uses_mono (uses_orThrow (looks_inspect _)) looking) (fun agent => ?_)
  refine uses_bind (uses_done _) (fun _ => ?_)
  cases m with
  | create name source image reference =>
    refine uses_bind (uses_done _) (fun _ => uses_bind (uses_done _) (fun _ => uses_bind (uses_done _) (fun _ => ?_)))
    exact uses_call.mpr ⟨issues, fun _ => uses_done _⟩
  | _ => exact c.uses_actOnUpdater looking issues agent

theorem looks_mutate (m : Mutation) : Uses Looks (c.mutate m) := by
  apply c.uses_mutate looks_of_observes
  cases m with
  | rename target newName => exact fun _ => trivial
  | _ => trivial

theorem looks_removeUpdater (target : String) : Uses Observes (c.removeUpdater target) := by
  refine uses_bind (uses_attempt (c.uses_mutate (fun _ => id) trivial)) (fun _ => ?_)
  refine uses_bind (uses_attempt (c.uses_mutate (fun _ => id) trivial)) (fun removed => ?_)
  split
  · exact uses_done _
  · exact uses_done _
  · refine uses_bind (uses_attempt (c.uses_mutate (fun _ => id) trivial)) (fun forced => ?_)
    split <;> exact uses_done _
  · exact uses_done _

theorem looks_abortedSuccessor (h : DockerHandover) (known : String) (byName : Bool) :
    Uses Observes (abortedSuccessor h known byName) := by
  refine uses_ite (uses_done _) (uses_ite (uses_done _) (uses_ite ?_ (uses_done _)))
  exact looks_ask trivial

theorem looks_removeSuccessor (successor : String) : Uses Observes (c.removeSuccessor successor) := by
  refine uses_ite ?_ (uses_done _)
  exact uses_bind (uses_attempt (c.looks_removeUpdater successor)) (fun _ => uses_done _)

theorem looks_requestChanged (h : DockerHandover) : Uses Observes (c.requestChanged h) :=
  uses_bind (uses_attempt (looks_ask trivial)) (fun _ => uses_done _)

theorem looks_lookAtSuccessor (h : DockerHandover) (watching : Watching) :
    Uses Observes (lookAtSuccessor h watching) := by
  refine uses_call.mpr ⟨trivial, fun found => ?_⟩
  split
  · exact uses_done _
  · exact uses_done _
  · split
    · exact uses_done _
    · exact uses_done _
    · refine uses_bind ?_ (fun _ => uses_done _)
      unfold markRunning
      split
      · exact uses_done _
      · exact uses_bind (looks_request trivial) (fun _ => uses_done _)

theorem looks_endPass (h : DockerHandover) (watching : Watching) (up agentSame : Bool) :
    Uses Observes (c.endPass h watching up agentSame) := by
  refine uses_bind (uses_bind (uses_attempt (looks_ask trivial)) (fun _ => uses_done _)) (fun found => ?_)
  refine uses_bind (c.looks_requestChanged h) (fun changed => ?_)
  refine uses_ite (uses_done _) (uses_ite ?_ (uses_done _))
  exact uses_bind (uses_bind (looks_request trivial) (fun _ => uses_done _)) (fun _ => uses_done _)

theorem looks_waitPass (h : DockerHandover) (watching : Watching) : Uses Observes (c.waitPass h watching) := by
  refine uses_bind (c.looks_requestChanged h) (fun changed => ?_)
  refine uses_ite (uses_done _) (uses_bind (looks_lookAtSuccessor h watching) (fun seen => ?_))
  split
  · exact uses_done _
  · refine uses_bind (looks_ask trivial) (fun agent => ?_)
    split
    · exact uses_done _
    · exact c.looks_endPass h _ _ _

theorem looks_waitPasses (h : DockerHandover) (passes : Nat) (watching : Watching) :
    Uses Observes (c.waitPasses h passes watching) := by
  induction passes generalizing watching with
  | zero => exact uses_done _
  | succ passes ih =>
    refine uses_bind (c.looks_waitPass h watching) (fun passed => ?_)
    cases passed with
    | ends reason => exact uses_done _
    | commits => exact uses_done _
    | again watching =>
      refine uses_bind (looks_request trivial) (fun waited => ?_)
      cases waited with
      | stopped => exact uses_done _
      | deadline => exact uses_done _
      | poll => exact ih watching

theorem looks_waitStandby (h : DockerHandover) : Uses Observes (c.waitStandby h) :=
  uses_bind (looks_request trivial) (fun passes => c.looks_waitPasses h (passes + 1) _)

theorem looks_verifySuccessor (h : DockerHandover) (t : HandoverTarget) : Uses Observes (c.verifySuccessor h t) :=
  uses_bind (uses_mapError (looks_inspect _)) (fun _ => uses_done _)

end Mutations

end Controller

end PasswallNode.Handover
