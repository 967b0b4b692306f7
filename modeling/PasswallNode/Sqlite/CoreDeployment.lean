import PasswallNode.Foundation.Fallible
import PasswallNode.Protocol.Documents
import PasswallNode.Sqlite.Store

/-! The one row of `core_deployment`: the last confirmed deployment. -/

namespace PasswallNode.Sqlite

open Foundation Protocol State

variable (lib : Library) (wire : Wire)

def validateCoreDeployment (deployment : CoreDeployment) : Except Error Unit := do
  rejectIf (isBlank deployment.engine ∨ isBlank deployment.version ∨ deployment.appliedAtMS ≤ 0)
    ((Error.ofSentinel .invalidState).followedBy
      "core deployment requires engine, version and positive applied time")
  rejectIf (wire.jsonValid deployment.artifact = false ∨ wire.jsonValid deployment.configBody = false ∨
      wire.jsonValid deployment.rosterBody = false)
    ((Error.ofSentinel .invalidState).followedBy "core deployment artifact and bodies must be valid JSON")
  rejectIf (deployment.configDigest ≠ lib.sha256Hex deployment.artifact)
    ((Error.ofSentinel .invalidState).followedBy
      (s!"core deployment digest {deployment.configDigest.quote} does not match artifact " ++
        (lib.sha256Hex deployment.artifact).quote))

def coreDeployment (row : Option CoreDeployment) : Except Error CoreDeployment := do
  let deployment ← orError row ((Error.ofSentinel .notFound).within "core deployment")
  withError (.within "read core deployment") (validateCoreDeployment lib wire deployment)
  .ok deployment

def saveCoreDeployment (deployment : CoreDeployment) : Except Error (Option CoreDeployment × Unit) := do
  validateCoreDeployment lib wire deployment
  .ok (some deployment, ())

theorem saveCoreDeployment_ok {deployment : CoreDeployment} {row : Option CoreDeployment} {u : Unit}
    (saved : saveCoreDeployment lib wire deployment = .ok (row, u)) :
    row = some deployment ∧ coreDeployment lib wire row = .ok deployment := by
  obtain ⟨⟨⟩, valid, same⟩ := bind_eq_ok.mp saved
  cases same
  exact ⟨rfl, bind_eq_ok.mpr ⟨deployment, rfl, bind_eq_ok.mpr ⟨(), by rw [valid]; rfl, rfl⟩⟩⟩

end PasswallNode.Sqlite
