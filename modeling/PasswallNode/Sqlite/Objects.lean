import Mathlib.Data.List.Sort
import PasswallNode.Foundation.Fallible
import PasswallNode.Protocol.Documents
import PasswallNode.Sqlite.Store

/-! Convergence rows of listeners and clients, and how long a reference has been ahead. -/

namespace PasswallNode.Sqlite

open Foundation Protocol State

def object (store : Store) (stream : Stream) (key : String) : Except Error ObjectStatus :=
  orError ((store.objects.find? (stream, key)).map (·.status))
    ((Error.ofSentinel .notFound).within "object status")

def objectBefore (a b : ObjectStatus) : Prop :=
  a.stream.text < b.stream.text ∨ (a.stream = b.stream ∧ a.key ≤ b.key)

instance (a b : ObjectStatus) : Decidable (objectBefore a b) := inferInstanceAs (Decidable (_ ∨ _))

def objects (store : Store) : List ObjectStatus :=
  (store.objects.rows.map (·.status)).insertionSort objectBefore

def validateObjectKey (wire : Wire) (stream : Stream) (key : String) : Except Error Unit :=
  match stream with
  | .config =>
    match wire.listenerRowID key with
    | .error text => .error (.new text)
    | .ok _ => .ok ()
  | .roster =>
    match wire.clientRowID key with
    | .error text => .error (.new text)
    | .ok _ => .ok ()
  | .directives => .error (.new s!"{stream.text} stream cannot contain object convergence rows")

def validateObjectState (status : ObjectStatus) : Except Error Unit :=
  match status.state with
  | .applied =>
    rejectIf (status.firstFailedAtMS ≠ 0 ∨ status.issueCode ≠ "" ∨ status.blockedOn ≠ "")
      (.new "applied object cannot retain failure metadata")
  | .pending =>
    rejectIf (status.firstFailedAtMS = 0 ∨ status.issueCode ≠ "" ∨ status.blockedOn ≠ "")
      (.new "pending object requires a start time and no terminal metadata")
  | .rejected =>
    rejectIf (status.firstFailedAtMS = 0 ∨ status.issueCode = "" ∨ status.blockedOn ≠ "")
      (.new "rejected object requires a start time and issue code")
  | .blocked =>
    rejectIf (status.firstFailedAtMS = 0 ∨ status.issueCode ≠ "" ∨ status.blockedOn = "")
      (.new "blocked object requires a start time and blocked_on")

def validateBlockedOn (pkg : Package) (wire : Wire) (blockedOn : String) : Except Error Unit :=
  if blockedOn = "" then .ok ()
  else do
    rejectIf (blockedOn.utf8ByteSize > pkg.maxIssueKeyBytes)
      (.new s!"object blocked_on is invalid or exceeds {pkg.maxIssueKeyBytes} bytes")
    match wire.listenerRowID blockedOn with
    | .error text => .error (.new s!"object blocked_on: {text}")
    | .ok _ => .ok ()

/-- The checks of a status that do not look at whose status it is. -/
def validateObjectContent (pkg : Package) (wire : Wire) (status : ObjectStatus) (updatedAtMS : Int) :
    Except Error Unit := do
  rejectIf (status.sinceVersion.committed = false)
    (.new s!"{status.stream.text} object {status.key} has an invalid since_version")
  rejectIf (status.firstFailedAtMS < 0 ∨ updatedAtMS < 0)
    (.new "object timestamps must be non-negative")
  rejectIf (status.issueCode.utf8ByteSize > pkg.maxIssueCodeBytes)
    (.new s!"object issue code is invalid or exceeds {pkg.maxIssueCodeBytes} bytes")
  validateBlockedOn pkg wire status.blockedOn
  validateObjectState status

def validateObject (pkg : Package) (wire : Wire) (status : ObjectStatus) (updatedAtMS : Int) :
    Except Error Unit := do
  validateObjectKey wire status.stream status.key
  validateObjectContent pkg wire status updatedAtMS

def saveObject (pkg : Package) (wire : Wire) (store : Store) (status : ObjectStatus)
    (updatedAtMS : Int) : Except Error (Store × Unit) := do
  validateObject pkg wire status updatedAtMS
  let objects ← orError (store.objects.put ⟨status, updatedAtMS⟩)
    (constraintFailed.within s!"save {status.stream.text} object {status.key}")
  .ok ({ store with objects := objects }, ())

def deleteObject (store : Store) (stream : Stream) (key : String) : Except Error (Store × Unit) := do
  rejectIf (key = "") (.new "object key is required")
  .ok ({ store with
    objects := store.objects.deleteWhere
      (fun o => decide (o.status.stream = stream) && decide (o.status.key = key)) }, ())

section Skew

def skewRounds (kind key : String) (version : Version) : Option ReferenceSkew → Except Error Int
  | none => .ok 1
  | some current =>
    if current.version = version then do
      rejectIf (current.rounds = maxInt64)
        (.new s!"reference skew {kind}/{key} round counter overflow")
      .ok (current.rounds + 1)
    else .ok 1

def observeReferenceSkew (store : Store) (kind key : String) (version : Version) :
    Except Error (Store × Int) := do
  rejectIf (isBlank kind ∨ isBlank key ∨ version.zero)
    (.new "reference skew requires kind, key, and non-zero version")
  let rounds ← skewRounds kind key version (store.skews.find? (kind, key))
  let skews ← orError (store.skews.put ⟨kind, key, version, rounds⟩)
    (constraintFailed.within s!"save reference skew {kind}/{key}")
  .ok ({ store with skews := skews }, rounds)

def clearReferenceSkew (store : Store) (kind key : String) : Except Error (Store × Unit) := do
  rejectIf (isBlank kind ∨ isBlank key) (.new "reference skew requires kind and key")
  .ok ({ store with
    skews := store.skews.deleteWhere
      (fun s => decide (s.kind = kind) && decide (s.referenceKey = key)) }, ())

end Skew

end PasswallNode.Sqlite
