import PasswallNode.Foundation.Fallible
import PasswallNode.Protocol.Documents
import PasswallNode.Sqlite.Store

/-! Stream documents: only a newer version replaces one, and an observed epoch is a floor. -/

namespace PasswallNode.Sqlite

open Foundation Protocol State

def streamNotFound (name : Stream) : Error :=
  (Error.ofSentinel .notFound).within s!"stream {name.text}"

def stream (store : Store) (name : Stream) : Except Error StreamDocument :=
  orError ((store.streams.find? name).map (·.document)) (streamNotFound name)

section Save

variable (lib : Library) (wire : Wire)

def validateStreamDocument (doc : StreamDocument) : Except Error Unit := do
  let name := doc.stream.text
  let want := lib.sha256Hex doc.body
  rejectIf (doc.version.committed = false) ((Error.ofSentinel .invalidState).followedBy
    s!"{name} stream version must contain a positive epoch and version")
  rejectIf (doc.acceptedAtMS < 0) ((Error.ofSentinel .invalidState).followedBy
    s!"{name} stream accepted time must be non-negative")
  rejectIf (doc.body = [] ∨ wire.jsonValid doc.body = false)
    ((Error.ofSentinel .invalidState).followedBy s!"{name} stream body must be valid non-empty JSON")
  rejectIf (doc.etag ≠ want) ((Error.ofSentinel .invalidState).followedBy
    s!"{name} stream etag {doc.etag.quote} does not match body digest {want.quote}")

/-- The upsert: the epoch of an accepted document is the new floor. -/
def writeStream (store : Store) (doc : StreamDocument) : Except Error (Store × Unit) := do
  let streams ← orError (store.streams.put ⟨doc, doc.version.epoch⟩)
    (constraintFailed.within s!"save {doc.stream.text} stream")
  .ok ({ store with streams := streams }, ())

def saveStream (store : Store) (doc : StreamDocument) : Except Error (Store × Unit) := do
  let name := doc.stream.text
  validateStreamDocument lib wire doc
  match store.streams.find? doc.stream with
  | none => writeStream store doc
  | some current =>
    if doc.version.epoch < current.epochFloor then
      .error ((Error.ofSentinel .staleVersion).within
        s!"{name} epoch {doc.version.epoch} is behind observed epoch {current.epochFloor}")
    else if current.document.version = doc.version then
      if current.document.etag ≠ doc.etag ∨ current.document.body ≠ doc.body then
        .error ((Error.ofSentinel .versionConflict).within
          s!"{name} {wire.versionText doc.version}")
      else .ok (store, ())
    else if current.document.version.zero = false ∧
        doc.version.newer current.document.version = false then
      .error ((Error.ofSentinel .staleVersion).within
        s!"{name} {wire.versionText doc.version} is behind {wire.versionText current.document.version}")
    else writeStream store doc

end Save

/-- The row without version and entity tag: the body stays for a restart to recover from. -/
def clearedStream (observedEpoch : Nat) (record : StoredStream) : StoredStream where
  document := { record.document with version := ⟨0, 0⟩, etag := "" }
  epochFloor := observedEpoch

def clearStreamForHigherEpoch (store : Store) (name : Stream) (observedEpoch : Nat) :
    Except Error (Store × Unit) :=
  match store.streams.find? name with
  | none => .ok (store, ())
  | some current => do
      rejectIf (observedEpoch ≤ current.epochFloor)
        (.new s!"observed epoch {observedEpoch} is not higher than epoch floor {current.epochFloor}")
      let streams ← orError (store.streams.updateKey name (clearedStream observedEpoch) (fun _ => rfl))
        (constraintFailed.within s!"clear {name.text} stream for epoch {observedEpoch}")
      .ok ({ store with streams := streams }, ())

section Specifications

variable {lib : Library} {wire : Wire} {store next : Store} {doc : StreamDocument} {name : Stream} {observedEpoch : Nat}

def StoresStream (store next : Store) (name : Stream) (record : StoredStream) : Prop :=
  next = { store with streams := next.streams } ∧
    ∀ other, next.streams.find? other = if name = other then some record else store.streams.find? other

/-- A document may replace the stored one: it is not behind the floor and, unless the
version has been cleared, newer. -/
def Supersedes (doc : StreamDocument) (current : StoredStream) : Prop :=
  current.epochFloor ≤ doc.version.epoch ∧ current.document.version ≠ doc.version ∧
    (current.document.version.zero = true ∨ doc.version.newer current.document.version = true)

theorem validateStreamDocument_ok (valid : validateStreamDocument lib wire doc = .ok ()) :
    doc.version.committed = true ∧ 0 ≤ doc.acceptedAtMS ∧ doc.etag = lib.sha256Hex doc.body := by
  simp only [validateStreamDocument, bind_eq_ok, rejectIf_eq_ok] at valid
  obtain ⟨_, committed, _, timed, _, _, tagged⟩ := valid
  exact ⟨by simpa using committed, by omega, by simpa using tagged⟩

theorem writeStream_ok (done : writeStream store doc = .ok (next, ())) :
    StoresStream store next doc.stream ⟨doc, doc.version.epoch⟩ := by
  simp only [writeStream, bind_eq_ok, orError_eq_ok] at done
  obtain ⟨streams, put, finished⟩ := done
  cases finished
  exact ⟨rfl, Table.find?_put put⟩

theorem writeStream_of_valid (valid : validateStreamDocument lib wire doc = .ok ()) (store : Store) :
    ∃ next, writeStream store doc = .ok (next, ()) := by
  have passes : checkStream ⟨doc, doc.version.epoch⟩ = true :=
    decide_eq_true (validateStreamDocument_ok valid).2.1
  have puts : ∃ streams, store.streams.put ⟨doc, doc.version.epoch⟩ = some streams :=
    Table.put_of_check passes
  obtain ⟨streams, put⟩ := puts
  exact ⟨_, bind_eq_ok.mpr ⟨streams, orError_eq_ok.mpr put, rfl⟩⟩

theorem saveStream_ok (done : saveStream lib wire store doc = .ok (next, ())) :
    validateStreamDocument lib wire doc = .ok () ∧
    ((next = store ∧ ∃ current, store.streams.find? doc.stream = some current ∧
        current.document.version = doc.version ∧ current.document.etag = doc.etag ∧
        current.document.body = doc.body) ∨
      ((∀ current, store.streams.find? doc.stream = some current → Supersedes doc current) ∧
        StoresStream store next doc.stream ⟨doc, doc.version.epoch⟩)) := by
  simp only [saveStream, bind_eq_ok] at done
  obtain ⟨_, valid, rest⟩ := done
  refine ⟨valid, ?_⟩
  split at rest
  · rename_i absent
    refine Or.inr ⟨?_, writeStream_ok rest⟩
    intro current found
    rw [absent] at found
    cases found
  · rename_i current found
    split at rest
    · cases rest
    · rename_i reached
      split at rest
      · rename_i same
        split at rest
        · cases rest
        · rename_i agrees
          cases rest
          simp only [not_or, not_not] at agrees
          exact Or.inl ⟨rfl, current, found, same, agrees.1, agrees.2⟩
      · rename_i apart
        split at rest
        · cases rest
        · rename_i ahead
          refine Or.inr ⟨?_, writeStream_ok rest⟩
          intro other present
          rw [found] at present
          cases present
          refine ⟨by omega, apart, ?_⟩
          cases cleared : current.document.version.zero with
          | true => exact Or.inl rfl
          | false => exact Or.inr (by simpa [cleared] using ahead)

theorem saveStream_failsWith (doc : StreamDocument) :
    FailsWith (fun err => err.sentinel = some .staleVersion ∨ err.sentinel = some .versionConflict ∨
    err.sentinel = some .invalidState) (saveStream lib wire store doc) := by
  refine failsWith_bind ?_ ?_
  · unfold validateStreamDocument
    refine failsWith_bind (failsWith_rejectIf (by simp [Error.followedBy, Error.ofSentinel])) ?_
    intro _ _
    refine failsWith_bind (failsWith_rejectIf (by simp [Error.followedBy, Error.ofSentinel])) ?_
    intro _ _
    refine failsWith_bind (failsWith_rejectIf (by simp [Error.followedBy, Error.ofSentinel])) ?_
    intro _ _
    exact failsWith_rejectIf (by simp [Error.followedBy, Error.ofSentinel])
  · intro _ valid
    obtain ⟨next, written⟩ := writeStream_of_valid valid store
    split
    · rw [written]; exact failsWith_ok (next, ())
    · split
      · exact failsWith_error (by simp [Error.within, Error.ofSentinel])
      · split
        · split
          · exact failsWith_error (by simp [Error.within, Error.ofSentinel])
          · exact failsWith_ok _
        · split
          · exact failsWith_error (by simp [Error.within, Error.ofSentinel])
          · rw [written]; exact failsWith_ok (next, ())

theorem clearStreamForHigherEpoch_ok (done : clearStreamForHigherEpoch store name observedEpoch = .ok (next, ())) :
    (store.streams.find? name = none ∧ next = store) ∨
    ∃ current, store.streams.find? name = some current ∧ current.epochFloor < observedEpoch ∧
      StoresStream store next name (clearedStream observedEpoch current) := by
  unfold clearStreamForHigherEpoch at done
  split at done
  · rename_i absent
    cases done
    exact Or.inl ⟨absent, rfl⟩
  · rename_i current found
    simp only [bind_eq_ok, rejectIf_eq_ok, orError_eq_ok] at done
    obtain ⟨_, higher, streams, updated, finished⟩ := done
    cases finished
    refine Or.inr ⟨current, found, by omega, rfl, ?_⟩
    intro other
    rw [Table.find?_updateKey updated, found, Option.map_some]
    by_cases here : other = name
    · simp [here]
    · simp [here, Ne.symm here]

theorem clearStreamForHigherEpoch_isOk : (∃ done, clearStreamForHigherEpoch store name observedEpoch = .ok done) ↔
    ∀ current, store.streams.find? name = some current → current.epochFloor < observedEpoch := by
  unfold clearStreamForHigherEpoch
  cases found : store.streams.find? name with
  | none => simp
  | some current =>
    simp only [Option.some.injEq, forall_eq', bind_eq_ok, rejectIf_eq_ok, orError_eq_ok]
    constructor
    · rintro ⟨_, _, higher, _⟩
      omega
    · intro higher
      have passes : checkStream (clearedStream observedEpoch current) = true :=
        store.streams.checked current (Table.mem_of_find? found)
      obtain ⟨streams, updated⟩ :=
        Table.updateKey_of_check (clearedStream observedEpoch) (fun _ => rfl) found passes
      exact ⟨_, (), by omega, streams, updated, rfl⟩

end Specifications

end PasswallNode.Sqlite
