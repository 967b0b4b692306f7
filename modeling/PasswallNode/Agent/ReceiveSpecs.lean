import PasswallNode.Agent.Receive
import PasswallNode.Sqlite.Transactions

/-! What receiving one segment does to the database: nothing, one accepted document, or one cleared version. -/

namespace PasswallNode.Agent

open Foundation Protocol State Sqlite

section Segment

variable {T : Type} {libs : Libraries} {codec : Codec T} {validate : Option T → Except Error Unit} {name : Stream}
  {segment : Segment T} {store : Store} {record : StoredStream} {acceptedAtMS : Int} {current : Option T}

def decodeError (name : Stream) (text : String) : Error :=
  .new s!"decode persisted {name.text} body: {text}"

theorem exec_optionalStoredBody_none (absent : store.streams.find? name = none) :
    exec (serve libs) store (optionalStoredBody codec name) = (store, .ok none) := by
  have missing : transaction libs store (.stream name) = .error (streamNotFound name) := by
    simp [transaction, query, stream, absent, orError, Except.map]
  have loads : exec (serve libs) store (do
      let body ← loadStoredBody codec name
      return some body) = (store, .error (streamNotFound name)) :=
    exec_bind_error (exec_transact_error missing)
  rw [optionalStoredBody, exec_catch_error loads]
  rfl

theorem transaction_stream (found : store.streams.find? name = some record) :
    transaction libs store (.stream name) = .ok (store, record.document) := by
  simp [transaction, query, stream, found, orError, Except.map]

theorem exec_optionalStoredBody_ok {body : T} (found : store.streams.find? name = some record)
    (decoded : codec.unmarshal record.document.body = .ok body) :
    exec (serve libs) store (optionalStoredBody codec name) = (store, .ok (some body)) := by
  have loads : exec (serve libs) store (loadStoredBody codec name) = (store, .ok body) := by
    rw [loadStoredBody, exec_transact_ok (transaction_stream found), decoded]
    rfl
  rw [optionalStoredBody, exec_catch_ok (exec_bind_ok loads)]

theorem exec_optionalStoredBody_error {text : String} (found : store.streams.find? name = some record)
    (garbled : codec.unmarshal record.document.body = .error text) :
    exec (serve libs) store (optionalStoredBody codec name) = (store, .error (decodeError name text)) := by
  have loads : exec (serve libs) store (loadStoredBody codec name) =
      (store, .error (decodeError name text)) := by
    rw [loadStoredBody, exec_transact_ok (transaction_stream found), garbled]
    rfl
  rw [optionalStoredBody, exec_catch_error (exec_bind_error loads)]
  rfl

/-- The segment says that nothing changed, in an epoch above the stored version but not above the floor. -/
def RepeatsEpoch (store : Store) (name : Stream) (segment : Segment T) : Prop :=
  segment.version.committed = true ∧ segment.etag ≠ "" ∧ segment.unchanged = true ∧
    segment.body = none ∧ ∃ record, store.streams.find? name = some record ∧
      record.document.version.epoch < segment.version.epoch ∧
        segment.version.epoch ≤ record.epochFloor

/-- The ends of receiving a segment when the stored body, if any, is `current`. -/
inductive SegmentEnd (libs : Libraries) (codec : Codec T) (name : Stream) (segment : Segment T)
    (acceptedAtMS : Int) (store : Store) (current : Option T) :
    Store × Except Error (ReceivedSegment T) → Prop where
  | refuse (err : Error) :
      SegmentEnd libs codec name segment acceptedAtMS store current
        (store, .ok (refused name current err))
  | keep : SegmentEnd libs codec name segment acceptedAtMS store current
      (store, .ok ⟨current, false, false, none⟩)
  | clear {next : Store}
      (cleared : clearStreamForHigherEpoch store name segment.version.epoch = .ok (next, ())) :
      SegmentEnd libs codec name segment acceptedAtMS store current
        (next, .ok ⟨current, false, true, none⟩)
  | abort {err : Error} (repeated : RepeatsEpoch store name segment) :
      SegmentEnd libs codec name segment acceptedAtMS store current (store, .error err)
  | accept {body : T} {bytes : Bytes} {next : Store} (changed : segment.unchanged = false)
      (carried : segment.body = some body) (encoded : codec.marshal body = .ok bytes)
      (saved : saveStream libs.lib libs.wire store
        ⟨name, segment.version, segment.etag, bytes, acceptedAtMS⟩ = .ok (next, ())) :
      SegmentEnd libs codec name segment acceptedAtMS store current
        (next, .ok ⟨some body, true, false, none⟩)

theorem receiveUnchanged_end (found : store.streams.find? name = some record)
    (announced : segment.version.committed = true ∧ segment.etag ≠ "" ∧ segment.unchanged = true ∧
      segment.body = none) :
    SegmentEnd libs codec name segment acceptedAtMS store current
    (exec (serve libs) store (receiveUnchanged libs.wire name segment current)) := by
  rw [receiveUnchanged, exec_transact_ok (transaction_stream found)]
  split
  · rename_i higher
    let call : StoreCall := .clearStreamForHigherEpoch name segment.version.epoch
    cases cleared : transaction libs store call with
    | ok pair =>
      rw [exec_transact_ok cleared]
      exact .clear cleared
    | error err =>
      rw [exec_transact_error cleared]
      refine .abort ⟨announced.1, announced.2.1, announced.2.2.1, announced.2.2.2, record, found, higher, ?_⟩
      by_contra above
      have clears : ∃ done, clearStreamForHigherEpoch store name segment.version.epoch = .ok done := by
        rw [clearStreamForHigherEpoch_isOk]
        intro current present
        rw [found] at present
        cases present
        omega
      obtain ⟨done, impossible⟩ := clears
      have both : Except.error err = Except.ok done := cleared.symm.trans impossible
      cases both
  · split
    · exact .refuse _
    · split
      · exact .refuse _
      · exact .keep

theorem receiveChanged_end {body : T} (changed : segment.unchanged = false) (carried : segment.body = some body) :
    SegmentEnd libs codec name segment acceptedAtMS store current (exec (serve libs) store
      (receiveChanged codec validate name segment current body acceptedAtMS)) := by
  unfold receiveChanged
  split
  · exact .refuse _
  · split
    · exact .refuse _
    · rename_i bytes encoded
      let doc : StreamDocument := ⟨name, segment.version, segment.etag, bytes, acceptedAtMS⟩
      cases saved : transaction libs store (.saveStream doc) with
      | ok pair =>
        rw [exec_catch_ok (exec_transact_ok saved)]
        exact .accept changed carried encoded saved
      | error err =>
        have class_ := saveStream_failsWith doc err saved
        have validation : isValidationError err = true := by
          simp only [isValidationError, Error.isSentinel, Bool.or_eq_true, decide_eq_true_eq]
          tauto
        rw [exec_catch_error (exec_transact_error saved), if_pos (by simp [validation])]
        exact .refuse _

theorem receiveSegment_end (loaded : exec (serve libs) store (optionalStoredBody codec name) = (store, .ok current))
    (stored : ∀ body, current = some body → ∃ record, store.streams.find? name = some record) :
    SegmentEnd libs codec name segment acceptedAtMS store current (exec (serve libs) store
      (receiveSegment libs.wire codec validate name segment acceptedAtMS)) := by
  rw [receiveSegment, exec_bind_ok loaded]
  split
  · exact .refuse _
  · rename_i committed
    split
    · exact .refuse _
    · rename_i tagged
      split
      · rename_i unchanged
        cases bare : segment.body with
        | some body => exact .refuse _
        | none =>
          cases current with
          | none => exact .refuse _
          | some body =>
            obtain ⟨record, found⟩ := stored body rfl
            exact receiveUnchanged_end found ⟨by simpa using committed, tagged, unchanged, bare⟩
      · rename_i changed
        split
        · exact .refuse _
        · rename_i body carried
          exact receiveChanged_end (by simpa using changed) carried

end Segment

end PasswallNode.Agent
