import PasswallNode.Foundation.Proc
import PasswallNode.State

/-! The methods of the store that a sync round calls, each one transaction. -/

namespace PasswallNode.State

open Foundation Protocol

inductive StoreCall where
  | stream (name : Stream)
  | saveStream (doc : StreamDocument)
  | clearStreamForHigherEpoch (name : Stream) (observedEpoch : Nat)
  | object (stream : Stream) (key : String)
  | saveObject (status : ObjectStatus) (updatedAtMS : Int)
  | objects
  | deleteObject (stream : Stream) (key : String)
  | ensureClient (identity : ClientIdentity) (atMS : Int)
  | clients
  | deleteClient (key : String)
  | applyQuota (key : String) (grant : QuotaGrant) (atMS : Int)
  | ensureListener (key : String) (atMS : Int)
  | listeners
  | deleteListener (key : String)
  | observeReferenceSkew (kind key : String) (version : Version)
  | clearReferenceSkew (kind key : String)
  deriving DecidableEq, Repr

abbrev StoreCall.Value : StoreCall → Type
  | .stream _ => StreamDocument
  | .object _ _ => ObjectStatus
  | .objects => List ObjectStatus
  | .clients => List ClientRuntime
  | .listeners => List ListenerRuntime
  | .observeReferenceSkew _ _ _ => Int
  | _ => Unit

abbrev StoreCall.Answer (call : StoreCall) : Type := Except Error call.Value

abbrev Transactions (α : Type) : Type := Proc StoreCall StoreCall.Answer Error α

/-- One transaction, whose error is the caller's unless it is looked at. -/
def transact (call : StoreCall) : Transactions call.Value := .call call .done

end PasswallNode.State
