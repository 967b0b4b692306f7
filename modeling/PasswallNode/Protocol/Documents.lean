import Mathlib.Data.List.Forall2
import PasswallNode.Protocol

/-! The three documents of a response and the functions that read and write them. Keys are the texts the wire
carries; `RowID` tells the well-formed ones. -/

namespace PasswallNode.Protocol

structure SegmentCounts where
  entries : Int
  entriesStale : Int
  subjects : Int
  deriving DecidableEq, Repr

structure Listener where
  key : String
  config : Bytes
  deriving DecidableEq, Repr

structure CoreSelection where
  engine : String
  version : String
  allowRestrictedReality : Bool
  deriving DecidableEq, Repr

structure ConfigBody where
  core : CoreSelection
  listeners : List Listener
  coverage : SegmentCounts
  deriving DecidableEq, Repr

structure Credential where
  username : String
  uuid : String
  password : String
  flow : String
  deriving DecidableEq, Repr

structure Client where
  key : String
  subject : String
  enabled : Bool
  expiresAtMS : Int
  credentials : Credential
  listeners : List String
  deriving DecidableEq, Repr

structure RosterBody where
  minConfigVersion : Version
  clients : List Client
  coverage : SegmentCounts
  deriving DecidableEq, Repr

structure IPShadowEntry where
  subject : String
  ipLimit : Int
  deriving DecidableEq, Repr

structure DirectivesBody where
  forRosterVersion : Version
  quota : List QuotaEntry
  ipShadow : List IPShadowEntry
  coverage : SegmentCounts
  deriving DecidableEq, Repr

/-- One stream's part of a response: bytes, or the word that nothing changed. -/
structure Segment (T : Type) where
  version : Version
  etag : String
  unchanged : Bool
  body : Option T
  deriving DecidableEq, Repr

structure SyncResponse where
  config : Segment ConfigBody
  roster : Segment RosterBody
  directives : Segment DirectivesBody
  tasks : List Task
  deriving DecidableEq, Repr

/-- `json.Marshal` and `json.Unmarshal` at one type. Errors are their texts. -/
structure Codec (T : Type) where
  marshal : T → Except String Bytes
  unmarshal : Bytes → Except String T

/-- Re-encoding a config may only change how the raw bytes of a listener are spelled. -/
def ConfigBody.Respells (body back : ConfigBody) : Prop :=
  back.core = body.core ∧ back.coverage = body.coverage ∧
    List.Forall₂ (fun old new : Listener => new.key = old.key ∧ (old.config ≠ [] → new.config ≠ []))
      body.listeners back.listeners

/-- Functions of the protocol package and of `encoding/json` that the agent calls on
documents and keys, with what they document. -/
structure Wire where
  jsonValid : Bytes → Bool
  config : Codec ConfigBody
  roster : Codec RosterBody
  directives : Codec DirectivesBody
  listenerRowID : String → Except String Nat
  clientRowID : String → Except String Nat
  subjectRowID : String → Except String Nat
  /-- Whether the applied and the offered entity tag name the same bytes. -/
  converged : String → String → Bool
  versionText : Version → String
  marshal_valid :
    (∀ body bytes, config.marshal body = .ok bytes → jsonValid bytes = true ∧ bytes ≠ []) ∧
    (∀ body bytes, roster.marshal body = .ok bytes → jsonValid bytes = true ∧ bytes ≠ []) ∧
    (∀ body bytes, directives.marshal body = .ok bytes → jsonValid bytes = true ∧ bytes ≠ [])
  config_decodes : ∀ body bytes, config.marshal body = .ok bytes →
    ∃ back, config.unmarshal bytes = .ok back ∧ body.Respells back
  roster_decodes : ∀ body bytes, roster.marshal body = .ok bytes → roster.unmarshal bytes = .ok body
  directives_decodes : ∀ body bytes, directives.marshal body = .ok bytes →
    directives.unmarshal bytes = .ok body
  listenerRowID_empty : ∀ id, listenerRowID "" ≠ .ok id
  clientRowID_empty : ∀ id, clientRowID "" ≠ .ok id
  rowIDs_apart : ∀ key id other, clientRowID key = .ok id → listenerRowID key ≠ .ok other

/-- A codec to evaluate examples with: it knows the listed bodies and writes the place of a
body in unary. -/
def Codec.table {T : Type} [DecidableEq T] (bodies : List T) : Codec T where
  marshal body :=
    if body ∈ bodies then .ok (List.replicate (bodies.idxOf body + 1) 0) else .error "unlisted body"
  unmarshal bytes :=
    match bodies[bytes.length - 1]? with
    | some body => .ok body
    | none => .error "unknown body"

variable {T : Type} {bodies : List T} {body : T} {bytes : Bytes}

theorem Codec.table_decodes [DecidableEq T] (encoded : (Codec.table bodies).marshal body = .ok bytes) :
    (Codec.table bodies).unmarshal bytes = .ok body := by
  simp only [Codec.table] at encoded ⊢
  split at encoded
  · rename_i listed
    cases encoded
    simp [List.getElem?_idxOf listed]
  · cases encoded

theorem Codec.table_ne_nil [DecidableEq T] (encoded : (Codec.table bodies).marshal body = .ok bytes) : bytes ≠ [] := by
  simp only [Codec.table] at encoded
  split at encoded
  · cases encoded
    simp
  · cases encoded

theorem ConfigBody.respells_refl (body : ConfigBody) : body.Respells body :=
  ⟨rfl, rfl, List.forall₂_same.mpr (fun _ _ => ⟨rfl, id⟩)⟩

/-- The number of a key that starts with the tag of its kind. -/
def tableRowID (tag : Char) (key : String) : Except String Nat :=
  if key.toList.head? = some tag then .ok key.length else .error "unknown key"

/-- The wire functions around such codecs. -/
def Wire.ofTables (configs : List ConfigBody) (rosters : List RosterBody)
    (directives : List DirectivesBody) : Wire where
  jsonValid := fun _ => true
  config := .table configs
  roster := .table rosters
  directives := .table directives
  listenerRowID := tableRowID 'l'
  clientRowID := tableRowID 'c'
  subjectRowID := tableRowID 's'
  converged := fun applied offered => decide (applied = offered)
  versionText := fun version => Nat.repr version.epoch ++ "/" ++ Nat.repr version.version
  marshal_valid := ⟨fun _ _ encoded => ⟨rfl, Codec.table_ne_nil encoded⟩,
    fun _ _ encoded => ⟨rfl, Codec.table_ne_nil encoded⟩,
    fun _ _ encoded => ⟨rfl, Codec.table_ne_nil encoded⟩⟩
  config_decodes := fun body _ encoded => ⟨body, Codec.table_decodes encoded, body.respells_refl⟩
  roster_decodes := fun _ _ encoded => Codec.table_decodes encoded
  directives_decodes := fun _ _ encoded => Codec.table_decodes encoded
  listenerRowID_empty := fun _ => by simp [tableRowID]
  clientRowID_empty := fun _ => by simp [tableRowID]
  rowIDs_apart := by
    intro key id other client
    simp only [tableRowID] at client ⊢
    split at client
    · next tag => simp [tag]
    · cases client

end PasswallNode.Protocol
