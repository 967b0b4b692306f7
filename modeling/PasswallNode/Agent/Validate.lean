import PasswallNode.Corecatalog
import PasswallNode.Protocol.Documents

/-! The checks a document passes before it is stored. An error names the index of its entry. -/

namespace PasswallNode.Agent

open Foundation Protocol State

/-- A key the protocol package can read, or its complaint after the given context. -/
def requireRowID (parsed : Except String Nat) (context : String) : Except Error Unit :=
  match parsed with
  | .ok _ => .ok ()
  | .error text => .error (.new s!"{context}: {text}")

def validateCoverage (coverage : SegmentCounts) : Except Error Unit := do
  rejectIf (coverage.entries < 0 ∨ coverage.entriesStale < 0 ∨ coverage.subjects < 0)
    (.new "counts must be non-negative")
  rejectIf (coverage.entriesStale > coverage.entries)
    (.new s!"stale entries {coverage.entriesStale} exceed entries {coverage.entries}")

section Config

variable (catalog : Corecatalog.Catalog) (wire : Wire)

def validateCoreSelection (selection : CoreSelection) : Except Error Unit :=
  if selection.engine = "" ∧ selection.version = "" ∧ selection.allowRestrictedReality = false then
    .ok ()
  else do
    rejectIf (selection.engine = "" ∨ selection.version = "" ∨
        trimSpace selection.engine ≠ selection.engine ∨
        catalog.toLower selection.engine ≠ selection.engine)
      (.new "a canonical engine and exact version are required")
    let release ← Corecatalog.resolve catalog selection.engine selection.version
    rejectIf (release.requiresConfirmation = true ∧ selection.allowRestrictedReality = false)
      (.new s!"release {release.version} requires allow_restricted_reality")
    rejectIf (release.requiresConfirmation = false ∧ selection.allowRestrictedReality = true)
      (.new s!"allow_restricted_reality is invalid for unrestricted release {release.version}")

/-- The state is the index of the listener and the keys before it. -/
def validateListener (state : Nat × List String) (listener : Listener) :
    Except Error (Nat × List String) := do
  let (i, seen) := state
  rejectIf (listener.key = "") (.new s!"listener {i} has no key")
  requireRowID (wire.listenerRowID listener.key) s!"listener {i}"
  rejectIf (listener.key ∈ seen) (.new s!"listener key {listener.key} appears more than once")
  rejectIf (listener.config = []) (.new s!"listener {listener.key} has empty config")
  .ok (i + 1, seen ++ [listener.key])

def validateConfig : Option ConfigBody → Except Error Unit
  | none => .error (.new "config body is required")
  | some body => do
      withError (.within "config coverage") (validateCoverage body.coverage)
      withError (.within "config core") (validateCoreSelection catalog body.core)
      let _ ← forEach (validateListener wire) (0, []) body.listeners
      rejectIf (body.coverage.entries ≠ body.listeners.length)
        (.new s!"config coverage entries {body.coverage.entries} do not match {body.listeners.length} listeners")
      rejectIf (body.coverage.subjects ≠ 0) (.new "config coverage subjects must be zero")

/-- The state is the listeners attached before this one. -/
def validateAttachment (client : String) (seen : List String) (key : String) :
    Except Error (List String) := do
  requireRowID (wire.listenerRowID key) s!"client {client} attachment"
  rejectIf (key ∈ seen) (.new s!"client {client} attaches listener {key} more than once")
  .ok (seen ++ [key])

/-- The index of the client, the keys before it and their distinct subjects. -/
structure RosterScan where
  index : Nat
  seen : List String
  subjects : List String
  deriving DecidableEq, Repr

def validateClient (state : RosterScan) (client : Client) : Except Error RosterScan := do
  rejectIf (client.key = "" ∨ client.subject = "")
    (.new s!"client {state.index} requires client and subject keys")
  requireRowID (wire.clientRowID client.key) s!"client {state.index}"
  requireRowID (wire.subjectRowID client.subject) s!"client {client.key}"
  rejectIf (client.key ∈ state.seen) (.new s!"client key {client.key} appears more than once")
  rejectIf (client.expiresAtMS < 0) (.new s!"client {client.key} has negative expiry")
  rejectIf (client.credentials.flow ≠ "" ∧ client.credentials.flow ≠ "xtls-rprx-vision")
    (.new s!"client {client.key} has unsupported flow {client.credentials.flow.quote}")
  let _ ← forEach (validateAttachment wire client.key) [] client.listeners
  .ok ⟨state.index + 1, state.seen ++ [client.key],
    if client.subject ∈ state.subjects then state.subjects else state.subjects ++ [client.subject]⟩

def validateRoster : Option RosterBody → Except Error Unit
  | none => .error (.new "roster body is required")
  | some body => do
      rejectIf (body.minConfigVersion.committed = false) (.new "min_config_version is required")
      withError (.within "roster coverage") (validateCoverage body.coverage)
      let scan ← forEach (validateClient wire) ⟨0, [], []⟩ body.clients
      rejectIf (body.coverage.entries ≠ body.clients.length)
        (.new s!"roster coverage entries {body.coverage.entries} do not match {body.clients.length} clients")
      rejectIf (body.coverage.subjects ≠ scan.subjects.length)
        (.new (s!"roster coverage subjects {body.coverage.subjects} do not match " ++
          s!"{scan.subjects.length} distinct subjects"))

/-- The state is the index of the entry and the clients before it. -/
def validateQuota (state : Nat × List String) (quota : QuotaEntry) : Except Error (Nat × List String) := do
  let (i, seen) := state
  requireRowID (wire.clientRowID quota.client) s!"quota {i}"
  rejectIf (quota.client ∈ seen) (.new s!"quota client {quota.client} appears more than once")
  rejectIf (quota.baselineBytes < 0 ∨ ∃ headroom ∈ quota.headroomBytes, headroom < 0)
    (.new s!"quota client {quota.client} has negative bytes")
  rejectIf (decide (quota.periodEndsAtMS = 0) ≠ quota.nextPeriodHeadroomBytes.isNone)
    (.new s!"quota client {quota.client} has an incomplete next-period grant")
  rejectIf (quota.periodEndsAtMS < 0 ∨ ∃ next ∈ quota.nextPeriodHeadroomBytes, next < 0)
    (.new s!"quota client {quota.client} has a negative next-period grant")
  .ok (i + 1, seen ++ [quota.client])

/-- The state is the index of the entry and the subjects before it. -/
def validateShadow (state : Nat × List String) (shadow : IPShadowEntry) :
    Except Error (Nat × List String) := do
  let (i, seen) := state
  requireRowID (wire.subjectRowID shadow.subject) s!"ip_shadow {i}"
  rejectIf (shadow.subject ∈ seen) (.new s!"ip_shadow subject {shadow.subject} appears more than once")
  rejectIf (shadow.ipLimit < 0) (.new s!"ip_shadow subject {shadow.subject} has negative limit")
  .ok (i + 1, seen ++ [shadow.subject])

def validateDirectives : Option DirectivesBody → Except Error Unit
  | none => .error (.new "directives body is required")
  | some body => do
      rejectIf (body.forRosterVersion.committed = false) (.new "for_roster_version is required")
      withError (.within "directives coverage") (validateCoverage body.coverage)
      let _ ← forEach (validateQuota wire) (0, []) body.quota
      let (_, subjects) ← forEach (validateShadow wire) (0, []) body.ipShadow
      rejectIf (body.coverage.entries < body.quota.length)
        (.new (s!"directives aggregate coverage entries {body.coverage.entries} are fewer than " ++
          s!"{body.quota.length} local quota entries"))
      rejectIf (body.coverage.subjects < subjects.length)
        (.new (s!"directives aggregate coverage subjects {body.coverage.subjects} are fewer than " ++
          s!"{subjects.length} local IP-shadow subjects"))

end Config

end PasswallNode.Agent
