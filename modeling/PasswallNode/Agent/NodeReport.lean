import PasswallNode.Agent.HostReporter
import PasswallNode.Sqlite.OutboxDrain

/-! The report of a round and its way onto the wire. -/

namespace PasswallNode.Agent

open Foundation Protocol State Sqlite

structure StreamState where
  applied : Version
  etag : String
  deriving DecidableEq, Repr

structure ListenerCounters where
  key : String
  present : Bool
  upBytes : Int
  downBytes : Int
  counterEpoch : Nat
  deriving DecidableEq, Repr

structure ClientCounters where
  key : String
  present : Bool
  upBytes : Int
  downBytes : Int
  counterEpoch : Nat
  gate : GateState
  liveIPs : List String
  deriving DecidableEq, Repr

/-- An enumeration is `none` for a nil slice: the encoder tells it from an empty one. Nothing here fills
`subjects`. -/
structure NodeReport where
  agentID : String
  protocolVersion : Int
  reportedAtMS : Int
  agentVersion : String
  coreEngine : String
  coreVersion : String
  coreState : String
  isPartial : Bool
  held : List (Stream × StreamState)
  capabilities : List String
  objects : Option (List ObjectStatus)
  listenerCounters : Option (List ListenerCounters)
  clients : Option (List ClientCounters)
  subjects : Option (List Bytes)
  issues : List Issue
  taskResults : List TaskResult
  host : Option HostObservation
  deriving DecidableEq, Repr

structure BuiltReport where
  report : NodeReport
  outboxIDs : List Int
  hostDropped : Bool
  deriving DecidableEq, Repr

def Issue.identity (issue : Issue) : String × String × String := (issue.code, issue.key, issue.detail)

def keepUnseen (kept : List Issue) (issue : Issue) : List Issue :=
  if Issue.identity issue ∈ kept.map Issue.identity then kept else kept ++ [issue]

def distinctIssues (issues : List Issue) : List Issue := issues.foldl keepUnseen []

section Wire

-- `json.Marshal` of a report.
variable (marshal : NodeReport → Except String Bytes)

def encodeReport (report : NodeReport) : Except Error Bytes :=
  match marshal report with
  | .ok body => .ok body
  | .error text => .error (.new s!"encode node report for wire-size check: {text}")

def NodeReport.withoutHost (report : NodeReport) : NodeReport := { report with host := none }

def NodeReport.outboxOnly (report : NodeReport) : NodeReport :=
  { report with isPartial := true, objects := none, listenerCounters := none, clients := none, subjects := none }

/-- The last resort: a partial report, so that the outbox is not trapped behind a large
enumeration. -/
def shedEnumerations (report : NodeReport) (hasOutbox : Bool) (maxBytes : Int) (droppedHost : Bool) :
    Except Error (NodeReport × Bool) := do
  rejectIf (report.isPartial = true ∨ hasOutbox = false) (.new s!"node report exceeds {maxBytes} bytes")
  let body ← encodeReport marshal report.outboxOnly
  rejectIf (maxBytes < body.length) (.new s!"partial node report exceeds {maxBytes} bytes")
  .ok (report.outboxOnly, droppedHost)

def fitReportToWire (report : NodeReport) (hasOutbox : Bool) (maxBytes : Int) :
    Except Error (NodeReport × Bool) := do
  let body ← encodeReport marshal report
  if body.length ≤ maxBytes then .ok (report, false)
  else if report.host.isSome then do
    let body ← encodeReport marshal report.withoutHost
    if body.length ≤ maxBytes then .ok (report.withoutHost, true)
    else shedEnumerations marshal report.withoutHost hasOutbox maxBytes true
  else shedEnumerations marshal report hasOutbox maxBytes false

def TooLarge (report : NodeReport) (maxBytes : Int) : Prop :=
  ∃ body, marshal report = .ok body ∧ maxBytes < body.length

structure Fitted (maxBytes : Int) (assembled sent : NodeReport) (hostDropped : Bool) : Prop where
  size : ∃ body, marshal sent = .ok body ∧ body.length ≤ maxBytes
  issues : sent.issues = assembled.issues
  taskResults : sent.taskResults = assembled.taskResults
  held : sent.held = assembled.held
  sample : (hostDropped = false ∧ sent.host = assembled.host) ∨
    (hostDropped = true ∧ assembled.host.isSome = true ∧ sent.host = none ∧ TooLarge marshal assembled maxBytes)
  enumerations : sent = { assembled with host := sent.host } ∨
    (sent = { assembled.outboxOnly with host := none } ∧ assembled.isPartial = false ∧
      TooLarge marshal assembled.withoutHost maxBytes)

variable {marshal} {report sent : NodeReport} {hasOutbox dropped after : Bool} {maxBytes : Int}

theorem encodeReport_eq_ok {body : Bytes} : encodeReport marshal report = .ok body ↔ marshal report = .ok body := by
  unfold encodeReport
  cases marshal report with
  | ok other => simp
  | error text => simp

theorem shedEnumerations_ok (large : TooLarge marshal report maxBytes)
    (done : shedEnumerations marshal report hasOutbox maxBytes dropped = .ok (sent, after)) :
    after = dropped ∧ sent = report.outboxOnly ∧ report.isPartial = false ∧ TooLarge marshal report maxBytes ∧
    ∃ body, marshal sent = .ok body ∧ body.length ≤ maxBytes := by
  obtain ⟨_, full, encoded⟩ := bind_eq_ok.mp done
  obtain ⟨body, wrote, small⟩ := bind_eq_ok.mp encoded
  obtain ⟨_, fits, same⟩ := bind_eq_ok.mp small
  cases same
  have whole := rejectIf_eq_ok.mp full
  rw [not_or, Bool.not_eq_true] at whole
  exact ⟨rfl, rfl, whole.1, large, body, encodeReport_eq_ok.mp wrote, Int.not_lt.mp (rejectIf_eq_ok.mp fits)⟩

theorem fitReportToWire_ok (done : fitReportToWire marshal report hasOutbox maxBytes = .ok (sent, dropped)) :
    Fitted marshal maxBytes report sent dropped := by
  obtain ⟨body, encoded, decided⟩ := bind_eq_ok.mp done
  have wrote := encodeReport_eq_ok.mp encoded
  split at decided
  · rename_i small
    cases decided
    exact ⟨⟨body, wrote, small⟩, rfl, rfl, rfl, .inl ⟨rfl, rfl⟩, .inl rfl⟩
  · rename_i large
    have excess : TooLarge marshal report maxBytes := ⟨body, wrote, Int.not_le.mp large⟩
    split at decided
    · rename_i sampled
      obtain ⟨lighter, encoded, decided⟩ := bind_eq_ok.mp decided
      have lightened := encodeReport_eq_ok.mp encoded
      split at decided
      · rename_i small
        cases decided
        exact ⟨⟨lighter, lightened, small⟩, rfl, rfl, rfl, .inr ⟨rfl, sampled, rfl, excess⟩, .inl rfl⟩
      · rename_i still
        obtain ⟨rfl, rfl, whole, left, fits⟩ := shedEnumerations_ok ⟨lighter, lightened, Int.not_le.mp still⟩ decided
        exact ⟨fits, rfl, rfl, rfl, .inr ⟨rfl, sampled, rfl, excess⟩, .inr ⟨rfl, whole, left⟩⟩
    · rename_i bare
      have same : report.withoutHost = report := by
        rw [Bool.not_eq_true, Option.isSome_eq_false_iff, Option.isNone_iff_eq_none] at bare
        rw [NodeReport.withoutHost, ← bare]
      obtain ⟨rfl, rfl, whole, left, fits⟩ := shedEnumerations_ok excess decided
      refine ⟨fits, rfl, rfl, rfl, .inl ⟨rfl, rfl⟩, .inr ⟨?_, whole, same ▸ left⟩⟩
      rw [← same]
      rfl

end Wire

section Contents

theorem keepUnseen_nodup {kept : List Issue} {issue : Issue} (distinct : (kept.map Issue.identity).Nodup) :
    ((keepUnseen kept issue).map Issue.identity).Nodup := by
  unfold keepUnseen
  split
  · exact distinct
  · rename_i fresh
    rw [List.map_append, List.nodup_append]
    refine ⟨distinct, List.nodup_singleton _, ?_⟩
    intro one present other last same
    rw [List.map_singleton, List.mem_singleton] at last
    exact fresh (last ▸ same ▸ present)

theorem subset_keepUnseen (kept : List Issue) (issue : Issue) : kept ⊆ keepUnseen kept issue := by
  unfold keepUnseen
  split
  · exact List.Subset.refl _
  · exact List.subset_append_left _ _

theorem identity_mem_keepUnseen (kept : List Issue) (issue : Issue) :
    Issue.identity issue ∈ (keepUnseen kept issue).map Issue.identity := by
  unfold keepUnseen
  split
  · assumption
  · simp

theorem distinctIssues_nodup (issues : List Issue) : ((distinctIssues issues).map Issue.identity).Nodup := by
  have folded : ∀ kept : List Issue, (kept.map Issue.identity).Nodup →
      ((issues.foldl keepUnseen kept).map Issue.identity).Nodup := by
    induction issues with
    | nil => exact fun _ distinct => distinct
    | cons first rest ih => exact fun kept distinct => ih _ (keepUnseen_nodup distinct)
  exact folded [] List.nodup_nil

theorem subset_foldl_keepUnseen (issues kept : List Issue) : kept ⊆ issues.foldl keepUnseen kept := by
  induction issues generalizing kept with
  | nil => exact List.Subset.refl _
  | cons first rest ih => exact List.Subset.trans (subset_keepUnseen kept first) (ih _)

theorem identity_mem_distinctIssues {issues : List Issue} {issue : Issue} (member : issue ∈ issues) :
    Issue.identity issue ∈ (distinctIssues issues).map Issue.identity := by
  obtain ⟨earlier, later, rfl⟩ := List.append_of_mem member
  rw [distinctIssues, List.foldl_append, List.foldl_cons]
  exact List.map_subset _ (subset_foldl_keepUnseen later _) (identity_mem_keepUnseen _ issue)

def Carries (pkg : Package) (report : NodeReport) (row : OutboxRow) : Prop :=
  match row.kind with
  | .issue => ∃ issue, pkg.decodeIssue row.payload = .ok issue ∧
      Issue.identity issue ∈ report.issues.map Issue.identity
  | .taskResult => ∃ result, pkg.decodeTaskResult row.payload = .ok result ∧ result ∈ report.taskResults

variable {pkg : Package} {batch : OutboxBatch}

theorem carries_of_pending {store : Store} {limit : Int} {report : NodeReport}
    (done : pendingOutbox pkg store limit = .ok batch) (issues : report.issues = distinctIssues batch.issues)
    (results : report.taskResults = batch.taskResults) {id : Int} (member : id ∈ batch.ids) :
    ∃ row ∈ undelivered store, row.id = id ∧ Carries pkg report row := by
  obtain ⟨rows, among, held⟩ := (pendingOutbox_collected done).payloads
  rw [held.ids] at member
  obtain ⟨row, listed, rfl⟩ := List.mem_map.mp member
  refine ⟨row, mem_selectedRows (among.subset listed), rfl, ?_⟩
  unfold Carries
  cases kind : row.kind with
  | issue =>
    obtain ⟨issue, present, decoded⟩ := forall₂_exists held.issues (List.mem_filter.mpr ⟨listed, decide_eq_true kind⟩)
    exact ⟨issue, decoded, issues ▸ identity_mem_distinctIssues present⟩
  | taskResult =>
    obtain ⟨result, present, decoded⟩ := forall₂_exists held.results (List.mem_filter.mpr ⟨listed, decide_eq_true kind⟩)
    exact ⟨result, decoded, results ▸ present⟩

end Contents

end PasswallNode.Agent
