import PasswallNode.ErrorText
import PasswallNode.Sqlite.TaskSpecs

/-! Issues on their way to the panel. -/

namespace PasswallNode.Agent

open Foundation Protocol State Sqlite

/-- An issue as the agent classifies it; `stream` is empty for an issue of no stream. -/
structure LocalIssue where
  kind : String
  stream : String
  key : String
  dedupeKey : String
  detail : String
  deriving DecidableEq, Repr

abbrev IssueMapper := LocalIssue → Except Error Issue

def defaultIssueMapper : IssueMapper := fun issue =>
  if issue.kind = "" then .error (.new "local issue kind is empty")
  else .ok ⟨issue.kind, issue.key, issue.detail⟩

def truncateUTF8 (value : String) (maxBytes : Nat) : String :=
  ErrorText.onText (fun bytes => ErrorText.truncateUTF8 bytes maxBytes) value

/-- `OutboxIssueSink.Record`. -/
def recordInOutbox (pkg : Package) (map : IssueMapper) (nowMS : Int) (store : Store) (issue : LocalIssue) :
    Except Error (Store × Bool) := do
  let context := s!"map local issue {issue.kind}"
  let mapped ← withError (.within context) (map issue)
  rejectIf (mapped.code = "") (.new s!"{context}: protocol code is empty")
  rejectIf (mapped.code.utf8ByteSize > pkg.maxIssueCodeBytes)
    (.new s!"{context}: protocol code exceeds {pkg.maxIssueCodeBytes} bytes")
  rejectIf (mapped.key.utf8ByteSize > pkg.maxIssueKeyBytes)
    (.new s!"{context}: protocol key exceeds {pkg.maxIssueKeyBytes} bytes")
  rejectIf (issue.dedupeKey = "") (.new s!"local issue {issue.kind} has no dedupe key")
  enqueueIssue pkg store issue.dedupeKey
    { mapped with detail := truncateUTF8 mapped.detail pkg.maxIssueDetailBytes } nowMS

variable {pkg : Package} {map : IssueMapper} {nowMS : Int} {store next : Store} {issue : LocalIssue}

theorem recordInOutbox_ok {created : Bool} (done : recordInOutbox pkg map nowMS store issue = .ok (next, created)) :
    ∃ mapped, EnqueueStep pkg store issue.dedupeKey mapped nowMS next created := by
  obtain ⟨mapped, _, named⟩ := bind_eq_ok.mp done
  obtain ⟨_, _, coded⟩ := bind_eq_ok.mp named
  obtain ⟨_, _, keyed⟩ := bind_eq_ok.mp coded
  obtain ⟨_, _, deduped⟩ := bind_eq_ok.mp keyed
  obtain ⟨_, _, queued⟩ := bind_eq_ok.mp deduped
  exact ⟨_, enqueueIssue_step queued⟩

end PasswallNode.Agent
