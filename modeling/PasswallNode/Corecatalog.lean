import PasswallNode.Foundation.Fallible
import PasswallNode.Foundation.Text
import PasswallNode.State

/-! The allowlist of core releases, without the review data. -/

namespace PasswallNode.Corecatalog

open Foundation State

def tierRecommended : String := "recommended"
def tierRestricted : String := "restricted"
def supportSupported : String := "supported"

structure Release where
  engine : String
  version : String
  tier : String
  selectable : Bool
  requiresConfirmation : Bool
  realityMihomo : String
  realitySingBox : String
  serverMinClientVer : String
  deriving DecidableEq, Repr

structure Catalog where
  load : Except Error (List Release)
  toLower : String → String

/-- `strings.TrimPrefix` of one character. -/
def trimFirst (c : Char) (text : String) : String :=
  match text.toList with
  | [] => text
  | first :: rest => if first = c then String.ofList rest else text

def canonicalNumber (part : List Char) : Bool :=
  part ≠ [] && part.all Char.isDigit && (part.length = 1 || part.head? ≠ some '0') &&
    decide ((part.foldl (fun n c => 10 * n + (c.toNat - '0'.toNat)) 0 : Nat) ≤ maxInt64.toNat)

def normalizeVersion (raw : String) : Except Error String := do
  let value := trimFirst 'V' (trimFirst 'v' (trimSpace raw))
  let parts := split '.' value.toList
  rejectIf (parts.length ≠ 3) (.new s!"core version {raw.quote} must be major.minor.patch")
  rejectIf (parts.all canonicalNumber = false) (.new s!"core version {raw.quote} is not canonical")
  .ok value

variable (catalog : Catalog)

def list (engine : String) : Except Error (List Release) := do
  let releases ← catalog.load
  let engine := catalog.toLower (trimSpace engine)
  .ok (releases.filter (fun release => decide (release.engine = engine) && release.selectable))

def resolve (engine version : String) : Except Error Release := do
  let normalized ← normalizeVersion version
  let releases ← list catalog engine
  orError (releases.find? (fun release => decide (release.version = normalized)))
    (.new s!"{engine} {normalized} is not in the selectable core catalog")

def recommended (engine : String) : Except Error Release := do
  let releases ← list catalog engine
  orError (releases.find? (fun release => decide (release.tier = tierRecommended)))
    (.new s!"{engine} has no recommended release")

end PasswallNode.Corecatalog
