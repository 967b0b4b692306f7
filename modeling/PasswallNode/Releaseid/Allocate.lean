import PasswallNode.Releaseid.Tags

/-! Which number the next release of a line gets, from the tags that exist. The errors of a
candidate are their texts. -/

namespace PasswallNode.Releaseid

open Foundation

structure Line where
  major : Int
  minor : Int
  deriving DecidableEq, Repr

def Line.text (l : Line) : String := toString l.major ++ "." ++ toString l.minor

section Patch

def versionOnLine (tag : Tag) (line : Line) : Except Error (Option Version) :=
  if (tag.product.major : Int) ≠ line.major ∨ (tag.product.minor : Int) ≠ line.minor then .ok none
  else .ok (some tag.product)

def higherPatch (line : Line) (highest : Option Version) (raw : String) : Except Error (Option Version) :=
  match parseReleaseTag raw with
  | .error _ => .ok highest
  | .ok tag =>
    match versionOnLine tag line with
    | .error _ => .error .unknownFormat
    | .ok none => .ok highest
    | .ok (some version) =>
      if highest.all (fun highest => decide (compareProductVersion version highest > 0)) then .ok (some version)
      else .ok highest

/-- The next number is a build on the highest release of the line. -/
def allocatePatch (line : Line) (existing : List String) : Except Error Version := do
  match ← existing.foldlM (higherPatch line) none with
  | none => .error .unknownFormat
  | some highest =>
    if highest.build + 1 > maxSegment then .error .segmentRange
    else .ok ⟨highest.major, highest.minor, highest.patch, highest.build + 1, ""⟩

def candidateMax : Nat := maxSegment

def readCandidateTag (tag : String) : Option String := (parseReleaseTag tag).toOption.map Tag.versionString

def orderCandidate (a b : String) : Int :=
  let read (text : String) : Version := (parseProductVersion text).toOption.getD ⟨0, 0, 0, 0, ""⟩
  compareProductVersion (read a) (read b)

def higherCandidate (start highest tag : String) : String :=
  match readCandidateTag tag with
  | none => highest
  | some v =>
    if startsWith start v = true ∧ (highest = "" ∨ orderCandidate v highest > 0) then v else highest

def candidateBase (line : Line) (target highest : String) : Except String String :=
  let start := line.text ++ "."
  if target ≠ "" then
    if validVersion target = false ∨ '-' ∈ target.toList ∨ (split '.' target.toList).length ≠ 3 ∨
        startsWith start target = false then
      .error ("target must be a three-segment version on line " ++ line.text)
    else .ok target
  else if highest = "" then .ok (start ++ "0")
  else
    let (numeric, pre) := cut '-' highest.toList
    if pre.getD [] ≠ [] then .ok (String.ofList numeric)
    else
      let patch := decimal ((split '.' numeric)[2]?.getD [])
      if patch ≥ candidateMax then .error "patch exhausted"
      else .ok (start ++ Nat.repr (patch + 1))

def countCandidate (base stage : String) (next : Nat) (tag : String) : Except String Nat :=
  match readCandidateTag tag with
  | none => .ok next
  | some v =>
    if v = base ∨ startsWith (base ++ ".") v = true then
      .error (base ++ " is already released; select a newer target")
    else
      match cutStart (base ++ "-") v with
      | none => .ok next
      | some pre =>
        let (name, number) := cut '.' pre.toList
        if name = "rc".toList ∧ stage = "beta" then
          .error (base ++ " already reached rc; continue rc or select a newer target")
        else if name = stage.toList ∧ next ≤ decimal (number.getD []) then .ok (decimal (number.getD []) + 1)
        else .ok next

def allocateCandidate (line : Line) (stage target : String) (existing : List String) : Except String String := do
  rejectIf (line.major < 1 ∨ line.minor < 0 ∨ line.major > candidateMax ∨ line.minor > candidateMax)
    "invalid release line"
  rejectIf (stage ≠ "beta" ∧ stage ≠ "rc") "stage must be beta or rc"
  let highest := existing.foldl (higherCandidate (line.text ++ ".")) ""
  let base ← candidateBase line target highest
  let next ← existing.foldlM (countCandidate base stage) 1
  rejectIf (next > candidateMax) "prerelease counter exhausted"
  let result := base ++ "-" ++ stage ++ "." ++ Nat.repr next
  rejectIf (highest ≠ "" ∧ orderCandidate result highest ≤ 0)
    ("candidate " ++ result ++ " does not advance line " ++ line.text ++ " past " ++ highest)
  return result

/-- The tag is of a candidate of the base that is newer than the source. -/
def supersedes (base v tag : String) : Bool :=
  (readCandidateTag tag).any (fun other => startsWith (base ++ "-") other && decide (orderCandidate other v > 0))

def finalizes (base tag : String) : Bool :=
  (readCandidateTag tag).any (fun other => decide (other = base) || startsWith (base ++ ".") other)

/-- Keeps the base of a published candidate and takes it to the next stage. -/
def advanceRelease (source stage : String) (tags : List String) : Except String String := do
  let v ← orError ((readCandidateTag source).filter (fun v => startsWith "v" source && decide ('-' ∈ v.toList)))
    "source must be a numbered beta or rc release tag"
  let base := String.ofList (cut '-' v.toList).1
  let pre := String.ofList ((cut '-' v.toList).2.getD [])
  rejectIf ((split '.' base.toList).length ≠ 3) "source must have three segments"
  let newer := tags.find? (supersedes base v)
  rejectIf (newer.isSome = true)
    ("source is superseded by " ++ newer.getD "" ++ "; advance the newest candidate")
  if stage = "stable" then return base
  else do
    rejectIf (stage ≠ "rc" ∨ startsWith "beta." pre = false)
      "only beta to rc, beta to stable and rc to stable are allowed"
    rejectIf (tags.any (finalizes base) = true) "target already finalized"
    return base ++ "-rc.1"

end Patch

example : allocateCandidate ⟨4, 2⟩ "rc" "" ["v4.2.0-beta.3", "release/4.1.0", "junk"] = .ok "4.2.0-rc.1" := by
  decide +kernel

example : allocatePatch ⟨4, 1⟩ ["v4.1.0", "v4.1.0.2", "v4.2.0"] = .ok ⟨4, 1, 0, 3, ""⟩ := by decide +kernel

end PasswallNode.Releaseid
