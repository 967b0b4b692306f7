import PasswallNode.Foundation.Text

/-! Release identities: three numeric segments with an optional `beta.N` or `rc.N`, and the
historical fourth segment. Of an error only its class is kept. -/

namespace PasswallNode.Releaseid

open Foundation

def maxSegment : Nat := 2147483647

inductive Error where
  | unknownFormat
  | segmentRange
  deriving DecidableEq, Repr

structure Version where
  major : Nat
  minor : Nat
  patch : Nat
  build : Nat
  prerelease : String
  deriving DecidableEq, Repr

def Version.text (v : Version) : String :=
  if 0 < v.build then
    Nat.repr v.major ++ "." ++ Nat.repr v.minor ++ "." ++ Nat.repr v.patch ++ "." ++ Nat.repr v.build
  else
    let base := Nat.repr v.major ++ "." ++ Nat.repr v.minor ++ "." ++ Nat.repr v.patch
    if v.prerelease = "" then base else base ++ "-" ++ v.prerelease

def decimal (digits : List Char) : Nat :=
  digits.foldl (fun n c => 10 * n + (c.toNat - '0'.toNat)) 0

def parseSegment (part : List Char) : Except Error Nat :=
  if part = [] ∨ part.any (fun c => !c.isDigit) ∨ (1 < part.length ∧ part.head? = some '0') then
    .error .unknownFormat
  else if decimal part > maxSegment then .error .segmentRange
  else .ok (decimal part)

def validPrerelease (pre : List Char) : Bool :=
  match cut '.' pre with
  | (_, none) => false
  | (stage, some number) =>
    (stage = "beta".toList || stage = "rc".toList) &&
      match parseSegment number with
      | .ok n => decide (0 < n)
      | .error _ => false

def parseProductVersion (text : String) : Except Error Version := do
  if text = "" then .error .unknownFormat
  let (base, pre) := cut '-' text.toList
  if pre.any (fun stage => !validPrerelease stage) then .error .unknownFormat
  let parts := split '.' base
  if pre.isSome ∧ parts.length ≠ 3 then .error .unknownFormat
  if parts.length > 4 then .error .unknownFormat
  let out ← parts.mapM parseSegment
  if parts.length = 4 ∧ out[3]? = some 0 then .error .unknownFormat
  return ⟨out[0]?.getD 0, out[1]?.getD 0, out[2]?.getD 0, out[3]?.getD 0, String.ofList (pre.getD [])⟩

/-- `beta.N < rc.N < stable`, with the counters compared as numbers; both are of parsed versions. -/
def comparePrerelease (a b : String) : Int :=
  if a = b then 0
  else if a = "" then 1
  else if b = "" then -1
  else
    let (stage, number) := cut '.' a.toList
    let (otherStage, otherNumber) := cut '.' b.toList
    if stage ≠ otherStage then if stage < otherStage then -1 else 1
    else if decimal (number.getD []) < decimal (otherNumber.getD []) then -1
    else 1

def compareProductVersion (a b : Version) : Int :=
  match [(a.major, b.major), (a.minor, b.minor), (a.patch, b.patch), (a.build, b.build)].find?
      (fun pair => decide (pair.1 ≠ pair.2)) with
  | some (left, right) => if left < right then -1 else 1
  | none => comparePrerelease a.prerelease b.prerelease

/-- An exact release, without a tag, build metadata or numeric shorthand. -/
def validVersion (value : String) : Bool :=
  let dots := (cut '-' value.toList).1.count '.'
  (dots = 2 || dots = 3) &&
    match parseProductVersion value with
    | .ok parsed => parsed.major ≠ 0 && parsed.text = value
    | .error _ => false

example : validVersion "4.1.4" = true ∧ validVersion "4.2.0-rc.1" = true := by decide

example : validVersion "4.1" = false ∧ validVersion "v4.1.4" = false ∧ validVersion "4.01.4" = false := by
  decide

end PasswallNode.Releaseid
