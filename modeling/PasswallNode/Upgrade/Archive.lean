import PasswallNode.Foundation.Json
import PasswallNode.Foundation.Paths
import PasswallNode.Upgrade.Types
import Mathlib.Data.List.Perm.Basic
import Mathlib.Data.List.Nodup

/-! The extraction of a downloaded release, whatever is in the archive. -/

namespace PasswallNode.Upgrade

open Foundation Protocol

structure Member where
  name : Path
  linkname : Path
  typeflag : UInt8
  size : Int
  content : Bytes

def typeReg : UInt8 := 48
def typeRegA : UInt8 := 0
def typeDir : UInt8 := 53

structure Archive where
  members : List Member
  complete : Bool

inductive ExtractCall where
  | openArchive
  | openGzip
  | context
  | create (path : Path)
  | copy (path : Path) (content : Bytes)
  | sync (path : Path)
  | close (path : Path)
  /-- The rest of the expanded bytes is read; there are only zeros, within the limit. -/
  | drain
  | chmod (path : Path)
  deriving DecidableEq

abbrev Extracting (α : Type) : Type := Proc ExtractCall (fun _ => Bool) Failure α

abbrev ExtractLog : Type := List (Event ExtractCall (fun _ => Bool))

def attemptCall (call : ExtractCall) : Extracting Bool := .call call (fun answer => .done (.ok answer))

def mustCall (call : ExtractCall) (err : Failure) : Extracting Unit :=
  .call call (fun answer => .done (rejectIf (answer = false) err))

def maxLicenseBytes : Int := 1048576
def maxArchiveMembers : Nat := 128

def binaryName : Path := textBytes "passwall-node"
def licenseName : Path := textBytes "LICENSE"
def noticeName : Path := textBytes "NOTICE"

def required (binaryLimit : Int64) : List (Path × Int) :=
  [(binaryName, binaryLimit.toInt), (licenseName, maxLicenseBytes), (noticeName, maxLicenseBytes)]

/-- `binaryLimit + 8<<20` in `int64`. -/
def expandedLimit (binaryLimit : Int64) : Int := (binaryLimit + 8388608).toInt

def Member.path (member : Member) : Path :=
  if member.name.getLast? = some slash then member.name.dropLast else member.name

/-- `strings.TrimPrefix(name, packageName+"/")`. -/
def withoutPackage (package name : Path) : Path :=
  if (package ++ [slash]).isPrefixOf name then name.drop (package.length + 1) else name

structure Extraction where
  entries : Nat
  seen : List Path
  found : List Path
  total : Int
  digest : String

section Extract

variable (sha256 : Bytes → String) (package dir : Path) (binaryLimit : Int64)

def Member.unsafeIn (member : Member) (seen : List Path) : Prop :=
  member.path = [] ∨ cleanPath member.path ≠ member.path ∨ (92 ∈ member.path ∨ 0 ∈ member.path) ∨
    (member.path ≠ package ∧ (package ++ [slash]).isPrefixOf member.path = false) ∨ member.path ∈ seen ∨
    member.linkname ≠ [] ∨ member.size < 0

instance (member : Member) (seen : List Path) : Decidable (member.unsafeIn package seen) := by
  unfold Member.unsafeIn
  infer_instance

/-- The checks on a header: the state with the member counted, and the required name and limit it is
wanted under. -/
def admitMember (state : Extraction) (member : Member) : Except Failure (Extraction × Option (Path × Int)) := do
  rejectIf (maxArchiveMembers ≤ state.entries)
    (.text "upgrade archive is invalid or contains too many entries")
  rejectIf (member.unsafeIn package state.seen) (.text "upgrade archive contains an unsafe or duplicate member")
  let state := { state with entries := state.entries + 1, seen := member.path :: state.seen }
  let name := withoutPackage package member.path
  if member.typeflag = typeDir then do
    rejectIf (member.size ≠ 0 ∨ ((required binaryLimit).lookup name).isSome)
      (.text "upgrade archive directory is malformed")
    return (state, none)
  else do
    rejectIf ((member.typeflag ≠ typeReg ∧ member.typeflag ≠ typeRegA) ∨ member.path ≠ member.name ∨
      member.path = package) (.text "upgrade archive contains a non-regular member")
    rejectIf (member.size > expandedLimit binaryLimit - state.total)
      (.text "upgrade expanded archive exceeds its limit")
    let state := { state with total := state.total + member.size }
    match (required binaryLimit).lookup name with
    | none => return (state, none)
    | some limit => do
        rejectIf (member.size ≤ 0 ∨ limit < member.size)
          (.text "upgrade required member must be a non-empty bounded regular file")
        return (state, some (name, limit))

def storeMember (name : Path) (member : Member) : Extracting Unit := do
  let target := joinPath dir name
  mustCall (.create target) (.text "create private upgrade archive member failed")
  let copied ← attemptCall (.copy target member.content)
  let synced ← attemptCall (.sync target)
  let closed ← attemptCall (.close target)
  Proc.done (rejectIf (copied = false ∨ (member.content.length : Int) ≠ member.size ∨ synced = false ∨ closed = false)
    (.text "write upgrade archive member failed"))

def extractMember (state : Extraction) (member : Member) : Extracting Extraction := do
  mustCall .context .cancelled
  let admitted ← (Proc.done (admitMember package binaryLimit state member) : Extracting _)
  match admitted.2 with
  | none => return admitted.1
  | some wanted => do
      storeMember dir wanted.1 member
      return { admitted.1 with
        found := wanted.1 :: admitted.1.found
        digest := if wanted.1 = binaryName then sha256 member.content else admitted.1.digest }

def extractRelease (archive : Archive) : Extracting String := do
  mustCall .openArchive (.text "open staged upgrade archive failed")
  mustCall .openGzip (.text "open upgrade gzip archive failed")
  let state ← Proc.each (extractMember sha256 package dir binaryLimit) ⟨0, [], [], 0, ""⟩ archive.members
  mustCall .context .cancelled
  Proc.done (rejectIf (archive.complete = false) (.text "upgrade archive is invalid or contains too many entries"))
  Proc.done (rejectIf (∃ entry ∈ required binaryLimit, entry.1 ∉ state.found)
    (.text "upgrade archive is missing a required member"))
  mustCall .drain (.text "upgrade gzip integrity verification failed")
  mustCall (.chmod (joinPath dir binaryName)) (.text "mark private upgrade binary executable failed")
  return state.digest

end Extract

def Member.regular (member : Member) : Bool := decide (member.typeflag ≠ typeDir)

def regularBytes (members : List Member) : Int :=
  members.foldr (fun member total => if member.regular then member.size + total else total) 0

def created (log : ExtractLog) : List Path :=
  log.filterMap (fun event =>
    match event.op with
    | .create path => some path
    | _ => none)

theorem created_append (first second : ExtractLog) : created (first ++ second) = created first ++ created second :=
  List.filterMap_append

section Calls

variable {allowed : ExtractCall → Prop} {α β : Type} {log : ExtractLog} {call : ExtractCall} {name : Path}
  {err : Failure} {u : Unit} {entry : Path × Int} {sha256 : Bytes → String} {package dir : Path} {binaryLimit : Int64}
  {state next : Extraction} {member : Member} {final : Extraction} {members : List Member} {archive : Archive}
  {digest : String}

theorem uses_mustCall (permitted : allowed call) :
    Uses allowed (mustCall call err) := uses_call.mpr ⟨permitted, fun _ => uses_done _⟩

theorem uses_attemptCall (permitted : allowed call) : Uses allowed (attemptCall call) :=
  uses_call.mpr ⟨permitted, fun _ => uses_done _⟩

theorem reaches_mustCall (reached : Proc.Reaches (mustCall call err) log (.done (.ok u))) :
    log = [⟨call, true⟩] := by
  cases reached with
  | @step _ _ answer _ _ reached =>
    obtain ⟨rfl, accepted⟩ := reached.of_done
    rw [rejectIf_eq_ok, Bool.not_eq_false] at accepted
    rw [accepted]

theorem reaches_attemptCall {answer : Bool} (reached : Proc.Reaches (attemptCall call) log (.done (.ok answer))) :
    log = [⟨call, answer⟩] := by
  cases reached with
  | step reached =>
    obtain ⟨rfl, same⟩ := reached.of_done
    cases same
    rfl

structure Admissible (package : Path) (member : Member) : Prop where
  below : Below package member.path
  link : member.linkname = []
  kind : member.typeflag ∈ [typeDir, typeReg, typeRegA]

structure Origin (package dir : Path) (log : ExtractLog) (entry : Path × Int) (member : Member) : Prop where
  name : member.name = package ++ slash :: entry.1
  path : member.path = member.name
  regular : member.typeflag = typeReg ∨ member.typeflag = typeRegA
  positive : 0 < member.size
  bounded : member.size ≤ entry.2
  whole : (member.content.length : Int) = member.size
  written : ⟨.copy (joinPath dir entry.1) member.content, true⟩ ∈ log

theorem below_package (ordinary : Ordinary package) (safe : ¬member.unsafeIn package state.seen) :
    Below package member.path ∧ (member.path = package ∨
    member.path = package ++ slash :: withoutPackage package member.path) := by
  simp only [Member.unsafeIn, not_or, not_and, not_not] at safe
  obtain ⟨-, clean, -, inside, -⟩ := safe
  by_cases same : member.path = package
  · exact ⟨⟨[], fun _ none => absurd none List.not_mem_nil, by simp [same]⟩, .inl same⟩
  · have begins := (Bool.not_eq_false _).mp (inside same)
    obtain ⟨rest, eq⟩ := List.isPrefixOf_iff_prefix.mp begins
    rw [List.append_assoc, List.singleton_append] at eq
    refine ⟨eq ▸ below_of_clean ordinary (eq.symm ▸ clean), .inr ?_⟩
    rw [withoutPackage, if_pos begins, ← eq]
    simp

theorem withoutPackage_slash (package name : Path) : withoutPackage package (package ++ slash :: name) = name := by
  have begins : (package ++ [slash]).isPrefixOf (package ++ slash :: name) = true :=
    List.isPrefixOf_iff_prefix.mpr ⟨name, by simp⟩
  rw [withoutPackage, if_pos begins]
  simp

theorem mem_of_lookup {limit : Int} {entries : List (Path × Int)} (found : entries.lookup name = some limit) :
    (name, limit) ∈ entries := by
  induction entries with
  | nil => cases found
  | cons entry rest ih =>
    rw [List.lookup_cons] at found
    split at found
    · next same =>
        cases found
        rw [eq_of_beq same]
        exact List.mem_cons_self
    · exact List.mem_cons_of_mem _ (ih found)

theorem admitMember_cases {wanted : Option (Path × Int)}
    (admitted : admitMember package binaryLimit state member = .ok (next, wanted)) :
    ¬member.unsafeIn package state.seen ∧ next.seen = member.path :: state.seen ∧ next.found = state.found ∧
    next.digest = state.digest ∧ (member.typeflag = typeDir ∧ next.total = state.total ∧ wanted = none ∧
        (required binaryLimit).lookup (withoutPackage package member.path) = none ∨
      (member.typeflag = typeReg ∨ member.typeflag = typeRegA) ∧ member.path = member.name ∧
        member.path ≠ package ∧ next.total = state.total + member.size ∧ next.total ≤ expandedLimit binaryLimit ∧
        (wanted = none ∧ (required binaryLimit).lookup (withoutPackage package member.path) = none ∨
          ∃ limit, wanted = some (withoutPackage package member.path, limit) ∧
            (required binaryLimit).lookup (withoutPackage package member.path) = some limit ∧ 0 < member.size ∧
            member.size ≤ limit)) := by
  unfold admitMember at admitted
  obtain ⟨_, -, admitted⟩ := bind_eq_ok.mp admitted
  obtain ⟨_, safe, admitted⟩ := bind_eq_ok.mp admitted
  refine ⟨rejectIf_eq_ok.mp safe, ?_⟩
  by_cases directory : member.typeflag = typeDir
  · rw [if_pos directory] at admitted
    obtain ⟨_, plain, done⟩ := bind_eq_ok.mp admitted
    cases done
    simp only [rejectIf_eq_ok, not_or, Bool.not_eq_true, Option.isSome_eq_false_iff, Option.isNone_iff_eq_none] at plain
    exact ⟨rfl, rfl, rfl, .inl ⟨directory, rfl, rfl, plain.2⟩⟩
  · rw [if_neg directory] at admitted
    obtain ⟨_, kind, admitted⟩ := bind_eq_ok.mp admitted
    obtain ⟨_, fits, admitted⟩ := bind_eq_ok.mp admitted
    simp only [rejectIf_eq_ok, not_or, not_and_or, not_not, Int.not_lt] at kind fits
    have within : state.total + member.size ≤ expandedLimit binaryLimit := by omega
    split at admitted
    · next absent =>
        cases admitted
        exact ⟨rfl, rfl, rfl, .inr ⟨kind.1, kind.2.1, kind.2.2, rfl, within, .inl ⟨rfl, absent⟩⟩⟩
    · next limit found =>
        obtain ⟨_, sized, done⟩ := bind_eq_ok.mp admitted
        cases done
        simp only [rejectIf_eq_ok, not_or, Int.not_le, Int.not_lt] at sized
        exact ⟨rfl, rfl, rfl,
          .inr ⟨kind.1, kind.2.1, kind.2.2, rfl, within, .inr ⟨limit, rfl, found, sized.1, sized.2⟩⟩⟩

theorem reaches_storeMember (reached : Proc.Reaches (storeMember dir name member) log (.done (.ok u))) :
    (member.content.length : Int) = member.size ∧ ⟨.copy (joinPath dir name) member.content, true⟩ ∈ log ∧
    created log = [joinPath dir name] := by
  obtain ⟨_, _, _, rfl, opened, reached⟩ := reached.through
  obtain ⟨_, copied, _, rfl, copies, reached⟩ := reached.through
  obtain ⟨_, synced, _, rfl, syncs, reached⟩ := reached.through
  obtain ⟨_, closed, _, rfl, closes, reached⟩ := reached.through
  obtain ⟨rfl, accepted⟩ := reached.of_done
  simp only [rejectIf_eq_ok, not_or, Bool.not_eq_false, not_not] at accepted
  rw [reaches_mustCall opened, reaches_attemptCall copies, reaches_attemptCall syncs, reaches_attemptCall closes,
    accepted.1]
  exact ⟨accepted.2.1, by simp, by simp [created]⟩

structure Passed (sha256 : Bytes → String) (package dir : Path) (binaryLimit : Int64) (state : Extraction)
    (member : Member) (log : ExtractLog) (next : Extraction) : Prop where
  admissible : Admissible package member
  fresh : member.path ∉ state.seen
  seen : next.seen = member.path :: state.seen
  total : next.total = state.total + regularBytes [member]
  bounded : next.total = state.total ∨ next.total ≤ expandedLimit binaryLimit
  outcome : (member.path ≠ package ++ slash :: binaryName ∧ next.found = state.found ∧ next.digest = state.digest ∧
      created log = []) ∨
    ∃ entry ∈ required binaryLimit, Origin package dir log entry member ∧ next.found = entry.1 :: state.found ∧
      created log = [joinPath dir entry.1] ∧
      next.digest = if entry.1 = binaryName then sha256 member.content else state.digest

theorem reaches_extractMember (ordinary : Ordinary package)
    (reached : Proc.Reaches (extractMember sha256 package dir binaryLimit state member) log (.done (.ok next))) :
    Passed sha256 package dir binaryLimit state member log next := by
  obtain ⟨_, _, _, rfl, checked, reached⟩ := reached.through
  obtain ⟨_, ⟨middle, wanted⟩, _, rfl, admitted, reached⟩ := reached.through
  obtain ⟨rfl, accepted⟩ := admitted.of_done
  obtain ⟨safe, seen, found, digest, kinds⟩ := admitMember_cases accepted
  obtain ⟨below, shape⟩ := below_package ordinary safe
  simp only [Member.unsafeIn, not_or, not_not] at safe
  obtain ⟨-, -, -, -, fresh, link, -⟩ := safe
  rw [reaches_mustCall checked]
  -- A member that is not wanted is not the binary.
  have other (absent : (required binaryLimit).lookup (withoutPackage package member.path) = none) :
      member.path ≠ package ++ slash :: binaryName := by
    intro same
    rw [same, withoutPackage_slash] at absent
    simp [required] at absent
  rcases kinds with ⟨directory, total, rfl, absent⟩ | ⟨kind, plain, named, total, within, wants⟩
  · obtain ⟨rfl, same⟩ := reached.of_done
    cases same
    have bytes : regularBytes [member] = 0 := by simp [regularBytes, Member.regular, directory]
    exact ⟨⟨below, link, by simp [directory]⟩, fresh, seen, total.trans (by rw [bytes, Int.add_zero]), .inl total,
      .inl ⟨other absent, found, digest, rfl⟩⟩
  · have regular : member.typeflag ≠ typeDir := by
      rcases kind with kind | kind <;> rw [kind] <;> decide
    have bytes : regularBytes [member] = member.size := by simp [regularBytes, Member.regular, regular]
    have listed : member.typeflag ∈ [typeDir, typeReg, typeRegA] := by
      rcases kind with kind | kind <;> simp [kind]
    rcases wants with ⟨rfl, absent⟩ | ⟨limit, rfl, present, positive, bounded⟩
    · obtain ⟨rfl, same⟩ := reached.of_done
      cases same
      exact ⟨⟨below, link, listed⟩, fresh, seen, bytes ▸ total, .inr within, .inl ⟨other absent, found, digest, rfl⟩⟩
    · obtain ⟨stored, _, _, rfl, stores, reached⟩ := reached.through
      obtain ⟨rfl, same⟩ := reached.of_done
      cases same
      obtain ⟨whole, written, makes⟩ := reaches_storeMember stores
      refine ⟨⟨below, link, listed⟩, fresh, seen, bytes ▸ total, .inr within,
        .inr ⟨(withoutPackage package member.path, limit), mem_of_lookup present, ?_, by simp [found],
          ?_, by rw [digest]⟩⟩
      · exact ⟨plain ▸ shape.resolve_left named, plain, kind, positive, bounded, whole, by simp [written]⟩
      · simpa [created] using makes

structure Extracted (sha256 : Bytes → String) (package dir : Path) (binaryLimit : Int64) (state : Extraction)
    (members : List Member) (log : ExtractLog) (final : Extraction) : Prop where
  admissible : ∀ member ∈ members, Admissible package member
  fresh : ∀ member ∈ members, member.path ∉ state.seen
  distinct : (members.map Member.path).Nodup
  total : final.total = state.total + regularBytes members
  bounded : final.total = state.total ∨ final.total ≤ expandedLimit binaryLimit
  found : ∃ names : List Path, final.found = names ++ state.found ∧ names.Nodup ∧
    created log = names.reverse.map (joinPath dir) ∧
    ∀ name ∈ names, ∃ limit, (name, limit) ∈ required binaryLimit ∧
      ∃ member ∈ members, Origin package dir log (name, limit) member
  digest : ∀ member ∈ members, member.path = package ++ slash :: binaryName → final.digest = sha256 member.content
  kept : (∀ member ∈ members, member.path ≠ package ++ slash :: binaryName) → final.digest = state.digest

theorem Origin.within {member : Member} {more : ExtractLog} (origin : Origin package dir log entry member)
    (part : ∀ event ∈ log, event ∈ more) : Origin package dir more entry member :=
  { origin with written := part _ origin.written }

theorem Origin.binary_iff {member : Member} (origin : Origin package dir log entry member) :
    member.path = package ++ slash :: binaryName ↔ entry.1 = binaryName := by
  rw [origin.path, origin.name, List.append_cancel_left_eq, List.cons.injEq]
  simp

theorem extracted_cons {member : Member} {middle : Extraction} {later : ExtractLog}
    (passed : Passed sha256 package dir binaryLimit state member log middle)
    (extracted : Extracted sha256 package dir binaryLimit middle members later final) :
    Extracted sha256 package dir binaryLimit state (member :: members) (log ++ later) final := by
  have others : ∀ other ∈ members, other.path ≠ member.path := fun other inside same =>
    extracted.fresh other inside (passed.seen ▸ same ▸ List.mem_cons_self)
  obtain ⟨names, found, once, makes, origins⟩ := extracted.found
  have lifted : ∀ name ∈ names, ∃ limit, (name, limit) ∈ required binaryLimit ∧
      ∃ source ∈ member :: members, Origin package dir (log ++ later) (name, limit) source := by
    intro name inside
    obtain ⟨limit, listed, source, mem, origin⟩ := origins name inside
    exact ⟨limit, listed, source, List.mem_cons_of_mem _ mem, origin.within (fun _ => List.mem_append_right _)⟩
  refine ⟨List.forall_mem_cons.mpr ⟨passed.admissible, extracted.admissible⟩, ?_, ?_, ?_, ?_, ?_, ?_, ?_⟩
  · refine List.forall_mem_cons.mpr ⟨passed.fresh, fun other inside seen => ?_⟩
    exact extracted.fresh other inside (passed.seen ▸ List.mem_cons_of_mem _ seen)
  · refine List.nodup_cons.mpr ⟨fun again => ?_, extracted.distinct⟩
    obtain ⟨other, inside, same⟩ := List.mem_map.mp again
    exact others other inside same
  · have one := passed.total
    have rest := extracted.total
    simp only [regularBytes, List.foldr_cons, List.foldr_nil] at one rest ⊢
    cases regular : member.regular <;> simp [regular] at one ⊢ <;> omega
  · rcases extracted.bounded with same | within
    · rw [same]
      exact passed.bounded
    · exact .inr within
  · rcases passed.outcome with ⟨-, same, -, none⟩ | ⟨entry, listed, origin, adds, makesOne, -⟩
    · exact ⟨names, found.trans (by rw [same]), once, by rw [created_append, none, makes, List.nil_append], lifted⟩
    · refine ⟨names ++ [entry.1], by rw [found, adds]; simp, ?_, ?_, ?_⟩
      · refine List.nodup_append.mpr ⟨once, List.nodup_singleton _, fun name inside other last same => ?_⟩
        obtain ⟨_, -, source, mem, earlier⟩ := origins name inside
        apply others source mem
        rw [earlier.path, earlier.name, origin.path, origin.name, same, List.mem_singleton.mp last]
      · rw [created_append, makesOne, makes]
        simp
      · intro name inside
        rcases List.mem_append.mp inside with earlier | last
        · exact lifted name earlier
        · rw [List.mem_singleton.mp last]
          exact ⟨entry.2, listed, member, List.mem_cons_self, origin.within (fun _ => List.mem_append_left _)⟩
  · refine List.forall_mem_cons.mpr ⟨fun binary => ?_, extracted.digest⟩
    rw [extracted.kept (fun other inside same => others other inside (same.trans binary.symm))]
    rcases passed.outcome with ⟨different, -⟩ | ⟨entry, -, origin, -, -, digest⟩
    · exact absurd binary different
    · rw [digest, if_pos (origin.binary_iff.mp binary)]
  · intro different
    obtain ⟨first, rest⟩ := List.forall_mem_cons.mp different
    rw [extracted.kept rest]
    rcases passed.outcome with ⟨-, -, same, -⟩ | ⟨entry, -, origin, -, -, digest⟩
    · exact same
    · rw [digest, if_neg (fun binary => first (origin.binary_iff.mpr binary))]

theorem reaches_members (ordinary : Ordinary package)
    (reached : Proc.Reaches (Proc.each (extractMember sha256 package dir binaryLimit) state members) log
    (.done (.ok final))) : Extracted sha256 package dir binaryLimit state members log final := by
  induction members generalizing state log with
  | nil =>
    obtain ⟨rfl, same⟩ := Proc.Reaches.of_done reached
    cases same
    exact ⟨nofun, nofun, List.nodup_nil, by simp [regularBytes], .inl rfl, ⟨[], rfl, List.nodup_nil, rfl, nofun⟩,
      nofun, fun _ => rfl⟩
  | cons member rest ih =>
    obtain ⟨_, middle, _, rfl, first, later⟩ := Proc.Reaches.through reached
    exact extracted_cons (reaches_extractMember ordinary first) (ih later)

def OnlyRequired (dir : Path) : ExtractCall → Prop
  | .create path => path ∈ [binaryName, licenseName, noticeName].map (joinPath dir)
  | _ => True

theorem uses_storeMember {member : Member} (listed : name ∈ [binaryName, licenseName, noticeName]) :
    Uses (OnlyRequired dir) (storeMember dir name member) := by
  refine uses_bind (uses_mustCall (List.mem_map_of_mem listed)) (fun _ => ?_)
  refine uses_bind (uses_attemptCall trivial) (fun _ => uses_bind (uses_attemptCall trivial) (fun _ => ?_))
  exact uses_bind (uses_attemptCall trivial) (fun _ => uses_done _)

theorem uses_extractRelease (archive : Archive) :
    Uses (OnlyRequired dir) (extractRelease sha256 package dir binaryLimit archive) := by
  refine uses_bind (uses_mustCall trivial) (fun _ => uses_bind (uses_mustCall trivial) (fun _ => ?_))
  refine uses_bind (uses_each (fun state member => ?_) _ _) (fun final => ?_)
  · refine uses_bind (uses_mustCall trivial) (fun _ => ?_)
    cases admitted : admitMember package binaryLimit state member with
    | error err => exact uses_done _
    | ok result =>
      obtain ⟨next, wanted⟩ := result
      obtain ⟨-, -, -, -, kinds⟩ := admitMember_cases admitted
      cases wanted with
      | none => exact uses_done _
      | some entry =>
        change Uses _ (storeMember dir entry.1 member >>= _)
        refine uses_bind (uses_storeMember ?_) (fun _ => uses_done _)
        rcases kinds with ⟨-, -, impossible, -⟩ | ⟨-, -, -, -, -, ⟨impossible, -⟩ | ⟨limit, same, found, -⟩⟩
        · cases impossible
        · cases impossible
        · cases same
          exact List.mem_map.mpr ⟨_, mem_of_lookup found, rfl⟩
  · refine uses_bind (uses_mustCall trivial)
      (fun _ => uses_bind (uses_done _) (fun _ => uses_bind (uses_done _) (fun _ => ?_)))
    exact uses_bind (uses_mustCall trivial) (fun _ => uses_bind (uses_mustCall trivial) (fun _ => uses_done _))

structure Delivered (sha256 : Bytes → String) (package dir : Path) (binaryLimit : Int64) (members : List Member)
    (log : ExtractLog) (digest : String) : Prop where
  admissible : ∀ member ∈ members, Admissible package member
  distinct : (members.map Member.path).Nodup
  bounded : regularBytes members ≤ binaryLimit.toInt + 8388608
  created : (created log).Perm ([binaryName, licenseName, noticeName].map (joinPath dir))
  origin : ∀ entry ∈ required binaryLimit, ∃ member ∈ members, Origin package dir log entry member
  digest : ∀ member ∈ members, member.path = package ++ slash :: binaryName → digest = sha256 member.content

theorem expandedLimit_le (binaryLimit : Int64) : expandedLimit binaryLimit ≤ binaryLimit.toInt + 8388608 := by
  have low := binaryLimit.le_toInt
  have eight : (8388608 : Int64).toInt = 8388608 := by decide
  rw [expandedLimit, Int64.toInt_add, eight]
  grind [Int.bmod_def]

theorem delivered_of_reaches (ordinary : Ordinary package)
    (reached : Proc.Reaches (extractRelease sha256 package dir binaryLimit archive) log (.done (.ok digest))) :
    Delivered sha256 package dir binaryLimit archive.members log digest := by
  obtain ⟨_, _, _, rfl, opened, reached⟩ := reached.through
  obtain ⟨_, _, _, rfl, unzipped, reached⟩ := reached.through
  obtain ⟨inner, final, _, rfl, looped, reached⟩ := reached.through
  obtain ⟨_, _, _, rfl, checked, reached⟩ := reached.through
  obtain ⟨_, _, _, rfl, ended, reached⟩ := reached.through
  obtain ⟨_, _, _, rfl, complete, reached⟩ := reached.through
  obtain ⟨_, _, _, rfl, drained, reached⟩ := reached.through
  obtain ⟨_, _, _, rfl, marked, reached⟩ := reached.through
  obtain ⟨rfl, same⟩ := reached.of_done
  obtain ⟨rfl, -⟩ := ended.of_done
  obtain ⟨rfl, nothing⟩ := complete.of_done
  cases same
  have extracted := reaches_members ordinary looped
  rw [reaches_mustCall opened, reaches_mustCall unzipped, reaches_mustCall checked, reaches_mustCall drained,
    reaches_mustCall marked]
  obtain ⟨names, found, once, makes, origins⟩ := extracted.found
  rw [List.append_nil] at found
  simp only [rejectIf_eq_ok, not_exists, not_and, not_not, found] at nothing
  have unique : ((required binaryLimit).map Prod.fst).Nodup := by
    change [binaryName, licenseName, noticeName].Nodup
    decide
  have sources : ∀ entry ∈ required binaryLimit, ∃ member ∈ archive.members, Origin package dir inner entry member := by
    intro entry listed
    obtain ⟨limit, again, source⟩ := origins entry.1 (nothing entry listed)
    have same : entry = (entry.1, limit) := List.inj_on_of_nodup_map unique listed again rfl
    rw [same]
    exact source
  refine ⟨extracted.admissible, extracted.distinct, ?_, ?_, ?_, extracted.digest⟩
  · obtain ⟨binary, -, origin⟩ := sources (binaryName, binaryLimit.toInt) (by simp [required])
    have limit := expandedLimit_le binaryLimit
    have total := extracted.total
    have positive := origin.positive
    have small := origin.bounded
    rcases extracted.bounded with none | within
    · simp only at *
      omega
    · simp only at *
      omega
  · have same : names.Perm [binaryName, licenseName, noticeName] := by
      refine (List.perm_ext_iff_of_nodup once (by decide)).mpr (fun name => ⟨fun inside => ?_, fun listed => ?_⟩)
      · obtain ⟨limit, listed, -⟩ := origins name inside
        exact List.mem_map.mpr (⟨_, listed, rfl⟩ : ∃ entry ∈ required binaryLimit, entry.1 = name)
      · obtain ⟨entry, inside, rfl⟩ := List.mem_map.mp (show name ∈ (required binaryLimit).map Prod.fst from listed)
        exact nothing entry inside
    have kept : created inner = names.reverse.map (joinPath dir) := makes
    simp only [created, List.filterMap_append, List.filterMap_cons, List.filterMap_nil, List.nil_append,
      List.append_nil] at kept ⊢
    rw [kept]
    exact (names.reverse_perm.trans same).map _
  · intro entry listed
    obtain ⟨member, inside, origin⟩ := sources entry listed
    exact ⟨member, inside, origin.within (fun event logged => by simp [logged])⟩

/-- Whatever is in the archive, only the three files are created; a release that is extracted has
all of them, each from the one member of its name. -/
theorem extracted_release_delivers (sha256 : Bytes → String) (package dir : Path) (binaryLimit : Int64)
    (archive : Archive) (ordinary : Ordinary package) :
    Uses (OnlyRequired dir) (extractRelease sha256 package dir binaryLimit archive) ∧
      ∀ log digest, Proc.Reaches (extractRelease sha256 package dir binaryLimit archive) log (.done (.ok digest)) →
        Delivered sha256 package dir binaryLimit archive.members log digest :=
  ⟨uses_extractRelease archive, fun _ _ reached => delivered_of_reaches ordinary reached⟩

def smallRelease : Archive where
  members := [binaryName, licenseName, noticeName].map (fun name =>
    ⟨112 :: slash :: name, [], typeReg, 1, [7]⟩)
  complete := true

def smallDigest : String := "ca358758f6d27e6cf45272937977a748fd88391db679ceda7dc7bf1f005ee879"

/-- The digest of the one content in the small release. -/
def smallSha256 (content : Bytes) : String := if content = [7] then smallDigest else ""

theorem smallRelease_extracts :
    ∃ log, Proc.Reaches (extractRelease smallSha256 [112] [100] 1 smallRelease) log (.done (.ok smallDigest)) := by
  apply Exists.intro
  iterate 20 apply @Proc.Reaches.step _ _ _ _ _ _ true
  exact Proc.Reaches.here _

theorem smallRelease_delivered :
    Ordinary [112] ∧ ∃ log, Delivered smallSha256 [112] [100] 1 smallRelease.members log smallDigest := by
  have ordinary : Ordinary [112] := ⟨by decide, by decide, by decide, by decide⟩
  obtain ⟨log, reached⟩ := smallRelease_extracts
  exact ⟨ordinary, log,
    (extracted_release_delivers smallSha256 [112] [100] 1 smallRelease ordinary).2 log smallDigest reached⟩

end Calls

end PasswallNode.Upgrade
