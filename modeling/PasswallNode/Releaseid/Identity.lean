import Mathlib.Data.Prod.Lex
import Mathlib.Order.Lattice
import PasswallNode.Foundation.Fallible
import PasswallNode.Foundation.TextParts
import PasswallNode.Releaseid

/-! What a version string names: three numbers and how the release stands to them. -/

namespace PasswallNode.Releaseid

open Foundation

inductive Tail where
  | beta (n : Nat)
  | rc (n : Nat)
  | stable
  | build (n : Nat)
  deriving DecidableEq, Repr

namespace Tail

def rank : Tail → Nat
  | beta _ => 0
  | rc _ => 1
  | stable => 2
  | build _ => 3

def number : Tail → Nat
  | beta n | rc n | build n => n
  | stable => 0

def prerelease : Tail → String
  | beta n => "beta." ++ Nat.repr n
  | rc n => "rc." ++ Nat.repr n
  | _ => ""

def buildNumber : Tail → Nat
  | build n => n
  | _ => 0

def Bounded (tail : Tail) : Prop := tail.number ≤ maxSegment ∧ (tail ≠ stable → 1 ≤ tail.number)

theorem eq_of_rank_number {a b : Tail} (rank : a.rank = b.rank) (number : a.number = b.number) : a = b := by
  cases a <;> cases b <;> simp_all [Tail.rank, Tail.number]

end Tail

structure Identity where
  major : Nat
  minor : Nat
  patch : Nat
  tail : Tail
  bounded : (major ≤ maxSegment ∧ minor ≤ maxSegment ∧ patch ≤ maxSegment) ∧ tail.Bounded

namespace Identity

def version (r : Identity) : Version := ⟨r.major, r.minor, r.patch, r.tail.buildNumber, r.tail.prerelease⟩

theorem ext_parts {a b : Identity} (major : a.major = b.major) (minor : a.minor = b.minor) (patch : a.patch = b.patch)
    (tail : a.tail = b.tail) : a = b := by
  cases a
  cases b
  simp_all

section Order

def key (r : Identity) : ℕ ×ₗ ℕ ×ₗ ℕ ×ₗ ℕ ×ₗ ℕ :=
  toLex (r.major, toLex (r.minor, toLex (r.patch, toLex (r.tail.rank, r.tail.number))))

theorem key_injective : Function.Injective key := by
  intro a b same
  simp only [key, toLex_inj, Prod.mk.injEq] at same
  obtain ⟨major, minor, patch, rank, number⟩ := same
  exact ext_parts major minor patch (Tail.eq_of_rank_number rank number)

instance : LinearOrder Identity := LinearOrder.lift' key key_injective

theorem lt_iff {a b : Identity} : a < b ↔ a.major < b.major ∨ a.major = b.major ∧ (a.minor < b.minor ∨
    a.minor = b.minor ∧ (a.patch < b.patch ∨ a.patch = b.patch ∧ (a.tail.rank < b.tail.rank ∨
    a.tail.rank = b.tail.rank ∧ a.tail.number < b.tail.number))) := by
  change key a < key b ↔ _
  simp only [key, Prod.Lex.toLex_lt_toLex]

end Order

end Identity

section Comparing

def sign {α : Type} [LinearOrder α] (a b : α) : Int := if a < b then -1 else if b < a then 1 else 0

theorem decimal_toDigits (n : Nat) : decimal (Nat.toDigits 10 n) = n := Nat.ofDigitChars_ten_toDigits

theorem toDigits_inj {n m : Nat} : Nat.toDigits 10 n = Nat.toDigits 10 m ↔ n = m := by
  refine ⟨fun same => ?_, congrArg (Nat.toDigits 10)⟩
  rw [← decimal_toDigits n, same, decimal_toDigits]

def Tail.staged (rc : Bool) (n : Nat) : Tail := if rc then .rc n else .beta n

def stageText (rc : Bool) : String := if rc then "rc" else "beta"

variable (rc other : Bool) (n m : Nat)

theorem stageText_plain : '.' ∉ (stageText rc).toList ∧ '-' ∉ (stageText rc).toList := by
  cases rc <;> decide

theorem staged_toList :
    (Tail.staged rc n).prerelease.toList = (stageText rc).toList ++ '.' :: Nat.toDigits 10 n := by
  cases rc <;> simp [Tail.staged, Tail.prerelease, stageText, Nat.toList_repr]

theorem staged_ne_empty : (Tail.staged rc n).prerelease ≠ "" := by
  intro empty
  have characters := staged_toList rc n
  rw [empty] at characters
  cases rc <;> cases characters

theorem staged_buildNumber : (Tail.staged rc n).buildNumber = 0 := by
  cases rc <;> rfl

theorem cut_staged :
    cut '.' (Tail.staged rc n).prerelease.toList = ((stageText rc).toList, some (Nat.toDigits 10 n)) := by
  rw [staged_toList]
  exact cut_append (stageText_plain rc).1

theorem staged_inj : (Tail.staged rc n).prerelease = (Tail.staged other m).prerelease ↔ rc = other ∧ n = m := by
  refine ⟨fun same => ?_, fun ⟨stage, number⟩ => by rw [stage, number]⟩
  have cuts := cut_staged rc n
  rw [same, cut_staged, Prod.mk.injEq, Option.some.injEq, toDigits_inj] at cuts
  refine ⟨?_, cuts.2.symm⟩
  have stage := cuts.1
  cases rc <;> cases other <;> first | rfl | exact absurd stage (by decide)

theorem comparePrerelease_staged :
    comparePrerelease (Tail.staged rc n).prerelease (Tail.staged other m).prerelease =
    sign (toLex (rc.toNat, n)) (toLex (other.toNat, m)) := by
  unfold comparePrerelease sign
  simp only [staged_inj, staged_ne_empty, cut_staged, Prod.Lex.toLex_lt_toLex, Option.getD_some, decimal_toDigits,
    if_false]
  cases rc <;> cases other
  case false.true =>
      simp [stageText]
      decide
  case true.false =>
      simp [stageText]
      decide
  all_goals
    simp only [true_and, ne_eq, not_true_eq_false, if_false, lt_self_iff_false, false_or]
    split <;> split <;> (try split) <;> omega

theorem comparePrerelease_stable :
    comparePrerelease (Tail.staged rc n).prerelease "" = -1 ∧
      comparePrerelease "" (Tail.staged rc n).prerelease = 1 := by
  have candidate := staged_ne_empty rc n
  unfold comparePrerelease
  exact ⟨by rw [if_neg candidate, if_neg candidate, if_pos rfl], by rw [if_neg candidate.symm, if_pos rfl]⟩

theorem compare_segments {a b : Identity} (before : a.major < b.major ∨ a.major = b.major ∧ (a.minor < b.minor ∨
    a.minor = b.minor ∧ a.patch < b.patch)) :
    compareProductVersion a.version b.version = -1 ∧ compareProductVersion b.version a.version = 1 := by
  unfold compareProductVersion Identity.version
  rcases before with major | ⟨major, minor | ⟨minor, patch⟩⟩
  · simp [List.find?, major.ne, major.ne', major, major.le]
  · simp [List.find?, major, minor.ne, minor.ne', minor, minor.le]
  · simp [List.find?, major, minor, patch.ne, patch.ne', patch, patch.le]

def compareTails (a b : Tail) : Int :=
  if a.buildNumber = b.buildNumber then comparePrerelease a.prerelease b.prerelease
  else if a.buildNumber < b.buildNumber then -1
  else 1

theorem compare_base {a b : Identity} (base : a.major = b.major ∧ a.minor = b.minor ∧ a.patch = b.patch) :
    compareProductVersion a.version b.version = compareTails a.tail b.tail := by
  obtain ⟨major, minor, patch⟩ := base
  unfold compareProductVersion Identity.version compareTails
  by_cases build : a.tail.buildNumber = b.tail.buildNumber
  · simp [List.find?, major, minor, patch, build]
  · simp [List.find?, major, minor, patch, build]

theorem compareTails_build {a b : Tail} (less : a.buildNumber < b.buildNumber) :
    compareTails a b = -1 ∧ compareTails b a = 1 := by
  unfold compareTails
  exact ⟨by rw [if_neg less.ne, if_pos less], by rw [if_neg less.ne', if_neg less.le.not_gt]⟩

theorem compareTails_staged (before : toLex (rc.toNat, n) < toLex (other.toNat, m)) :
    compareTails (.staged rc n) (.staged other m) = -1 ∧ compareTails (.staged other m) (.staged rc n) = 1 := by
  simp only [compareTails, staged_buildNumber, if_true, comparePrerelease_staged, sign]
  exact ⟨if_pos before, by rw [if_neg before.le.not_gt, if_pos before]⟩

theorem compareTails_stable : compareTails (.staged rc n) .stable = -1 ∧ compareTails .stable (.staged rc n) = 1 := by
  have unbuilt : Tail.stable.buildNumber = 0 := rfl
  simp only [compareTails, staged_buildNumber, unbuilt, if_true]
  exact comparePrerelease_stable rc n

theorem compareTails_sorted {a b : Tail} (bounded : b.Bounded)
    (before : a.rank < b.rank ∨ a.rank = b.rank ∧ a.number < b.number) :
    compareTails a b = -1 ∧ compareTails b a = 1 := by
  have positive := bounded.2
  cases a with
  | beta n =>
    cases b with
    | beta m => exact compareTails_staged false false n m (Prod.Lex.toLex_lt_toLex.mpr before)
    | rc m => exact compareTails_staged false true n m (Prod.Lex.toLex_lt_toLex.mpr before)
    | stable => exact compareTails_stable false n
    | build m => exact compareTails_build (positive Tail.noConfusion)
  | rc n =>
    cases b with
    | beta m => exact absurd before (by simp [Tail.rank])
    | rc m => exact compareTails_staged true true n m (Prod.Lex.toLex_lt_toLex.mpr before)
    | stable => exact compareTails_stable true n
    | build m => exact compareTails_build (positive Tail.noConfusion)
  | stable =>
    cases b with
    | build m => exact compareTails_build (positive Tail.noConfusion)
    | _ => exact absurd before (by simp [Tail.rank, Tail.number])
  | build n =>
    cases b with
    | build m => exact compareTails_build (before.resolve_left (lt_irrefl _)).2
    | _ => exact absurd before (by simp [Tail.rank])

theorem compare_of_lt {a b : Identity} (less : a < b) :
    compareProductVersion a.version b.version = -1 ∧ compareProductVersion b.version a.version = 1 := by
  rcases Identity.lt_iff.mp less with major | ⟨major, minor | ⟨minor, patch | ⟨patch, tail⟩⟩⟩
  · exact compare_segments (.inl major)
  · exact compare_segments (.inr ⟨major, .inl minor⟩)
  · exact compare_segments (.inr ⟨major, .inr ⟨minor, patch⟩⟩)
  · rw [compare_base ⟨major, minor, patch⟩, compare_base ⟨major.symm, minor.symm, patch.symm⟩]
    exact compareTails_sorted b.bounded.2 tail

theorem compare_version (a b : Identity) : compareProductVersion a.version b.version = sign a b := by
  unfold sign
  rcases lt_trichotomy a b with less | rfl | greater
  · rw [if_pos less, (compare_of_lt less).1]
  · rw [if_neg (lt_irrefl a), if_neg (lt_irrefl a), compare_base ⟨rfl, rfl, rfl⟩, compareTails, if_pos rfl]
    exact if_pos rfl
  · rw [if_neg greater.le.not_gt, if_pos greater, (compare_of_lt greater).2]

end Comparing

section Parsing

theorem parseSegment_eq_ok {part : List Char} {n : Nat} :
    parseSegment part = .ok n ↔ part = Nat.toDigits 10 n ∧ n ≤ maxSegment := by
  unfold parseSegment
  constructor
  · intro parsed
    split at parsed
    · cases parsed
    · next readable =>
        split at parsed
        · cases parsed
        · next inRange =>
            obtain ⟨nonempty, numeric, leading⟩ := by simpa only [not_or] using readable
            have digits : Canonical part := ⟨nonempty, by simpa using numeric, leading⟩
            cases parsed
            exact ⟨(toDigits_ofDigitChars digits).symm, not_lt.mp inRange⟩
  · rintro ⟨rfl, inRange⟩
    have digits := toDigits_canonical n
    rw [decimal_toDigits, if_neg, if_neg (not_lt.mpr inRange)]
    rintro (empty | other | leading)
    · exact digits.nonempty empty
    · obtain ⟨c, member, nondigit⟩ := List.any_eq_true.mp other
      rw [digits.numeric c member] at nondigit
      cases nondigit
    · exact digits.leading leading

variable {rc : Bool} {n : Nat} {pre : List Char} {text : String} {v : Version} {out : List Nat}

theorem validPrerelease_eq : validPrerelease pre = true ↔
    ∃ rc n, (1 ≤ n ∧ n ≤ maxSegment) ∧ pre = (Tail.staged rc n).prerelease.toList := by
  unfold validPrerelease
  constructor
  · intro valid
    split at valid
    · cases valid
    · next stage number found =>
        rw [Bool.and_eq_true] at valid
        obtain ⟨known, counted⟩ := valid
        split at counted
        · next n parsed =>
            obtain ⟨rfl, inRange⟩ := parseSegment_eq_ok.mp parsed
            have positive : 1 ≤ n := of_decide_eq_true counted
            rw [eq_of_cut found]
            rcases (by simpa using known : stage = "beta".toList ∨ stage = "rc".toList) with rfl | rfl
            · exact ⟨false, n, ⟨positive, inRange⟩, (staged_toList false n).symm⟩
            · exact ⟨true, n, ⟨positive, inRange⟩, (staged_toList true n).symm⟩
        · cases counted
  · rintro ⟨rc, n, ⟨positive, inRange⟩, rfl⟩
    rw [cut_staged]
    have parsed : parseSegment (Nat.toDigits 10 n) = .ok n := parseSegment_eq_ok.mpr ⟨rfl, inRange⟩
    simp only [parsed, Bool.and_eq_true, decide_eq_true_eq]
    refine ⟨?_, positive⟩
    cases rc <;> rfl

theorem check_eq_ok {ε α : Type} {bad : Prop} [Decidable bad] {err : ε} {next : Unit → Except ε α} {result : α} :
    (if bad then Except.error err >>= next else next ()) = .ok result ↔ ¬ bad ∧ next () = .ok result := by
  by_cases holds : bad
  · simp [holds, bind, Except.bind]
  · simp [holds]

theorem parse_eq_ok : parseProductVersion text = .ok v ↔ text ≠ "" ∧ (∀ pre, (cut '-' text.toList).2 = some pre →
      validPrerelease pre = true ∧ (split '.' (cut '-' text.toList).1).length = 3) ∧
    (split '.' (cut '-' text.toList).1).length ≤ 4 ∧
    ∃ out, (split '.' (cut '-' text.toList).1).mapM parseSegment = .ok out ∧
      ¬ ((split '.' (cut '-' text.toList).1).length = 4 ∧ out[3]? = some 0) ∧
      (⟨out[0]?.getD 0, out[1]?.getD 0, out[2]?.getD 0, out[3]?.getD 0,
        String.ofList ((cut '-' text.toList).2.getD [])⟩ : Version) = v := by
  unfold parseProductVersion
  rcases cut '-' text.toList with ⟨base, pre⟩
  simp only [check_eq_ok, bind_eq_ok]
  cases pre with
  | none => simp
  | some stage => simp [and_assoc]

theorem parseSegments_eq_ok {parts : List (List Char)} :
    parts.mapM parseSegment = .ok out ↔ parts = out.map (Nat.toDigits 10) ∧ ∀ n ∈ out, n ≤ maxSegment := by
  induction parts generalizing out with
  | nil =>
    rw [List.mapM_nil, pure_eq_ok]
    constructor
    · rintro rfl
      simp
    · rintro ⟨same, -⟩
      exact (List.map_eq_nil_iff.mp same.symm).symm
  | cons part parts ih =>
    simp only [List.mapM_cons, bind_eq_ok, pure_eq_ok, parseSegment_eq_ok, ih]
    constructor
    · rintro ⟨n, ⟨rfl, small⟩, later, ⟨rfl, bounded⟩, rfl⟩
      exact ⟨rfl, List.forall_mem_cons.mpr ⟨small, bounded⟩⟩
    · rintro ⟨same, bounded⟩
      cases out with
      | nil => cases same
      | cons n later =>
        obtain ⟨first, rest⟩ := List.cons.inj same
        obtain ⟨small, bounded⟩ := List.forall_mem_cons.mp bounded
        exact ⟨n, ⟨first, small⟩, later, ⟨rest, bounded⟩, rfl⟩

theorem staged_bounded (rc : Bool) {n : Nat} (bounds : 1 ≤ n ∧ n ≤ maxSegment) : (Tail.staged rc n).Bounded := by
  cases rc <;> exact ⟨bounds.2, fun _ => bounds.1⟩

theorem segment_le (bounded : ∀ n ∈ out, n ≤ maxSegment) (i : Nat) : out[i]?.getD 0 ≤ maxSegment := by
  cases found : out[i]? with
  | none => exact Nat.zero_le _
  | some n => exact bounded n (List.mem_of_getElem? found)

theorem parse_names (parsed : parseProductVersion text = .ok v) : ∃ r : Identity, r.version = v := by
  obtain ⟨-, staged, atMost, out, segments, present, rfl⟩ := parse_eq_ok.mp parsed
  obtain ⟨parts, bounded⟩ := parseSegments_eq_ok.mp segments
  have base := And.intro (segment_le bounded 0) (And.intro (segment_le bounded 1) (segment_le bounded 2))
  have length : (split '.' (cut '-' text.toList).1).length = out.length := by rw [parts, List.length_map]
  rw [length] at staged atMost present
  cases candidate : (cut '-' text.toList).2 with
  | some pre =>
    obtain ⟨valid, three⟩ := staged pre candidate
    obtain ⟨rc, n, bounds, rfl⟩ := validPrerelease_eq.mp valid
    refine ⟨⟨_, _, _, .staged rc n, base, staged_bounded rc bounds⟩, ?_⟩
    have absent : out[3]? = none := List.getElem?_eq_none (by omega)
    simp only [Identity.version, staged_buildNumber, absent, Option.getD_none, Option.getD_some, String.ofList_toList]
  | none =>
    cases fourth : out[3]? with
    | none => exact ⟨⟨_, _, _, .stable, base, Nat.zero_le _, fun other => (other rfl).elim⟩, rfl⟩
    | some n =>
      have long := (List.getElem?_eq_some_iff.mp fourth).1
      have four : out.length = 4 := by omega
      have positive : n ≠ 0 := fun zero => present ⟨four, by rw [fourth, zero]⟩
      refine ⟨⟨_, _, _, .build n, base, bounded n (List.mem_of_getElem? fourth), fun _ => ?_⟩, rfl⟩
      exact Nat.pos_of_ne_zero positive

def Identity.segments (r : Identity) : List Nat :=
  match r.tail with
  | .build n => [r.major, r.minor, r.patch, n]
  | _ => [r.major, r.minor, r.patch]

def dotted : List Nat → List Char
  | [] => []
  | [n] => Nat.toDigits 10 n
  | n :: rest => Nat.toDigits 10 n ++ '.' :: dotted rest

theorem dotted_plain {c : Char} (nondigit : c.isDigit = false) (other : c ≠ '.') (numbers : List Nat) :
    c ∉ dotted numbers := by
  fun_induction dotted numbers with
  | case1 => exact List.not_mem_nil
  | case2 n => exact notMem_toDigits n nondigit
  | case3 n rest longer ih =>
    rw [List.mem_append, List.mem_cons]
    rintro (first | separator | later)
    · exact notMem_toDigits n nondigit first
    · exact other separator
    · exact ih later

theorem split_dotted (first : Nat) (rest : List Nat) :
    split '.' (dotted (first :: rest)) = (first :: rest).map (Nat.toDigits 10) := by
  induction rest generalizing first with
  | nil => exact split_of_notMem (notMem_toDigits first (by decide))
  | cons next rest ih =>
    have unfolded : dotted (first :: next :: rest) = Nat.toDigits 10 first ++ '.' :: dotted (next :: rest) := rfl
    rw [unfolded, split_append (notMem_toDigits first (by decide)), ih, List.map_cons (l := next :: rest)]

def Tail.candidate : Tail → Option (List Char)
  | .beta n => some (Tail.beta n).prerelease.toList
  | .rc n => some (Tail.rc n).prerelease.toList
  | _ => none

def joined (base : List Char) (candidate : Option (List Char)) : List Char :=
  candidate.elim base (fun pre => base ++ '-' :: pre)

variable (r : Identity)

theorem text_toList : r.version.text.toList = joined (dotted r.segments) r.tail.candidate := by
  obtain ⟨major, minor, patch, tail, -, -, counted⟩ := r
  unfold Version.text Identity.version Identity.segments
  cases tail with
  | beta n =>
    have candidate : (Tail.beta n).prerelease ≠ "" := staged_ne_empty false n
    simp [Tail.buildNumber, candidate, Tail.candidate, joined, dotted, Nat.toList_repr]
  | rc n =>
    have candidate : (Tail.rc n).prerelease ≠ "" := staged_ne_empty true n
    simp [Tail.buildNumber, candidate, Tail.candidate, joined, dotted, Nat.toList_repr]
  | stable => simp [Tail.buildNumber, Tail.prerelease, Tail.candidate, joined, dotted, Nat.toList_repr]
  | build n =>
    have positive : 0 < n := counted Tail.noConfusion
    simp [Tail.buildNumber, positive, Tail.candidate, joined, dotted, Nat.toList_repr]

theorem cut_joined {base : List Char} (plain : '-' ∉ base) (candidate : Option (List Char)) :
    cut '-' (joined base candidate) = (base, candidate) := by
  cases candidate with
  | none => exact cut_of_notMem plain
  | some pre => exact cut_append plain

theorem cut_text : cut '-' r.version.text.toList = (dotted r.segments, r.tail.candidate) := by
  rw [text_toList, cut_joined (dotted_plain (by decide) (by decide) r.segments)]

theorem split_segments : split '.' (dotted r.segments) = r.segments.map (Nat.toDigits 10) := by
  unfold Identity.segments
  split <;> exact split_dotted _ _

theorem segments_le : ∀ n ∈ r.segments, n ≤ maxSegment := by
  obtain ⟨⟨major, minor, patch⟩, number, -⟩ := r.bounded
  unfold Identity.segments
  split
  · next n tail =>
      rw [tail] at number
      simp only [List.forall_mem_cons, List.not_mem_nil, false_imp_iff, implies_true, and_true]
      exact ⟨major, minor, patch, number⟩
  · simp only [List.forall_mem_cons, List.not_mem_nil, false_imp_iff, implies_true, and_true]
    exact ⟨major, minor, patch⟩

theorem text_ne_empty : r.version.text ≠ "" := by
  intro empty
  have cuts := cut_text r
  rw [empty] at cuts
  have counts := congrArg List.length (split_segments r)
  rw [← (Prod.mk.inj cuts).1, List.length_map] at counts
  unfold Identity.segments at counts
  split at counts <;> cases counts

theorem candidate_valid (found : r.tail.candidate = some pre) :
    validPrerelease pre = true ∧ r.segments.length = 3 := by
  have counted := r.bounded.2
  unfold Identity.segments
  rw [validPrerelease_eq]
  cases tail : r.tail with
  | beta n =>
    rw [tail] at found counted
    exact ⟨⟨false, n, ⟨counted.2 Tail.noConfusion, counted.1⟩, (Option.some.inj found).symm⟩, rfl⟩
  | rc n =>
    rw [tail] at found counted
    exact ⟨⟨true, n, ⟨counted.2 Tail.noConfusion, counted.1⟩, (Option.some.inj found).symm⟩, rfl⟩
  | _ =>
    rw [tail] at found
    cases found

theorem parse_text : parseProductVersion r.version.text = .ok r.version := by
  rw [parse_eq_ok, cut_text, split_segments, List.length_map]
  refine ⟨text_ne_empty r, fun pre => candidate_valid r, ?_, r.segments,
    parseSegments_eq_ok.mpr ⟨rfl, segments_le r⟩, ?_, ?_⟩
  · unfold Identity.segments
    split <;> simp
  · rintro ⟨-, zero⟩
    have counted := r.bounded.2.2
    unfold Identity.segments at zero
    split at zero
    · next n tail =>
        rw [tail] at counted
        have positive : 1 ≤ n := counted Tail.noConfusion
        have none : n = 0 := Option.some.inj zero
        omega
    · cases zero
  · unfold Identity.version Identity.segments
    cases r.tail with
    | beta n => simp [Tail.buildNumber, Tail.candidate]
    | rc n => simp [Tail.buildNumber, Tail.candidate]
    | _ => rfl

theorem version_injective : Function.Injective Identity.version := by
  intro a b same
  rcases lt_trichotomy a b with less | rfl | greater
  · have compared := (compare_of_lt less).1
    rw [same, compare_version, sign, if_neg (lt_irrefl b), if_neg (lt_irrefl b)] at compared
    cases compared
  · rfl
  · have compared := (compare_of_lt greater).1
    rw [same, compare_version, sign, if_neg (lt_irrefl b), if_neg (lt_irrefl b)] at compared
    cases compared

theorem text_injective {a b : Identity} (same : a.version.text = b.version.text) : a = b := by
  have parsed := parse_text a
  rw [same, parse_text] at parsed
  exact (version_injective (Except.ok.inj parsed)).symm

end Parsing

end PasswallNode.Releaseid
