import PasswallNode.Releaseid.Identity

/-! Release tags: the address a version is published under, in the current namespace and in the one
that is only read. -/

namespace PasswallNode.Releaseid

open Foundation

inductive Scheme where
  | product
  deriving DecidableEq, Repr

structure Tag where
  raw : String
  scheme : Scheme
  product : Version
  deriving DecidableEq, Repr

def tagPrefix : String := "v"

def historicalTagPrefix : String := "release/"

def Tag.versionString (tag : Tag) : String := tag.product.text

def tagForVersion (version : String) : Except Error Tag := do
  let v ← parseProductVersion version
  rejectIf (v.major = 0) Error.unknownFormat
  return ⟨tagPrefix ++ v.text, .product, v⟩

def historicalTagFor (version : String) : Except Error Tag := do
  let tag ← tagForVersion version
  return ⟨historicalTagPrefix ++ tag.product.text, .product, tag.product⟩

def tagBody (raw : String) : Option String :=
  [tagPrefix, historicalTagPrefix].findSome? (fun start => cutStart start raw)

def parseReleaseTag (raw : String) : Except Error Tag := do
  let body ← orError (tagBody raw) Error.unknownFormat
  let dots := (cut '-' body.toList).1.count '.'
  rejectIf (dots ≠ 2 ∧ dots ≠ 3) Error.unknownFormat
  let v ← parseProductVersion body
  rejectIf (v.major = 0) Error.unknownFormat
  return ⟨raw, .product, v⟩

section Valid

variable {s : String} {v : Version} (r : Identity) {raw : String} {tag : Tag} {a b : Identity}

theorem count_dotted (first : Nat) (rest : List Nat) : (dotted (first :: rest)).count '.' = rest.length := by
  have digits (n : Nat) : (Nat.toDigits 10 n).count '.' = 0 := List.count_eq_zero.mpr (notMem_toDigits n (by decide))
  induction rest generalizing first with
  | nil => exact digits first
  | cons next rest ih =>
    have unfolded : dotted (first :: next :: rest) = Nat.toDigits 10 first ++ '.' :: dotted (next :: rest) := rfl
    rw [unfolded, List.count_append, digits, List.count_cons_self, ih, Nat.zero_add, List.length_cons]

theorem text_dots :
    (cut '-' r.version.text.toList).1.count '.' = 2 ∨ (cut '-' r.version.text.toList).1.count '.' = 3 := by
  rw [cut_text]
  unfold Identity.segments
  split
  · exact .inr (count_dotted _ _)
  · exact .inl (count_dotted _ _)

theorem validVersion_text : validVersion r.version.text = true ↔ 0 < r.major := by
  unfold validVersion
  have dots := text_dots r
  simp only [parse_text, Bool.and_eq_true, Bool.or_eq_true, decide_eq_true_eq, and_true]
  rw [and_iff_right dots, Nat.pos_iff_ne_zero]
  rfl

theorem validVersion_iff : validVersion s = true ↔ ∃ r : Identity, 0 < r.major ∧ r.version.text = s := by
  constructor
  · intro valid
    unfold validVersion at valid
    rw [Bool.and_eq_true] at valid
    obtain ⟨-, parsed⟩ := valid
    split at parsed
    · next v found =>
        obtain ⟨r, rfl⟩ := parse_names found
        simp only [Bool.and_eq_true, decide_eq_true_eq] at parsed
        exact ⟨r, Nat.pos_of_ne_zero parsed.1, parsed.2⟩
    · cases parsed
  · rintro ⟨r, line, rfl⟩
    exact (validVersion_text r).mpr line

theorem tagBody_current (body : String) : tagBody (tagPrefix ++ body) = some body := by
  rw [tagBody, List.findSome?_cons, cutStart_append]

theorem tagBody_historical (body : String) : tagBody (historicalTagPrefix ++ body) = some body := by
  have other : startsWith tagPrefix (historicalTagPrefix ++ body) = false := by
    rw [startsWith, String.toList_append]
    rfl
  have uncut : cutStart tagPrefix (historicalTagPrefix ++ body) = none := by
    rw [cutStart, other]
    rfl
  rw [tagBody, List.findSome?_cons, uncut, List.findSome?_cons, cutStart_append]

theorem parseReleaseTag_of_body (line : 0 < r.major) (body : tagBody raw = some r.version.text) :
    parseReleaseTag raw = .ok ⟨raw, .product, r.version⟩ := by
  have dots := text_dots r
  have unreleased : r.version.major ≠ 0 := line.ne'
  rw [parseReleaseTag, body]
  simp only [orError, bind_eq_ok, rejectIf_eq_ok, pure_eq_ok]
  exact ⟨_, rfl, (), by omega, r.version, parse_text r, (), unreleased, rfl⟩

theorem parseReleaseTag_eq_ok (read : parseReleaseTag raw = .ok tag) :
    ∃ r : Identity, 0 < r.major ∧ tag = ⟨raw, .product, r.version⟩ := by
  simp only [parseReleaseTag, bind_eq_ok, rejectIf_eq_ok, pure_eq_ok] at read
  obtain ⟨body, -, -, -, v, parsed, -, line, rfl⟩ := read
  obtain ⟨r, rfl⟩ := parse_names parsed
  exact ⟨r, Nat.pos_of_ne_zero line, rfl⟩

theorem tagForVersion_text (line : 0 < r.major) :
    tagForVersion r.version.text = .ok ⟨tagPrefix ++ r.version.text, .product, r.version⟩ := by
  simp only [tagForVersion, bind_eq_ok, rejectIf_eq_ok, pure_eq_ok]
  exact ⟨r.version, parse_text r, (), line.ne', rfl⟩

theorem historicalTagFor_text (line : 0 < r.major) :
    historicalTagFor r.version.text = .ok ⟨historicalTagPrefix ++ r.version.text, .product, r.version⟩ := by
  simp only [historicalTagFor, bind_eq_ok, pure_eq_ok]
  exact ⟨_, tagForVersion_text r line, rfl⟩

def Parsed (v : Version) : Prop := ∃ text, parseProductVersion text = .ok v

def Published (tagFor : String → Except Error Tag) (s : String) : Prop :=
  ∃ tag read, tagFor s = .ok tag ∧ parseReleaseTag tag.raw = .ok read ∧ read.versionString = s

/-- Version strings, tags and the order of versions are three views of one identity. -/
structure Consistent : Prop where
  reread : ∀ s v, parseProductVersion s = .ok v → parseProductVersion v.text = .ok v
  valid : ∀ s, validVersion s = true ↔ ∃ v, Parsed v ∧ 0 < v.major ∧ v.text = s
  current : ∀ s, validVersion s = true → Published tagForVersion s
  historical : ∀ s, validVersion s = true → Published historicalTagFor s
  accepted : ∀ raw tag, parseReleaseTag raw = .ok tag → validVersion tag.versionString = true
  antisymmetric : ∀ a b, Parsed a → Parsed b → compareProductVersion a b ≤ 0 → compareProductVersion b a ≤ 0 → a = b
  transitive : ∀ a b c, Parsed a → Parsed b → Parsed c → compareProductVersion a b ≤ 0 →
    compareProductVersion b c ≤ 0 → compareProductVersion a c ≤ 0
  total : ∀ a b, Parsed a → Parsed b → compareProductVersion a b ≤ 0 ∨ compareProductVersion b a ≤ 0
  opposite : ∀ a b, Parsed a → Parsed b → compareProductVersion b a = - compareProductVersion a b
  zero : ∀ a b, Parsed a → Parsed b → (compareProductVersion a b = 0 ↔ a.text = b.text)

theorem compare_le_zero : compareProductVersion a.version b.version ≤ 0 ↔ a ≤ b := by
  rw [compare_version, sign]
  rcases lt_trichotomy a b with less | rfl | greater
  · simp [less, less.le]
  · simp
  · simp [greater, greater.le.not_gt, greater.not_ge]

theorem compare_eq_zero : compareProductVersion a.version b.version = 0 ↔ a = b := by
  rw [compare_version, sign]
  rcases lt_trichotomy a b with less | rfl | greater
  · simp [less, less.ne]
  · simp
  · simp [greater, greater.le.not_gt, greater.ne']

theorem compare_opposite : compareProductVersion b.version a.version = - compareProductVersion a.version b.version := by
  rw [compare_version, compare_version, sign, sign]
  rcases lt_trichotomy a b with less | rfl | greater
  · simp [less, less.le.not_gt]
  · simp
  · simp [greater, greater.le.not_gt]

theorem parsed_names {v : Version} (parsed : Parsed v) : ∃ r : Identity, r.version = v :=
  parsed.elim (fun _ => parse_names)

theorem identities_consistent : Consistent where
  reread s v parsed := by
    obtain ⟨r, rfl⟩ := parse_names parsed
    exact parse_text r
  valid s := by
    rw [validVersion_iff]
    constructor
    · rintro ⟨r, line, rfl⟩
      exact ⟨r.version, ⟨_, parse_text r⟩, line, rfl⟩
    · rintro ⟨v, parsed, line, rfl⟩
      obtain ⟨r, rfl⟩ := parsed_names parsed
      exact ⟨r, line, rfl⟩
  current s valid := by
    obtain ⟨r, line, rfl⟩ := validVersion_iff.mp valid
    exact ⟨_, _, tagForVersion_text r line, parseReleaseTag_of_body r line (tagBody_current _), rfl⟩
  historical s valid := by
    obtain ⟨r, line, rfl⟩ := validVersion_iff.mp valid
    exact ⟨_, _, historicalTagFor_text r line, parseReleaseTag_of_body r line (tagBody_historical _), rfl⟩
  accepted raw tag read := by
    obtain ⟨r, line, rfl⟩ := parseReleaseTag_eq_ok read
    exact (validVersion_text r).mpr line
  antisymmetric a b parsedA parsedB below above := by
    obtain ⟨⟨r, rfl⟩, t, rfl⟩ := And.intro (parsed_names parsedA) (parsed_names parsedB)
    rw [le_antisymm (compare_le_zero.mp below) (compare_le_zero.mp above)]
  transitive a b c parsedA parsedB parsedC first second := by
    obtain ⟨⟨r, rfl⟩, t, rfl⟩ := And.intro (parsed_names parsedA) (parsed_names parsedB)
    obtain ⟨u, rfl⟩ := parsed_names parsedC
    exact compare_le_zero.mpr (le_trans (compare_le_zero.mp first) (compare_le_zero.mp second))
  total a b parsedA parsedB := by
    obtain ⟨⟨r, rfl⟩, t, rfl⟩ := And.intro (parsed_names parsedA) (parsed_names parsedB)
    exact (le_total r t).imp compare_le_zero.mpr compare_le_zero.mpr
  opposite a b parsedA parsedB := by
    obtain ⟨⟨r, rfl⟩, t, rfl⟩ := And.intro (parsed_names parsedA) (parsed_names parsedB)
    exact compare_opposite
  zero a b parsedA parsedB := by
    obtain ⟨⟨r, rfl⟩, t, rfl⟩ := And.intro (parsed_names parsedA) (parsed_names parsedB)
    rw [compare_eq_zero]
    exact ⟨fun same => by rw [same], text_injective⟩

end Valid

end PasswallNode.Releaseid
