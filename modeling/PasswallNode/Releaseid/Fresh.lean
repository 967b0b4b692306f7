import Mathlib.Data.List.MinMax
import PasswallNode.Releaseid.Allocate

/-! The allocators: the number that comes out is new, whatever the order of the tags. -/

namespace PasswallNode.Releaseid

open Foundation

section Texts

def Tail.rest (tail : Tail) : List Char :=
  match tail with
  | .build n => '.' :: Nat.toDigits 10 n
  | .stable => []
  | _ => '-' :: tail.prerelease.toList

theorem rest_ends (tail : Tail) : ∀ d ∈ tail.rest.head?, d.isDigit = false := by
  intro d head
  cases tail <;> simp only [Tail.rest, List.head?_cons, List.head?_nil, Option.mem_def, Option.some.injEq] at head <;>
    first | (rw [← head]; rfl) | cases head

theorem dot_ends (after : List Char) : ∀ d ∈ ('.' :: after).head?, d.isDigit = false := by
  intro d head
  cases Option.some.inj head
  rfl

def Identity.base (r : Identity) : Identity :=
  ⟨r.major, r.minor, r.patch, .stable, r.bounded.1, Nat.zero_le _, fun other => (other rfl).elim⟩

variable (r b : Identity)

theorem text_parts : r.version.text.toList =
    Nat.toDigits 10 r.major ++ '.' :: (Nat.toDigits 10 r.minor ++ '.' :: (Nat.toDigits 10 r.patch ++ r.tail.rest)) := by
  rw [text_toList, Identity.segments]
  cases r.tail <;> simp [joined, Tail.candidate, dotted, Tail.rest]

theorem base_text : r.base.version.text.toList =
    Nat.toDigits 10 r.major ++ '.' :: (Nat.toDigits 10 r.minor ++ '.' :: Nat.toDigits 10 r.patch) := by
  rw [text_parts]
  simp [Identity.base, Tail.rest]

theorem base_eq_iff : r.base = b.base ↔ r.major = b.major ∧ r.minor = b.minor ∧ r.patch = b.patch := by
  simp [Identity.base]

theorem base_begins (c : Char) (more : List Char) (nondigit : c.isDigit = false) :
    b.base.version.text.toList ++ c :: more <+: r.version.text.toList ↔
    r.base = b.base ∧ c :: more <+: r.tail.rest := by
  rw [base_text, text_parts, base_eq_iff, List.append_assoc, List.cons_append, List.append_assoc, List.cons_append,
    toDigits_begin (by decide) (dot_ends _), List.cons_prefix_cons, toDigits_begin (by decide) (dot_ends _),
    List.cons_prefix_cons, toDigits_begin nondigit (rest_ends r.tail)]
  tauto

theorem eq_base_iff : r = b.base ↔ r.base = b.base ∧ r.tail = .stable := by
  rw [base_eq_iff]
  constructor
  · rintro rfl
    exact ⟨⟨rfl, rfl, rfl⟩, rfl⟩
  · rintro ⟨⟨major, minor, patch⟩, tail⟩
    exact Identity.ext_parts major minor patch tail

theorem text_eq_base : r.version.text = b.base.version.text ↔ r.base = b.base ∧ r.tail = .stable := by
  rw [← eq_base_iff]
  exact ⟨text_injective, fun same => by rw [same]⟩

theorem startsWith_iff (start text : String) : startsWith start text = true ↔ start.toList <+: text.toList := by
  rw [startsWith, List.isPrefixOf_iff_prefix]

theorem startsWith_dot :
    startsWith (b.base.version.text ++ ".") r.version.text = true ↔ r.base = b.base ∧ ∃ n, r.tail = .build n := by
  rw [startsWith_iff, String.toList_append]
  have begins := base_begins r b '.' [] (by decide)
  rw [show ".".toList = ['.'] from rfl, begins]
  refine and_congr_right (fun _ => ?_)
  cases r.tail <;> simp [Tail.rest]

theorem candidate_rest {tail : Tail} {pre : List Char} : tail.candidate = some pre ↔ tail.rest = '-' :: pre := by
  cases tail <;> simp [Tail.candidate, Tail.rest]

theorem cutStart_eq_some {start text after : String} :
    cutStart start text = some after ↔ text.toList = start.toList ++ after.toList := by
  rw [cutStart]
  constructor
  · intro found
    split at found
    · next starts =>
        obtain ⟨rest, same⟩ := (startsWith_iff start text).mp starts
        cases found
        rw [← same, List.drop_left, String.toList_ofList]
    · cases found
  · intro same
    have starts : startsWith start text = true := (startsWith_iff start text).mpr ⟨after.toList, same.symm⟩
    rw [if_pos starts, same, List.drop_left, String.ofList_toList]

theorem cutStart_dash {pre : String} : cutStart (b.base.version.text ++ "-") r.version.text = some pre ↔
    r.base = b.base ∧ r.tail.candidate = some pre.toList := by
  rw [cutStart_eq_some, candidate_rest, String.toList_append, show "-".toList = ['-'] from rfl, List.append_assoc,
    List.singleton_append]
  constructor
  · intro same
    have begins := (base_begins r b '-' pre.toList (by decide)).mp (same ▸ List.prefix_refl _)
    refine ⟨begins.1, ?_⟩
    obtain ⟨major, minor, patch⟩ := (base_eq_iff r b).mp begins.1
    rw [text_parts, base_text, major, minor, patch] at same
    simpa using same
  · rintro ⟨base, rest⟩
    obtain ⟨major, minor, patch⟩ := (base_eq_iff r b).mp base
    rw [text_parts, base_text, major, minor, patch, rest]
    simp

theorem line_toList {line : Line} {m n : Nat} (major : line.major = m) (minor : line.minor = n) :
    (line.text ++ ".").toList = Nat.toDigits 10 m ++ '.' :: (Nat.toDigits 10 n ++ '.' :: []) := by
  have decimal (k : Nat) : toString (k : Int) = Nat.repr k := rfl
  rw [Line.text, major, minor, decimal, decimal]
  simp [Nat.toList_repr]

theorem startsWith_line {line : Line} (major : 0 ≤ line.major) (minor : 0 ≤ line.minor) :
    startsWith (line.text ++ ".") r.version.text = true ↔
    (r.major : Int) = line.major ∧ (r.minor : Int) = line.minor := by
  obtain ⟨m, same⟩ := Int.eq_ofNat_of_zero_le major
  obtain ⟨n, sameToo⟩ := Int.eq_ofNat_of_zero_le minor
  rw [startsWith_iff, line_toList same sameToo, text_parts, same, sameToo, toDigits_begin (by decide) (dot_ends _),
    List.cons_prefix_cons, toDigits_begin (by decide) (dot_ends _)]
  simp [eq_comm]

end Texts

section Readings

variable {raw : String} {r : Identity}

open Classical in
noncomputable def reading (raw : String) : Option Identity :=
  if named : ∃ r : Identity, (parseReleaseTag raw).toOption.map Tag.product = some r.version then some named.choose
  else none

theorem reading_eq_some : reading raw = some r ↔ ∃ tag, parseReleaseTag raw = .ok tag ∧ tag.product = r.version := by
  have toOption (v : Version) : (parseReleaseTag raw).toOption.map Tag.product = some v ↔
      ∃ tag, parseReleaseTag raw = .ok tag ∧ tag.product = v := by
    cases parseReleaseTag raw <;> simp [Except.toOption]
  unfold reading
  split
  · next named =>
      rw [← toOption, Option.some.injEq]
      constructor
      · rintro rfl
        exact named.choose_spec
      · intro found
        exact version_injective (Option.some.inj (named.choose_spec.symm.trans found))
  · next unnamed =>
      constructor
      · intro impossible
        cases impossible
      · exact fun found => (unnamed ⟨r, (toOption r.version).mpr found⟩).elim

theorem reading_of_ok {tag : Tag} (read : parseReleaseTag raw = .ok tag) :
    ∃ r, reading raw = some r ∧ tag = ⟨raw, .product, r.version⟩ := by
  obtain ⟨r, -, rfl⟩ := parseReleaseTag_eq_ok read
  exact ⟨r, reading_eq_some.mpr ⟨_, read, rfl⟩, rfl⟩

theorem reading_of_error {err : Error} (unread : parseReleaseTag raw = .error err) : reading raw = none := by
  by_contra some
  obtain ⟨r, named⟩ := Option.ne_none_iff_exists'.mp some
  obtain ⟨tag, read, -⟩ := reading_eq_some.mp named
  rw [unread] at read
  cases read

theorem reading_major (named : reading raw = some r) : 0 < r.major := by
  obtain ⟨tag, read, product⟩ := reading_eq_some.mp named
  obtain ⟨other, line, rfl⟩ := parseReleaseTag_eq_ok read
  rw [← version_injective product]
  exact line

theorem readCandidateTag_eq (raw : String) : readCandidateTag raw = (reading raw).map (fun r => r.version.text) := by
  unfold readCandidateTag
  cases read : parseReleaseTag raw with
  | error err =>
    rw [reading_of_error read]
    rfl
  | ok tag =>
    obtain ⟨r, named, rfl⟩ := reading_of_ok read
    rw [named]
    rfl

noncomputable def releases (existing : List String) : List Identity := existing.filterMap reading

theorem mem_releases {existing : List String} : r ∈ releases existing ↔ ∃ raw ∈ existing, reading raw = some r :=
  List.mem_filterMap

end Readings

section Highest

variable {α : Type} [LinearOrder α] {line : Line} {existing : List String} {v : Version}

def keep (best : Option α) (next : α) : Option α := some (best.elim next (fun best => max best next))

theorem foldl_keep (best : α) (items : List α) : items.foldl keep (some best) = some (items.foldl max best) := by
  induction items generalizing best with
  | nil => rfl
  | cons next items ih => exact ih (max best next)

theorem foldl_keep_none (items : List α) : items.foldl keep none = items.max? := by
  cases items with
  | nil => rfl
  | cons first items => exact foldl_keep first items

noncomputable def higher (about : Identity → Bool) (best : Option Identity) (raw : String) : Option Identity :=
  (reading raw).elim best (fun r => if about r then keep best r else best)

theorem foldl_higher (about : Identity → Bool) (best : Option Identity) (existing : List String) :
    existing.foldl (higher about) best = ((releases existing).filter about).foldl keep best := by
  induction existing generalizing best with
  | nil => rfl
  | cons raw existing ih =>
    simp only [List.foldl_cons, ih, releases, List.filterMap_cons, higher]
    cases reading raw with
    | none => rfl
    | some r => by_cases relevant : about r = true <;> simp [relevant]

noncomputable def highestOf (about : Identity → Bool) (existing : List String) : Option Identity :=
  ((releases existing).filter about).max?

theorem foldl_higher_none (about : Identity → Bool) (existing : List String) :
    existing.foldl (higher about) none = highestOf about existing := by
  rw [foldl_higher, foldl_keep_none, highestOf]

theorem highestOf_eq_some {about : Identity → Bool} {existing : List String} {top : Identity} :
    highestOf about existing = some top ↔
    (top ∈ releases existing ∧ about top = true) ∧ ∀ r ∈ releases existing, about r = true → r ≤ top := by
  rw [highestOf, List.max?_eq_some_iff, List.mem_filter]
  simp only [List.mem_filter, and_imp]

theorem highestOf_eq_none {about : Identity → Bool} {existing : List String} :
    highestOf about existing = none ↔ ∀ r ∈ releases existing, about r = false := by
  rw [highestOf, List.max?_eq_none_iff, List.filter_eq_nil_iff]
  simp only [Bool.not_eq_true]

theorem highestOf_perm (about : Identity → Bool) {existing other : List String} (same : existing.Perm other) :
    highestOf about existing = highestOf about other := by
  have members (r : Identity) : r ∈ releases existing ↔ r ∈ releases other := (same.filterMap reading).mem_iff
  cases found : highestOf about other with
  | none =>
    rw [highestOf_eq_none] at found ⊢
    exact fun r member => found r ((members r).mp member)
  | some top =>
    rw [highestOf_eq_some] at found ⊢
    obtain ⟨⟨member, relevant⟩, above⟩ := found
    exact ⟨⟨(members top).mpr member, relevant⟩, fun r listed => above r ((members r).mp listed)⟩

def Line.has (line : Line) (r : Identity) : Bool :=
  decide ((r.major : Int) = line.major ∧ (r.minor : Int) = line.minor)

theorem compare_pos {a b : Identity} : compareProductVersion a.version b.version > 0 ↔ b < a := by
  rw [← not_le, ← compare_le_zero (a := a), not_le, gt_iff_lt]

theorem keep_eq (best : Option Identity) (r : Identity) :
    keep best r = if best.all (fun top => decide (compareProductVersion r.version top.version > 0)) then
      some r else best := by
  cases best with
  | none => rfl
  | some top =>
    simp only [keep, Option.elim_some, Option.all_some, decide_eq_true_eq, compare_pos]
    split
    · next less => rw [max_eq_right less.le]
    · next above => rw [max_eq_left (not_lt.mp above)]

theorem higherPatch_eq (line : Line) (best : Option Identity) (raw : String) :
    higherPatch line (best.map Identity.version) raw = .ok ((higher line.has best raw).map Identity.version) := by
  unfold higherPatch higher
  cases read : parseReleaseTag raw with
  | error err =>
    rw [reading_of_error read]
    rfl
  | ok tag =>
    obtain ⟨r, named, rfl⟩ := reading_of_ok read
    rw [named, Option.elim_some, keep_eq]
    by_cases on : (r.major : Int) = line.major ∧ (r.minor : Int) = line.minor
    · have relevant : line.has r = true := decide_eq_true on
      have off : ¬ ((r.version.major : Int) ≠ line.major ∨ (r.version.minor : Int) ≠ line.minor) := by
        rw [not_or, not_not, not_not]
        exact on
      simp only [versionOnLine, if_neg off, relevant, if_true, Option.all_map]
      -- both sides branch on the same comparison
      split <;> rfl
    · have irrelevant : line.has r = false := decide_eq_false on
      have off : (r.version.major : Int) ≠ line.major ∨ (r.version.minor : Int) ≠ line.minor := by
        by_contra both
        rw [not_or, not_not, not_not] at both
        exact on both
      simp only [versionOnLine, if_pos off, irrelevant]
      rfl

theorem allocatePatch_eq (line : Line) (existing : List String) :
    allocatePatch line existing = match highestOf line.has existing with
    | none => .error .unknownFormat
    | some top =>
      if top.version.build + 1 > maxSegment then .error .segmentRange
      else .ok ⟨top.major, top.minor, top.patch, top.version.build + 1, ""⟩ := by
  have loop (best : Option Identity) : existing.foldlM (higherPatch line) (best.map Identity.version) =
      .ok ((existing.foldl (higher line.has) best).map Identity.version) := by
    induction existing generalizing best with
    | nil => rfl
    | cons raw existing ih =>
      rw [List.foldlM_cons, higherPatch_eq, List.foldl_cons]
      exact ih (higher line.has best raw)
  have found := loop none
  rw [foldl_higher_none, Option.map_none] at found
  rw [allocatePatch, found]
  cases highestOf line.has existing with
  | none => rfl
  | some top => rfl

end Highest

section Candidates

variable {line : Line} {existing : List String}

structure Line.Named (line : Line) : Prop where
  major : 1 ≤ line.major ∧ line.major ≤ maxSegment
  minor : 0 ≤ line.minor ∧ line.minor ≤ maxSegment

theorem orderCandidate_text (a b : Identity) :
    orderCandidate a.version.text b.version.text = compareProductVersion a.version b.version := by
  simp only [orderCandidate, parse_text]
  rfl

def textOf (top : Option Identity) : String := top.elim "" (fun top => top.version.text)

theorem textOf_eq_empty {top : Option Identity} : textOf top = "" ↔ top = none := by
  cases top with
  | none => exact ⟨fun _ => rfl, fun _ => rfl⟩
  | some top => simp [textOf, text_ne_empty]

theorem higherCandidate_eq (named : line.Named) (best : Option Identity) (raw : String) :
    higherCandidate (line.text ++ ".") (textOf best) raw = textOf (higher line.has best raw) := by
  unfold higherCandidate higher
  rw [readCandidateTag_eq]
  cases reading raw with
  | none => rfl
  | some r =>
    have on := startsWith_line r (by have := named.major; omega) named.minor.1
    simp only [Option.map_some, Option.elim_some, on, Line.has, decide_eq_true_eq]
    by_cases relevant : (r.major : Int) = line.major ∧ (r.minor : Int) = line.minor
    · rw [if_pos relevant, keep_eq]
      cases best with
      | none => simp [relevant, textOf]
      | some top =>
        simp only [relevant, textOf, Option.elim_some, text_ne_empty, orderCandidate_text, and_self, true_and,
          false_or, Option.all_some, decide_eq_true_eq]
        split <;> rfl
    · simp [relevant]

theorem foldl_higherCandidate (named : line.Named) (existing : List String) :
    existing.foldl (higherCandidate (line.text ++ ".")) "" = textOf (highestOf line.has existing) := by
  have loop (best : Option Identity) : existing.foldl (higherCandidate (line.text ++ ".")) (textOf best) =
      textOf (existing.foldl (higher line.has) best) := by
    induction existing generalizing best with
    | nil => rfl
    | cons raw existing ih => rw [List.foldl_cons, higherCandidate_eq named, ih, List.foldl_cons]
  have found := loop none
  rwa [foldl_higher_none] at found

section Counting

def Tail.blocks (rc : Bool) : Tail → Bool
  | .beta _ => false
  | .rc _ => !rc
  | _ => true

def Tail.counted (rc : Bool) : Tail → Nat
  | .beta n => if rc then 0 else n
  | .rc n => if rc then n else 0
  | _ => 0

variable {rc : Bool} {next : Nat} {late : Bool} {n : Nat} {tail : Tail} {patch : Nat} {b r : Identity} {raw : String}

theorem stageText_rc : (stageText rc).toList = "rc".toList ↔ rc = true := by
  cases rc <;> decide

theorem stageText_beta : stageText rc = "beta" ↔ rc = false := by
  cases rc <;> decide

theorem stageText_inj : (stageText late).toList = (stageText rc).toList ↔ late = rc := by
  cases late <;> cases rc <;> decide

theorem staged_counted : (Tail.staged late n).counted rc = if late = rc then n else 0 := by
  cases late <;> cases rc <;> rfl

theorem Tail.cases_staged (tail : Tail) : (∃ late n, tail = .staged late n) ∨ tail.candidate = none := by
  cases tail with
  | beta n => exact .inl ⟨false, n, rfl⟩
  | rc n => exact .inl ⟨true, n, rfl⟩
  | _ => exact .inr rfl

theorem blocks_of_final (final : tail.candidate = none) : tail.blocks rc = true := by
  cases tail <;> first | rfl | cases final

theorem countCandidate_unread (unread : reading raw = none) (base stage : String) :
    countCandidate base stage next raw = .ok next := by
  unfold countCandidate
  rw [readCandidateTag_eq, unread]
  rfl

theorem countCandidate_released (next : Nat) (named : reading raw = some r) (same : r.base = b.base)
    (final : r.tail.candidate = none) (stage : String) :
    ∃ err, countCandidate b.base.version.text stage next raw = .error err := by
  have done : r.version.text = b.base.version.text ∨
      startsWith (b.base.version.text ++ ".") r.version.text = true := by
    rw [text_eq_base, startsWith_dot]
    cases tail : r.tail with
    | stable => exact .inl ⟨same, rfl⟩
    | build n => exact .inr ⟨same, n, rfl⟩
    | _ =>
      rw [tail] at final
      cases final
  unfold countCandidate
  rw [readCandidateTag_eq, named]
  exact ⟨_, if_pos done⟩

theorem not_released (unfinished : r.base = b.base → r.tail.candidate ≠ none) :
    ¬ (r.version.text = b.base.version.text ∨ startsWith (b.base.version.text ++ ".") r.version.text = true) := by
  rw [text_eq_base, startsWith_dot]
  rintro (⟨same, tail⟩ | ⟨same, n, tail⟩)
  · exact unfinished same (by rw [tail]; rfl)
  · exact unfinished same (by rw [tail]; rfl)

theorem countCandidate_other (named : reading raw = some r) (other : r.base ≠ b.base) (stage : String) :
    countCandidate b.base.version.text stage next raw = .ok next := by
  have uncut : cutStart (b.base.version.text ++ "-") r.version.text = none := by
    by_contra some
    obtain ⟨pre, found⟩ := Option.ne_none_iff_exists'.mp some
    exact other ((cutStart_dash r b).mp found).1
  unfold countCandidate
  rw [readCandidateTag_eq, named, Option.map_some]
  simp only [if_neg (not_released (fun same => (other same).elim)), uncut]

theorem countCandidate_staged (positive : 1 ≤ next) (named : reading raw = some r) (same : r.base = b.base)
    (tail : r.tail = .staged late n) : countCandidate b.base.version.text (stageText rc) next raw =
    if late = true ∧ rc = false then
      .error (b.base.version.text ++ " already reached rc; continue rc or select a newer target")
    else .ok (max next (r.tail.counted rc + 1)) := by
  have candidate : r.tail.candidate = some (Tail.staged late n).prerelease.toList := by
    rw [tail]
    cases late <;> rfl
  have unfinished : r.base = b.base → r.tail.candidate ≠ none := fun _ absent => by
    rw [candidate] at absent
    cases absent
  have cutOff := (cutStart_dash r b).mpr ⟨same, candidate⟩
  unfold countCandidate
  rw [readCandidateTag_eq, named, Option.map_some]
  simp only [if_neg (not_released unfinished), cutOff, cut_staged, Option.getD_some, decimal_toDigits, tail,
    stageText_rc, stageText_beta, stageText_inj, staged_counted]
  split
  · rfl
  · split
    · next counts => rw [if_pos counts.1, max_eq_right (by omega)]
    · next uncounted =>
        congr 1
        by_cases stage : late = rc
        · have above : ¬ next ≤ n := fun below => uncounted ⟨stage, below⟩
          rw [if_pos stage, max_eq_left (by omega)]
        · rw [if_neg stage, max_eq_left (by omega)]

theorem countCandidate_eq_ok (positive : 1 ≤ next) (b : Identity) (raw : String) {after : Nat} :
    countCandidate b.base.version.text (stageText rc) next raw = .ok after ↔
    (∀ r, reading raw = some r → r.base = b.base → r.tail.blocks rc = false) ∧
      (reading raw).elim next
      (fun r => if r.base = b.base then max next (r.tail.counted rc + 1) else next) = after := by
  cases named : reading raw with
  | none => simp [countCandidate_unread named]
  | some r =>
    by_cases same : r.base = b.base
    · rcases r.tail.cases_staged with ⟨late, n, tail⟩ | final
      · rw [countCandidate_staged positive named same tail]
        have blocks : r.tail.blocks rc = (late && !rc) := by
          rw [tail]
          cases late <;> rfl
        cases late <;> cases rc <;> simp [same, blocks]
      · obtain ⟨err, failed⟩ := countCandidate_released next named same final (stageText rc)
        have blocks : r.tail.blocks rc = true := blocks_of_final final
        simp [failed, same, blocks]
    · simp [countCandidate_other named same, same]

noncomputable def releasesOf (b : Identity) (existing : List String) : List Identity :=
  (releases existing).filter (fun r => decide (r.base = b.base))

theorem releasesOf_unread {existing : List String} (unread : reading raw = none) :
    releasesOf b (raw :: existing) = releasesOf b existing := by
  rw [releasesOf, releases, List.filterMap_cons_none unread, releasesOf, releases]

theorem releasesOf_same {existing : List String} (named : reading raw = some r) (same : r.base = b.base) :
    releasesOf b (raw :: existing) = r :: releasesOf b existing := by
  simp [releasesOf, releases, List.filterMap_cons_some named, same]

theorem releasesOf_other {existing : List String} (named : reading raw = some r) (other : r.base ≠ b.base) :
    releasesOf b (raw :: existing) = releasesOf b existing := by
  simp [releasesOf, releases, List.filterMap_cons_some named, other]

noncomputable def nextNumber (rc : Bool) (b : Identity) (existing : List String) : Nat :=
  (releasesOf b existing).foldl (fun next r => max next (r.tail.counted rc + 1)) 1

theorem foldlM_countCandidate (b : Identity) (existing : List String) {last : Nat} :
    existing.foldlM (countCandidate b.base.version.text (stageText rc)) 1 = .ok last ↔
    (∀ r ∈ releasesOf b existing, r.tail.blocks rc = false) ∧ nextNumber rc b existing = last := by
  have loop (next : Nat) (positive : 1 ≤ next) :
      existing.foldlM (countCandidate b.base.version.text (stageText rc)) next = .ok last ↔
        (∀ r ∈ releasesOf b existing, r.tail.blocks rc = false) ∧
          (releasesOf b existing).foldl (fun next r => max next (r.tail.counted rc + 1)) next = last := by
    induction existing generalizing next with
    | nil => simp [releasesOf, releases]
    | cons raw existing ih =>
      rw [List.foldlM_cons, bind_eq_ok]
      simp only [countCandidate_eq_ok positive]
      cases named : reading raw with
      | none =>
        rw [releasesOf_unread named, ← ih next positive]
        simp
      | some r =>
        by_cases same : r.base = b.base
        · rw [releasesOf_same named same, List.forall_mem_cons, List.foldl_cons, and_assoc,
            ← ih _ (le_max_of_le_left positive)]
          simp [same]
        · rw [releasesOf_other named same, ← ih next positive]
          simp [same]
  exact loop 1 le_rfl

variable {α : Type} (number : α → Nat) {target base : String} {top : Option Identity}

theorem foldl_max_bounds (items : List α) (start : Nat) :
    start ≤ items.foldl (fun next item => max next (number item)) start ∧
    ∀ item ∈ items, number item ≤ items.foldl (fun next item => max next (number item)) start := by
  induction items generalizing start with
  | nil => exact ⟨le_rfl, fun _ member => (List.not_mem_nil member).elim⟩
  | cons first items ih =>
    obtain ⟨above, later⟩ := ih (max start (number first))
    refine ⟨le_trans (le_max_left _ _) above, List.forall_mem_cons.mpr ⟨?_, later⟩⟩
    exact le_trans (le_max_right _ _) above

theorem foldl_max_attained (items : List α) (start : Nat) :
    items.foldl (fun next item => max next (number item)) start = start ∨
    ∃ item ∈ items, items.foldl (fun next item => max next (number item)) start = number item := by
  induction items generalizing start with
  | nil => exact .inl rfl
  | cons first items ih =>
    rcases ih (max start (number first)) with same | ⟨item, member, same⟩
    · rcases max_choice start (number first) with left | right
      · exact .inl (same.trans left)
      · exact .inr ⟨first, .head _, same.trans right⟩
    · exact .inr ⟨item, .tail _ member, same⟩

theorem nextNumber_pos (rc : Bool) (b : Identity) (existing : List String) : 1 ≤ nextNumber rc b existing :=
  (foldl_max_bounds (fun r : Identity => r.tail.counted rc + 1) _ 1).1

theorem counted_lt_next {existing : List String} (member : r ∈ releasesOf b existing) :
    r.tail.counted rc < nextNumber rc b existing :=
  (foldl_max_bounds (fun r : Identity => r.tail.counted rc + 1) _ 1).2 r member

theorem nextNumber_attained (rc : Bool) (b : Identity) (existing : List String) : nextNumber rc b existing = 1 ∨
    ∃ r ∈ releasesOf b existing, nextNumber rc b existing = r.tail.counted rc + 1 :=
  foldl_max_attained (fun r : Identity => r.tail.counted rc + 1) _ 1

theorem nextNumber_perm (rc : Bool) (b : Identity) {existing other : List String} (same : existing.Perm other) :
    nextNumber rc b existing = nextNumber rc b other := by
  have right : RightCommutative (fun (next : Nat) (r : Identity) => max next (r.tail.counted rc + 1)) :=
    ⟨fun next r t => max_right_comm next _ _⟩
  exact ((same.filterMap reading).filter _).foldl_eq 1

def Line.release (line : Line) (named : line.Named) (patch : Nat) (bounded : patch ≤ maxSegment) : Identity where
  major := line.major.toNat
  minor := line.minor.toNat
  patch := patch
  tail := .stable
  bounded := by
    obtain ⟨major, minor⟩ := named
    exact ⟨⟨by omega, by omega, bounded⟩, Nat.zero_le _, fun other => (other rfl).elim⟩

theorem release_text (named : line.Named) (bounded : patch ≤ maxSegment) :
    line.text ++ "." ++ Nat.repr patch = (line.release named patch bounded).version.text := by
  obtain ⟨major, minor⟩ := named
  apply String.toList_inj.mp
  rw [String.toList_append, line_toList (m := line.major.toNat) (n := line.minor.toNat) (by omega) (by omega),
    text_parts, Nat.toList_repr]
  simp [Line.release, Tail.rest]

theorem release_base (named : line.Named) (bounded : patch ≤ maxSegment) :
    (line.release named patch bounded).base = line.release named patch bounded := rfl

theorem release_has (named : line.Named) (bounded : patch ≤ maxSegment) :
    line.has (line.release named patch bounded) = true := by
  obtain ⟨major, minor⟩ := named
  exact decide_eq_true ⟨Int.toNat_of_nonneg (by omega), Int.toNat_of_nonneg (by omega)⟩

theorem candidate_of_dash {r : Identity} (plain : '-' ∉ r.version.text.toList) : r.tail.candidate = none := by
  have cuts := cut_text r
  rw [cut_of_notMem plain] at cuts
  exact (Prod.mk.inj cuts).2.symm

theorem stable_of_three {r : Identity} (plain : '-' ∉ r.version.text.toList)
    (three : (split '.' r.version.text.toList).length = 3) : r.tail = .stable := by
  have final := candidate_of_dash plain
  rw [text_toList, final, joined, Option.elim_none, split_segments, List.length_map, Identity.segments] at three
  cases tail : r.tail with
  | stable => rfl
  | build n =>
    rw [tail] at three
    cases three
  | _ =>
    rw [tail] at final
    cases final

theorem candidateBase_target (named : line.Named) (pinned : target ≠ "") (highest : String)
    (ok : candidateBase line target highest = .ok base) :
    ∃ b : Identity, base = b.base.version.text ∧ line.has b = true ∧ 0 < b.major := by
  unfold candidateBase at ok
  rw [if_pos pinned] at ok
  split at ok
  · cases ok
  · next accepted =>
      obtain ⟨valid, plain, three, starts⟩ := by simpa only [not_or, Bool.not_eq_false, not_not] using accepted
      obtain ⟨b, positive, rfl⟩ := validVersion_iff.mp valid
      have stable := stable_of_three plain three
      have itself : b = b.base := (eq_base_iff b b).mpr ⟨rfl, stable⟩
      have on := (startsWith_line b (by have := named.major; omega) named.minor.1).mp starts
      refine ⟨b, ?_, decide_eq_true on, positive⟩
      rw [← itself, Except.ok.inj ok]

/-- Where the counting starts if no target is named. -/
inductive Follows (line : Line) (top : Option Identity) (b : Identity) : Prop where
  | first (none : top = none)
  | same (highest : Identity) (found : top = some highest) (candidate : highest.tail.candidate ≠ none)
      (base : highest.base = b.base)
  | after (highest : Identity) (found : top = some highest) (final : highest.tail.candidate = none)
      (patch : b.patch = highest.patch + 1)

theorem candidate_getD : tail.candidate.getD [] ≠ [] ↔ tail.candidate ≠ none := by
  cases tail with
  | beta n =>
    have text : (Tail.beta n).prerelease ≠ "" := staged_ne_empty false n
    simp [Tail.candidate, text]
  | rc n =>
    have text : (Tail.rc n).prerelease ≠ "" := staged_ne_empty true n
    simp [Tail.candidate, text]
  | _ => simp [Tail.candidate]

theorem patch_segment (r : Identity) : decimal ((split '.' (dotted r.segments))[2]?.getD []) = r.patch := by
  rw [split_segments, Identity.segments]
  cases r.tail <;> exact decimal_toDigits r.patch

theorem candidateBase_after {r : Identity} (candidate : r.tail.candidate ≠ none) :
    String.ofList (dotted r.segments) = r.base.version.text := by
  apply String.toList_inj.mp
  rw [String.toList_ofList, base_text, Identity.segments]
  cases tail : r.tail with
  | beta n => rfl
  | rc n => rfl
  | _ =>
    rw [tail] at candidate
    exact (candidate rfl).elim

theorem candidateBase_empty (named : line.Named) (on : ∀ r, top = some r → line.has r = true) :
    (∃ b, candidateBase line "" (textOf top) = .ok b.base.version.text ∧ line.has b = true ∧ 0 < b.major ∧
      Follows line top b) ∨
    ∃ r err, candidateBase line "" (textOf top) = .error err ∧ top = some r ∧ r.tail.candidate = none ∧
      r.patch = maxSegment := by
  have positive (b : Identity) (has : line.has b = true) : 0 < b.major := by
    have same := (of_decide_eq_true has).1
    have := named.major
    omega
  unfold candidateBase
  rw [if_neg (not_not.mpr rfl)]
  cases top with
  | none =>
    have has := release_has named (Nat.zero_le maxSegment)
    refine .inl ⟨line.release named 0 (Nat.zero_le _), ?_, has, positive _ has, .first rfl⟩
    rw [if_pos (textOf_eq_empty.mpr rfl), release_base, ← release_text]
    rfl
  | some r =>
    have has := on r rfl
    rw [if_neg (textOf_eq_empty.not.mpr (Option.some_ne_none r)), textOf, Option.elim_some, cut_text]
    by_cases candidate : r.tail.candidate = none
    · have final : ¬ r.tail.candidate.getD [] ≠ [] := candidate_getD.not.mpr (not_not.mpr candidate)
      simp only [if_neg final, patch_segment, candidateMax]
      have bounded := r.bounded.1.2.2
      split
      · next exhausted => exact .inr ⟨r, _, rfl, rfl, candidate, le_antisymm bounded exhausted⟩
      · next room =>
          have next : r.patch + 1 ≤ maxSegment := not_le.mp room
          have has := release_has named next
          refine .inl ⟨line.release named (r.patch + 1) next, ?_, has, positive _ has, .after r rfl candidate rfl⟩
          rw [release_base, ← release_text]
    · refine .inl ⟨r, ?_, has, positive r has, .same r rfl candidate rfl⟩
      exact (if_pos (candidate_getD.mpr candidate)).trans (congrArg Except.ok (candidateBase_after candidate))

end Counting

end Candidates

end PasswallNode.Releaseid
