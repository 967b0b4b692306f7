import PasswallNode.Releaseid.Fresh

/-! Every number that is handed out is new on its line, and which number it is does not depend on the
order of the tags. -/

namespace PasswallNode.Releaseid

open Foundation

section Candidate

variable {line : Line} {stage target s : String} {existing other : List String}

theorem stage_iff : ¬ (stage ≠ "beta" ∧ stage ≠ "rc") ↔ ∃ rc, stage = stageText rc := by
  rw [not_and_or, not_not, not_not, Bool.exists_bool]
  rfl

def Identity.candidate (b : Identity) (rc : Bool) (n : Nat) (bounds : 1 ≤ n ∧ n ≤ maxSegment) : Identity :=
  ⟨b.major, b.minor, b.patch, .staged rc n, b.bounded.1, staged_bounded rc bounds⟩

theorem candidate_text (b : Identity) (rc : Bool) {n : Nat} (bounds : 1 ≤ n ∧ n ≤ maxSegment) :
    b.base.version.text ++ "-" ++ stageText rc ++ "." ++ Nat.repr n = (b.candidate rc n bounds).version.text := by
  apply String.toList_inj.mp
  rw [text_parts (b.candidate rc n bounds)]
  simp only [String.toList_append, base_text, Nat.toList_repr]
  have rest : (Tail.staged rc n).rest = '-' :: (Tail.staged rc n).prerelease.toList := by cases rc <;> rfl
  simp [Identity.candidate, rest, staged_toList]

structure Allocates (line : Line) (rc : Bool) (target : String) (existing : List String) (s : String) : Prop where
  named : line.Named
  allocated : ∃ base next, candidateBase line target (textOf (highestOf line.has existing)) = .ok base ∧
    existing.foldlM (countCandidate base (stageText rc)) 1 = .ok next ∧ next ≤ maxSegment ∧
    base ++ "-" ++ stageText rc ++ "." ++ Nat.repr next = s ∧
    ∀ top, highestOf line.has existing = some top → 0 < orderCandidate s top.version.text

theorem allocateCandidate_eq_ok :
    allocateCandidate line stage target existing = .ok s ↔ ∃ rc,
      stage = stageText rc ∧ Allocates line rc target existing s := by
  have valid : ¬ (line.major < 1 ∨ line.minor < 0 ∨ line.major > candidateMax ∨ line.minor > candidateMax) ↔
      line.Named := by
    unfold candidateMax
    exact ⟨fun inside => ⟨by omega, by omega⟩, fun ⟨major, minor⟩ => by omega⟩
  simp only [allocateCandidate, bind_eq_ok, rejectIf_eq_ok, pure_eq_ok, stage_iff, valid]
  constructor
  · rintro ⟨-, named, -, ⟨rc, rfl⟩, base, based, next, counted, -, bounded, -, advances, same⟩
    rw [foldl_higherCandidate named] at based advances
    refine ⟨rc, rfl, named, base, next, based, counted, not_lt.mp bounded, same, fun top found => ?_⟩
    rw [found, same] at advances
    by_contra behind
    exact advances ⟨textOf_eq_empty.not.mpr (Option.some_ne_none top), not_lt.mp behind⟩
  · rintro ⟨rc, rfl, named, base, next, based, counted, bounded, same, advances⟩
    refine ⟨(), named, (), ⟨rc, rfl⟩, base, ?_, next, counted, (), not_lt.mpr bounded, (), ?_, same⟩
    · rwa [foldl_higherCandidate named]
    · rw [foldl_higherCandidate named, same]
      rintro ⟨present, behind⟩
      obtain ⟨top, found⟩ := Option.ne_none_iff_exists'.mp (textOf_eq_empty.not.mp present)
      rw [found] at behind
      exact absurd (advances top found) (not_lt.mpr behind)

theorem allocates_base {base : String} (named : line.Named)
    (based : candidateBase line target (textOf (highestOf line.has existing)) = .ok base) :
    ∃ b : Identity, base = b.base.version.text ∧ line.has b = true ∧ 0 < b.major := by
  by_cases pinned : target = ""
  · rw [pinned] at based
    have on (r : Identity) (found : highestOf line.has existing = some r) : line.has r = true :=
      (highestOf_eq_some.mp found).1.2
    rcases candidateBase_empty named on with ⟨b, ok, has, positive, -⟩ | ⟨r, err, failed, -⟩
    · rw [ok] at based
      exact ⟨b, (Except.ok.inj based).symm, has, positive⟩
    · rw [failed] at based
      cases based
  · exact candidateBase_target named pinned _ based

theorem allocates_new {rc : Bool} (allocates : Allocates line rc target existing s) :
    ∃ r : Identity, r.version.text = s ∧ 0 < r.major ∧ line.has r = true ∧
    ∀ t ∈ releases existing, line.has t = true → t < r := by
  obtain ⟨named, base, next, based, counted, bounded, same, advances⟩ := allocates
  obtain ⟨b, rfl, has, positive⟩ := allocates_base named based
  obtain ⟨-, rfl⟩ := (foldlM_countCandidate b existing).mp counted
  rw [candidate_text b rc ⟨nextNumber_pos rc b existing, bounded⟩] at same
  refine ⟨_, same, positive, has, fun t member on => ?_⟩
  cases found : highestOf line.has existing with
  | none =>
    rw [highestOf_eq_none.mp found t member] at on
    cases on
  | some top =>
    have above := advances top found
    rw [← same, orderCandidate_text] at above
    exact lt_of_le_of_lt ((highestOf_eq_some.mp found).2 t member on) (compare_pos.mp above)

theorem releasesOf_perm (b : Identity) (same : existing.Perm other) :
    (releasesOf b existing).Perm (releasesOf b other) :=
  (same.filterMap reading).filter _

theorem allocates_perm {rc : Bool} (same : existing.Perm other) (allocates : Allocates line rc target existing s) :
    Allocates line rc target other s := by
  obtain ⟨named, base, next, based, counted, bounded, text, advances⟩ := allocates
  obtain ⟨b, rfl, -, -⟩ := allocates_base named based
  obtain ⟨unblocked, number⟩ := (foldlM_countCandidate b existing).mp counted
  have top := highestOf_perm line.has same
  refine ⟨named, _, next, top ▸ based, (foldlM_countCandidate b other).mpr ⟨fun r member => ?_, ?_⟩, bounded, text,
    top ▸ advances⟩
  · exact unblocked r ((releasesOf_perm b same).mem_iff.mpr member)
  · rw [← nextNumber_perm rc b same, number]

inductive Exhausted (rc : Bool) (top : Identity) : Prop where
  | reachedRC (n : Nat) (beta : rc = false) (tail : top.tail = .rc n)
  | patch (final : top.tail.candidate = none) (last : top.patch = maxSegment)
  | counter (last : top.tail = .staged rc maxSegment)

section Room

variable {rc : Bool} {b : Identity} {r t : Identity} {tail : Tail} {n : Nat}

theorem base_has (same : r.base = t.base) : line.has r = line.has t := by
  obtain ⟨major, minor, -⟩ := (base_eq_iff r t).mp same
  rw [Line.has, Line.has, major, minor]

theorem mem_releasesOf : r ∈ releasesOf b existing ↔ r ∈ releases existing ∧ r.base = b.base := by
  rw [releasesOf, List.mem_filter, decide_eq_true_eq]

theorem releasesOf_follows (has : line.has b = true) (follows : Follows line (highestOf line.has existing) b)
    (member : r ∈ releasesOf b existing) :
    ∃ top, highestOf line.has existing = some top ∧ top.base = b.base ∧ top.tail.candidate ≠ none ∧
    r.base = top.base ∧ r ≤ top := by
  obtain ⟨released, base⟩ := mem_releasesOf.mp member
  have on : line.has r = true := (base_has base).trans has
  cases follows with
  | first none =>
    rw [highestOf_eq_none.mp none r released] at on
    cases on
  | same top found candidate sameBase =>
    exact ⟨top, found, sameBase, candidate, base.trans sameBase.symm, (highestOf_eq_some.mp found).2 r released on⟩
  | after top found final patch =>
    have below := (highestOf_eq_some.mp found).2 r released on
    have above : top < r := by
      obtain ⟨⟨major, minor⟩, topMajor, topMinor⟩ :=
        And.intro (of_decide_eq_true on) (of_decide_eq_true (highestOf_eq_some.mp found).1.2)
      have patches := ((base_eq_iff r b).mp base).2.2
      rw [Identity.lt_iff]
      omega
    exact absurd below (not_le.mpr above)

theorem tail_le (same : r.base = t.base) (le : r ≤ t) :
    r.tail.rank < t.tail.rank ∨ r.tail.rank = t.tail.rank ∧ r.tail.number ≤ t.tail.number := by
  obtain ⟨major, minor, patch⟩ := (base_eq_iff r t).mp same
  have reversed := not_lt.mpr le
  rw [Identity.lt_iff] at reversed
  omega

theorem blocks_rank (blocks : tail.blocks rc = true) : 1 ≤ tail.rank ∧ (tail.rank = 1 → rc = false) := by
  cases tail <;> simp_all [Tail.blocks, Tail.rank]

theorem candidate_rank (candidate : tail.candidate ≠ none) : ∃ late n, tail = .staged late n :=
  tail.cases_staged.resolve_right candidate

theorem staged_rank (late : Bool) (n : Nat) : (Tail.staged late n).rank = late.toNat := by
  cases late <;> rfl

theorem staged_number (late : Bool) (n : Nat) : (Tail.staged late n).number = n := by
  cases late <;> rfl

theorem unblocked_of_room (has : line.has b = true) (follows : Follows line (highestOf line.has existing) b)
    (room : ∀ top, highestOf line.has existing = some top → ¬ Exhausted rc top) :
    ∀ r ∈ releasesOf b existing, r.tail.blocks rc = false := by
  intro r member
  obtain ⟨top, found, -, candidate, base, below⟩ := releasesOf_follows has follows member
  have tails := tail_le base below
  obtain ⟨late, n, tail⟩ := candidate_rank candidate
  by_contra blocks
  rw [Bool.not_eq_false] at blocks
  obtain ⟨atLeast, asked⟩ := blocks_rank blocks
  rw [tail, staged_rank] at tails
  cases late with
  | false =>
    rw [Bool.toNat_false] at tails
    omega
  | true =>
    rw [Bool.toNat_true] at tails
    exact room top found (.reachedRC n (asked (by omega)) tail)

theorem counted_eq (counted : tail.counted rc = n) (positive : 0 < n) : tail = .staged rc n := by
  cases tail <;> cases rc <;> simp_all [Tail.counted, Tail.staged]

theorem staged_blocks (late : Bool) (n : Nat) : (Tail.staged late n).blocks rc = (late && !rc) := by
  cases late <;> rfl

theorem late_of_unblocked {late : Bool} (tail : r.tail = .staged late n) (unblocked : r.tail.blocks rc = false) :
    late.toNat ≤ rc.toNat := by
  rw [tail, staged_blocks] at unblocked
  cases late <;> cases rc <;> simp_all

theorem number_of_room (has : line.has b = true) (follows : Follows line (highestOf line.has existing) b)
    (unblocked : ∀ r ∈ releasesOf b existing, r.tail.blocks rc = false)
    (room : ∀ top, highestOf line.has existing = some top → ¬ Exhausted rc top) :
    nextNumber rc b existing ≤ maxSegment := by
  by_contra beyond
  rcases nextNumber_attained rc b existing with one | ⟨r, member, number⟩
  · rw [one] at beyond
    exact beyond (by decide)
  · -- the candidate with the last number, and so the highest release, is at the bound
    have positive : 0 < r.tail.counted rc := by
      have : 0 < maxSegment := by decide
      omega
    have tail : r.tail = .staged rc (r.tail.counted rc) := counted_eq rfl positive
    obtain ⟨top, found, topBase, candidate, base, below⟩ := releasesOf_follows has follows member
    obtain ⟨late, m, topTail⟩ := candidate_rank candidate
    have topMember := mem_releasesOf.mpr ⟨(highestOf_eq_some.mp found).1.1, topBase⟩
    have atMost := late_of_unblocked topTail (unblocked top topMember)
    have bound := top.bounded.2.1
    have tails := tail_le base below
    rw [topTail, tail, staged_rank, staged_rank, staged_number, staged_number] at tails
    rw [topTail, staged_number] at bound
    have last : m = maxSegment := by omega
    have ranks : late.toNat = rc.toNat := by omega
    have stage : late = rc := by cases late <;> cases rc <;> first | rfl | cases ranks
    exact room top found (.counter (by rw [topTail, stage, last]))

theorem candidate_after {top : Identity} (found : highestOf line.has existing = some top) (has : line.has b = true)
    (follows : Follows line (highestOf line.has existing) b)
    (unblocked : ∀ r ∈ releasesOf b existing, r.tail.blocks rc = false)
    (bounds : 1 ≤ nextNumber rc b existing ∧ nextNumber rc b existing ≤ maxSegment) :
    top < b.candidate rc (nextNumber rc b existing) bounds := by
  have on := of_decide_eq_true (highestOf_eq_some.mp found).1.2
  have line := of_decide_eq_true has
  rw [Identity.lt_iff]
  simp only [Identity.candidate, staged_rank, staged_number]
  cases follows with
  | first none =>
    rw [none] at found
    cases found
  | after other same final patch =>
    rw [found] at same
    cases same
    omega
  | same other same candidate base =>
    rw [found] at same
    cases same
    obtain ⟨late, m, tail⟩ := candidate_rank candidate
    have member := mem_releasesOf.mpr ⟨(highestOf_eq_some.mp found).1.1, base⟩
    have atMost := late_of_unblocked tail (unblocked top member)
    have number : top.tail.counted rc < _ := counted_lt_next member
    obtain ⟨major, minor, patch⟩ := (base_eq_iff top b).mp base
    rw [tail, staged_rank, staged_number]
    rw [tail, staged_counted] at number
    by_cases stage : late = rc
    · rw [if_pos stage] at number
      rw [stage] at atMost ⊢
      omega
    · have less : late.toNat < rc.toNat := by cases late <;> cases rc <;> simp_all
      omega

theorem allocates_of_room (named : line.Named)
    (room : ∀ top, highestOf line.has existing = some top → ¬ Exhausted rc top) :
    ∃ s, Allocates line rc "" existing s := by
  have on (r : Identity) (found : highestOf line.has existing = some r) : line.has r = true :=
    (highestOf_eq_some.mp found).1.2
  rcases candidateBase_empty named on with ⟨b, based, has, -, follows⟩ | ⟨r, err, -, found, final, last⟩
  · have unblocked := unblocked_of_room has follows room
    have bounds := And.intro (nextNumber_pos rc b existing) (number_of_room has follows unblocked room)
    refine ⟨_, named, _, _, based, (foldlM_countCandidate b existing).mpr ⟨unblocked, rfl⟩, bounds.2, rfl, ?_⟩
    intro top found
    rw [candidate_text b rc bounds, orderCandidate_text]
    exact compare_pos.mpr (candidate_after found has follows unblocked bounds)
  · exact (room r found (.patch final last)).elim

end Room

end Candidate

section Advance

variable {source stage s : String} {tags other : List String} {v : String} {r o : Identity} {tag : String} {tail : Tail}
  {line : Line} {existing : List String}

structure Advances (source stage : String) (tags : List String) (s v : String) : Prop where
  source : readCandidateTag source = some v ∧ startsWith "v" source = true ∧ '-' ∈ v.toList
  three : (split '.' (cut '-' v.toList).1).length = 3
  newest : ∀ tag ∈ tags, supersedes (String.ofList (cut '-' v.toList).1) v tag = false
  result : stage = "stable" ∧ String.ofList (cut '-' v.toList).1 = s ∨
    stage = "rc" ∧ startsWith "beta." (String.ofList ((cut '-' v.toList).2.getD [])) = true ∧
      (∀ tag ∈ tags, finalizes (String.ofList (cut '-' v.toList).1) tag = false) ∧
      String.ofList (cut '-' v.toList).1 ++ "-rc.1" = s

theorem advanceRelease_eq_ok : advanceRelease source stage tags = .ok s ↔ ∃ v, Advances source stage tags s v := by
  have found (v : String) :
    (readCandidateTag source).filter (fun v => startsWith "v" source && decide ('-' ∈ v.toList)) =
      some v ↔ readCandidateTag source = some v ∧ startsWith "v" source = true ∧ '-' ∈ v.toList := by
    rw [Option.filter_eq_some_iff, Bool.and_eq_true, decide_eq_true_eq]
  have newest (base v : String) : ¬ (tags.find? (supersedes base v)).isSome = true ↔
      ∀ tag ∈ tags, supersedes base v tag = false := by
    rw [List.find?_isSome, not_exists]
    simp
  simp only [advanceRelease, bind_eq_ok, orError_eq_ok, rejectIf_eq_ok, found, newest, String.toList_ofList]
  constructor
  · rintro ⟨v, read, -, three, -, newer, returned⟩
    refine ⟨v, read, not_not.mp three, newer, ?_⟩
    split at returned
    · next stable => exact .inl ⟨stable, Except.ok.inj returned⟩
    · simp only [bind_eq_ok, rejectIf_eq_ok, pure_eq_ok, not_or, not_not, Bool.not_eq_false] at returned
      obtain ⟨-, ⟨rc, beta⟩, -, unfinished, same⟩ := returned
      exact .inr ⟨rc, beta, by simpa using unfinished, same⟩
  · rintro ⟨v, read, three, newer, result⟩
    refine ⟨v, read, (), not_not.mpr three, (), newer, ?_⟩
    rcases result with ⟨rfl, same⟩ | ⟨rfl, beta, unfinished, same⟩
    · rw [if_pos rfl, same]
      rfl
    · rw [if_neg (by decide)]
      simp only [bind_eq_ok, rejectIf_eq_ok, pure_eq_ok, not_or, not_not, Bool.not_eq_false]
      exact ⟨(), ⟨trivial, beta⟩, (), by simpa using unfinished, same⟩

theorem advances_perm (same : tags.Perm other) (advances : Advances source stage tags s v) :
    Advances source stage other s v := by
  obtain ⟨source, three, newest, result⟩ := advances
  refine ⟨source, three, fun tag member => newest tag (same.mem_iff.mpr member), result.imp_right ?_⟩
  rintro ⟨rc, beta, unfinished, text⟩
  exact ⟨rc, beta, fun tag member => unfinished tag (same.mem_iff.mpr member), text⟩

theorem startsWith_dash {b : Identity} :
    startsWith (b.base.version.text ++ "-") r.version.text = true ↔ r.base = b.base ∧ r.tail.candidate ≠ none := by
  rw [startsWith_iff, String.toList_append, show "-".toList = ['-'] from rfl, base_begins r b '-' [] (by decide)]
  refine and_congr_right (fun _ => ?_)
  cases r.tail <;> simp [Tail.rest, Tail.candidate]

theorem supersedes_iff (named : reading tag = some o) : supersedes r.base.version.text r.version.text tag = true ↔
    (o.base = r.base ∧ o.tail.candidate ≠ none) ∧ r < o := by
  rw [supersedes, readCandidateTag_eq, named, Option.map_some, Option.any_some, Bool.and_eq_true, startsWith_dash,
    decide_eq_true_eq, orderCandidate_text, compare_pos]

theorem finalizes_iff (named : reading tag = some o) :
    finalizes r.base.version.text tag = true ↔ o.base = r.base ∧ o.tail.candidate = none := by
  rw [finalizes, readCandidateTag_eq, named, Option.map_some, Option.any_some, Bool.or_eq_true, decide_eq_true_eq,
    text_eq_base, startsWith_dot, ← and_or_left]
  refine and_congr_right (fun _ => ?_)
  cases o.tail <;> simp [Tail.candidate]

theorem beta_of_start (beta : startsWith "beta." (String.ofList (tail.candidate.getD [])) = true) :
    ∃ n, tail = .beta n := by
  rw [startsWith_iff, String.toList_ofList] at beta
  cases tail with
  | beta n => exact ⟨n, rfl⟩
  | rc n => simp [Tail.candidate, Tail.prerelease] at beta
  | _ => simp [Tail.candidate] at beta

theorem advances_new (advances : Advances source "rc" tags s v) :
    ∃ r t : Identity, reading source = some r ∧ t.version.text = s ∧ t.base = r.base ∧ 0 < t.major ∧ r < t ∧
    ∀ o ∈ releases tags, o.base = r.base → o.tail.candidate ≠ none ∧ o < t := by
  obtain ⟨⟨read, -, dash⟩, three, newest, result⟩ := advances
  rcases result with ⟨impossible, -⟩ | ⟨-, beta, unfinished, same⟩
  · exact absurd impossible (by decide)
  rw [readCandidateTag_eq, Option.map_eq_some_iff] at read
  obtain ⟨r, named, rfl⟩ := read
  rw [cut_text] at three newest beta unfinished same
  obtain ⟨n, tail⟩ := beta_of_start beta
  have candidate : r.tail.candidate ≠ none := by
    rw [tail]
    exact Option.some_ne_none _
  simp only [candidateBase_after candidate] at newest unfinished same
  have line : 0 < r.major := reading_major named
  have text := candidate_text r true (n := 1) ⟨le_rfl, by decide⟩
  have less : r < r.candidate true 1 ⟨le_rfl, by decide⟩ := by
    rw [Identity.lt_iff, tail]
    exact .inr ⟨rfl, .inr ⟨rfl, .inr ⟨rfl, .inl Nat.zero_lt_one⟩⟩⟩
  refine ⟨r, _, named, text.symm.trans ?_, rfl, line, less, fun o member base => ?_⟩
  · rw [← same, String.append_assoc, String.append_assoc, String.append_assoc]
    rfl
  · obtain ⟨tag, listed, read⟩ := mem_releases.mp member
    have unfinal : o.tail.candidate ≠ none := fun final => by
      have done := (finalizes_iff read).mpr ⟨base, final⟩
      rw [unfinished tag listed] at done
      cases done
    refine ⟨unfinal, lt_of_le_of_lt (not_lt.mp fun newer => ?_) less⟩
    have superseded := (supersedes_iff read).mpr ⟨⟨base, unfinal⟩, newer⟩
    rw [newest tag listed] at superseded
    cases superseded

theorem build_after (tail : Tail) : tail.rank < 3 ∨ tail.rank = 3 ∧ tail.number < tail.buildNumber + 1 := by
  cases tail with
  | build n => exact .inr ⟨rfl, Nat.lt_succ_self n⟩
  | _ => exact .inl (by simp [Tail.rank])

theorem allocatePatch_new {v : Version} (ok : allocatePatch line existing = .ok v) :
    ∃ r : Identity, r.version = v ∧ 0 < r.major ∧ line.has r = true ∧ ∀ t ∈ releases existing,
      line.has t = true → t < r := by
  rw [allocatePatch_eq] at ok
  cases found : highestOf line.has existing with
  | none =>
    rw [found] at ok
    cases ok
  | some top =>
    simp only [found] at ok
    split at ok
    · cases ok
    · next room =>
        obtain ⟨⟨member, on⟩, above⟩ := highestOf_eq_some.mp found
        obtain ⟨raw, -, named⟩ := mem_releases.mp member
        have positive : 0 < top.major := reading_major named
        have tail : (Tail.build (top.version.build + 1)).Bounded := ⟨not_lt.mp room, fun _ => Nat.le_add_left 1 _⟩
        refine ⟨⟨top.major, top.minor, top.patch, .build (top.version.build + 1), top.bounded.1, tail⟩,
          Except.ok.inj ok, positive, on, fun t listed has => lt_of_le_of_lt (above t listed has) ?_⟩
        rw [Identity.lt_iff]
        exact .inr ⟨rfl, .inr ⟨rfl, .inr ⟨rfl, build_after top.tail⟩⟩⟩

theorem allocatePatch_perm {other : List String} (same : existing.Perm other) :
    allocatePatch line existing = allocatePatch line other := by
  rw [allocatePatch_eq, allocatePatch_eq, highestOf_perm line.has same]

theorem toOption_ext {ε α : Type} {call other : Except ε α} (same : ∀ a, call = .ok a ↔ other = .ok a) :
    call.toOption = other.toOption := by
  cases call with
  | ok a => rw [(same a).mp rfl]
  | error err =>
    cases other with
    | ok a => cases (same a).mpr rfl
    | error other => rfl

def OnLine (line : Line) (v : Version) : Prop := (v.major : Int) = line.major ∧ (v.minor : Int) = line.minor

theorem has_iff : line.has r = true ↔ OnLine line r.version := decide_eq_true_iff

def SameBase (a b : Version) : Prop := a.major = b.major ∧ a.minor = b.minor ∧ a.patch = b.patch

def Tops (v : Version) (existing : List String) (about : Version → Prop) : Prop :=
  ∀ raw ∈ existing, ∀ tag, parseReleaseTag raw = .ok tag → about tag.product → compareProductVersion v tag.product > 0

def IsHighest (line : Line) (existing : List String) (v : Version) : Prop :=
  OnLine line v ∧ ∀ raw ∈ existing, ∀ tag, parseReleaseTag raw = .ok tag → OnLine line tag.product →
    compareProductVersion tag.product v ≤ 0

theorem tops_of_lt {about : Version → Prop} (above : ∀ t ∈ releases existing, about t.version → t < r) :
    Tops r.version existing about := by
  intro raw member tag read holds
  obtain ⟨t, named, rfl⟩ := reading_of_ok read
  exact compare_pos.mpr (above t (mem_releases.mpr ⟨raw, member, named⟩) holds)

/-- Allocated numbers are valid, on their line and new; they do not depend on the order of the tags;
and a line refuses a candidate only when it has no number left for it. -/
structure Advancing : Prop where
  patch : ∀ line existing v, allocatePatch line existing = .ok v →
    validVersion v.text = true ∧ OnLine line v ∧ Tops v existing (OnLine line)
  candidate : ∀ line stage target existing s, allocateCandidate line stage target existing = .ok s →
    validVersion s = true ∧ ∃ v, parseProductVersion s = .ok v ∧ OnLine line v ∧ Tops v existing (OnLine line)
  advanced : ∀ source tags s, advanceRelease source "rc" tags = .ok s →
    validVersion s = true ∧ ∃ v tag, parseProductVersion s = .ok v ∧ parseReleaseTag source = .ok tag ∧
      SameBase v tag.product ∧ compareProductVersion v tag.product > 0 ∧
      Tops v tags (fun other => SameBase other tag.product) ∧
      ∀ raw ∈ tags, ∀ other, parseReleaseTag raw = .ok other → SameBase other.product tag.product →
        other.product.prerelease ≠ ""
  patch_order : ∀ line existing other, existing.Perm other → allocatePatch line existing = allocatePatch line other
  candidate_order : ∀ line stage target existing other, existing.Perm other →
    (allocateCandidate line stage target existing).toOption = (allocateCandidate line stage target other).toOption
  advance_order : ∀ source stage tags other, tags.Perm other →
    (advanceRelease source stage tags).toOption = (advanceRelease source stage other).toOption
  refused : ∀ line stage existing err, line.Named → stage = "beta" ∨ stage = "rc" →
    allocateCandidate line stage "" existing = .error err →
    ∃ raw ∈ existing, ∃ tag, parseReleaseTag raw = .ok tag ∧ IsHighest line existing tag.product ∧
      (stage = "beta" ∧ startsWith "rc." tag.product.prerelease = true ∨
        tag.product.prerelease = "" ∧ tag.product.patch = maxSegment ∨
        tag.product.prerelease = stage ++ "." ++ Nat.repr maxSegment)

theorem prerelease_of_final (final : tail.candidate = none) : tail.prerelease = "" := by
  cases tail <;> first | rfl | cases final

theorem staged_text (rc : Bool) (n : Nat) : (Tail.staged rc n).prerelease = stageText rc ++ "." ++ Nat.repr n := by
  apply String.toList_inj.mp
  rw [staged_toList]
  simp [Nat.toList_repr]

theorem refused_exhausted {stage err : String} (named : line.Named) (known : stage = "beta" ∨ stage = "rc")
    (failed : allocateCandidate line stage "" existing = .error err) :
    ∃ rc top, stage = stageText rc ∧ highestOf line.has existing = some top ∧ Exhausted rc top := by
  obtain ⟨rc, rfl⟩ : ∃ rc, stage = stageText rc := Bool.exists_bool.mpr known
  by_contra free
  push Not at free
  have room : ∀ top, highestOf line.has existing = some top → ¬ Exhausted rc top := fun top => free rc top rfl
  obtain ⟨s, allocates⟩ := allocates_of_room named room
  rw [allocateCandidate_eq_ok.mpr ⟨rc, rfl, allocates⟩] at failed
  cases failed

theorem allocations_advance : Advancing where
  patch line existing v ok := by
    obtain ⟨r, rfl, positive, has, above⟩ := allocatePatch_new ok
    exact ⟨(validVersion_text r).mpr positive, has_iff.mp has,
      tops_of_lt (fun t member on => above t member (has_iff.mpr on))⟩
  candidate line stage target existing s ok := by
    obtain ⟨rc, -, allocates⟩ := allocateCandidate_eq_ok.mp ok
    obtain ⟨r, rfl, positive, has, above⟩ := allocates_new allocates
    exact ⟨(validVersion_text r).mpr positive, r.version, parse_text r, has_iff.mp has,
      tops_of_lt (fun t member on => above t member (has_iff.mpr on))⟩
  advanced source tags s ok := by
    obtain ⟨v, advances⟩ := advanceRelease_eq_ok.mp ok
    obtain ⟨r, t, named, rfl, base, positive, less, others⟩ := advances_new advances
    obtain ⟨tag, read, product⟩ := reading_eq_some.mp named
    refine ⟨(validVersion_text t).mpr positive, t.version, tag, parse_text t, read, ?_, ?_, ?_, ?_⟩
    · rw [product]
      exact (base_eq_iff t r).mp base
    · rw [product]
      exact compare_pos.mpr less
    · rw [product]
      exact tops_of_lt (fun o member same => (others o member ((base_eq_iff o r).mpr same)).2)
    · intro raw member other readOther same
      obtain ⟨o, namedOther, rfl⟩ := reading_of_ok readOther
      rw [product] at same
      obtain ⟨late, n, tail⟩ := candidate_rank (others o (mem_releases.mpr ⟨raw, member, namedOther⟩)
        ((base_eq_iff o r).mpr same)).1
      rw [Identity.version, tail]
      exact staged_ne_empty late n
  patch_order line existing other same := allocatePatch_perm same
  candidate_order line stage target existing other same := by
    refine toOption_ext (fun s => ?_)
    rw [allocateCandidate_eq_ok, allocateCandidate_eq_ok]
    exact exists_congr (fun rc => and_congr_right (fun _ => ⟨allocates_perm same, allocates_perm same.symm⟩))
  advance_order source stage tags other same := by
    refine toOption_ext (fun s => ?_)
    rw [advanceRelease_eq_ok, advanceRelease_eq_ok]
    exact exists_congr (fun v => ⟨advances_perm same, advances_perm same.symm⟩)
  refused line stage existing err named known failed := by
    obtain ⟨rc, top, rfl, found, exhausted⟩ := refused_exhausted named known failed
    obtain ⟨⟨member, on⟩, above⟩ := highestOf_eq_some.mp found
    obtain ⟨raw, listed, reads⟩ := mem_releases.mp member
    obtain ⟨tag, read, product⟩ := reading_eq_some.mp reads
    refine ⟨raw, listed, tag, read, ⟨product ▸ has_iff.mp on, fun other otherListed otherTag readOther line => ?_⟩, ?_⟩
    · obtain ⟨t, namedOther, rfl⟩ := reading_of_ok readOther
      rw [product]
      exact compare_le_zero.mpr (above t (mem_releases.mpr ⟨other, otherListed, namedOther⟩) (has_iff.mpr line))
    · rw [product]
      cases exhausted with
      | reachedRC n beta tail =>
        refine .inl ⟨by rw [beta]; rfl, ?_⟩
        rw [Identity.version, tail]
        exact startsWith_append "rc." (Nat.repr n)
      | patch final last => exact .inr (.inl ⟨prerelease_of_final final, last⟩)
      | counter last =>
        refine .inr (.inr ?_)
        rw [Identity.version, last]
        exact staged_text rc maxSegment

end Advance

end PasswallNode.Releaseid
