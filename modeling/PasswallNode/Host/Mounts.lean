import PasswallNode.Foundation.Text
import PasswallNode.Foundation.Utf8
import Mathlib.Data.List.Induction
import Mathlib.Data.List.Perm.Basic

/-! The filesystem of the mount that holds a path. The mounts are kept in a map, and a search over it
sees them in no fixed order. -/

namespace PasswallNode.Host

open Foundation

abbrev Text := List Char

abbrev Mount := Text × Text

/-- `strings.Fields`. -/
def fields (line : Text) : List Text := (line.splitOnP isSpace).filter (· ≠ [])

def mountOf (line : Text) : Option Mount :=
  match (fields line)[4]?, (fields line).findIdx? (· = ['-']) with
  | some mountPoint, some separator => ((fields line)[separator + 1]?).map (fun filesystem => (mountPoint, filesystem))
  | _, _ => none

def entries (raw : Text) : List Mount := (raw.splitOn '\n').filterMap mountOf

/-- A well-formed line names the mount point in its fifth field and the filesystem behind the first dash. -/
theorem mem_entries {raw : Text} {mount : Mount} : mount ∈ entries raw ↔ ∃ line ∈ raw.splitOn '\n',
    (fields line)[4]? = some mount.1 ∧ ∃ before after, fields line = before ++ ['-'] :: mount.2 :: after ∧
    ['-'] ∉ before := by
  rw [entries, List.mem_filterMap]
  refine exists_congr (fun line => and_congr_right (fun _ => ?_))
  unfold mountOf
  constructor
  · intro made
    split at made
    · next point separator fifth found =>
        obtain ⟨filesystem, next, rfl⟩ := Option.map_eq_some_iff.mp made
        obtain ⟨below, dash, first⟩ := List.findIdx?_eq_some_iff_getElem.mp found
        obtain ⟨more, same⟩ := List.getElem?_eq_some_iff.mp next
        refine ⟨fifth, (fields line).take separator, (fields line).drop (separator + 2), ?_, fun earlier => ?_⟩
        · rw [← same, ← of_decide_eq_true dash, List.getElem_cons_drop, List.getElem_cons_drop, List.take_append_drop]
        · obtain ⟨i, within, here⟩ := List.mem_take_iff_getElem.mp earlier
          exact first i (by omega) (decide_eq_true here)
    · cases made
  · rintro ⟨fifth, before, after, parts, fresh⟩
    have found : (fields line).findIdx? (· = ['-']) = some before.length := by
      have none : before.findIdx? (· = ['-']) = none :=
        List.findIdx?_eq_none_iff.mpr (fun field member => decide_eq_false (ne_of_mem_of_not_mem member fresh))
      rw [parts, List.findIdx?_append, none]
      simp [List.findIdx?_cons]
    rw [fifth, found]
    simp [parts]

def assign (mounts : List Mount) (entry : Mount) : List Mount := mounts.filter (·.1 ≠ entry.1) ++ [entry]

def parseMountInfo (raw : Text) : List Mount := (entries raw).foldl assign []

def mountContains (mountPoint target : Text) : Bool :=
  if mountPoint = ['/'] then true
  else decide (target = mountPoint) ||
    ((if mountPoint.getLast? = some '/' then mountPoint.dropLast else mountPoint) ++ ['/']).isPrefixOf target

structure Best where
  filesystem : Text
  length : Int

def better (target : Text) (best : Best) (mount : Mount) : Best :=
  if mountContains mount.1 target = false then best
  else if (utf8 mount.1).length > best.length then ⟨mount.2, (utf8 mount.1).length⟩
  else best

/-- `filesystemTypeFor`, with the order in which the map is searched. -/
def filesystemTypeFor (mounts : List Mount) (target : Text) : Option Text :=
  let best := mounts.foldl (better target) ⟨[], -1⟩
  if best.length < 0 then none else some best.filesystem

section Paths

variable {mountPoint other target body rest : Text} {mounts : List Mount} {raw filesystem : Text}

def segments (path : Text) : List Text := if path = ['/'] then [] else path.tail.splitOn '/'

def Covers (mountPoint target : Text) : Prop := segments mountPoint <+: segments target

/-- An absolute path that ends in a slash only if it is the root. -/
def KernelPath (path : Text) : Prop := path = ['/'] ∨ ∃ body, path = '/' :: body ∧ body ≠ [] ∧ body.getLast? ≠ some '/'

theorem intercalate_append {left right : List Text} (some : left ≠ []) (more : right ≠ []) :
    ['/'].intercalate (left ++ right) = ['/'].intercalate left ++ '/' :: ['/'].intercalate right := by
  induction left with
  | nil => exact absurd rfl some
  | cons first left ih =>
    cases left with
    | nil =>
      cases right with
      | nil => exact absurd rfl more
      | cons second right => simp [List.intercalate]
    | cons second left =>
      have later := ih (by simp)
      simp only [List.intercalate, List.cons_append, List.intersperse_cons_cons, List.flatten_cons] at later ⊢
      rw [later]
      simp

theorem splitOn_begins : body.splitOn '/' <+: rest.splitOn '/' ↔ rest = body ∨ ∃ more, rest = body ++ '/' :: more := by
  constructor
  · rintro ⟨more, parts⟩
    have whole : ['/'].intercalate (rest.splitOn '/') = rest := List.intercalate_splitOn '/'
    rw [← parts] at whole
    cases more with
    | nil =>
      rw [List.append_nil, List.intercalate_splitOn] at whole
      exact .inl whole.symm
    | cons next more =>
      rw [intercalate_append (List.splitOn_ne_nil _ _) (by simp), List.intercalate_splitOn] at whole
      exact .inr ⟨_, whole.symm⟩
  · rintro (rfl | ⟨more, rfl⟩)
    · exact List.prefix_rfl
    · rw [List.splitOn_append_cons_self]
      exact List.prefix_append _ _

theorem mountContains_iff (kernel : KernelPath mountPoint) (absolute : target.head? = some '/') :
    mountContains mountPoint target = true ↔ Covers mountPoint target := by
  unfold mountContains Covers segments
  rcases kernel with rfl | ⟨body, rfl, some, bare⟩
  · simp
  have named : '/' :: body ≠ ['/'] := by simpa using some
  have unclosed : ('/' :: body).getLast? ≠ Option.some '/' := by
    rwa [List.getLast?_cons_of_ne_nil some]
  rw [if_neg named, if_neg named, if_neg unclosed]
  cases target with
  | nil => cases absolute
  | cons slash rest =>
    cases absolute
    simp only [Bool.or_eq_true, decide_eq_true_eq, List.isPrefixOf_iff_prefix, List.cons.injEq, true_and,
      List.cons_append, List.cons_prefix_cons, List.tail_cons]
    by_cases root : rest = []
    · subst root
      simp [some, Ne.symm some]
    · rw [if_neg (by simpa using root), splitOn_begins]
      refine or_congr Iff.rfl ⟨?_, ?_⟩
      · rintro ⟨more, parts⟩
        exact ⟨more, by simpa using parts.symm⟩
      · rintro ⟨more, rfl⟩
        exact ⟨more, by simp⟩

theorem Covers.begins (covers : Covers mountPoint target) (kernel : KernelPath mountPoint)
    (absolute : target.head? = some '/') : mountPoint <+: target := by
  have contains := (mountContains_iff kernel absolute).mpr covers
  unfold mountContains at contains
  split at contains
  · rename_i root
    rw [root]
    cases target with
    | nil => cases absolute
    | cons slash rest =>
      cases absolute
      exact ⟨rest, rfl⟩
  · rename_i named
    rcases kernel with root | ⟨body, rfl, some, bare⟩
    · exact absurd root named
    rw [List.getLast?_cons_of_ne_nil some, if_neg bare, Bool.or_eq_true, decide_eq_true_eq] at contains
    rcases contains with rfl | begins
    · exact List.prefix_rfl
    · exact (List.prefix_append _ _).trans ( List.isPrefixOf_iff_prefix.mp begins)

theorem same_of_size (first : mountPoint <+: target) (second : other <+: target)
    (size : (utf8 mountPoint).length = (utf8 other).length) : mountPoint = other := by
  have grows : ∀ {short long : Text}, short <+: long → (utf8 short).length = (utf8 long).length → short = long := by
    rintro short long ⟨more, rfl⟩ same
    cases more with
    | nil => exact (List.append_nil short).symm
    | cons c more =>
      have positive := utf8Size_pos c
      simp only [utf8_append, utf8_cons, List.length_append] at same
      omega
  rcases List.prefix_or_prefix_of_prefix first second with less | more
  · exact grows less size
  · exact (grows more size.symm).symm

theorem mem_foldl_assign (list : List Mount) :
    ∀ (mounts : List Mount) (mount : Mount), mount ∈ list.foldl assign mounts ↔
    (mount ∈ mounts ∧ ∀ entry ∈ list, entry.1 ≠ mount.1) ∨
    ∃ before after, list = before ++ mount :: after ∧ ∀ entry ∈ after, entry.1 ≠ mount.1 := by
  induction list with
  | nil => simp
  | cons first rest ih =>
    intro mounts mount
    rw [List.foldl_cons, ih]
    simp only [assign, List.mem_append, List.mem_filter, decide_eq_true_eq, List.mem_singleton,
      List.forall_mem_cons]
    constructor
    · rintro (⟨⟨old, other⟩ | rfl, later⟩ | ⟨before, after, rfl, last⟩)
      · exact .inl ⟨old, Ne.symm other, later⟩
      · exact .inr ⟨[], rest, rfl, later⟩
      · exact .inr ⟨first :: before, after, rfl, last⟩
    · rintro (⟨old, other, later⟩ | ⟨before, after, parts, last⟩)
      · exact .inl ⟨.inl ⟨old, Ne.symm other⟩, later⟩
      · cases before with
        | nil =>
          cases parts
          exact .inl ⟨.inr rfl, last⟩
        | cons head before =>
          cases parts
          exact .inr ⟨before, after, rfl, last⟩

theorem mem_parseMountInfo {mount : Mount} : mount ∈ parseMountInfo raw ↔
    ∃ before after, entries raw = before ++ mount :: after ∧ ∀ entry ∈ after, entry.1 ≠ mount.1 := by
  unfold parseMountInfo
  rw [mem_foldl_assign]
  simp

theorem exists_last (entry : Mount) (listed : entry ∈ entries raw) :
    ∃ filesystem, (entry.1, filesystem) ∈ parseMountInfo raw := by
  suffices ∀ (list mounts : List Mount), entry ∈ list → ∃ filesystem,
    (entry.1, filesystem) ∈ list.foldl assign mounts from
    this (entries raw) [] listed
  intro list
  induction list using List.reverseRecOn with
  | nil => exact fun _ none => absurd none List.not_mem_nil
  | append_singleton rest last ih =>
    intro mounts member
    rw [List.foldl_append, List.foldl_cons, List.foldl_nil]
    by_cases same : last.1 = entry.1
    · exact ⟨last.2, by simp [assign, ← same]⟩
    · have earlier : entry ∈ rest := by
        rcases List.mem_append.mp member with inside | inside
        · exact inside
        · cases List.mem_singleton.mp inside
          exact absurd rfl same
      obtain ⟨filesystem, kept⟩ := ih mounts earlier
      refine ⟨filesystem, List.mem_append_left _ (List.mem_filter.mpr ⟨kept, ?_⟩)⟩
      simpa using Ne.symm same

def Found (target : Text) (seen : List Mount) (best : Best) : Prop :=
  (best.length = -1 ∧ ∀ mount ∈ seen, mountContains mount.1 target = false) ∨
    ∃ mountPoint, (mountPoint, best.filesystem) ∈ seen ∧ mountContains mountPoint target = true ∧
      best.length = (utf8 mountPoint).length ∧
      ∀ mount ∈ seen, mountContains mount.1 target = true → (utf8 mount.1).length ≤ (utf8 mountPoint).length

theorem Found.better {seen : List Mount} {best : Best} (found : Found target seen best) (mount : Mount) :
    Found target (seen ++ [mount]) (better target best mount) := by
  unfold Host.better
  by_cases contains : mountContains mount.1 target = true
  · rw [if_neg (by simp [contains])]
    by_cases longer : ((utf8 mount.1).length : Int) > best.length
    · rw [if_pos longer]
      refine .inr ⟨mount.1, by simp, contains, rfl, List.forall_mem_append.mpr ⟨fun other old covered => ?_, by simp⟩⟩
      rcases found with ⟨-, none⟩ | ⟨mountPoint, -, -, length, longest⟩
      · rw [none other old] at covered
        cases covered
      · have within := longest other old covered
        omega
    · rw [if_neg longer]
      rcases found with ⟨length, -⟩ | ⟨mountPoint, member, covers, length, longest⟩
      · omega
      · refine .inr ⟨mountPoint, List.mem_append_left _ member, covers, length,
          List.forall_mem_append.mpr ⟨longest, List.forall_mem_singleton.mpr fun _ => ?_⟩⟩
        omega
  · rw [if_pos (by simpa using contains)]
    rcases found with ⟨length, none⟩ | ⟨mountPoint, member, covers, length, longest⟩
    · exact .inl ⟨length, List.forall_mem_append.mpr ⟨none, by simpa using contains⟩⟩
    · exact .inr ⟨mountPoint, List.mem_append_left _ member, covers, length,
        List.forall_mem_append.mpr ⟨longest, List.forall_mem_singleton.mpr fun covered => absurd covered contains⟩⟩

theorem found_search (target : Text) (mounts : List Mount) :
    Found target mounts (mounts.foldl (better target) ⟨[], -1⟩) := by
  have run : ∀ (rest seen : List Mount) (best : Best), Found target seen best →
      Found target (seen ++ rest) (rest.foldl (better target) best) := by
    intro rest
    induction rest with
    | nil => intro seen best found; rwa [List.append_nil]
    | cons mount rest ih =>
      intro seen best found
      have next := ih (seen ++ [mount]) _ (found.better mount)
      rwa [List.append_assoc] at next
  exact run mounts [] _ (.inl ⟨rfl, by simp⟩)

/-- The last entry among those with the longest mount point that covers the path. -/
def Owner (raw target filesystem : Text) : Prop :=
  ∃ before mountPoint after, entries raw = before ++ (mountPoint, filesystem) :: after ∧ Covers mountPoint target ∧
    (∀ entry ∈ entries raw, Covers entry.1 target → (utf8 entry.1).length ≤ (utf8 mountPoint).length) ∧
    ∀ entry ∈ after, Covers entry.1 target → (utf8 entry.1).length ≠ (utf8 mountPoint).length

theorem owner_unique {one two : Text} (first : Owner raw target one) (second : Owner raw target two) : one = two := by
  obtain ⟨before, mountPoint, after, parts, covers, longest, last⟩ := first
  obtain ⟨front, other, back, split, covered, largest, final⟩ := second
  have listed : (mountPoint, one) ∈ entries raw ∧ (other, two) ∈ entries raw :=
    ⟨by rw [parts]; simp, by rw [split]; simp⟩
  have size : (utf8 mountPoint).length = (utf8 other).length :=
    Nat.le_antisymm (largest _ listed.1 covers) (longest _ listed.2 covered)
  rw [parts] at split
  rcases List.append_eq_append_iff.mp split with ⟨between, -, rest⟩ | ⟨between, -, rest⟩
  · cases between with
    | nil => exact (Prod.mk.inj (List.cons.inj rest).1).2
    | cons head between =>
      cases rest
      exact absurd size.symm (last (other, two) (by simp) covered)
  · cases between with
    | nil => exact (Prod.mk.inj (List.cons.inj rest).1).2.symm
    | cons head between =>
      cases rest
      exact absurd size (final (mountPoint, one) (by simp) covers)

def rootAndData : Text := "1 0 8:1 / / rw - ext4 x\n2 1 8:2 / /d rw - xfs y".toList

end Paths

end PasswallNode.Host
