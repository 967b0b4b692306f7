import Mathlib.Data.List.Basic

/-! Slash-separated paths, as bytes. -/

namespace PasswallNode.Foundation

abbrev Path := List UInt8

def slash : UInt8 := 47
def dot : Path := [46]
def dotDot : Path := [46, 46]

structure Ordinary (segment : Path) : Prop where
  named : segment ≠ []
  notDot : segment ≠ dot
  notDotDot : segment ≠ dotDot
  single : slash ∉ segment

/-- One segment of a path over those kept so far, the last one first. -/
def keepSegment (rooted : Bool) (kept : List Path) (segment : Path) : List Path :=
  if segment = [] ∨ segment = dot then kept
  else if segment = dotDot then
    match kept with
    | [] => if rooted then [] else [dotDot]
    | last :: before => if last = dotDot then dotDot :: last :: before else before
  else segment :: kept

def keptSegments (path : Path) : List Path :=
  (path.splitOn slash).foldl (keepSegment (decide (path.head? = some slash))) []

/-- `path.Clean`. -/
def cleanPath (path : Path) : Path :=
  let joined := [slash].intercalate (keptSegments path).reverse
  if path.head? = some slash then slash :: joined
  else if joined = [] then dot
  else joined

/-- `filepath.Join` of a directory and a name that is not empty. -/
def joinPath (dir name : Path) : Path := cleanPath (if dir = [] then name else dir ++ slash :: name)

def Below (base path : Path) : Prop :=
  ∃ segments : List Path, (∀ segment ∈ segments, Ordinary segment) ∧ path = [slash].intercalate (base :: segments)

section Clean

variable {rooted : Bool} {kept : List Path} {segment base rest : Path}

/-- The segments kept of a path, the last one first: ordinary names over a run of `..`. -/
def Tidy : List Path → Prop
  | [] => True
  | last :: before => (Ordinary last ∨ last = dotDot ∧ ∀ segment ∈ before, segment = dotDot) ∧ Tidy before

theorem tidy_keepSegment (tidy : Tidy kept) (single : slash ∉ segment) : Tidy (keepSegment rooted kept segment) := by
  unfold keepSegment
  by_cases skipped : segment = [] ∨ segment = dot
  · rwa [if_pos skipped]
  rw [if_neg skipped]
  by_cases up : segment = dotDot
  · rw [if_pos up]
    cases kept with
    | nil => cases rooted <;> simp [Tidy]
    | cons last before =>
      by_cases again : last = dotDot
      · have climbed : ∀ segment ∈ before, segment = dotDot :=
          tidy.1.elim (fun ordinary => absurd again ordinary.notDotDot) And.right
        simp only [if_pos again]
        exact ⟨.inr ⟨rfl, List.forall_mem_cons.mpr ⟨again, climbed⟩⟩, tidy⟩
      · simp only [if_neg again]
        exact tidy.2
  · rw [if_neg up]
    exact ⟨.inl ⟨fun empty => skipped (.inl empty), fun same => skipped (.inr same), up, single⟩, tidy⟩

theorem notMem_splitOn (path : Path) : ∀ segment ∈ path.splitOn slash, slash ∉ segment := by
  induction path with
  | nil => simp
  | cons byte rest ih =>
    unfold List.splitOn at ih ⊢
    rw [List.splitOnP_cons_eq_if_modifyHead]
    split
    · exact List.forall_mem_cons.mpr ⟨List.not_mem_nil, ih⟩
    · rename_i other
      cases parts : List.splitOnP (fun c => c == slash) rest with
      | nil => simp
      | cons part later =>
        rw [parts] at ih
        have first := ih part List.mem_cons_self
        intro segment member
        cases List.mem_cons.mp member with
        | inl same =>
          subst same
          intro inside
          cases List.mem_cons.mp inside with
          | inl same => exact other (beq_iff_eq.mpr same.symm)
          | inr later => exact first later
        | inr below => exact ih segment (List.mem_cons_of_mem _ below)

theorem tidy_keptSegments (path : Path) : Tidy (keptSegments path) := by
  have each := notMem_splitOn path
  unfold keptSegments
  generalize path.splitOn slash = segments at each
  generalize decide (path.head? = some slash) = rooted
  have started : Tidy ([] : List Path) := trivial
  revert started
  generalize ([] : List Path) = kept
  induction segments generalizing kept with
  | nil => exact id
  | cons segment later ih =>
    intro tidy
    have ⟨single, singles⟩ := List.forall_mem_cons.mp each
    exact ih singles _ (tidy_keepSegment tidy single)

theorem Tidy.ordinary (tidy : Tidy (kept ++ [base])) (named : base ≠ dotDot) : ∀ segment ∈ kept, Ordinary segment := by
  induction kept with
  | nil => exact fun _ none => absurd none List.not_mem_nil
  | cons last before ih =>
    have top : Ordinary last :=
      tidy.1.elim id (fun climbed => absurd (climbed.2 base (by simp)) named)
    exact List.forall_mem_cons.mpr ⟨top, ih tidy.2⟩

theorem Tidy.single (tidy : Tidy kept) : ∀ segment ∈ kept, slash ∉ segment := by
  induction kept with
  | nil => exact fun _ none => absurd none List.not_mem_nil
  | cons last before ih =>
    refine List.forall_mem_cons.mpr ⟨?_, ih tidy.2⟩
    cases tidy.1 with
    | inl ordinary => exact ordinary.single
    | inr climbed =>
      rw [climbed.1]
      decide

theorem below_of_clean (ordinary : Ordinary base) (clean : cleanPath (base ++ slash :: rest) = base ++ slash :: rest) :
    Below base (base ++ slash :: rest) := by
  have relative : (base ++ slash :: rest).head? ≠ some slash := by
    cases base with
    | nil => exact absurd rfl ordinary.named
    | cons byte more =>
      intro first
      exact ordinary.single (by simp [Option.some.inj first])
  have splits := List.splitOn_append_cons_self_of_not_mem ordinary.single rest
  have tidy := tidy_keptSegments (base ++ slash :: rest)
  unfold cleanPath at clean
  generalize keptSegments (base ++ slash :: rest) = kept at tidy clean
  simp only [if_neg relative] at clean
  have filled : [slash].intercalate kept.reverse ≠ [] := by
    intro empty
    rw [if_pos empty] at clean
    have inside : slash ∈ dot := clean ▸ List.mem_append_right _ List.mem_cons_self
    revert inside
    decide
  rw [if_neg filled] at clean
  have some : kept.reverse ≠ [] := fun none => filled (by rw [none]; rfl)
  have whole := List.splitOn_intercalate slash
    (fun segment member => tidy.single segment (List.mem_reverse.mp member)) some
  rw [clean, splits] at whole
  refine ⟨rest.splitOn slash, ?_, by rw [whole, clean]⟩
  have shape : kept = (rest.splitOn slash).reverse ++ [base] := by
    rw [← List.reverse_reverse kept, ← whole, List.reverse_cons]
  rw [shape] at tidy
  exact fun segment member => tidy.ordinary ordinary.notDotDot segment (List.mem_reverse.mpr member)

end Clean

end PasswallNode.Foundation
