import PasswallNode.Foundation.Text
import Mathlib.Data.List.TakeWhile

/-! Trimming: a text is white space, a part that neither begins nor ends with it, and white space. -/

namespace PasswallNode.Foundation

/-- `strings.TrimSpace` on the characters of a text. -/
def trimRunes (chars : List Char) : List Char := ((chars.dropWhile isSpace).reverse.dropWhile isSpace).reverse

def Blank (chars : List Char) : Prop := ∀ c ∈ chars, isSpace c = true

def Flush (chars : List Char) : Prop :=
  (∀ c ∈ chars.head?, isSpace c = false) ∧ ∀ c ∈ chars.getLast?, isSpace c = false

variable {chars core before after : List Char}

theorem blank_nil : Blank [] := fun _ none => absurd none List.not_mem_nil

theorem blank_append (first : Blank before) (second : Blank after) : Blank (before ++ after) := by
  intro c member
  rcases List.mem_append.mp member with inside | inside
  · exact first c inside
  · exact second c inside

theorem blank_takeWhile (chars : List Char) : Blank (chars.takeWhile isSpace) :=
  fun _ member => List.mem_takeWhile_imp member

theorem trimRunes_parts (chars : List Char) :
    ∃ before after, Blank before ∧ Blank after ∧ chars = before ++ (trimRunes chars ++ after) := by
  have front := List.takeWhile_append_dropWhile (p := isSpace) (l := chars)
  have back := List.takeWhile_append_dropWhile (p := isSpace) (l := (chars.dropWhile isSpace).reverse)
  have whole := congrArg List.reverse back
  rw [List.reverse_append, List.reverse_reverse] at whole
  refine ⟨chars.takeWhile isSpace, ((chars.dropWhile isSpace).reverse.takeWhile isSpace).reverse,
    blank_takeWhile _, fun c member => blank_takeWhile _ c (List.mem_reverse.mp member), ?_⟩
  unfold trimRunes
  rw [whole, front]

theorem dropWhile_first (chars : List Char) : ∀ c ∈ (chars.dropWhile isSpace).head?, isSpace c = false := by
  intro c first
  have all := List.head?_dropWhile_not isSpace chars
  rw [first] at all
  simpa using all

theorem flush_trimRunes (chars : List Char) : Flush (trimRunes chars) := by
  constructor
  · intro c first
    apply dropWhile_first chars
    obtain ⟨rest, parts⟩ := List.dropWhile_suffix isSpace (l := (chars.dropWhile isSpace).reverse)
    have whole := congrArg List.reverse parts
    rw [List.reverse_append, List.reverse_reverse] at whole
    unfold trimRunes at first
    rw [← whole, List.head?_append, first]
    rfl
  · intro c last
    unfold trimRunes at last
    rw [List.getLast?_reverse] at last
    exact dropWhile_first _ c last

theorem dropWhile_blank (blank : Blank before) (solid : ∀ c ∈ core.head?, isSpace c = false) :
    (before ++ core).dropWhile isSpace = core := by
  rw [List.dropWhile_append_of_pos blank]
  cases core with
  | nil => rfl
  | cons c rest => rw [List.dropWhile_cons_of_neg (by simp [solid c rfl])]

theorem trimRunes_eq (first : Blank before) (flush : Flush core) (second : Blank after) :
    trimRunes (before ++ (core ++ after)) = core := by
  have turned : Blank after.reverse := fun c member => second c (List.mem_reverse.mp member)
  unfold trimRunes
  cases core with
  | nil =>
    have blank : Blank (before ++ ([] ++ after)) := blank_append first second
    rw [List.dropWhile_eq_nil_iff.mpr blank]
    rfl
  | cons c rest =>
    rw [dropWhile_blank first (by intro d head; exact flush.1 d head), List.reverse_append,
      dropWhile_blank turned (by intro d head; exact flush.2 d (by rwa [List.head?_reverse] at head)),
      List.reverse_reverse]

theorem trimRunes_blank_append (blank : Blank before) : trimRunes (before ++ chars) = trimRunes chars := by
  unfold trimRunes
  rw [List.dropWhile_append_of_pos blank]

theorem trimRunes_append_blank (blank : Blank after) : trimRunes (chars ++ after) = trimRunes chars := by
  obtain ⟨front, back, first, second, parts⟩ := trimRunes_parts chars
  have same : chars ++ after = front ++ (trimRunes chars ++ (back ++ after)) := by
    calc chars ++ after = (front ++ (trimRunes chars ++ back)) ++ after := by rw [← parts]
      _ = front ++ (trimRunes chars ++ (back ++ after)) := by simp only [List.append_assoc]
  rw [same]
  exact trimRunes_eq first (flush_trimRunes chars) (blank_append second blank)

end PasswallNode.Foundation
