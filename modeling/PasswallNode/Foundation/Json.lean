import Mathlib.Logic.Function.Basic

/-! Integers and nullable integers as JSON text, and why a record of them can be read back:
no such text contains a delimiter. -/

namespace PasswallNode.Foundation

def jsonInt (n : Int) : String := n.repr

def jsonNullableInt : Option Int → String
  | none => "null"
  | some n => jsonInt n

def textBytes (text : String) : List UInt8 := text.toByteArray.data.toList

theorem textBytes_injective : Function.Injective textBytes := by
  intro left right same
  have bytes : left.toByteArray = right.toByteArray := by
    apply ByteArray.ext
    exact Array.toList_inj.mp same
  exact String.toByteArray_inj.mp bytes

def isDelimiter (c : Char) : Bool := c = ',' || c = '}'

def Undelimited (text : String) : Prop := ∀ c ∈ text.toList, isDelimiter c = false

private theorem isDelimiter_of_isDigit {c : Char} (digit : c.isDigit = true) : isDelimiter c = false := by
  have other : ∀ d : Char, d.isDigit = false → c ≠ d := by
    rintro d no rfl
    rw [digit] at no
    cases no
  simp [isDelimiter, other ',' (by decide), other '}' (by decide)]

private theorem isDigit_of_mem_repr {n : Nat} {c : Char} (member : c ∈ n.repr.toList) : c.isDigit = true := by
  rw [Nat.toList_repr] at member
  exact Nat.isDigit_of_mem_toDigits (by decide) (by decide) member

private theorem mem_jsonInt {n : Int} {c : Char} (member : c ∈ (jsonInt n).toList) : c = '-' ∨ c.isDigit = true := by
  rw [jsonInt, Int.repr_eq_if] at member
  split at member
  · exact .inr (isDigit_of_mem_repr member)
  · rw [String.toList_append] at member
    rcases List.mem_append.mp member with sign | digits
    · exact .inl (by simpa using sign)
    · exact .inr (isDigit_of_mem_repr digits)

theorem undelimited_jsonInt (n : Int) : Undelimited (jsonInt n) := by
  intro c member
  rcases mem_jsonInt member with rfl | digit
  · decide
  · exact isDelimiter_of_isDigit digit

theorem undelimited_jsonNullableInt (n : Option Int) : Undelimited (jsonNullableInt n) := by
  cases n with
  | none =>
    intro c member
    have letter : c = 'n' ∨ c = 'u' ∨ c = 'l' := by simpa [jsonNullableInt] using member
    rcases letter with rfl | rfl | rfl <;> decide
  | some n => exact undelimited_jsonInt n

private theorem repr_injective : Function.Injective Nat.repr := by
  intro n m same
  have digits := congrArg (fun text => Nat.ofDigitChars 10 text.toList 0) same
  simpa only [Nat.toList_repr, Nat.ofDigitChars_ten_toDigits] using digits

theorem jsonInt_injective : Function.Injective jsonInt := by
  have signed : ∀ n m : Nat, n.repr ≠ "-" ++ m.repr := by
    intro n m same
    have minus : '-' ∈ n.repr.toList := by simp [same]
    exact absurd (isDigit_of_mem_repr minus) (by decide)
  intro left right same
  simp only [jsonInt, Int.repr_eq_if] at same
  split at same <;> split at same
  · have equal := repr_injective same
    omega
  · exact absurd same (signed _ _)
  · exact absurd same.symm (signed _ _)
  · have equal := repr_injective (String.append_right_inj _ |>.mp same)
    omega

private theorem jsonInt_ne_null (n : Int) : jsonInt n ≠ "null" := by
  intro same
  have chars : 'u' ∈ (jsonInt n).toList := by rw [same]; decide
  exact absurd (mem_jsonInt chars) (by decide)

theorem jsonNullableInt_injective : Function.Injective jsonNullableInt := by
  intro left right same
  cases left with
  | none =>
    cases right with
    | none => rfl
    | some n => exact absurd same.symm (jsonInt_ne_null n)
  | some m =>
    cases right with
    | none => exact absurd same (jsonInt_ne_null m)
    | some n => rw [jsonInt_injective same]

private theorem splitAtDelimiter {left right : List Char} {sep : Char} {first second : List Char}
    (delimiter : isDelimiter sep = true) (cleanLeft : ∀ c ∈ left, isDelimiter c = false)
    (cleanRight : ∀ c ∈ right, isDelimiter c = false)
    (same : left ++ sep :: first = right ++ sep :: second) : left = right ∧ first = second := by
  induction left generalizing right with
  | nil =>
    cases right with
    | nil => simpa using same
    | cons c rest =>
      have head : sep = c := by simpa using congrArg List.head? same
      rw [head, cleanRight c List.mem_cons_self] at delimiter
      cases delimiter
  | cons c rest ih =>
    cases right with
    | nil =>
      have head : c = sep := by simpa using congrArg List.head? same
      rw [← head, cleanLeft c List.mem_cons_self] at delimiter
      cases delimiter
    | cons d others =>
      simp only [List.cons_append, List.cons.injEq] at same
      obtain ⟨rfl, tails⟩ := same
      obtain ⟨equal, remaining⟩ := ih
        (fun x member => cleanLeft x (List.mem_cons_of_mem _ member))
        (fun x member => cleanRight x (List.mem_cons_of_mem _ member)) tails
      exact ⟨by rw [equal], remaining⟩

theorem append_delimited_inj {left right label rest others : String}
    (delimiter : label.toList.head?.any isDelimiter = true) (cleanLeft : Undelimited left)
    (cleanRight : Undelimited right) (same : left ++ (label ++ rest) = right ++ (label ++ others)) :
    left = right ∧ rest = others := by
  have chars := congrArg String.toList same
  simp only [String.toList_append] at chars
  cases shape : label.toList with
  | nil => rw [shape] at delimiter; cases delimiter
  | cons sep tail =>
    rw [shape] at chars delimiter
    obtain ⟨values, remaining⟩ := splitAtDelimiter delimiter cleanLeft cleanRight chars
    exact ⟨String.toList_inj.mp values, String.toList_inj.mp (List.append_cancel_left remaining)⟩

end PasswallNode.Foundation
