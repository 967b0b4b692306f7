import Mathlib.Data.List.Basic
import Mathlib.Data.Nat.Digits.Lemmas
import PasswallNode.Foundation.Text

/-! Cutting and splitting undo joining, and a number is its digits without a leading zero. -/

namespace PasswallNode.Foundation

section Cutting

variable {separator : Char} {before after text : List Char} {c : Char} {digits : List Char}

theorem cut_of_notMem (absent : separator ∉ text) : cut separator text = (text, none) := by
  induction text with
  | nil => rfl
  | cons c rest ih =>
    obtain ⟨other, later⟩ := not_or.mp (List.mem_cons.not.mp absent)
    rw [cut, if_neg (Ne.symm other), ih later]

theorem cut_append (absent : separator ∉ before) :
    cut separator (before ++ separator :: after) = (before, some after) := by
  induction before with
  | nil => exact if_pos rfl
  | cons c rest ih =>
    obtain ⟨other, later⟩ := not_or.mp (List.mem_cons.not.mp absent)
    rw [List.cons_append, cut, if_neg (Ne.symm other), ih later]

theorem eq_of_cut (found : cut separator text = (before, some after)) : text = before ++ separator :: after := by
  induction text generalizing before with
  | nil => cases found
  | cons c rest ih =>
    rw [cut] at found
    split at found
    · next same =>
        cases found
        rw [same, List.nil_append]
    · obtain ⟨first, second⟩ := Prod.mk.inj found
      rw [← first, List.cons_append, ← ih (Prod.ext rfl second)]

theorem split_of_notMem (absent : separator ∉ text) : split separator text = [text] := by
  induction text with
  | nil => rfl
  | cons c rest ih =>
    obtain ⟨other, later⟩ := not_or.mp (List.mem_cons.not.mp absent)
    rw [split, if_neg (Ne.symm other), ih later]

theorem split_append (absent : separator ∉ before) :
    split separator (before ++ separator :: after) = before :: split separator after := by
  induction before with
  | nil => exact if_pos rfl
  | cons c rest ih =>
    obtain ⟨other, later⟩ := not_or.mp (List.mem_cons.not.mp absent)
    rw [List.cons_append, split, if_neg (Ne.symm other), ih later]

/-- `strings.CutPrefix`. -/
def cutStart (start text : String) : Option String :=
  if startsWith start text then some (String.ofList (text.toList.drop start.toList.length)) else none

theorem startsWith_append (start rest : String) : startsWith start (start ++ rest) = true := by
  rw [startsWith, List.isPrefixOf_iff_prefix, String.toList_append]
  exact List.prefix_append _ _

theorem cutStart_append (start rest : String) : cutStart start (start ++ rest) = some rest := by
  rw [cutStart, if_pos (startsWith_append start rest), String.toList_append, List.drop_left, String.ofList_toList]

structure Canonical (digits : List Char) : Prop where
  nonempty : digits ≠ []
  numeric : ∀ c ∈ digits, c.isDigit = true
  leading : ¬ (1 < digits.length ∧ digits.head? = some '0')

theorem digit_lt_ten (digit : c.isDigit = true) : c.toNat - '0'.toNat < 10 := by
  have bounds := Char.isDigit_iff_toNat.mp digit
  have zero : '0'.toNat = 48 := rfl
  have nine : '9'.toNat = 57 := rfl
  omega

theorem digitChar_rebuild (digit : c.isDigit = true) : Nat.digitChar (c.toNat - '0'.toNat) = c := by
  have zero : '0'.toNat = 48 := rfl
  have bounds := Char.isDigit_iff_toNat.mp digit
  apply Char.toNat_inj.mp
  rw [Nat.toNat_digitChar_of_lt_ten (digit_lt_ten digit)]
  omega

theorem toDigits_ofDigitChars_from {start : Nat} (positive : 0 < start) (numeric : ∀ c ∈ digits, c.isDigit = true) :
    Nat.toDigits 10 (Nat.ofDigitChars 10 digits start) = Nat.toDigits 10 start ++ digits := by
  induction digits generalizing start with
  | nil => exact (List.append_nil _).symm
  | cons c rest ih =>
    have digit := numeric c (.head _)
    have below := digit_lt_ten digit
    have appended := Nat.toDigits_append_toDigits (by decide) positive below
    rw [Nat.toDigits_of_lt_base below, digitChar_rebuild digit] at appended
    rw [Nat.ofDigitChars_cons, ih (by omega) (fun c later => numeric c (.tail _ later)), ← appended,
      List.append_assoc, List.singleton_append]

theorem toDigits_ofDigitChars (canonical : Canonical digits) :
    Nat.toDigits 10 (Nat.ofDigitChars 10 digits 0) = digits := by
  cases digits with
  | nil => exact (canonical.nonempty rfl).elim
  | cons c rest =>
    have digit := canonical.numeric c (.head _)
    rw [Nat.ofDigitChars_cons, Nat.mul_zero, Nat.zero_add]
    by_cases leading : c = '0'
    · have short : rest = [] := by
        by_contra more
        refine canonical.leading ⟨?_, by rw [leading]; rfl⟩
        have := List.length_pos_iff.mpr more
        simp only [List.length_cons]
        omega
      rw [short, leading]
      rfl
    · have positive : 0 < c.toNat - '0'.toNat := by
        have other : c.toNat ≠ '0'.toNat := fun same => leading (Char.toNat_inj.mp same)
        have bounds := Char.isDigit_iff_toNat.mp digit
        omega
      rw [toDigits_ofDigitChars_from positive (fun c later => canonical.numeric c (.tail _ later)),
        Nat.toDigits_of_lt_base (digit_lt_ten digit), digitChar_rebuild digit, List.singleton_append]

theorem toDigits_numeric (n : Nat) (member : c ∈ Nat.toDigits 10 n) : c.isDigit = true :=
  Nat.isDigit_of_mem_toDigits (by decide) (by decide) member

theorem toDigits_leading (n : Nat) (zero : (Nat.toDigits 10 n).head? = some '0') : Nat.toDigits 10 n = ['0'] := by
  induction n using Nat.strongRecOn with
  | ind n ih =>
    rw [Nat.toDigits_eq_if (by decide)] at zero ⊢
    split at zero
    · next small =>
        rw [if_pos small]
        exact congrArg (fun c => [c]) (Option.some.inj zero)
    · next large =>
        have shorter := ih (n / 10) (by omega) (by
          rwa [List.head?_append_of_ne_nil _ Nat.toDigits_ne_nil] at zero)
        have value : n / 10 = 0 := by
          rw [← Nat.ofDigitChars_ten_toDigits (n := n / 10), shorter]
          rfl
        omega

theorem toDigits_canonical (n : Nat) : Canonical (Nat.toDigits 10 n) := by
  refine ⟨Nat.toDigits_ne_nil, fun c => toDigits_numeric n, ?_⟩
  rintro ⟨long, zero⟩
  rw [toDigits_leading n zero] at long
  exact absurd long (by decide)

theorem notMem_toDigits (n : Nat) (other : c.isDigit = false) : c ∉ Nat.toDigits 10 n := by
  intro member
  rw [toDigits_numeric n member] at other
  cases other

theorem digits_begin {other before after : List Char} (numeric : ∀ d ∈ digits, d.isDigit = true)
    (otherNumeric : ∀ d ∈ other, d.isDigit = true) (nondigit : c.isDigit = false)
    (ends : ∀ d ∈ after.head?, d.isDigit = false) :
    digits ++ c :: before <+: other ++ after ↔ digits = other ∧ c :: before <+: after := by
  induction digits generalizing other with
  | nil =>
    cases other with
    | nil => simp
    | cons d rest =>
      have digit := otherNumeric d (.head _)
      constructor
      · intro starts
        rw [(List.cons_prefix_cons.mp starts).1, digit] at nondigit
        cases nondigit
      · rintro ⟨impossible, -⟩
        cases impossible
  | cons first digits ih =>
    have digit := numeric first (.head _)
    cases other with
    | nil =>
      constructor
      · intro starts
        cases after with
        | nil => cases List.prefix_nil.mp starts
        | cons d after =>
          have plain := ends d rfl
          rw [← (List.cons_prefix_cons.mp starts).1, digit] at plain
          cases plain
      · rintro ⟨impossible, -⟩
        cases impossible
    | cons d rest =>
      rw [List.cons_append, List.cons_append, List.cons_prefix_cons, List.cons.injEq,
        ih (fun d later => numeric d (.tail _ later)) (fun d later => otherNumeric d (.tail _ later)), and_assoc]

theorem toDigits_begin {n m : Nat} {before after : List Char} (nondigit : c.isDigit = false)
    (ends : ∀ d ∈ after.head?, d.isDigit = false) :
    Nat.toDigits 10 n ++ c :: before <+: Nat.toDigits 10 m ++ after ↔ n = m ∧ c :: before <+: after := by
  rw [digits_begin (fun _ => toDigits_numeric n) (fun _ => toDigits_numeric m) nondigit ends]
  refine and_congr_left (fun _ => ⟨fun same => ?_, congrArg (Nat.toDigits 10)⟩)
  rw [← Nat.ofDigitChars_ten_toDigits (n := n), same, Nat.ofDigitChars_ten_toDigits]

end Cutting

end PasswallNode.Foundation
