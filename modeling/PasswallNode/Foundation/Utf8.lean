import Mathlib.Data.List.Basic
import Mathlib.Data.List.GetD

/-! UTF-8 texts as bytes. -/

namespace PasswallNode.Foundation

def utf8 (chars : List Char) : List UInt8 := chars.flatMap String.utf8EncodeChar

/-- `utf8.ValidString`. -/
def ValidUTF8 (bytes : List UInt8) : Prop := bytes.toByteArray.IsValidUTF8

instance (bytes : List UInt8) : Decidable (ValidUTF8 bytes) := inferInstanceAs (Decidable bytes.toByteArray.IsValidUTF8)

/-- `utf8.DecodeRuneInString`, with nothing for bytes that do not begin with a character. -/
def firstRune (bytes : List UInt8) : Option Char := bytes.toByteArray.utf8DecodeChar? 0

/-- `utf8.RuneStart`. -/
def runeStart (byte : UInt8) : Bool := byte &&& 0xC0 ≠ 0x80

/-- `for end > 0 && !good(end) { end-- }`. -/
def lastGood (good : Nat → Bool) : Nat → Nat
  | 0 => 0
  | bound + 1 => if good (bound + 1) then bound + 1 else lastGood good bound

variable {chars others kept : List Char} {bytes rest : List UInt8} {c : Char} {n : Nat}

@[simp] theorem utf8_nil : utf8 [] = [] := rfl

@[simp] theorem utf8_cons : utf8 (c :: chars) = String.utf8EncodeChar c ++ utf8 chars := rfl

@[simp] theorem utf8_append : utf8 (chars ++ others) = utf8 chars ++ utf8 others := List.flatMap_append

theorem utf8Size_pos (c : Char) : 0 < (String.utf8EncodeChar c).length :=
  List.length_pos_iff.mpr String.utf8EncodeChar_ne_nil

theorem validUTF8_iff : ValidUTF8 bytes ↔ ∃ chars, bytes = utf8 chars := by
  constructor
  · rintro ⟨chars, same⟩
    exact ⟨chars, List.toByteArray_inj.mp same⟩
  · rintro ⟨chars, rfl⟩
    exact ⟨chars, rfl⟩

theorem validUTF8_utf8 (chars : List Char) : ValidUTF8 (utf8 chars) := validUTF8_iff.mpr ⟨chars, rfl⟩

theorem firstRune_encoded (c : Char) (rest : List UInt8) : firstRune (String.utf8EncodeChar c ++ rest) = some c := by
  unfold firstRune
  rw [List.toByteArray_append]
  exact ByteArray.utf8DecodeChar?_utf8EncodeChar_append

theorem utf8_begins (same : utf8 chars ++ rest = utf8 others) :
    ∃ more, others = chars ++ more ∧ rest = utf8 more := by
  induction chars generalizing others with
  | nil => exact ⟨others, rfl, same⟩
  | cons c chars ih =>
    rw [utf8_cons, List.append_assoc] at same
    cases others with
    | nil => exact absurd (List.append_eq_nil_iff.mp same).1 String.utf8EncodeChar_ne_nil
    | cons d others =>
      have first : c = d := by
        have decoded := firstRune_encoded c (utf8 chars ++ rest)
        rw [same, utf8_cons, firstRune_encoded] at decoded
        exact (Option.some.inj decoded).symm
      subst first
      obtain ⟨more, rfl, tail⟩ := ih (List.append_cancel_left same)
      exact ⟨more, rfl, tail⟩

theorem runeStart_of_first {byte : UInt8} (first : byte.IsUTF8FirstByte) : runeStart byte = true := by
  have masked : ∀ mask : UInt8, byte &&& 0xC0 = 0x80 → byte &&& (0xC0 &&& mask) = 0x80 &&& mask := by
    intro mask same
    rw [← UInt8.and_assoc, same]
  apply decide_eq_true
  intro same
  have high : byte &&& 128 = 128 := masked 128 same
  have next : byte &&& 64 = 0 := masked 64 same
  rcases first with zero | two | three | four
  · rw [high] at zero
    exact absurd zero (by decide)
  · have bit : (byte &&& 224) &&& 64 = byte &&& 64 := by rw [UInt8.and_assoc]; rfl
    rw [two, next] at bit
    exact absurd bit (by decide)
  · have bit : (byte &&& 240) &&& 64 = byte &&& 64 := by rw [UInt8.and_assoc]; rfl
    rw [three, next] at bit
    exact absurd bit (by decide)
  · have bit : (byte &&& 248) &&& 64 = byte &&& 64 := by rw [UInt8.and_assoc]; rfl
    rw [four, next] at bit
    exact absurd bit (by decide)

theorem runeStart_continued (m : Nat) : runeStart (UInt8.ofNat (m % 64) + 128) = false := by
  have each : ∀ m : Fin 64, runeStart (UInt8.ofNat m.val + 128) = false := by decide
  exact each ⟨m % 64, Nat.mod_lt _ (by decide)⟩

theorem runeStart_encoded (index : Nat) (inside : index < (String.utf8EncodeChar c).length) :
    runeStart (String.utf8EncodeChar c)[index] = decide (index = 0) := by
  cases index with
  | zero => exact runeStart_of_first (UInt8.isUTF8FirstByte_getElem_utf8EncodeChar.mpr rfl)
  | succ index =>
    have shape : ∀ byte ∈ (String.utf8EncodeChar c).tail, runeStart byte = false := by
      unfold String.utf8EncodeChar
      dsimp only
      split_ifs <;> simp [runeStart_continued]
    rw [decide_eq_false (Nat.succ_ne_zero index)]
    have more : index < (String.utf8EncodeChar c).tail.length := by
      rw [List.length_tail]
      omega
    rw [← List.getElem_tail more]
    exact shape _ (List.getElem_mem more)

theorem lastGood_le (good : Nat → Bool) (bound : Nat) : lastGood good bound ≤ bound := by
  induction bound with
  | zero => exact Nat.le_refl 0
  | succ bound ih =>
    unfold lastGood
    split
    · exact Nat.le_refl _
    · exact Nat.le_succ_of_le ih

theorem lastGood_eq {good : Nat → Bool} {m : Nat} (below : m ≤ n) (holds : m = 0 ∨ good m = true)
    (fails : ∀ k, m < k → k ≤ n → good k = false) : lastGood good n = m := by
  induction n with
  | zero => exact (Nat.le_zero.mp below).symm
  | succ n ih =>
    unfold lastGood
    rcases Nat.lt_or_eq_of_le below with less | same
    · rw [fails (n + 1) less (Nat.le_refl _), if_neg Bool.false_ne_true]
      exact ih (Nat.lt_succ_iff.mp less) (fun k above within => fails k above (Nat.le_succ_of_le within))
    · subst same
      rw [if_pos (holds.resolve_left (Nat.succ_ne_zero n))]

/-- The most characters of a text whose bytes are within a bound. -/
structure Fitting (n : Nat) (chars kept : List Char) : Prop where
  within : (utf8 kept).length ≤ n
  most : ∃ left, chars = kept ++ left ∧ ∀ c more, left = c :: more → n < (utf8 (kept ++ [c])).length

theorem exists_fitting (n : Nat) (chars : List Char) : ∃ kept, Fitting n chars kept := by
  induction chars generalizing n with
  | nil => exact ⟨[], Nat.zero_le _, [], rfl, fun _ _ none => by cases none⟩
  | cons c chars ih =>
    by_cases room : (String.utf8EncodeChar c).length ≤ n
    · obtain ⟨kept, within, left, rfl, full⟩ := ih (n - (String.utf8EncodeChar c).length)
      refine ⟨c :: kept, ?_, left, rfl, fun d more next => ?_⟩
      · rw [utf8_cons, List.length_append]
        omega
      · have past := full d more next
        rw [List.cons_append, utf8_cons, List.length_append]
        omega
    · refine ⟨[], Nat.zero_le _, c :: chars, rfl, fun d more next => ?_⟩
      cases next
      simpa using room

theorem Fitting.none_starts (fitting : Fitting n chars kept) {k : Nat} (above : (utf8 kept).length < k) (bound : k ≤ n)
    (inside : k ≤ (utf8 chars).length) : k < (utf8 chars).length ∧ runeStart ((utf8 chars).getD k 0) = false := by
  obtain ⟨left, rfl, full⟩ := fitting.most
  cases left with
  | nil =>
    rw [List.append_nil] at inside
    omega
  | cons c more =>
    have past := full c more rfl
    simp only [utf8_append, List.length_append, utf8_cons, utf8_nil, List.append_nil] at past ⊢
    refine ⟨by omega, ?_⟩
    have offset : k - (utf8 kept).length < (String.utf8EncodeChar c).length := by omega
    rw [List.getD_append_right _ _ _ _ (Nat.le_of_lt above), List.getD_append _ _ _ _ offset,
      List.getD_eq_getElem _ _ offset, runeStart_encoded _ offset]
    exact decide_eq_false (by omega)

theorem starts_of_utf8 (some : chars ≠ []) : runeStart ((utf8 chars).getD 0 0) = true := by
  cases chars with
  | nil => exact absurd rfl some
  | cons c more =>
    rw [utf8_cons, List.getD_append _ _ _ _ (utf8Size_pos c), List.getD_eq_getElem _ _ (utf8Size_pos c),
      runeStart_encoded _ (utf8Size_pos c)]
    rfl

theorem Fitting.start_cut (fitting : Fitting n chars kept) (inside : n < (utf8 chars).length) :
    lastGood (fun k => runeStart ((utf8 chars).getD k 0)) n = (utf8 kept).length := by
  apply lastGood_eq fitting.within
  · obtain ⟨left, rfl, -⟩ := fitting.most
    have some : left ≠ [] := by
      rintro rfl
      have within := fitting.within
      rw [List.append_nil] at inside
      omega
    rw [utf8_append, List.getD_append_right _ _ _ _ (Nat.le_refl _), Nat.sub_self]
    exact .inr (starts_of_utf8 some)
  · exact fun k above bound => (fitting.none_starts above bound (by omega)).2

theorem Fitting.valid_cut (fitting : Fitting n chars kept) (inside : n ≤ (utf8 chars).length) :
    lastGood (fun k => decide (ValidUTF8 ((utf8 chars).take k))) n = (utf8 kept).length := by
  apply lastGood_eq fitting.within
  · obtain ⟨left, rfl, -⟩ := fitting.most
    refine .inr (decide_eq_true ?_)
    rw [utf8_append, List.take_left]
    exact validUTF8_utf8 kept
  · intro k above bound
    obtain ⟨more, silent⟩ := fitting.none_starts above bound (Nat.le_trans bound inside)
    apply decide_eq_false
    intro valid
    -- the bytes after a valid cut are those of the other characters, and begin with a first byte
    obtain ⟨cut, same⟩ := validUTF8_iff.mp valid
    have whole := List.take_append_drop k (utf8 chars)
    rw [same] at whole
    obtain ⟨tail, -, rest⟩ := utf8_begins whole
    have some : tail ≠ [] := by
      rintro rfl
      rw [utf8_nil, List.drop_eq_nil_iff] at rest
      omega
    have starts := starts_of_utf8 some
    rw [← rest, List.getD_eq_getElem?_getD, List.getElem?_drop, Nat.add_zero, ← List.getD_eq_getElem?_getD,
      silent] at starts
    cases starts

theorem Fitting.take (fitting : Fitting n chars kept) : (utf8 chars).take (utf8 kept).length = utf8 kept := by
  obtain ⟨left, rfl, -⟩ := fitting.most
  rw [utf8_append, List.take_left]

end PasswallNode.Foundation
