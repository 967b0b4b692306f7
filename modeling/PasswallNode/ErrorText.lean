import PasswallNode.Foundation.Trim
import PasswallNode.Foundation.Utf8

/-! The texts of errors on their way to the wire. What a library says need not be UTF-8, so these
functions are given bytes. -/

namespace PasswallNode.ErrorText

open Foundation

section Library

/-- `strings.ToValidUTF8(value, "�")`: the bytes left of a character, and whether the byte before belongs to
none. -/
def toValidFrom : Nat → Bool → List UInt8 → List Char
  | _, _, [] => []
  | skip + 1, _, _ :: rest => toValidFrom skip false rest
  | 0, replaced, byte :: rest =>
    match firstRune (byte :: rest) with
    | some c => c :: toValidFrom (c.utf8Size - 1) false rest
    | none => if replaced then toValidFrom 0 true rest else '�' :: toValidFrom 0 true rest

def toValidUTF8 (value : List UInt8) : List Char := toValidFrom 0 false value

def onText (edit : List UInt8 → List UInt8) (value : String) : String :=
  String.ofList (toValidUTF8 (edit (utf8 value.toList)))

def trimLeft : Nat → List UInt8 → List UInt8
  | _, [] => []
  | skip + 1, _ :: rest => trimLeft skip rest
  | 0, byte :: rest =>
    match firstRune (byte :: rest) with
    | some c => if isSpace c then trimLeft (c.utf8Size - 1) rest else byte :: rest
    | none => byte :: rest

def spaceAtEnd (bytes : List UInt8) : Option Nat :=
  [1, 2, 3, 4].find? (fun size =>
    (firstRune (bytes.drop (bytes.length - size))).any (fun c => decide (c.utf8Size = size) && isSpace c))

def trimRight : Nat → List UInt8 → List UInt8
  | 0, bytes => bytes
  | fuel + 1, bytes =>
    match spaceAtEnd bytes with
    | none => bytes
    | some size => trimRight fuel (bytes.take (bytes.length - size))

/-- `strings.TrimSpace` on any bytes. -/
def trimSpaceBytes (bytes : List UInt8) : List UInt8 := trimRight (trimLeft 0 bytes).length (trimLeft 0 bytes)

end Library

def ellipsis : List UInt8 := utf8 ['…']

/-- `agent.truncateUTF8`. -/
def truncateUTF8 (value : List UInt8) (maxBytes : Nat) : List UInt8 :=
  let value := utf8 (toValidUTF8 value)
  let valid (size : Nat) : Bool := decide (ValidUTF8 (value.take size))
  if maxBytes < 1 ∨ value.length ≤ maxBytes then value
  else if maxBytes < ellipsis.length then value.take (lastGood valid maxBytes)
  else value.take (lastGood valid (maxBytes - ellipsis.length)) ++ ellipsis

def executionFailed : List Char := "task execution failed".toList

/-- `boundedError`, with nothing for a `nil` error. -/
def boundedError (maxTaskErrorBytes : Nat) (err : Option (List UInt8)) : List UInt8 :=
  let message := (err.map trimSpaceBytes).getD (utf8 executionFailed)
  let message := if message = [] then utf8 executionFailed else message
  if message.length ≤ maxTaskErrorBytes ∧ ValidUTF8 message then message
  else
    -- a valid message is its own valid form
    let cut := trimRunes (dropToBytes maxTaskErrorBytes (toValidUTF8 message).reverse).reverse
    if cut = [] then utf8 executionFailed else utf8 cut

section Reason

variable (isPrint : Char → Bool) {chars : List Char} {bytes : List UInt8} {c : Char}

def printableText (value : List UInt8) : List Char :=
  trimRunes ((toValidUTF8 value).map (fun r => if r = ' ' ∨ isPrint r = true then r else ' '))

def mark : List Char := "... (truncated)".toList

/-- `helperReason` for a valid sentence and the code and error of the receipt. -/
def helperReason (maxTaskErrorBytes : Nat) (sentence : List Char) (errorCode error : List UInt8) : List UInt8 :=
  let maxHelperReasonBytes := maxTaskErrorBytes / 2
  let message := utf8 ([errorCode, error].foldl (fun message part =>
    if printableText isPrint part = [] then message else message ++ ": ".toList ++ printableText isPrint part) sentence)
  if message.length ≤ maxHelperReasonBytes then message
  else
    let cut := lastGood (fun cut => runeStart (message.getD cut 0)) (maxHelperReasonBytes - (utf8 mark).length)
    message.take cut ++ utf8 mark

/-- The valid form of a text, or as much of it as leaves room for the ellipsis. -/
structure Shortened (limit : Nat) (value result : List UInt8) : Prop where
  valid : ValidUTF8 result
  within : result.length ≤ limit
  unchanged : (utf8 (toValidUTF8 value)).length ≤ limit → result = utf8 (toValidUTF8 value)
  cut : limit < (utf8 (toValidUTF8 value)).length → ∃ kept, result = utf8 kept ++ ellipsis ∧
    Fitting (limit - ellipsis.length) (toValidUTF8 value) kept

theorem truncateUTF8_shortened {limit : Nat} (room : 3 ≤ limit) (value : List UInt8) :
    Shortened limit value (truncateUTF8 value limit) := by
  have size : ellipsis.length = 3 := by decide
  unfold truncateUTF8
  by_cases fits : (utf8 (toValidUTF8 value)).length ≤ limit
  · simp only [if_pos (Or.inr fits)]
    exact ⟨validUTF8_utf8 _, fits, fun _ => rfl, fun long => absurd fits (Nat.not_le_of_lt long)⟩
  · obtain ⟨kept, fitting⟩ := exists_fitting (limit - ellipsis.length) (toValidUTF8 value)
    have within := fitting.within
    have result : (utf8 (toValidUTF8 value)).take
        (lastGood (fun k => decide (ValidUTF8 ((utf8 (toValidUTF8 value)).take k))) (limit - ellipsis.length)) =
          utf8 kept := by
      rw [fitting.valid_cut (by omega), fitting.take]
    simp only [if_neg (show ¬(limit < 1 ∨ (utf8 (toValidUTF8 value)).length ≤ limit) by omega),
      if_neg (show ¬limit < ellipsis.length by omega), result]
    refine ⟨?_, ?_, fun fit => absurd fit fits, fun _ => ⟨kept, rfl, fitting⟩⟩
    · exact validUTF8_iff.mpr ⟨kept ++ ['…'], utf8_append.symm⟩
    · rw [List.length_append]
      omega

theorem trimLeft_first (skip : Nat) (bytes : List UInt8) (first : firstRune (trimLeft skip bytes) = some c) :
    isSpace c = false := by
  induction bytes generalizing skip with
  | nil => cases first
  | cons byte rest ih =>
    cases skip with
    | succ skip => exact ih skip first
    | zero =>
      unfold trimLeft at first
      split at first
      · split at first
        · exact ih _ first
        · rename_i d decoded solid
          rw [decoded] at first
          cases first
          simpa using solid
      · rename_i undecoded
        rw [undecoded] at first
        cases first

theorem trimRight_begins (fuel : Nat) (bytes : List UInt8) : ∃ rest, bytes = trimRight fuel bytes ++ rest := by
  induction fuel generalizing bytes with
  | zero => exact ⟨[], (List.append_nil bytes).symm⟩
  | succ fuel ih =>
    unfold trimRight
    split
    · exact ⟨[], (List.append_nil bytes).symm⟩
    · rename_i size _
      obtain ⟨rest, parts⟩ := ih (bytes.take (bytes.length - size))
      refine ⟨rest ++ bytes.drop (bytes.length - size), ?_⟩
      rw [← List.append_assoc, ← parts, List.take_append_drop]

theorem spaceAtEnd_pos {size : Nat} (found : spaceAtEnd bytes = some size) : 0 < size := by
  have listed := List.mem_of_find?_eq_some found
  simp only [List.mem_cons, List.not_mem_nil, or_false] at listed
  omega

theorem spaceAtEnd_nil : spaceAtEnd [] = none := by decide

theorem trimRight_solid (fuel : Nat) (bytes : List UInt8) (enough : bytes.length ≤ fuel) :
    spaceAtEnd (trimRight fuel bytes) = none := by
  induction fuel generalizing bytes with
  | zero =>
    rw [List.length_eq_zero_iff.mp (Nat.le_zero.mp enough)]
    exact spaceAtEnd_nil
  | succ fuel ih =>
    unfold trimRight
    split
    · assumption
    · rename_i size found
      apply ih
      have shorter := spaceAtEnd_pos found
      rw [List.length_take]
      omega

theorem spaceAtEnd_encoded (init : List UInt8) (space : isSpace c = true) :
    spaceAtEnd (init ++ String.utf8EncodeChar c) ≠ none := by
  intro solid
  have listed : c.utf8Size ∈ [1, 2, 3, 4] := by
    have low := Char.utf8Size_pos c
    have high := Char.utf8Size_le_four c
    simp only [List.mem_cons, List.not_mem_nil, or_false]
    omega
  have refused := List.find?_eq_none.mp solid c.utf8Size listed
  have start : (init ++ String.utf8EncodeChar c).length - c.utf8Size = init.length := by
    rw [List.length_append, String.length_utf8EncodeChar]
    omega
  have decoded := firstRune_encoded c []
  rw [List.append_nil] at decoded
  rw [start, List.drop_left, decoded] at refused
  simp [space] at refused

theorem flush_of_trimSpaceBytes (valid : trimSpaceBytes bytes = utf8 chars) : Flush chars := by
  have solid := trimRight_solid _ (trimLeft 0 bytes) (Nat.le_refl _)
  obtain ⟨rest, begins⟩ := trimRight_begins (trimLeft 0 bytes).length (trimLeft 0 bytes)
  change spaceAtEnd (trimSpaceBytes bytes) = none at solid
  change trimLeft 0 bytes = trimSpaceBytes bytes ++ rest at begins
  rw [valid] at solid begins
  constructor
  · intro c first
    cases chars with
    | nil => cases first
    | cons d more =>
      cases first
      apply trimLeft_first 0 bytes
      rw [begins, utf8_cons, List.append_assoc]
      exact firstRune_encoded c _
  · intro c last
    obtain ⟨init, rfl⟩ := List.getLast?_eq_some_iff.mp last
    rw [utf8_append, utf8_cons, utf8_nil, List.append_nil] at solid
    by_contra space
    exact spaceAtEnd_encoded (utf8 init) (by simpa using space) solid

theorem trimRunes_length (chars : List Char) : (utf8 (trimRunes chars)).length ≤ (utf8 chars).length := by
  obtain ⟨before, after, -, -, parts⟩ := trimRunes_parts chars
  have sizes := congrArg (fun chars => (utf8 chars).length) parts
  simp only [utf8_append, List.length_append] at sizes
  omega

theorem dropToBytes_within (limit : Nat) (reversed : List Char) :
    (utf8 (dropToBytes limit reversed).reverse).length ≤ limit := by
  have size : ∀ chars, (utf8 chars).length = (chars.map Char.utf8Size).sum := by
    intro chars
    induction chars with
    | nil => rfl
    | cons c rest ih => simp [ih, String.length_utf8EncodeChar]
  induction reversed with
  | nil => exact Nat.zero_le _
  | cons last before ih =>
    by_cases long : ((last :: before).map Char.utf8Size).sum > limit
    · have shorter : dropToBytes limit (last :: before) = dropToBytes limit before := if_pos long
      rw [shorter]
      exact ih
    · have kept : dropToBytes limit (last :: before) = last :: before := if_neg long
      rw [kept, size, List.map_reverse, List.sum_reverse]
      exact Nat.le_of_not_lt long

def Reportable (limit : Nat) (result : List UInt8) : Prop :=
  ∃ chars, result = utf8 chars ∧ result.length ≤ limit ∧ chars ≠ [] ∧ Flush chars

theorem reportable_executionFailed {limit : Nat} (room : 32 ≤ limit) : Reportable limit (utf8 executionFailed) := by
  have size : (utf8 executionFailed).length = 21 := by decide
  refine ⟨executionFailed, rfl, by omega, by decide, fun c first => ?_, fun c last => ?_⟩
  · obtain rfl : 't' = c := Option.some.inj first
    decide
  · obtain rfl : 'd' = c := Option.some.inj last
    decide

theorem boundedError_reportable {limit : Nat} (room : 32 ≤ limit) (err : Option (List UInt8)) :
    Reportable limit (boundedError limit err) := by
  have fallback := reportable_executionFailed room
  unfold boundedError
  dsimp only
  generalize given : (err.map trimSpaceBytes).getD (utf8 executionFailed) = message
  by_cases empty : message = []
  · rw [if_pos empty, if_pos ⟨by obtain ⟨_, _, within, -⟩ := fallback; exact within, validUTF8_utf8 _⟩]
    exact fallback
  rw [if_neg empty]
  split
  · rename_i good
    obtain ⟨chars, rfl⟩ := validUTF8_iff.mp good.2
    cases err with
    | none =>
      rw [← given]
      exact fallback
    | some text =>
      refine ⟨chars, rfl, good.1, ?_, flush_of_trimSpaceBytes given⟩
      rintro rfl
      exact empty rfl
  · split
    · exact fallback
    · rename_i some
      refine ⟨_, rfl, ?_, some, flush_trimRunes _⟩
      exact Nat.le_trans (trimRunes_length _) (dropToBytes_within _ _)

end Reason

section Reasoned

variable {isPrint : Char → Bool} {chars : List Char}

def Printing (isPrint : Char → Bool) (c : Char) : Prop := c = ' ' ∨ isPrint c = true

/-- A reason within its limit: the sentence, or what there is room for, and after it only
characters that print. -/
def Reasoned (isPrint : Char → Bool) (limit : Nat) (sentence : List Char) (result : List UInt8) : Prop :=
  ∃ kept left tail, result = utf8 (kept ++ tail) ∧ result.length ≤ limit ∧ sentence = kept ++ left ∧
    ((utf8 sentence).length ≤ limit - (utf8 mark).length → kept = sentence) ∧ ∀ c ∈ tail, Printing isPrint c

theorem printableText_printing (value : List UInt8) : ∀ c ∈ printableText isPrint value, Printing isPrint c := by
  intro c member
  have mapped : c ∈ (toValidUTF8 value).map (fun r => if r = ' ' ∨ isPrint r = true then r else ' ') := by
    obtain ⟨before, after, -, -, parts⟩ := trimRunes_parts
      ((toValidUTF8 value).map (fun r => if r = ' ' ∨ isPrint r = true then r else ' '))
    rw [parts]
    exact List.mem_append_right _ (List.mem_append_left _ member)
  obtain ⟨r, -, rfl⟩ := List.mem_map.mp mapped
  split
  · assumption
  · exact .inl rfl

theorem message_printing (colon : Printing isPrint ':') (parts : List (List UInt8)) (sentence : List Char) :
    ∃ tail, parts.foldl (fun message part =>
    if printableText isPrint part = [] then message else message ++ ": ".toList ++ printableText isPrint part)
      sentence = sentence ++ tail ∧ ∀ c ∈ tail, Printing isPrint c := by
  induction parts generalizing sentence with
  | nil => exact ⟨[], (List.append_nil sentence).symm, by simp⟩
  | cons part rest ih =>
    rw [List.foldl_cons]
    split
    · exact ih sentence
    · obtain ⟨tail, same, printing⟩ := ih (sentence ++ ": ".toList ++ printableText isPrint part)
      refine ⟨": ".toList ++ (printableText isPrint part ++ tail), ?_, ?_⟩
      · rw [same]
        simp only [List.append_assoc]
      · intro c member
        rcases List.mem_append.mp member with sign | later
        · have either : c = ':' ∨ c = ' ' := by simpa using sign
          rcases either with rfl | rfl
          · exact colon
          · exact .inl rfl
        · rcases List.mem_append.mp later with shown | later
          · exact printableText_printing part c shown
          · exact printing c later

theorem reasoned_of_cut {limit : Nat} {sentence tail kept : List Char} (room : 15 ≤ limit)
    (printing : ∀ c ∈ tail, Printing isPrint c) (marked : ∀ c ∈ mark, Printing isPrint c)
    (fitting : Fitting (limit - (utf8 mark).length) (sentence ++ tail) kept) :
    Reasoned isPrint limit sentence (utf8 kept ++ utf8 mark) := by
  have size : (utf8 mark).length = 15 := by decide
  have within : (utf8 kept ++ utf8 mark).length ≤ limit := by
    have small := fitting.within
    rw [List.length_append]
    omega
  obtain ⟨left, parts, full⟩ := fitting.most
  -- the cut falls behind the sentence or inside it
  rcases List.append_eq_append_iff.mp parts with ⟨shown, rfl, rfl⟩ | ⟨lost, rfl, rfl⟩
  · refine ⟨sentence, [], shown ++ mark, by simp, within, (List.append_nil _).symm, fun _ => rfl, ?_⟩
    intro c member
    rcases List.mem_append.mp member with inside | inside
    · exact printing c (List.mem_append_left _ inside)
    · exact marked c inside
  · refine ⟨kept, lost, mark, utf8_append.symm, within, rfl, fun fits => ?_, marked⟩
    cases lost with
    | nil => exact (List.append_nil kept).symm
    | cons c more =>
      have past := full c (more ++ tail) rfl
      simp only [utf8_append, utf8_cons, utf8_nil, List.length_append, List.append_nil] at past fits
      omega

theorem helperReason_reasoned {limit : Nat} (room : 32 ≤ limit)
    (ascii : ∀ c : Char, 32 ≤ c.toNat → c.toNat ≤ 126 → isPrint c = true) (sentence : List Char)
    (errorCode error : List UInt8) :
    Reasoned isPrint (limit / 2) sentence (helperReason isPrint limit sentence errorCode error) := by
  have size : (utf8 mark).length = 15 := by decide
  have marked : ∀ c ∈ mark, Printing isPrint c := by
    intro c member
    have range : mark.all (fun c => decide (32 ≤ c.toNat ∧ c.toNat ≤ 126)) = true := by decide
    have within := of_decide_eq_true (List.all_eq_true.mp range c member)
    exact .inr (ascii c within.1 within.2)
  have colon : Printing isPrint ':' := .inr (ascii ':' (by decide) (by decide))
  obtain ⟨tail, same, printing⟩ := message_printing colon [errorCode, error] sentence
  unfold helperReason
  dsimp only
  rw [same]
  split
  · rename_i fits
    exact ⟨sentence, [], tail, rfl, fits, (List.append_nil _).symm, fun _ => rfl, printing⟩
  · obtain ⟨kept, fitting⟩ := exists_fitting (limit / 2 - (utf8 mark).length) (sentence ++ tail)
    rw [fitting.start_cut (by omega), fitting.take]
    exact reasoned_of_cut (by omega) printing marked fitting

end Reasoned

/-- What is put on the wire is valid UTF-8 within its limit, whatever bytes an error holds. -/
theorem error_texts_fit (isPrint : Char → Bool)
    (ascii : ∀ c : Char, 32 ≤ c.toNat → c.toNat ≤ 126 → isPrint c = true) (limit : Nat) (room : 32 ≤ limit) :
    (∀ value, Shortened limit value (truncateUTF8 value limit)) ∧
      (∀ err, Reportable limit (boundedError limit err)) ∧
      ∀ sentence errorCode error,
        Reasoned isPrint (limit / 2) sentence (helperReason isPrint limit sentence errorCode error) :=
  ⟨truncateUTF8_shortened (by omega), boundedError_reportable room, helperReason_reasoned room ascii⟩

/-- `unicode.IsPrint` on the first 256 characters. -/
def printsLatin1 (c : Char) : Bool :=
  decide (32 ≤ c.toNat ∧ c.toNat ≤ 126) || decide (161 ≤ c.toNat ∧ c.toNat ≤ 255 ∧ c.toNat ≠ 173)

theorem error_texts_fit_256 : (∀ value, Shortened 256 value (truncateUTF8 value 256)) ∧
    (∀ err, Reportable 256 (boundedError 256 err)) ∧
    ∀ sentence errorCode error,
      Reasoned printsLatin1 128 sentence (helperReason printsLatin1 256 sentence errorCode error) := by
  refine error_texts_fit printsLatin1 ?_ 256 (by decide)
  intro c low high
  rw [printsLatin1, decide_eq_true ⟨low, high⟩, Bool.true_or]

end PasswallNode.ErrorText
