import PasswallNode.Foundation.Fallible
import PasswallNode.Foundation.TextParts
import PasswallNode.Foundation.Trim
import Mathlib.Data.Finset.Card
import Mathlib.Order.Interval.Finset.Nat

/-! The count of the CPUs that a cpuset list names. -/

namespace PasswallNode.Host

open Foundation

/-- `strconv.ParseUint` in base 10 and 64 bits. -/
def parseUint (text : List Char) : Option Nat :=
  if text ≠ [] ∧ text.all Char.isDigit ∧ Nat.ofDigitChars 10 text 0 < 2 ^ 64 then some (Nat.ofDigitChars 10 text 0)
  else none

/-- An error, and how many CPUs the loops had visited by then. -/
structure Refusal where
  message : String
  visited : Nat
  deriving DecidableEq, Repr

structure Counted where
  seen : List Nat
  count : Nat
  visited : Nat
  deriving DecidableEq, Repr

def parseCPURange (group : List Char) : Except String (Nat × Nat) :=
  match cut '-' group with
  | (low, some high) => do
      let lowValue ← orError (parseUint (trimRunes low)) "cpuset range bound is not a number"
      let highValue ← orError (parseUint (trimRunes high)) "cpuset range bound is not a number"
      rejectIf (highValue < lowValue) "cpuset range descends"
      return (lowValue, highValue)
  | (_, none) => do
      let single ← orError (parseUint group) "cpuset entry is not a number"
      return (single, single)

/-- `for cpu := low; cpu <= high; cpu++` on 64 bits. Each pass counts one CPU and 4097 are refused, so `passes`
are enough. -/
def visitRange (high : Nat) : Nat → Nat → Counted → Except Refusal Counted
  | 0, _, state => .ok state
  | passes + 1, cpu, state =>
    if cpu ≤ high then do
      rejectIf (cpu ∈ state.seen) ⟨"cpuset repeats a CPU", state.visited + 1⟩
      rejectIf (state.count + 1 > 4096) ⟨"cpuset names more than 4096 CPUs", state.visited + 1⟩
      visitRange high passes ((cpu + 1) % 2 ^ 64) ⟨cpu :: state.seen, state.count + 1, state.visited + 1⟩
    else .ok state

def readGroup (group : List Char) : Except String (Nat × Nat) := do
  rejectIf (group = []) "cpuset holds an empty group"
  let range ← parseCPURange group
  rejectIf ((range.2 - range.1 + 1) % 2 ^ 64 > 4096) "cpuset range is implausibly large"
  return range

def visitGroup (state : Counted) (group : List Char) : Except Refusal Counted := do
  let range ← (readGroup (trimRunes group)).mapError (fun message => ⟨message, state.visited⟩)
  visitRange range.2 4098 range.1 state

def parseCPUSet (raw : String) : Except Refusal Counted := do
  rejectIf (trimRunes raw.toList = []) ⟨"cpuset is empty", 0⟩
  forEach visitGroup ⟨[], 0, 0⟩ ((trimRunes raw.toList).splitOn ',')

def visits : Except Refusal Counted → Nat
  | .ok state => state.visited
  | .error refusal => refusal.visited

section Lists

def Numeral (text : List Char) (n : Nat) : Prop :=
  ∃ before digits after, Blank before ∧ Blank after ∧ text = before ++ (digits ++ after) ∧ digits ≠ [] ∧
    (∀ c ∈ digits, c.isDigit = true) ∧ n = Nat.ofDigitChars 10 digits 0

/-- A number, or two with a dash between them that do not descend. -/
def Group (text : List Char) (range : Nat × Nat) : Prop :=
  Numeral text range.1 ∧ range.1 = range.2 ∨
    ∃ low high, text = low ++ '-' :: high ∧ Numeral low range.1 ∧ Numeral high range.2 ∧ range.1 ≤ range.2

def Lists (text : List Char) (ranges : List (Nat × Nat)) : Prop :=
  ∃ groups, groups ≠ [] ∧ text = [','].intercalate groups ∧ List.Forall₂ Group groups ranges

def cpus : List (Nat × Nat) → Finset Nat
  | [] => ∅
  | range :: rest => Finset.Icc range.1 range.2 ∪ cpus rest

def Separate (a b : Nat × Nat) : Prop := Disjoint (Finset.Icc a.1 a.2) (Finset.Icc b.1 b.2)

def Moderate (text : List Char) : Prop :=
  ∀ digits, digits <:+: text → (∀ c ∈ digits, c.isDigit = true) → Nat.ofDigitChars 10 digits 0 < 2 ^ 64 - 1

end Lists

section Groups

variable {text low high : List Char} {range : Nat × Nat} {n : Nat} {before after : List Char}

theorem not_space_of_digit {c : Char} (digit : c.isDigit = true) : isSpace c = false := by
  have bounds : 48 ≤ c.toNat ∧ c.toNat ≤ 57 := Char.isDigit_iff_toNat.mp digit
  rw [Bool.eq_false_iff]
  intro space
  simp only [isSpace, Bool.or_eq_true, Bool.and_eq_true, decide_eq_true_eq, List.mem_cons, List.not_mem_nil,
    or_false] at space
  omega

theorem flush_of_digits {digits : List Char} (numeric : ∀ c ∈ digits, c.isDigit = true) : Flush digits :=
  ⟨fun c first => not_space_of_digit (numeric c (List.mem_of_mem_head? first)),
    fun c last => not_space_of_digit (numeric c (List.mem_of_mem_getLast? last))⟩

theorem parseUint_eq_some : parseUint text = some n ↔
    text ≠ [] ∧ (∀ c ∈ text, c.isDigit = true) ∧ n = Nat.ofDigitChars 10 text 0 ∧ n < 2 ^ 64 := by
  unfold parseUint
  constructor
  · intro parsed
    split at parsed
    · rename_i good
      cases parsed
      exact ⟨good.1, List.all_eq_true.mp good.2.1, rfl, good.2.2⟩
    · cases parsed
  · rintro ⟨some, numeric, rfl, small⟩
    rw [if_pos ⟨some, List.all_eq_true.mpr numeric, small⟩]

theorem numeral_of_parseUint (parsed : parseUint (trimRunes text) = some n) : Numeral text n := by
  obtain ⟨before, after, first, second, parts⟩ := trimRunes_parts text
  obtain ⟨some, numeric, value, -⟩ := parseUint_eq_some.mp parsed
  exact ⟨before, trimRunes text, after, first, second, parts, some, numeric, value⟩

theorem Numeral.parseUint (numeral : Numeral text n) (small : n < 2 ^ 64) : parseUint (trimRunes text) = some n := by
  obtain ⟨before, digits, after, first, second, rfl, some, numeric, value⟩ := numeral
  rw [trimRunes_eq first (flush_of_digits numeric) second]
  exact parseUint_eq_some.mpr ⟨some, numeric, value, small⟩

theorem Numeral.notMem {c : Char} (numeral : Numeral text n) (digit : c.isDigit = false) (solid : isSpace c = false) :
    c ∉ text := by
  obtain ⟨before, digits, after, first, second, rfl, -, numeric, -⟩ := numeral
  intro member
  rcases List.mem_append.mp member with inside | member
  · rw [first c inside] at solid
    cases solid
  · rcases List.mem_append.mp member with inside | inside
    · rw [numeric c inside] at digit
      cases digit
    · rw [second c inside] at solid
      cases solid

theorem Numeral.moderate (numeral : Numeral text n) (moderate : Moderate text) : n < 2 ^ 64 - 1 := by
  obtain ⟨before, digits, after, -, -, rfl, -, numeric, rfl⟩ := numeral
  exact moderate digits ⟨before, after, by rw [List.append_assoc]⟩ numeric

theorem Moderate.inside {whole : List Char} (moderate : Moderate whole) (inside : text <:+: whole) :
    Moderate text := fun digits part => moderate digits (part.trans inside)

theorem group_of_parsed (parsed : parseCPURange (trimRunes text) = .ok range) : Group text range := by
  obtain ⟨before, after, first, second, parts⟩ := trimRunes_parts text
  unfold parseCPURange at parsed
  split at parsed
  · rename_i low high found
    simp only [bind_eq_ok, orError_eq_ok, rejectIf_eq_ok, pure_eq_ok, exists_const] at parsed
    obtain ⟨lowValue, readLow, highValue, readHigh, ordered, rfl⟩ := parsed
    have split := eq_of_cut found
    rw [split] at parts
    refine .inr ⟨before ++ low, high ++ after, by simpa using parts, ?_, ?_, Nat.le_of_not_lt ordered⟩
    · exact numeral_of_parseUint (by rwa [trimRunes_blank_append first])
    · exact numeral_of_parseUint (by rwa [trimRunes_append_blank second])
  · simp only [bind_eq_ok, orError_eq_ok, pure_eq_ok] at parsed
    obtain ⟨single, read, rfl⟩ := parsed
    exact .inl ⟨numeral_of_parseUint read, rfl⟩

theorem flush_between {first last : List Char} (middle : List Char) (some : first ≠ []) (more : last ≠ [])
    (front : Flush first) (back : Flush last) : Flush (first ++ (middle ++ last)) := by
  constructor
  · intro c head
    cases first with
    | nil => exact absurd rfl some
    | cons d rest => exact front.1 c head
  · intro c tail
    rw [← List.append_assoc, List.getLast?_append_of_ne_nil _ more] at tail
    exact back.2 c tail

theorem Group.parsed (group : Group text range) (moderate : Moderate text) :
    parseCPURange (trimRunes text) = .ok range := by
  unfold parseCPURange
  rcases group with ⟨numeral, same⟩ | ⟨low, high, rfl, first, second, ordered⟩
  · have small := numeral.moderate moderate
    have read := numeral.parseUint (by omega)
    have plain := (parseUint_eq_some.mp read).2.1
    rw [cut_of_notMem (fun dash => by simpa using plain '-' dash)]
    simp only [read]
    rw [show range = (range.1, range.1) from Prod.ext rfl same.symm]
    rfl
  · have lows := first.moderate (moderate.inside ⟨[], '-' :: high, rfl⟩)
    have highs := second.moderate (moderate.inside ⟨low ++ ['-'], [], by simp⟩)
    have readLow := first.parseUint (by omega)
    have readHigh := second.parseUint (by omega)
    have whole : ∃ padding gap, Blank padding ∧ Blank gap ∧
        trimRunes (low ++ '-' :: high) = trimRunes low ++ (padding ++ '-' :: (gap ++ trimRunes high)) := by
      obtain ⟨front, padding, frontBlank, paddingBlank, lowParts⟩ := trimRunes_parts low
      obtain ⟨gap, back, gapBlank, backBlank, highParts⟩ := trimRunes_parts high
      refine ⟨padding, gap, paddingBlank, gapBlank, ?_⟩
      have lowDigits := parseUint_eq_some.mp readLow
      have highDigits := parseUint_eq_some.mp readHigh
      have flush := flush_between (padding ++ '-' :: gap) lowDigits.1 highDigits.1
        (flush_of_digits lowDigits.2.1) (flush_of_digits highDigits.2.1)
      have core := trimRunes_eq frontBlank flush backBlank
      have same : low ++ '-' :: high =
          front ++ ((trimRunes low ++ ((padding ++ '-' :: gap) ++ trimRunes high)) ++ back) := by
        calc low ++ '-' :: high =
            (front ++ (trimRunes low ++ padding)) ++ '-' :: (gap ++ (trimRunes high ++ back)) := by
              rw [← lowParts, ← highParts]
          _ = front ++ ((trimRunes low ++ ((padding ++ '-' :: gap) ++ trimRunes high)) ++ back) := by simp
      rw [same, core]
      simp
    obtain ⟨padding, gap, blank, clear, shape⟩ := whole
    have absent : '-' ∉ trimRunes low ++ padding := by
      have digits := (parseUint_eq_some.mp readLow).2.1
      intro dash
      rcases List.mem_append.mp dash with inside | inside
      · exact absurd (digits '-' inside) (by decide)
      · exact absurd (blank '-' inside) (by decide)
    rw [shape, ← List.append_assoc, cut_append absent]
    have trimmedLow := trimRunes_eq blank_nil (flush_trimRunes low) blank
    have trimmedHigh := trimRunes_eq clear (flush_trimRunes high) blank_nil
    simp only [List.nil_append, List.append_nil] at trimmedLow trimmedHigh
    simp only [trimmedLow, trimmedHigh, readLow, readHigh]
    have kept : ¬range.2 < range.1 := Nat.not_lt_of_le ordered
    simp [orError, rejectIf, kept, bind, Except.bind, pure, Except.pure]

theorem comma_notMem (blank : Blank before) : ',' ∉ before := fun comma => absurd (blank ',' comma) (by decide)

theorem splitOn_of_notMem {text : List Char} (absent : ',' ∉ text) : text.splitOn ',' = [text] := by
  have whole : ([','].intercalate [text]).splitOn ',' = [text] :=
    List.splitOn_intercalate ',' (by simpa using absent) (by simp)
  simpa [List.intercalate] using whole

theorem splitOn_blank_append (blank : Blank before) (text : List Char) :
    ((before ++ text).splitOn ',').map trimRunes = (text.splitOn ',').map trimRunes := by
  have absent := comma_notMem blank
  by_cases comma : ',' ∈ text
  · obtain ⟨first, rest, rfl, fresh⟩ := List.eq_append_cons_of_mem comma
    have joined : ',' ∉ before ++ first := by simp [absent, fresh]
    rw [← List.append_assoc, List.splitOn_append_cons_self_of_not_mem joined,
      List.splitOn_append_cons_self_of_not_mem fresh, List.map_cons, List.map_cons, trimRunes_blank_append blank]
  · rw [splitOn_of_notMem (by simp [absent, comma]), splitOn_of_notMem comma, List.map_singleton, List.map_singleton,
      trimRunes_blank_append blank]

theorem splitOn_append_blank (text : List Char) (blank : Blank after) :
    ((text ++ after).splitOn ',').map trimRunes = (text.splitOn ',').map trimRunes := by
  have absent := comma_notMem blank
  induction size : text.length using Nat.strong_induction_on generalizing text with
  | _ size ih =>
    by_cases comma : ',' ∈ text
    · obtain ⟨first, rest, rfl, fresh⟩ := List.eq_append_cons_of_mem comma
      have shorter := ih rest.length (by simp at size; omega) rest rfl
      rw [List.append_assoc, List.cons_append, List.splitOn_append_cons_self_of_not_mem fresh,
        List.splitOn_append_cons_self_of_not_mem fresh, List.map_cons, List.map_cons, shorter]
    · rw [splitOn_of_notMem (by simp [absent, comma]), splitOn_of_notMem comma, List.map_singleton,
        List.map_singleton, trimRunes_append_blank blank]

theorem splitOn_trimmed (raw : List Char) :
    ((trimRunes raw).splitOn ',').map trimRunes = (raw.splitOn ',').map trimRunes := by
  obtain ⟨before, after, first, second, parts⟩ := trimRunes_parts raw
  have whole := splitOn_blank_append first (trimRunes raw ++ after)
  rw [← parts, splitOn_append_blank _ second] at whole
  exact whole.symm

end Groups

section Visits

variable {state final : Counted} {high cpu passes : Nat} {done ranges : List (Nat × Nat)} {range : Nat × Nat}
  {group : List Char} {groups : List (List Char)}

theorem visitRange_ok (top : high < 2 ^ 64 - 1) (bound : state.count ≤ 4096) (enough : 4097 < state.count + passes)
    (ended : visitRange high passes cpu state = .ok final) :
    (∀ k ∈ Finset.Icc cpu high, k ∉ state.seen) ∧ (∀ k, k ∈ final.seen ↔ k ∈ state.seen ∨ k ∈ Finset.Icc cpu high) ∧
    final.count = state.count + (high + 1 - cpu) := by
  induction passes generalizing cpu state with
  | zero => omega
  | succ passes ih =>
    unfold visitRange at ended
    by_cases inside : cpu ≤ high
    · rw [if_pos inside, Nat.mod_eq_of_lt (by omega)] at ended
      simp only [bind_eq_ok, rejectIf_eq_ok, exists_const] at ended
      obtain ⟨fresh, room, rest⟩ := ended
      obtain ⟨others, seen, count⟩ := ih (by simpa using room) (by simp only; omega) rest
      simp only [Finset.mem_Icc, List.mem_cons] at others seen count ⊢
      refine ⟨fun k between => ?_, fun k => ?_, by omega⟩
      · by_cases first : k = cpu
        · rwa [first]
        · exact fun old => others k (by omega) (.inr old)
      · rw [seen k, or_comm (a := k = cpu), or_assoc]
        refine or_congr Iff.rfl ?_
        omega
    · rw [if_neg inside] at ended
      cases ended
      have none : Finset.Icc cpu high = ∅ := Finset.Icc_eq_empty inside
      rw [none]
      exact ⟨fun k between => absurd between (Finset.notMem_empty k), fun k => by simp, by omega⟩

theorem visitRange_isOk (top : high < 2 ^ 64 - 1) (fresh : ∀ k ∈ Finset.Icc cpu high, k ∉ state.seen)
    (room : state.count + (high + 1 - cpu) ≤ 4096) : ∃ final, visitRange high passes cpu state = .ok final := by
  induction passes generalizing cpu state with
  | zero => exact ⟨state, rfl⟩
  | succ passes ih =>
    unfold visitRange
    by_cases inside : cpu ≤ high
    · rw [if_pos inside, Nat.mod_eq_of_lt (by omega)]
      have new : cpu ∉ state.seen := fresh cpu (Finset.mem_Icc.mpr ⟨Nat.le_refl _, inside⟩)
      have few : ¬state.count + 1 > 4096 := by omega
      simp only [rejectIf, if_neg new, if_neg few]
      apply ih
      · intro k between
        rw [Finset.mem_Icc] at between
        rw [List.mem_cons, not_or]
        exact ⟨by omega, fresh k (Finset.mem_Icc.mpr ⟨by omega, between.2⟩)⟩
      · simp only
        omega
    · exact ⟨state, if_neg inside⟩

def Tallied (state : Counted) : Prop := state.count ≤ 4096 ∧ state.visited = state.count

theorem visitRange_tallied (tallied : Tallied state) : visits (visitRange high passes cpu state) ≤ 4097 ∧
    ∀ final, visitRange high passes cpu state = .ok final → Tallied final := by
  obtain ⟨bound, counted⟩ := tallied
  induction passes generalizing cpu state with
  | zero => exact ⟨by simp only [visitRange, visits]; omega, fun final ended => by cases ended; exact ⟨bound, counted⟩⟩
  | succ passes ih =>
    unfold visitRange
    by_cases inside : cpu ≤ high
    · rw [if_pos inside]
      by_cases old : cpu ∈ state.seen
      · simp [rejectIf, old, bind, Except.bind, visits]
        omega
      · by_cases full : state.count + 1 > 4096
        · simp [rejectIf, old, full, bind, Except.bind, visits]
          omega
        · simp only [rejectIf, if_neg old, if_neg full]
          exact ih (by simp only; omega) (by simp only; omega)
    · rw [if_neg inside]
      exact ⟨by simp only [visits]; omega, fun final ended => by cases ended; exact ⟨bound, counted⟩⟩

theorem visitGroup_tallied (tallied : Tallied state) : visits (visitGroup state group) ≤ 4097 ∧
    ∀ final, visitGroup state group = .ok final → Tallied final := by
  unfold visitGroup
  cases readGroup (trimRunes group) with
  | error message =>
    refine ⟨?_, fun final ended => by cases ended⟩
    change state.visited ≤ 4097
    obtain ⟨bound, counted⟩ := tallied
    omega
  | ok range => exact visitRange_tallied tallied

theorem mem_cpus {k : Nat} : k ∈ cpus ranges ↔ ∃ range ∈ ranges, k ∈ Finset.Icc range.1 range.2 := by
  induction ranges with
  | nil => simp [cpus]
  | cons range rest ih => simp only [cpus, Finset.mem_union, ih, List.exists_mem_cons_iff]

theorem cpus_concat : cpus (done ++ [range]) = cpus done ∪ Finset.Icc range.1 range.2 := by
  ext k
  simp only [Finset.mem_union, mem_cpus, List.mem_append, List.mem_singleton, or_and_right, exists_or,
    exists_eq_left]

theorem separate_concat : (done ++ [range]).Pairwise Separate ↔
    done.Pairwise Separate ∧ Disjoint (cpus done) (Finset.Icc range.1 range.2) := by
  rw [List.pairwise_append, Finset.disjoint_left]
  simp only [List.pairwise_singleton, true_and, List.mem_singleton, forall_eq, Separate, Finset.disjoint_left, mem_cpus]
  refine and_congr Iff.rfl ⟨?_, ?_⟩
  · rintro apart k ⟨other, member, inside⟩
    exact apart other member inside
  · exact fun apart other member k inside => apart ⟨other, member, inside⟩

structure Holds (state : Counted) (done : List (Nat × Nat)) : Prop where
  separate : done.Pairwise Separate
  seen : ∀ k, k ∈ state.seen ↔ k ∈ cpus done
  count : state.count = (cpus done).card
  tallied : Tallied state

theorem Holds.visited_range (holds : Holds state done) (top : range.2 < 2 ^ 64 - 1)
    (ended : visitRange range.2 4098 range.1 state = .ok final) : Holds final (done ++ [range]) := by
  obtain ⟨fresh, seen, count⟩ := visitRange_ok top holds.tallied.1 (by omega) ended
  have apart : Disjoint (cpus done) (Finset.Icc range.1 range.2) := by
    rw [Finset.disjoint_right]
    exact fun k inside => fun old => fresh k inside ((holds.seen k).mpr old)
  refine ⟨separate_concat.mpr ⟨holds.separate, apart⟩, fun k => ?_, ?_,
    (visitRange_tallied holds.tallied).2 final ended⟩
  · rw [seen k, holds.seen k, cpus_concat, Finset.mem_union]
  · rw [cpus_concat, Finset.card_union_of_disjoint apart, Nat.card_Icc, count, holds.count]

theorem Holds.visits_range (holds : Holds state done) (top : range.2 < 2 ^ 64 - 1)
    (separate : (done ++ [range]).Pairwise Separate) (small : (cpus (done ++ [range])).card ≤ 4096) :
    ∃ final, visitRange range.2 4098 range.1 state = .ok final := by
  have apart := (separate_concat.mp separate).2
  rw [cpus_concat, Finset.card_union_of_disjoint apart, Nat.card_Icc, ← holds.count] at small
  apply visitRange_isOk top
  · exact fun k inside old => Finset.disjoint_right.mp apart inside ((holds.seen k).mp old)
  · exact small

theorem Group.top (group : Group text range) (moderate : Moderate text) :
    range.1 ≤ range.2 ∧ range.2 < 2 ^ 64 - 1 := by
  rcases group with ⟨numeral, same⟩ | ⟨low, high, rfl, -, numeral, ordered⟩
  · exact ⟨Nat.le_of_eq same, same ▸ numeral.moderate moderate⟩
  · exact ⟨ordered, numeral.moderate (moderate.inside ⟨low ++ ['-'], [], by simp⟩)⟩

theorem readGroup_eq_ok (parsed : readGroup group = .ok range) : parseCPURange group = .ok range := by
  simp only [readGroup, bind_eq_ok, rejectIf_eq_ok, pure_eq_ok, exists_const] at parsed
  obtain ⟨-, other, read, -, rfl⟩ := parsed
  exact read

theorem Holds.after (holds : Holds state done) (moderate : Moderate group)
    (ended : visitGroup state group = .ok final) : ∃ range, Group group range ∧ Holds final (done ++ [range]) := by
  unfold visitGroup at ended
  cases read : readGroup (trimRunes group) with
  | error message =>
    rw [read] at ended
    cases ended
  | ok range =>
    rw [read] at ended
    have denotes := group_of_parsed (readGroup_eq_ok read)
    exact ⟨range, denotes, holds.visited_range (denotes.top moderate).2 ended⟩

theorem Holds.enters (holds : Holds state done) (moderate : Moderate group) (denotes : Group group range)
    (separate : (done ++ [range]).Pairwise Separate) (small : (cpus (done ++ [range])).card ≤ 4096) :
    ∃ final, visitGroup state group = .ok final ∧ Holds final (done ++ [range]) := by
  have top := denotes.top moderate
  have parsed := denotes.parsed moderate
  have size : (Finset.Icc range.1 range.2).card ≤ 4096 := by
    refine Nat.le_trans (Finset.card_le_card ?_) small
    rw [cpus_concat]
    exact Finset.subset_union_right
  rw [Nat.card_Icc] at size
  have some : trimRunes group ≠ [] := by
    intro empty
    rw [empty] at parsed
    cases parsed
  have read : readGroup (trimRunes group) = .ok range := by
    have fits : ¬(range.2 - range.1 + 1) % 2 ^ 64 > 4096 := by
      rw [Nat.mod_eq_of_lt (by omega)]
      omega
    simp only [readGroup, bind_eq_ok, rejectIf_eq_ok, pure_eq_ok, exists_const]
    exact ⟨some, range, parsed, fits, rfl⟩
  obtain ⟨final, ended⟩ := holds.visits_range top.2 separate small
  refine ⟨final, ?_, holds.visited_range top.2 ended⟩
  unfold visitGroup
  rw [read]
  exact ended

theorem Holds.after_all (holds : Holds state done) (moderate : ∀ group ∈ groups, Moderate group)
    (ended : forEach visitGroup state groups = .ok final) :
    ∃ ranges, List.Forall₂ Group groups ranges ∧ Holds final (done ++ ranges) := by
  induction groups generalizing state done with
  | nil =>
    cases ended
    exact ⟨[], .nil, by rwa [List.append_nil]⟩
  | cons group rest ih =>
    obtain ⟨next, passed, later⟩ := bind_eq_ok.mp ended
    have ⟨first, others⟩ := List.forall_mem_cons.mp moderate
    obtain ⟨range, denotes, kept⟩ := holds.after first passed
    obtain ⟨ranges, all, last⟩ := ih kept others later
    exact ⟨range :: ranges, .cons denotes all, by simpa using last⟩

theorem Holds.enters_all (holds : Holds state done) (moderate : ∀ group ∈ groups, Moderate group)
    (all : List.Forall₂ Group groups ranges) (separate : (done ++ ranges).Pairwise Separate)
    (small : (cpus (done ++ ranges)).card ≤ 4096) :
    ∃ final, forEach visitGroup state groups = .ok final ∧ Holds final (done ++ ranges) := by
  induction all generalizing state done with
  | nil => exact ⟨state, rfl, by rwa [List.append_nil]⟩
  | @cons group range rest ranges denotes later ih =>
    have ⟨first, others⟩ := List.forall_mem_cons.mp moderate
    have shape : done ++ range :: ranges = (done ++ [range]) ++ ranges := by simp
    rw [shape] at separate small ⊢
    have part : (cpus (done ++ [range])).card ≤ 4096 := by
      refine Nat.le_trans (Finset.card_le_card ?_) small
      intro k inside
      obtain ⟨other, member, between⟩ := mem_cpus.mp inside
      exact mem_cpus.mpr ⟨other, List.mem_append_left _ member, between⟩
    obtain ⟨next, passed, kept⟩ := holds.enters first denotes (List.pairwise_append.mp separate).1 part
    obtain ⟨final, rest, last⟩ := ih kept others separate small
    exact ⟨final, bind_eq_ok.mpr ⟨next, passed, rest⟩, last⟩

theorem forEach_visitGroup_congr {others : List (List Char)} (same : groups.map trimRunes = others.map trimRunes)
    (state : Counted) : forEach visitGroup state groups = forEach visitGroup state others := by
  induction groups generalizing others state with
  | nil => rw [List.map_eq_nil_iff.mp same.symm]
  | cons group rest ih =>
    cases others with
    | nil => cases same
    | cons other more =>
      simp only [List.map_cons, List.cons.injEq] at same
      have step : visitGroup state group = visitGroup state other := by
        unfold visitGroup
        rw [same.1]
      rw [forEach, forEach, step]
      exact congrArg _ (funext fun next => ih same.2 next)

end Visits

section Whole

variable {raw : String} {ranges : List (Nat × Nat)} {n : Nat}

theorem holds_start : Holds ⟨[], 0, 0⟩ [] :=
  ⟨.nil, fun k => by simp [cpus], rfl, Nat.zero_le _, rfl⟩

theorem inside_of_mem_groups {groups : List (List Char)} {group : List Char} (member : group ∈ groups) :
    group <:+: [','].intercalate groups := by
  induction groups with
  | nil => cases member
  | cons first rest ih =>
    cases rest with
    | nil =>
      cases List.mem_singleton.mp member
      exact ⟨[], [], by simp [List.intercalate]⟩
    | cons second more =>
      have shape : [','].intercalate (first :: second :: more) =
          first ++ ',' :: [','].intercalate (second :: more) := by simp [List.intercalate]
      rw [shape]
      rcases List.mem_cons.mp member with rfl | later
      · exact ⟨[], _, rfl⟩
      · exact (ih later).trans ⟨first ++ [','], [], by simp⟩

theorem parseCPUSet_eq (some : trimRunes raw.toList ≠ []) :
    parseCPUSet raw = forEach visitGroup ⟨[], 0, 0⟩ (raw.toList.splitOn ',') := by
  unfold parseCPUSet
  rw [forEach_visitGroup_congr (splitOn_trimmed raw.toList)]
  simp [rejectIf, some, bind, Except.bind]

theorem Group.digit {text : List Char} {range : Nat × Nat} (group : Group text range) :
    ∃ c ∈ text, isSpace c = false := by
  have numeral : ∀ {text : List Char} {n : Nat}, Numeral text n → ∃ c ∈ text, isSpace c = false := by
    rintro text n ⟨before, digits, after, -, -, rfl, some, numeric, -⟩
    obtain ⟨c, member⟩ := List.exists_mem_of_ne_nil digits some
    exact ⟨c, by simp [member], not_space_of_digit (numeric c member)⟩
  rcases group with ⟨single, -⟩ | ⟨low, high, rfl, first, -⟩
  · exact numeral single
  · obtain ⟨c, member, solid⟩ := numeral first
    exact ⟨c, List.mem_append_left _ member, solid⟩

theorem Group.comma {text : List Char} {range : Nat × Nat} (group : Group text range) : ',' ∉ text := by
  rcases group with ⟨single, -⟩ | ⟨low, high, rfl, first, second, -⟩
  · exact single.notMem (by decide) (by decide)
  · have before := first.notMem (c := ',') (by decide) (by decide)
    have after := second.notMem (c := ',') (by decide) (by decide)
    simp [before, after]

theorem denoted_of_mem {groups : List (List Char)} {group : List Char} (all : List.Forall₂ Group groups ranges)
    (member : group ∈ groups) : ∃ range, Group group range := by
  induction all with
  | nil => cases member
  | cons denotes rest ih =>
    cases member with
    | head => exact ⟨_, denotes⟩
    | tail _ later => exact ih later

theorem Lists.groups (lists : Lists raw.toList ranges) :
    List.Forall₂ Group (raw.toList.splitOn ',') ranges ∧ trimRunes raw.toList ≠ [] := by
  obtain ⟨groups, some, whole, all⟩ := lists
  have bare : ∀ group ∈ groups, ',' ∉ group := by
    intro group member
    obtain ⟨range, denotes⟩ := denoted_of_mem all member
    exact denotes.comma
  constructor
  · rwa [whole, List.splitOn_intercalate ',' bare some]
  · intro blank
    obtain ⟨group, member⟩ := List.exists_mem_of_ne_nil groups some
    obtain ⟨range, denotes⟩ := denoted_of_mem all member
    obtain ⟨c, inside, solid⟩ := denotes.digit
    obtain ⟨before, after, first, second, parts⟩ := trimRunes_parts raw.toList
    have listed : c ∈ raw.toList := by
      rw [whole]
      exact (inside_of_mem_groups member).subset inside
    rw [parts, blank] at listed
    rw [blank_append first second c listed] at solid
    cases solid

theorem parseCPUSet_visits (raw : String) : visits (parseCPUSet raw) ≤ 4097 := by
  have start : Tallied ⟨[], 0, 0⟩ := ⟨Nat.zero_le _, rfl⟩
  unfold parseCPUSet
  by_cases blank : trimRunes raw.toList = []
  · simp [rejectIf, blank, bind, Except.bind, visits]
  simp only [rejectIf, if_neg blank]
  change visits (forEach visitGroup ⟨[], 0, 0⟩ ((trimRunes raw.toList).splitOn ',')) ≤ 4097
  cases ended : forEach visitGroup ⟨[], 0, 0⟩ ((trimRunes raw.toList).splitOn ',') with
  | ok final =>
    have tallied := forEach_invariant Tallied
      (fun state next group _ kept passed => (visitGroup_tallied kept).2 next passed) start ended
    have bound := tallied.1
    have counted := tallied.2
    simp only [visits]
    omega
  | error refusal =>
    obtain ⟨passed, group, rest, before, -, reached, refused⟩ := forEach_eq_error ended
    have tallied := forEach_invariant Tallied
      (fun state next group _ kept passed => (visitGroup_tallied kept).2 next passed) start reached
    have bound : visits (visitGroup before group) ≤ 4097 := (visitGroup_tallied tallied).1
    rwa [refused] at bound

/-- The count is that of the set the list denotes. -/
theorem cpuset_counted_exactly (raw : String) (moderate : Moderate raw.toList) :
    (∀ n, (∃ final, parseCPUSet raw = .ok final ∧ final.count = n) ↔
      ∃ ranges, Lists raw.toList ranges ∧ ranges.Pairwise Separate ∧ (cpus ranges).card = n ∧ n ≤ 4096) ∧
    visits (parseCPUSet raw) ≤ 4097 := by
  have each : ∀ group ∈ raw.toList.splitOn ',', Moderate group := by
    intro group member
    refine moderate.inside ?_
    have inside := inside_of_mem_groups member
    rwa [List.intercalate_splitOn] at inside
  refine ⟨fun n => ⟨?_, ?_⟩, parseCPUSet_visits raw⟩
  · rintro ⟨final, ended, rfl⟩
    have some : trimRunes raw.toList ≠ [] := by
      intro blank
      simp [parseCPUSet, rejectIf, blank, bind, Except.bind] at ended
    rw [parseCPUSet_eq some] at ended
    obtain ⟨ranges, all, holds⟩ := holds_start.after_all each ended
    rw [List.nil_append] at holds
    exact ⟨ranges, ⟨_, List.splitOn_ne_nil _ _, (List.intercalate_splitOn ',').symm, all⟩, holds.separate,
      holds.count.symm, holds.tallied.1⟩
  · rintro ⟨ranges, lists, separate, rfl, small⟩
    obtain ⟨all, some⟩ := lists.groups
    obtain ⟨final, ended, holds⟩ := holds_start.enters_all each all (by simpa using separate) (by simpa using small)
    rw [List.nil_append] at holds
    exact ⟨final, (parseCPUSet_eq some).trans ended, holds.count⟩

theorem ofDigitChars_lt (digits : List Char) (numeric : ∀ c ∈ digits, c.isDigit = true) (start : Nat) :
    Nat.ofDigitChars 10 digits start < (start + 1) * 10 ^ digits.length := by
  induction digits generalizing start with
  | nil => simp
  | cons c rest ih =>
    have ⟨first, later⟩ := List.forall_mem_cons.mp numeric
    have digit := digit_lt_ten first
    have tail := ih later (10 * start + (c.toNat - '0'.toNat))
    rw [Nat.ofDigitChars_cons]
    calc Nat.ofDigitChars 10 rest (10 * start + (c.toNat - '0'.toNat))
        < (10 * start + (c.toNat - '0'.toNat) + 1) * 10 ^ rest.length := tail
      _ ≤ ((start + 1) * 10) * 10 ^ rest.length := Nat.mul_le_mul_right _ (by omega)
      _ = (start + 1) * 10 ^ (c :: rest).length := by
        rw [List.length_cons, Nat.pow_succ, Nat.mul_assoc, Nat.mul_comm 10]

theorem moderate_of_short {text : List Char} (short : text.length ≤ 18) : Moderate text := by
  intro digits inside numeric
  have value := ofDigitChars_lt digits numeric 0
  have size : 10 ^ digits.length ≤ 10 ^ 18 := Nat.pow_le_pow_right (by decide) (Nat.le_trans inside.length_le short)
  omega

theorem two_groups_counted : (∀ n, (∃ final, parseCPUSet "0-2, 4" = .ok final ∧ final.count = n) ↔
      ∃ ranges, Lists "0-2, 4".toList ranges ∧ ranges.Pairwise Separate ∧ (cpus ranges).card = n ∧ n ≤ 4096) ∧
    visits (parseCPUSet "0-2, 4") ≤ 4097 :=
  cpuset_counted_exactly "0-2, 4" (moderate_of_short (by decide))

end Whole

end PasswallNode.Host
