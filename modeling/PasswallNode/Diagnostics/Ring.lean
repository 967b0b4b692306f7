import PasswallNode.Foundation.Utf8

/-! The agent's own recent events: a circular buffer that behaves as the last events of a list. -/

namespace PasswallNode.Diagnostics

open Foundation

structure DiagnosticsEvent where
  code : String
  atMS : Int
  severity : String
  summary : List UInt8
  deriving DecidableEq, Repr

structure EventRules where
  isDiagnosticsEventCode : String → Bool
  isDiagnosticsSeverity : String → Bool
  maxDiagnosticsSummaryBytes : Nat

structure Ring where
  buffer : List DiagnosticsEvent
  head : Nat
  length : Nat
  head_lt : head < buffer.length
  length_le : length ≤ buffer.length

def defaultRingCapacity : Nat := 256

def ringCapacity (capacity : Int) : Nat := if capacity ≤ 0 then defaultRingCapacity else capacity.toNat

theorem ringCapacity_pos (capacity : Int) : 0 < ringCapacity capacity := by
  unfold ringCapacity
  split
  · decide
  · omega

def newRing (capacity : Int) : Ring where
  buffer := List.replicate (ringCapacity capacity) ⟨"", 0, "", []⟩
  head := 0
  length := 0
  head_lt := by
    rw [List.length_replicate]
    exact ringCapacity_pos capacity
  length_le := Nat.zero_le _

def truncateUTF8 (s : List UInt8) (limit : Nat) : List UInt8 :=
  if s.length ≤ limit then s
  else s.take (lastGood (fun cut => runeStart (s.getD cut 0)) limit)

def EventRules.event (rules : EventRules) (code severity : String) (summary : List UInt8) (nowMS : Int) :
    Option DiagnosticsEvent :=
  if rules.isDiagnosticsEventCode code = false ∨ rules.isDiagnosticsSeverity severity = false then none
  else some ⟨code, nowMS, severity,
    if summary.length > rules.maxDiagnosticsSummaryBytes then truncateUTF8 summary rules.maxDiagnosticsSummaryBytes
    else summary⟩

namespace Ring

def store (ring : Ring) (event : DiagnosticsEvent) : Ring where
  buffer := ring.buffer.set ring.head event
  head := (ring.head + 1) % ring.buffer.length
  length := if ring.length < ring.buffer.length then ring.length + 1 else ring.length
  head_lt := by
    rw [List.length_set]
    exact Nat.mod_lt _ (Nat.zero_lt_of_lt ring.head_lt)
  length_le := by
    have within := ring.length_le
    rw [List.length_set]
    split <;> omega

def record (rules : EventRules) (ring : Ring) (code severity : String) (summary : List UInt8) (nowMS : Int) : Ring :=
  match rules.event code severity summary nowMS with
  | none => ring
  | some event => ring.store event

-- `head - length + offset + len(buffer)` is never negative, as the length is at most that of the buffer
def snapshot (ring : Ring) : List DiagnosticsEvent :=
  (List.range ring.length).map (fun offset =>
    ring.buffer.getD ((ring.head + ring.buffer.length - ring.length + offset) % ring.buffer.length) ⟨"", 0, "", []⟩)

end Ring

inductive Call where
  | record (code severity : String) (summary : List UInt8) (nowMS : Int)
  | snapshot

def snapshots (rules : EventRules) : Ring → List Call → List (List DiagnosticsEvent)
  | _, [] => []
  | ring, .record code severity summary nowMS :: rest =>
    snapshots rules (ring.record rules code severity summary nowMS) rest
  | ring, .snapshot :: rest => ring.snapshot :: snapshots rules ring rest

def lastAccepted (rules : EventRules) (capacity : Nat) :
    List DiagnosticsEvent → List Call → List (List DiagnosticsEvent)
  | _, [] => []
  | accepted, .record code severity summary nowMS :: rest =>
    lastAccepted rules capacity (accepted ++ (rules.event code severity summary nowMS).toList) rest
  | accepted, .snapshot :: rest =>
    accepted.drop (accepted.length - capacity) :: lastAccepted rules capacity accepted rest

section Refinement

variable {ring : Ring} {history : List DiagnosticsEvent} {rules : EventRules}

structure Holds (ring : Ring) (history : List DiagnosticsEvent) : Prop where
  length : ring.length = min history.length ring.buffer.length
  entry : ∀ i < ring.length,
    ring.buffer[(ring.head + ring.buffer.length - 1 - i) % ring.buffer.length]? = history[i]?

theorem mod_once {x n : Nat} (twice : x < 2 * n) : x % n = if x < n then x else x - n := by
  split
  · exact Nat.mod_eq_of_lt ‹_›
  · rw [Nat.mod_eq_sub_mod (by omega), Nat.mod_eq_of_lt (by omega)]

theorem holds_newRing (capacity : Int) : Holds (newRing capacity) [] :=
  ⟨(Nat.zero_min _).symm, fun _ less => absurd less (Nat.not_lt_zero _)⟩

theorem Holds.store (holds : Holds ring history) (event : DiagnosticsEvent) :
    Holds (ring.store event) (event :: history) := by
  have placed := ring.head_lt
  have length := holds.length
  constructor
  · simp only [Ring.store, List.length_set, List.length_cons]
    split <;> omega
  · intro i less
    have small : i < ring.buffer.length ∧ i ≤ ring.length := by
      have within := ring.length_le
      simp only [Ring.store] at less
      split at less <;> omega
    simp only [Ring.store, List.length_set]
    rw [mod_once (x := ring.head + 1) (by omega)]
    cases i with
    | zero =>
      have newest : ((if ring.head + 1 < ring.buffer.length then ring.head + 1
          else ring.head + 1 - ring.buffer.length) + ring.buffer.length - 1 - 0) % ring.buffer.length =
            ring.head := by
        rw [mod_once (by split <;> omega)]
        split <;> split <;> omega
      rw [newest, List.getElem?_set_self placed, List.getElem?_cons_zero]
    | succ i =>
      have older : ((if ring.head + 1 < ring.buffer.length then ring.head + 1
          else ring.head + 1 - ring.buffer.length) + ring.buffer.length - 1 - (i + 1)) % ring.buffer.length =
            (ring.head + ring.buffer.length - 1 - i) % ring.buffer.length := by
        rw [mod_once (by split <;> omega), mod_once (x := ring.head + ring.buffer.length - 1 - i) (by omega)]
        split <;> split <;> split <;> omega
      have elsewhere : ring.head ≠ (ring.head + ring.buffer.length - 1 - i) % ring.buffer.length := by
        rw [mod_once (by omega)]
        split <;> omega
      rw [older, List.getElem?_set_ne elsewhere, List.getElem?_cons_succ]
      exact holds.entry i (by omega)

theorem Holds.snapshot (holds : Holds ring history) :
    ring.snapshot = history.reverse.drop (history.reverse.length - ring.buffer.length) := by
  have placed := ring.head_lt
  have length := holds.length
  apply List.ext_getElem?
  intro offset
  unfold Ring.snapshot
  rw [List.getElem?_map, List.getElem?_drop, List.length_reverse]
  by_cases inside : offset < ring.length
  · have same : ring.head + ring.buffer.length - ring.length + offset =
        ring.head + ring.buffer.length - 1 - (ring.length - 1 - offset) := by omega
    have entry := holds.entry (ring.length - 1 - offset) (by omega)
    rw [List.getElem?_range inside, Option.map_some, same, List.getD_eq_getElem?_getD, entry,
      List.getElem?_reverse (by omega)]
    have position : history.length - 1 - (history.length - ring.buffer.length + offset) = ring.length - 1 - offset := by
      omega
    rw [position, List.getElem?_eq_getElem (by omega)]
    rfl
  · rw [List.getElem?_eq_none (by rw [List.length_range]; omega), Option.map_none,
      List.getElem?_eq_none (by rw [List.length_reverse]; omega)]

theorem Holds.snapshots (holds : Holds ring history) (rules : EventRules) (calls : List Call) :
    snapshots rules ring calls = lastAccepted rules ring.buffer.length history.reverse calls := by
  induction calls generalizing ring history with
  | nil => rfl
  | cons call rest ih =>
    cases call with
    | snapshot => simp only [Diagnostics.snapshots, lastAccepted, holds.snapshot, ih holds]
    | record code severity summary nowMS =>
      simp only [Diagnostics.snapshots, lastAccepted, Ring.record]
      cases rules.event code severity summary nowMS with
      | none =>
        rw [Option.toList_none, List.append_nil]
        exact ih holds
      | some event =>
        have stored := ih (holds.store event)
        rw [List.reverse_cons] at stored
        simpa only [Ring.store, List.length_set, Option.toList_some] using stored

theorem truncateUTF8_fitting (chars : List Char) (limit : Nat) :
    ∃ kept, Fitting limit chars kept ∧ truncateUTF8 (utf8 chars) limit = utf8 kept := by
  unfold truncateUTF8
  by_cases fits : (utf8 chars).length ≤ limit
  · rw [if_pos fits]
    exact ⟨chars, ⟨fits, [], (List.append_nil chars).symm, fun _ _ none => by cases none⟩, rfl⟩
  · obtain ⟨kept, fitting⟩ := exists_fitting limit chars
    rw [if_neg fits, fitting.start_cut (by omega), fitting.take]
    exact ⟨kept, fitting, rfl⟩

/-- An accepted event is the recorded one. Its summary begins the recorded one, is all of it if that is within the
limit, and ends where a character of a valid text ends. -/
def Faithful (rules : EventRules) (code severity : String) (summary : List UInt8) (nowMS : Int) : Prop :=
  ∃ shown, rules.event code severity summary nowMS = some ⟨code, nowMS, severity, shown⟩ ∧
    shown.length ≤ rules.maxDiagnosticsSummaryBytes ∧ shown <+: summary ∧
    (summary.length ≤ rules.maxDiagnosticsSummaryBytes → shown = summary) ∧
    ∀ chars, summary = utf8 chars → ∃ kept, Fitting rules.maxDiagnosticsSummaryBytes chars kept ∧ shown = utf8 kept

theorem truncateUTF8_length (s : List UInt8) (limit : Nat) : (truncateUTF8 s limit).length ≤ limit := by
  unfold truncateUTF8
  split
  · assumption
  · rw [List.length_take]
    have cut := lastGood_le (fun cut => runeStart (s.getD cut 0)) limit
    omega

theorem truncateUTF8_prefix (s : List UInt8) (limit : Nat) : truncateUTF8 s limit <+: s := by
  unfold truncateUTF8
  split
  · exact List.prefix_refl s
  · exact List.take_prefix _ s

theorem event_unknown {code severity : String} {summary : List UInt8} {nowMS : Int}
    (unknown : rules.isDiagnosticsEventCode code = false ∨ rules.isDiagnosticsSeverity severity = false) :
    rules.event code severity summary nowMS = none := if_pos unknown

theorem event_faithful {code severity : String} (summary : List UInt8) (nowMS : Int)
    (known : rules.isDiagnosticsEventCode code = true) (graded : rules.isDiagnosticsSeverity severity = true) :
    Faithful rules code severity summary nowMS := by
  have cut : ∀ limit, (if summary.length > limit then truncateUTF8 summary limit else summary) =
      truncateUTF8 summary limit := by
    intro limit
    unfold truncateUTF8
    split
    · rfl
    · rw [if_pos (by omega)]
  refine ⟨truncateUTF8 summary rules.maxDiagnosticsSummaryBytes, ?_, truncateUTF8_length _ _,
    truncateUTF8_prefix _ _, fun fits => if_pos fits, ?_⟩
  · unfold EventRules.event
    rw [if_neg (by simp [known, graded]), cut]
  · rintro chars rfl
    exact truncateUTF8_fitting chars _

/-- A snapshot is the last accepted events, oldest first, whatever was recorded and read before; and
what is accepted is what was recorded. -/
theorem ring_is_bounded_queue (rules : EventRules) (capacity : Int) (calls : List Call) :
    snapshots rules (newRing capacity) calls = lastAccepted rules (ringCapacity capacity) [] calls ∧
    ∀ code severity summary nowMS,
      (rules.isDiagnosticsEventCode code = true ∧ rules.isDiagnosticsSeverity severity = true →
        Faithful rules code severity summary nowMS) ∧
      (rules.isDiagnosticsEventCode code = false ∨ rules.isDiagnosticsSeverity severity = false →
        rules.event code severity summary nowMS = none) := by
  constructor
  · have run := (holds_newRing capacity).snapshots rules calls
    simpa only [newRing, List.length_replicate, List.reverse_nil] using run
  · intro code severity summary nowMS
    exact ⟨fun known => event_faithful summary nowMS known.1 known.2, event_unknown⟩

end Refinement

end PasswallNode.Diagnostics
