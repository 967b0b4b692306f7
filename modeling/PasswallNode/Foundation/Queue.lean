import PasswallNode.Foundation.Int64
import PasswallNode.Foundation.Table

/-! A table whose rows also carry an automatic number, from a sequence that outlives the rows. -/

namespace PasswallNode.Foundation

structure Queue {α κ : Type} (number : α → Int) (key : α → κ) (check : α → Bool) where
  table : Table key check
  numbers : (table.rows.map number).Nodup
  sequence : Int
  issued : ∀ row ∈ table.rows, number row ≤ sequence

namespace Queue

variable {α κ : Type} {number : α → Int} {key : α → κ} {check : α → Bool} {queue next : Queue number key check}
  {n : Int} {cond : α → Bool} {set : α → α} {make : Int → α} {numbered : ∀ n, number (make n) = n}

def empty : Queue number key check := ⟨.empty, List.nodup_nil, 0, by simp [Table.empty]⟩

theorem eq_of_number {left right : α} (first : left ∈ queue.table.rows) (second : right ∈ queue.table.rows)
    (same : number left = number right) : left = right :=
  List.inj_on_of_nodup_map queue.numbers first second same

def at? (queue : Queue number key check) (n : Int) : Option α :=
  queue.table.rows.find? (fun row => decide (number row = n))

theorem at?_eq_some {row : α} : queue.at? n = some row ↔ row ∈ queue.table.rows ∧ number row = n := by
  constructor
  · intro found
    exact ⟨List.mem_of_find?_eq_some found, of_decide_eq_true (List.find?_some found :)⟩
  · rintro ⟨member, rfl⟩
    cases found : queue.at? (number row) with
    | none =>
      have absent := List.find?_eq_none.mp found row member
      simp at absent
    | some other =>
      have same : number other = number row := of_decide_eq_true (List.find?_some found :)
      rw [eq_of_number (List.mem_of_find?_eq_some found) member same]

theorem at?_eq_none : queue.at? n = none ↔ ∀ row ∈ queue.table.rows, number row ≠ n := by
  simp [at?]

/-- `DELETE … WHERE cond`. -/
def deleteWhere (queue : Queue number key check) (cond : α → Bool) : Queue number key check where
  table := queue.table.deleteWhere cond
  numbers := queue.numbers.sublist (List.filter_sublist.map number)
  sequence := queue.sequence
  issued := fun row member => queue.issued row (Table.mem_deleteWhere.mp member).1

/-- `UPDATE … SET … WHERE cond`, of columns other than the number and the key. -/
def update (queue : Queue number key check) (cond : α → Bool) (set : α → α)
    (keepsNumber : ∀ row, number (set row) = number row) (keepsKey : ∀ row, key (set row) = key row) :
    Option (Queue number key check) :=
  match done : queue.table.update cond set keepsKey with
  | none => none
  | some next =>
    some
      { table := next
        numbers := by
          have same : (number ∘ fun row => if cond row then set row else row) = number := by
            funext row
            simp only [Function.comp]
            split
            · exact keepsNumber row
            · rfl
          rw [(Table.update_eq_some.mp done).2, List.map_map, same]
          exact queue.numbers
        sequence := queue.sequence
        issued := by
          intro row member
          obtain ⟨old, present, rfl⟩ := (Table.mem_update done).mp member
          split
          · rw [keepsNumber]; exact queue.issued old present
          · exact queue.issued old present }

theorem update_eq_some {keepsNumber : ∀ row, number (set row) = number row}
    {keepsKey : ∀ row, key (set row) = key row} (done : queue.update cond set keepsNumber keepsKey = some next) :
    queue.table.update cond set keepsKey = some next.table ∧ next.sequence = queue.sequence := by
  unfold update at done
  split at done
  · cases done
  · rename_i table updated
    cases done
    exact ⟨updated, rfl⟩

theorem update_of_checks {keepsNumber : ∀ row, number (set row) = number row}
    {keepsKey : ∀ row, key (set row) = key row}
    (passes : ∀ row ∈ queue.table.rows, cond row = true → check (set row) = true) :
    ∃ next, queue.update cond set keepsNumber keepsKey = some next := by
  unfold update
  split
  · rename_i refused
    unfold Table.update at refused
    rw [dif_pos passes] at refused
    cases refused
  · exact ⟨_, rfl⟩

variable [DecidableEq κ]

/-- `INSERT` of a row under the next number, refused when its key is taken, it fails the check or the numbers
have run out. -/
def push (queue : Queue number key check) (make : Int → α) (numbered : ∀ n, number (make n) = n) :
    Option (Queue number key check) :=
  if absent : queue.table.find? (key (make (queue.sequence + 1))) = none then
    if passes : check (make (queue.sequence + 1)) = true then
      if queue.sequence < maxInt64 then
        some
          { table := queue.table.insert (make (queue.sequence + 1)) absent passes
            numbers := by
              show ((queue.table.rows ++ [make (queue.sequence + 1)]).map number).Nodup
              rw [List.map_append, List.map_singleton, List.nodup_append]
              refine ⟨queue.numbers, List.nodup_singleton _, ?_⟩
              intro left inside right only
              obtain ⟨old, member, rfl⟩ := List.mem_map.mp inside
              rw [List.mem_singleton, numbered] at only
              have below := queue.issued old member
              omega
            sequence := queue.sequence + 1
            issued := by
              intro row member
              rcases List.mem_append.mp member with inside | only
              · have below := queue.issued row inside
                omega
              · have same : number row = queue.sequence + 1 := by rw [List.mem_singleton.mp only, numbered]
                exact Int.le_of_eq same }
      else none
    else none
  else none

theorem push_eq_some (done : queue.push make numbered = some next) :
    queue.table.find? (key (make (queue.sequence + 1))) = none ∧ next.sequence = queue.sequence + 1 ∧
    next.table.rows = queue.table.rows ++ [make (queue.sequence + 1)] ∧ ∀ k, next.table.find? k =
      if key (make (queue.sequence + 1)) = k then some (make (queue.sequence + 1)) else queue.table.find? k := by
  unfold push at done
  split at done
  · rename_i absent
    split at done
    · rename_i passes
      split at done
      · cases done
        exact ⟨absent, rfl, rfl, Table.find?_insert _ _ absent passes⟩
      · cases done
    · cases done
  · cases done

theorem push_numbered (done : queue.push make numbered = some next) : queue.sequence < maxInt64 := by
  unfold push at done
  split at done
  · split at done
    · split at done
      · assumption
      · cases done
    · cases done
  · cases done

theorem push_of_absent (make : Int → α) (numbered : ∀ n, number (make n) = n)
    (absent : queue.table.find? (key (make (queue.sequence + 1))) = none)
    (passes : check (make (queue.sequence + 1)) = true) (left : queue.sequence < maxInt64) :
    ∃ next, queue.push make numbered = some next := by
  unfold push
  rw [dif_pos absent, dif_pos passes, if_pos left]
  exact ⟨_, rfl⟩

end Queue

end PasswallNode.Foundation
