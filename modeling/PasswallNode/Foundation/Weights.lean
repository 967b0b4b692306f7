import Mathlib.Data.List.Perm.Subperm
import PasswallNode.Foundation.Table

/-! Sums of a weight over the rows of a table, and how the statements of a store move them. -/

namespace PasswallNode.Foundation

variable {α κ : Type} {weigh : α → Int} {rows other : List α}

def total (weigh : α → Int) : List α → Int
  | [] => 0
  | row :: rest => weigh row + total weigh rest

@[simp] theorem total_nil (weigh : α → Int) : total weigh [] = 0 := rfl

@[simp] theorem total_cons (weigh : α → Int) (row : α) (rest : List α) :
    total weigh (row :: rest) = weigh row + total weigh rest := rfl

theorem total_append (weigh : α → Int) (first second : List α) :
    total weigh (first ++ second) = total weigh first + total weigh second := by
  induction first with
  | nil => simp
  | cons row rest ih => simp [ih, Int.add_assoc]

theorem total_nonneg (nonneg : ∀ row ∈ rows, 0 ≤ weigh row) : 0 ≤ total weigh rows := by
  induction rows with
  | nil => exact Int.le_refl 0
  | cons row rest ih =>
    have head := nonneg row List.mem_cons_self
    have tail := ih (fun later member => nonneg later (List.mem_cons_of_mem _ member))
    rw [total_cons]
    omega

theorem total_map {β : Type} (weigh : β → Int) (f : α → β) (rows : List α) :
    total weigh (rows.map f) = total (fun row => weigh (f row)) rows := by
  induction rows with
  | nil => rfl
  | cons row rest ih => rw [List.map_cons, total_cons, total_cons, ih]

theorem total_perm (weigh : α → Int) (same : rows.Perm other) : total weigh rows = total weigh other := by
  induction same with
  | nil => rfl
  | cons row _ ih => rw [total_cons, total_cons, ih]
  | swap first second rest => rw [total_cons, total_cons, total_cons, total_cons]; omega
  | trans _ _ early late => exact early.trans late

theorem total_sublist_le (inside : rows.Sublist other) (nonneg : ∀ row ∈ other, 0 ≤ weigh row) :
    total weigh rows ≤ total weigh other := by
  induction inside with
  | slnil => exact Int.le_refl 0
  | cons row _ ih =>
    have head := nonneg row List.mem_cons_self
    have tail := ih (fun later member => nonneg later (List.mem_cons_of_mem _ member))
    rw [total_cons]
    omega
  | cons_cons row _ ih =>
    have tail := ih (fun later member => nonneg later (List.mem_cons_of_mem _ member))
    rw [total_cons, total_cons]
    omega

theorem total_le_of_subset (distinct : rows.Nodup) (inside : rows ⊆ other) (nonneg : ∀ row ∈ other, 0 ≤ weigh row) :
    total weigh rows ≤ total weigh other := by
  obtain ⟨middle, same, sub⟩ := List.Nodup.subperm distinct inside
  rw [← total_perm weigh same]
  exact total_sublist_le sub nonneg

theorem total_filter_le {keep : α → Bool} (nonneg : ∀ row ∈ rows, 0 ≤ weigh row) :
    total weigh (rows.filter keep) ≤ total weigh rows := by
  induction rows with
  | nil => exact Int.le_refl 0
  | cons row rest ih =>
    have head := nonneg row List.mem_cons_self
    have tail := ih (fun later member => nonneg later (List.mem_cons_of_mem _ member))
    cases kept : keep row with
    | true => rw [List.filter_cons_of_pos kept, total_cons, total_cons]; omega
    | false => rw [List.filter_cons_of_neg (by simp [kept]), total_cons]; omega

theorem total_replace [DecidableEq κ] {key : α → κ} {old : α} (next : α) (weigh : α → Int)
    (unique : (rows.map key).Nodup) (member : old ∈ rows) :
    total weigh (rows.map (fun row => if key row = key old then next else row)) =
    total weigh rows - weigh old + weigh next := by
  induction rows with
  | nil => cases member
  | cons row rest ih =>
    rw [List.map_cons, List.nodup_cons] at unique
    rw [List.map_cons, total_cons, total_cons]
    rcases List.mem_cons.mp member with rfl | inside
    · have others : rest.map (fun later => if key later = key old then next else later) = rest := by
        refine (List.map_congr_left ?_).trans (List.map_id rest)
        intro later present
        have apart : key later ≠ key old :=
          fun same => unique.1 (List.mem_map.mpr ⟨later, present, same⟩)
        rw [if_neg apart, id]
      rw [if_pos rfl, others]
      omega
    · have apart : key row ≠ key old :=
        fun same => unique.1 (List.mem_map.mpr ⟨old, inside, same.symm⟩)
      rw [if_neg apart, ih unique.2 inside]
      omega

namespace Table

variable {key : α → κ} {check : α → Bool} {table next : Table key check} {row : α}

def weight (weigh : α → Int) (table : Table key check) : Int := total weigh table.rows

theorem weight_empty (weigh : α → Int) : (empty : Table key check).weight weigh = 0 := rfl

theorem weight_deleteWhere_le {weigh : α → Int} {cond : α → Bool} (nonneg : ∀ row ∈ table.rows, 0 ≤ weigh row) :
    (table.deleteWhere cond).weight weigh ≤ table.weight weigh :=
  total_filter_le nonneg

variable [DecidableEq κ]

def weightAt (weigh : α → Int) (table : Table key check) (k : κ) : Int :=
  match table.find? k with
  | some row => weigh row
  | none => 0

theorem put_rows (done : table.put row = some next) :
    (table.find? (key row) = none ∧ next.rows = table.rows ++ [row]) ∨ ∃ old, table.find? (key row) = some old ∧
      next.rows = table.rows.map (fun other => if key other = key old then row else other) := by
  unfold put insertIgnore at done
  by_cases passes : check row = true
  · by_cases absent : table.find? (key row) = none
    · simp only [dif_pos passes, dif_pos absent, Option.some.injEq] at done
      subst done
      exact Or.inl ⟨absent, rfl⟩
    · simp only [dif_pos passes, dif_neg absent] at done
      obtain ⟨old, found⟩ := Option.ne_none_iff_exists'.mp absent
      refine Or.inr ⟨old, found, ?_⟩
      rw [(update_eq_some.mp done).2]
      apply List.map_congr_left
      intro other _
      rw [key_of_find? found]
      by_cases here : key other = key row <;> simp [here]
  · simp only [dif_neg passes] at done
    cases done

theorem weight_put (done : table.put row = some next) (weigh : α → Int) :
    next.weight weigh = table.weight weigh - table.weightAt weigh (key row) + weigh row := by
  rcases put_rows done with ⟨absent, rows⟩ | ⟨old, found, rows⟩
  · rw [weight, rows, total_append, weightAt, absent]
    simp [weight]
  · rw [weight, rows, total_replace row weigh table.unique (mem_of_find? found), weightAt, found]
    rfl

end Table

end PasswallNode.Foundation
