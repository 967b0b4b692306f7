import PasswallNode.Foundation.Fallible
import PasswallNode.Foundation.Table

/-! A loop whose every pass rewrites the row under its own key: the order of the passes does not matter. -/

namespace PasswallNode.Foundation

namespace Table

variable {α κ ι : Type} {key : α → κ} {check : α → Bool} [DecidableEq κ]

structure Replaces (before after : Table key check) (k : κ) (row : α) : Prop where
  keys : after.rows.map key = before.rows.map key
  rows : ∀ other, after.find? other = if other = k then some row else before.find? other

theorem replaces_of_updateKey {before after : Table key check} {k : κ} {set : α → α}
    {keeps : ∀ row, key (set row) = key row} {row : α} (found : before.find? k = some row)
    (done : before.updateKey k set keeps = some after) : Replaces before after k (set row) := by
  refine ⟨?_, fun other => ?_⟩
  · rw [(update_eq_some.mp done).2]
    exact map_key_update before _ set keeps
  · rw [find?_updateKey done, found, Option.map_some]

variable (place : ι → κ) (change : ι → α → α → Prop)

structure Batch (items : List ι) (before after : Table key check) : Prop where
  keys : after.rows.map key = before.rows.map key
  named : ∀ item ∈ items, ∃ row next, before.find? (place item) = some row ∧ change item row next ∧
    after.find? (place item) = some next
  others : ∀ k, k ∉ items.map place → after.find? k = before.find? k

def Ready (items : List ι) (table : Table key check) : Prop :=
  ∀ item ∈ items, ∃ row next, table.find? (place item) = some row ∧ change item row next

variable {place change} {items other : List ι} {before middle after : Table key check} {item : ι} {row : α}

theorem batch_nil : Batch place change [] before before :=
  ⟨rfl, fun _ member => (List.not_mem_nil member).elim, fun _ _ => rfl⟩

theorem batch_cons {current : α} (fresh : place item ∉ items.map place)
    (found : before.find? (place item) = some current)
    (changes : change item current row) (replaced : Replaces before middle (place item) row)
    (rest : Batch place change items middle after) : Batch place change (item :: items) before after := by
  refine ⟨rest.keys.trans replaced.keys, ?_, fun k outside => ?_⟩
  · refine List.forall_mem_cons.mpr ⟨⟨current, row, found, changes, ?_⟩, fun later member => ?_⟩
    · rw [rest.others _ fresh, replaced.rows, if_pos rfl]
    · obtain ⟨old, next, present, changed, result⟩ := rest.named later member
      have apart : place later ≠ place item := fun same => fresh (same ▸ List.mem_map_of_mem member)
      rw [replaced.rows, if_neg apart] at present
      exact ⟨old, next, present, changed, result⟩
  · obtain ⟨apart, outside⟩ := not_or.mp (List.mem_cons.not.mp outside)
    rw [rest.others k outside, replaced.rows, if_neg apart]

theorem Batch.ready (batch : Batch place change items before after) : Ready place change items before := by
  intro item member
  obtain ⟨row, next, found, changes, -⟩ := batch.named item member
  exact ⟨row, next, found, changes⟩

theorem Batch.perm (same : items.Perm other) (batch : Batch place change items before after) :
    Batch place change other before after :=
  ⟨batch.keys, fun item member => batch.named item (same.mem_iff.mpr member),
    fun k outside => batch.others k ((same.map place).mem_iff.not.mpr outside)⟩

theorem Batch.unique (functional : ∀ item row next third, change item row next → change item row third → next = third)
    {final : Table key check} (batch : Batch place change items before after)
    (again : Batch place change items before final) : after = final := by
  refine ext_of_keys (batch.keys.trans again.keys.symm) (fun k => ?_)
  by_cases named : k ∈ items.map place
  · obtain ⟨item, member, rfl⟩ := List.mem_map.mp named
    obtain ⟨row, next, found, changes, result⟩ := batch.named item member
    obtain ⟨rowAgain, third, foundAgain, changesAgain, resultAgain⟩ := again.named item member
    cases found.symm.trans foundAgain
    rw [result, resultAgain, functional item row next third changes changesAgain]
  · rw [batch.others k named, again.others k named]

theorem ready_cons (fresh : place item ∉ items.map place) (ready : Ready place change (item :: items) before)
    (replaced : Replaces before middle (place item) row) : Ready place change items middle := by
  intro later member
  have apart : place later ≠ place item := fun same => fresh (same ▸ List.mem_map_of_mem member)
  rw [replaced.rows, if_neg apart]
  exact ready later (List.mem_cons_of_mem _ member)

end Table

section Loop

open Table

variable {α κ ι ε σ : Type} {key : α → κ} {check : α → Bool} [DecidableEq κ] {place : ι → κ} {change : ι → α → α → Prop}
  {counts : α → α → Bool} {table : σ → Table key check} {flag : σ → Bool} {body : σ → ι → Except ε σ} {items : List ι}
  {state final : σ}

/-- One pass changes the row under the key of its item and records whether the change counts, or there is
nothing to change. -/
structure Passes (place : ι → κ) (change : ι → α → α → Prop) (counts : α → α → Bool) (table : σ → Table key check)
    (flag : σ → Bool) (body : σ → ι → Except ε σ) : Prop where
  done : ∀ state item next, body state item = .ok next → ∃ row new, (table state).find? (place item) = some row ∧
    change item row new ∧ Replaces (table state) (table next) (place item) new ∧
    flag next = (flag state || counts row new)
  able : ∀ state item row new, (table state).find? (place item) = some row → change item row new →
    ∃ next, body state item = .ok next

theorem forEach_batch (passes : Passes place change counts table flag body) (distinct : (items.map place).Nodup)
    (done : forEach body state items = .ok final) : Batch place change items (table state) (table final) := by
  induction items generalizing state with
  | nil =>
    cases done
    exact batch_nil
  | cons item items ih =>
    obtain ⟨next, passed, continued⟩ := bind_eq_ok.mp done
    obtain ⟨row, new, found, changes, replaced, -⟩ := passes.done state item next passed
    obtain ⟨fresh, distinct⟩ := List.nodup_cons.mp distinct
    exact batch_cons fresh found changes replaced (ih distinct continued)

theorem forEach_of_ready (passes : Passes place change counts table flag body) (distinct : (items.map place).Nodup)
    (state : σ) (ready : Ready place change items (table state)) : ∃ final, forEach body state items = .ok final := by
  induction items generalizing state with
  | nil => exact ⟨state, rfl⟩
  | cons item items ih =>
    obtain ⟨row, new, found, changes⟩ := ready item (.head _)
    obtain ⟨next, passed⟩ := passes.able state item row new found changes
    obtain ⟨_, _, _, _, replaced, -⟩ := passes.done state item next passed
    obtain ⟨fresh, distinct⟩ := List.nodup_cons.mp distinct
    obtain ⟨final, continued⟩ := ih distinct next (ready_cons fresh ready replaced)
    exact ⟨final, bind_eq_ok.mpr ⟨next, passed, continued⟩⟩

theorem forEach_flag (passes : Passes place change counts table flag body) (same : ∀ row, counts row row = false)
    (distinct : (items.map place).Nodup) (done : forEach body state items = .ok final) :
    flag final = true ↔ flag state = true ∨ ∃ k row new, (table state).find? k = some row ∧
    (table final).find? k = some new ∧ counts row new = true := by
  induction items generalizing state with
  | nil =>
    cases done
    refine ⟨.inl, ?_⟩
    rintro (already | ⟨k, row, new, found, again, counted⟩)
    · exact already
    · cases found.symm.trans again
      rw [same] at counted
      cases counted
  | cons item items ih =>
    obtain ⟨next, passed, continued⟩ := bind_eq_ok.mp done
    obtain ⟨row, new, found, changes, replaced, flagged⟩ := passes.done state item next passed
    obtain ⟨fresh, distinct⟩ := List.nodup_cons.mp distinct
    have kept := (forEach_batch passes distinct continued).others (place item) fresh
    rw [replaced.rows, if_pos rfl] at kept
    rw [ih distinct continued, flagged, Bool.or_eq_true, or_assoc]
    refine or_congr_right ⟨?_, ?_⟩
    · rintro (counted | ⟨k, old, later, before, after, counted⟩)
      · exact ⟨place item, row, new, found, kept, counted⟩
      · rw [replaced.rows] at before
        split at before
        · next here =>
            -- the row of the item does not change again
            cases before
            rw [here, kept] at after
            cases after
            rw [same] at counted
            cases counted
        · exact ⟨k, old, later, before, after, counted⟩
    · rintro ⟨k, old, later, before, after, counted⟩
      by_cases here : k = place item
      · subst here
        cases found.symm.trans before
        cases kept.symm.trans after
        exact .inl counted
      · refine .inr ⟨k, old, later, ?_, after, counted⟩
        rw [replaced.rows, if_neg here]
        exact before

end Loop

end PasswallNode.Foundation
