import Mathlib.Data.List.Nodup
import Mathlib.Logic.Relation

/-! Rows under a primary key and a CHECK constraint, with the statements a store issues. Both constraints are
fields: a statement that would violate one has no result. -/

namespace PasswallNode.Foundation

structure Table {α κ : Type} (key : α → κ) (check : α → Bool) where
  rows : List α
  unique : (rows.map key).Nodup
  checked : ∀ row ∈ rows, check row = true

namespace Table

variable {α κ : Type} {key : α → κ} {check : α → Bool}

theorem ext_rows {left right : Table key check} (same : left.rows = right.rows) : left = right := by
  cases left
  cases right
  cases same
  rfl

def empty : Table key check := ⟨[], List.nodup_nil, by simp⟩

theorem eq_of_key {table : Table key check} {left right : α} (first : left ∈ table.rows)
    (second : right ∈ table.rows) (same : key left = key right) : left = right :=
  List.inj_on_of_nodup_map table.unique first second same

def deleteWhere (table : Table key check) (cond : α → Bool) : Table key check where
  rows := table.rows.filter (fun row => !cond row)
  unique := table.unique.sublist (List.filter_sublist.map key)
  checked := fun row member => table.checked row (List.mem_of_mem_filter member)

theorem mem_deleteWhere {table : Table key check} {cond : α → Bool} {row : α} :
    row ∈ (table.deleteWhere cond).rows ↔ row ∈ table.rows ∧ cond row = false := by
  simp [deleteWhere]

theorem map_key_update (table : Table key check) (cond : α → Bool) (set : α → α)
    (keeps : ∀ row, key (set row) = key row) :
    (table.rows.map (fun row => if cond row then set row else row)).map key = table.rows.map key := by
  have same : (key ∘ fun row => if cond row then set row else row) = key := by
    funext row
    simp only [Function.comp]
    split
    · exact keeps row
    · rfl
  rw [List.map_map, same]

/-- `UPDATE … SET … WHERE cond`. The assignment leaves the key alone; it is refused when
one of the new rows fails the check. -/
def update (table : Table key check) (cond : α → Bool) (set : α → α)
    (keeps : ∀ row, key (set row) = key row) : Option (Table key check) :=
  if passes : ∀ row ∈ table.rows, cond row = true → check (set row) = true then
    some
      { rows := table.rows.map (fun row => if cond row then set row else row)
        unique := by
          rw [map_key_update table cond set keeps]
          exact table.unique
        checked := by
          intro row member
          obtain ⟨old, present, rfl⟩ := List.mem_map.mp member
          split
          · rename_i selected; exact passes old present selected
          · exact table.checked old present }
  else none

section Update

variable {table next : Table key check} {cond : α → Bool} {set : α → α} {keeps : ∀ row, key (set row) = key row}

theorem update_eq_some : table.update cond set keeps = some next ↔
    (∀ row ∈ table.rows, cond row = true → check (set row) = true) ∧
    next.rows = table.rows.map (fun row => if cond row then set row else row) := by
  unfold update
  split
  · rename_i passes
    rw [Option.some.injEq]
    constructor
    · rintro rfl; exact ⟨passes, rfl⟩
    · rintro ⟨_, same⟩; exact ext_rows same.symm
  · rename_i fails
    constructor
    · intro impossible; cases impossible
    · rintro ⟨passes, _⟩; exact absurd passes fails

theorem mem_update (done : table.update cond set keeps = some next) {row : α} :
    row ∈ next.rows ↔ ∃ old ∈ table.rows, (if cond old then set old else old) = row := by
  rw [(update_eq_some.mp done).2, List.mem_map]

end Update

variable [DecidableEq κ] {k : κ} {row : α}

def find? (table : Table key check) (k : κ) : Option α :=
  table.rows.find? (fun row => decide (key row = k))

theorem find?_eq_some {table : Table key check} : table.find? k = some row ↔ row ∈ table.rows ∧ key row = k := by
  constructor
  · intro found
    exact ⟨List.mem_of_find?_eq_some found, of_decide_eq_true (List.find?_some found :)⟩
  · rintro ⟨member, rfl⟩
    cases found : table.find? (key row) with
    | none =>
      have absent := List.find?_eq_none.mp found row member
      simp at absent
    | some other =>
      have same : key other = key row := of_decide_eq_true (List.find?_some found :)
      rw [eq_of_key (List.mem_of_find?_eq_some found) member same]

theorem find?_eq_none {table : Table key check} : table.find? k = none ↔ ∀ row ∈ table.rows, key row ≠ k := by
  simp [find?]

theorem find?_of_mem {table : Table key check} (member : row ∈ table.rows) : table.find? (key row) = some row :=
  find?_eq_some.mpr ⟨member, rfl⟩

theorem key_of_find? {table : Table key check} (found : table.find? k = some row) : key row = k :=
  (find?_eq_some.mp found).2

theorem mem_of_find? {table : Table key check} (found : table.find? k = some row) : row ∈ table.rows :=
  (find?_eq_some.mp found).1

theorem check_of_find? {table : Table key check} (found : table.find? k = some row) : check row = true :=
  table.checked row (mem_of_find? found)

theorem filter_key (table : Table key check) (k : κ) :
    table.rows.filter (fun row => decide (key row = k)) = (table.find? k).toList := by
  have unique := table.unique
  unfold find?
  generalize table.rows = rows at unique ⊢
  induction rows with
  | nil => rfl
  | cons head tail ih =>
    rw [List.map_cons, List.nodup_cons] at unique
    by_cases here : key head = k
    · have others : tail.filter (fun row => decide (key row = k)) = [] := by
        rw [List.filter_eq_nil_iff]
        intro row member same
        refine unique.1 (List.mem_map.mpr ⟨row, member, ?_⟩)
        rw [of_decide_eq_true same, here]
      simp [here, others]
    · simp [here, ih unique.2]

@[simp] theorem find?_empty (k : κ) : (empty : Table key check).find? k = none := rfl

theorem find?_update {table next : Table key check} {cond : α → Bool} {set : α → α}
    {keeps : ∀ row, key (set row) = key row} (done : table.update cond set keeps = some next) (k : κ) :
    next.find? k = (table.find? k).map (fun row => if cond row then set row else row) := by
  cases found : table.find? k with
  | none =>
    have absent := find?_eq_none.mp found
    rw [Option.map_none, find?_eq_none]
    intro row member
    obtain ⟨old, present, rfl⟩ := (mem_update done).mp member
    split
    · rw [keeps]; exact absent old present
    · exact absent old present
  | some row =>
    obtain ⟨present, named⟩ := find?_eq_some.mp found
    rw [Option.map_some, find?_eq_some]
    refine ⟨(mem_update done).mpr ⟨row, present, rfl⟩, ?_⟩
    split
    · rw [keeps]; exact named
    · exact named

theorem find?_deleteWhere (table : Table key check) (cond : α → Bool) (k : κ) :
    (table.deleteWhere cond).find? k = (table.find? k).filter (fun row => !cond row) := by
  cases found : table.find? k with
  | none =>
    have absent := find?_eq_none.mp found
    rw [Option.filter_none, find?_eq_none]
    intro row member
    exact absent row (mem_deleteWhere.mp member).1
  | some row =>
    obtain ⟨present, named⟩ := find?_eq_some.mp found
    cases kept : cond row with
    | false =>
      rw [Option.filter_some_pos (by simp [kept]), find?_eq_some]
      exact ⟨mem_deleteWhere.mpr ⟨present, kept⟩, named⟩
    | true =>
      rw [Option.filter_some_neg (by simp [kept]), find?_eq_none]
      intro other member same
      obtain ⟨inside, survives⟩ := mem_deleteWhere.mp member
      rw [eq_of_key inside present (same.trans named.symm), kept] at survives
      cases survives

def updateKey (table : Table key check) (k : κ) (set : α → α)
    (keeps : ∀ row, key (set row) = key row) : Option (Table key check) :=
  table.update (fun row => decide (key row = k)) set keeps

section UpdateKey

variable {table next : Table key check} {k : κ} {set : α → α} {keeps : ∀ row, key (set row) = key row}

theorem find?_updateKey (done : table.updateKey k set keeps = some next) (other : κ) :
    next.find? other = if other = k then (table.find? k).map set else table.find? other := by
  rw [find?_update done]
  by_cases here : other = k
  · subst here
    rw [if_pos rfl]
    cases found : table.find? other with
    | none => rfl
    | some row => simp [key_of_find? found]
  · rw [if_neg here]
    cases found : table.find? other with
    | none => rfl
    | some row => simp [key_of_find? found, here]

theorem check_of_updateKey (done : table.updateKey k set keeps = some next) {row : α}
    (found : table.find? k = some row) : check (set row) = true :=
  (update_eq_some.mp done).1 row (mem_of_find? found) (decide_eq_true (key_of_find? found))

theorem updateKey_of_check (set : α → α) (keeps : ∀ row, key (set row) = key row) {row : α}
    (found : table.find? k = some row)
    (passes : check (set row) = true) : ∃ next, table.updateKey k set keeps = some next := by
  have all : ∀ other ∈ table.rows, decide (key other = k) = true → check (set other) = true := by
    intro other member selected
    have same : key other = key row :=
      (of_decide_eq_true selected).trans (key_of_find? found).symm
    rw [eq_of_key member (mem_of_find? found) same]
    exact passes
  unfold updateKey update
  rw [dif_pos all]
  exact ⟨_, rfl⟩

end UpdateKey

def insert (table : Table key check) (row : α) (absent : table.find? (key row) = none)
    (passes : check row = true) : Table key check where
  rows := table.rows ++ [row]
  unique := by
    rw [List.map_append, List.map_singleton, List.nodup_append]
    refine ⟨table.unique, List.nodup_singleton _, ?_⟩
    intro left inside right only
    obtain ⟨old, member, rfl⟩ := List.mem_map.mp inside
    rw [List.mem_singleton] at only
    subst only
    exact find?_eq_none.mp absent old member
  checked := by
    intro other member
    rcases List.mem_append.mp member with inside | only
    · exact table.checked other inside
    · rw [List.mem_singleton.mp only]; exact passes

theorem find?_insert (table : Table key check) (row : α) (absent : table.find? (key row) = none)
    (passes : check row = true) (k : κ) : (table.insert row absent passes).find? k =
    if key row = k then some row else table.find? k := by
  simp only [find?, insert, List.find?_append]
  by_cases here : key row = k
  · subst here
    have missing : table.rows.find? (fun other => decide (key other = key row)) = none := absent
    simp [missing]
  · simp [here]

/-- `INSERT … ON CONFLICT DO NOTHING`, with whether a row was inserted. The check comes
first: a bad row is refused even where its key is taken. -/
def insertIgnore (table : Table key check) (row : α) : Option (Table key check × Bool) :=
  if passes : check row = true then
    if absent : table.find? (key row) = none then
      some (table.insert row absent passes, true)
    else some (table, false)
  else none

section InsertIgnore

variable {table next : Table key check} {row : α} {inserted : Bool}

theorem insertIgnore_eq_some (done : table.insertIgnore row = some (next, inserted)) :
    check row = true ∧ inserted = (table.find? (key row)).isNone ∧
    ∀ k, next.find? k = if key row = k then some ((table.find? k).getD row) else table.find? k := by
  unfold insertIgnore at done
  split at done
  · rename_i passes
    split at done
    · rename_i absent
      cases done
      refine ⟨passes, by simp [absent], ?_⟩
      intro k
      rw [find?_insert]
      by_cases here : key row = k
      · subst here; simp [absent]
      · simp [here]
    · rename_i taken
      cases done
      obtain ⟨old, found⟩ := Option.ne_none_iff_exists'.mp taken
      refine ⟨passes, by simp [found], ?_⟩
      intro k
      by_cases here : key row = k
      · subst here; simp [found]
      · simp [here]
  · cases done

theorem insertIgnore_of_check (passes : check row = true) :
    ∃ next inserted, table.insertIgnore row = some (next, inserted) := by
  unfold insertIgnore
  rw [dif_pos passes]
  split
  · exact ⟨_, _, rfl⟩
  · exact ⟨_, _, rfl⟩

end InsertIgnore

def put (table : Table key check) (row : α) : Option (Table key check) :=
  match table.insertIgnore row with
  | none => none
  | some (next, true) => some next
  | some (_, false) =>
    table.update (fun old => decide (key old = key row))
      (fun old => if key old = key row then row else old)
      (fun old => by split <;> simp_all)

section Put

variable {table next : Table key check} {row : α}

theorem find?_put (done : table.put row = some next) (k : κ) :
    next.find? k = if key row = k then some row else table.find? k := by
  unfold put at done
  cases tried : table.insertIgnore row with
  | none => rw [tried] at done; cases done
  | some pair =>
    obtain ⟨inserted, fresh⟩ := pair
    obtain ⟨_, whether, rows⟩ := insertIgnore_eq_some tried
    rw [tried] at done
    cases fresh with
    | true =>
      cases done
      have absent : table.find? (key row) = none := by simpa using whether.symm
      rw [rows k]
      by_cases here : key row = k
      · subst here; simp [absent]
      · simp [here]
    | false =>
      have taken : (table.find? (key row)).isSome = true := by
        cases found : table.find? (key row) with
        | none => rw [found] at whether; cases whether
        | some old => rfl
      obtain ⟨old, found⟩ := Option.isSome_iff_exists.mp taken
      rw [find?_update done k]
      by_cases here : key row = k
      · subst here; simp [found, key_of_find? found]
      · rw [if_neg here]
        cases other : table.find? k with
        | none => rfl
        | some kept =>
          have apart : key kept ≠ key row := by
            rw [key_of_find? other]; exact fun same => here same.symm
          simp [apart]

theorem put_of_check (passes : check row = true) : ∃ next, table.put row = some next := by
  have tries : ∃ next inserted, table.insertIgnore row = some (next, inserted) :=
    insertIgnore_of_check passes
  obtain ⟨next, inserted, tried⟩ := tries
  unfold put
  rw [tried]
  cases inserted with
  | true => exact ⟨next, rfl⟩
  | false =>
    dsimp only
    unfold update
    rw [dif_pos]
    · exact ⟨_, rfl⟩
    · intro old _ selected
      have same : key old = key row := of_decide_eq_true selected
      simpa [same] using passes

theorem put_keys {old : α} (found : table.find? (key row) = some old) (done : table.put row = some next) :
    next.rows.map key = table.rows.map key := by
  unfold put at done
  cases tried : table.insertIgnore row with
  | none => rw [tried] at done; cases done
  | some pair =>
    obtain ⟨inserted, fresh⟩ := pair
    obtain ⟨_, whether, _⟩ := insertIgnore_eq_some tried
    rw [tried, show fresh = false by rw [whether, found]; rfl] at done
    rw [(update_eq_some.mp done).2]
    exact map_key_update table _ _ (fun old => by split <;> simp_all)

theorem ext_of_keys {left right : Table key check} (keys : left.rows.map key = right.rows.map key)
    (same : ∀ k, left.find? k = right.find? k) : left = right := by
  have length : left.rows.length = right.rows.length := by
    rw [← List.length_map (f := key), keys, List.length_map]
  refine ext_rows (List.ext_getElem length ?_)
  intro i inLeft inRight
  have named : key (left.rows[i]) = key (right.rows[i]) := by
    have entries := congrArg (·[i]?) keys
    simpa [List.getElem?_map, inLeft, inRight] using entries
  have first := find?_of_mem (List.getElem_mem inLeft)
  have second := find?_of_mem (List.getElem_mem inRight)
  rw [same, named, second] at first
  exact (Option.some.inj first).symm

theorem put_same (found : table.find? (key row) = some row) : table.put row = some table := by
  obtain ⟨next, done⟩ : ∃ next, table.put row = some next := put_of_check (check_of_find? found)
  rw [done]
  refine congrArg some (ext_of_keys (put_keys found done) ?_)
  intro k
  rw [find?_put done]
  split
  · rename_i here
    rw [← here, found]
  · rfl

/-- Each row of the later table is what a chain of changes made of the row it replaces; no
row comes or goes. -/
def Evolves (change : α → α → Prop) (table next : Table key check) : Prop :=
  ∀ k, Option.Rel (Relation.ReflTransGen change) (table.find? k) (next.find? k)

variable {change : α → α → Prop} {middle : Table key check} {k : κ}

theorem evolves_refl (table : Table key check) : Evolves change table table := by
  intro k
  cases table.find? k with
  | none => exact .none
  | some row => exact .some .refl

theorem Evolves.later (evolved : Evolves change table next) (found : table.find? k = some row) :
    ∃ after, next.find? k = some after ∧ Relation.ReflTransGen change row after := by
  have related := evolved k
  rw [found] at related
  cases last : next.find? k with
  | none => rw [last] at related; cases related
  | some after =>
    rw [last] at related
    cases related with
    | some chain => exact ⟨after, rfl, chain⟩

theorem Evolves.origin (evolved : Evolves change table next) (found : next.find? k = some row) :
    ∃ before, table.find? k = some before ∧ Relation.ReflTransGen change before row := by
  have related := evolved k
  rw [found] at related
  cases first : table.find? k with
  | none => rw [first] at related; cases related
  | some before =>
    rw [first] at related
    cases related with
    | some chain => exact ⟨before, rfl, chain⟩

theorem Evolves.trans (first : Evolves change table middle) (second : Evolves change middle next) :
    Evolves change table next := by
  intro k
  cases start : table.find? k with
  | some row =>
    obtain ⟨between, present, early⟩ := first.later start
    obtain ⟨after, final, late⟩ := second.later present
    rw [final]
    exact .some (early.trans late)
  | none =>
    cases final : next.find? k with
    | none => exact .none
    | some after =>
      obtain ⟨between, present, _⟩ := second.origin final
      obtain ⟨before, impossible, _⟩ := first.origin present
      rw [start] at impossible
      cases impossible

theorem evolves_of_rewrite (found : table.find? k = some row) {after : α} (changes : change row after)
    (rewritten : ∀ other, next.find? other = if other = k then some after else table.find? other) :
    Evolves change table next := by
  intro other
  rw [rewritten other]
  by_cases here : other = k
  · subst here
    rw [found, if_pos rfl]
    exact .some (.single changes)
  · rw [if_neg here]
    exact evolves_refl table other

theorem Evolves.mono {wider : α → α → Prop} (evolved : Evolves change table next)
    (implies : ∀ row after, change row after → wider row after) : Evolves wider table next := by
  intro k
  cases first : table.find? k with
  | some row =>
    obtain ⟨after, last, chain⟩ := evolved.later first
    rw [last]
    exact .some (Relation.ReflTransGen.mono implies _ _ chain)
  | none =>
    cases last : next.find? k with
    | none => exact .none
    | some after =>
      obtain ⟨before, impossible, _⟩ := evolved.origin last
      rw [first] at impossible
      cases impossible

theorem Evolves.invariant {holds : α → Prop} (preserved : ∀ row after, change row after → holds row → holds after)
    (evolved : Evolves change table next) (before : ∀ k row, table.find? k = some row → holds row) :
    ∀ k row, next.find? k = some row → holds row := by
  intro k row found
  obtain ⟨origin, present, chain⟩ := evolved.origin found
  have initial := before k origin present
  clear found
  induction chain with
  | refl => exact initial
  | tail _ last ih => exact preserved _ _ last ih

end Put

end Table

end PasswallNode.Foundation
