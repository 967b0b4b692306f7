import PasswallNode.Foundation.Exec

/-! Programs under a contract: allowed calls as long as the answers are as promised. -/

namespace PasswallNode.Foundation

open Proc

structure Contract (Op : Type) (Ans : Op → Type) where
  allows : Op → Prop
  promises : (op : Op) → Ans op → Prop

variable {Op : Type} {Ans : Op → Type} {ε α β σ τ : Type} {permitted : ε → Prop} {good : α → Prop}

def Meets (contract : Contract Op Ans) (post : Except ε α → Prop) : Proc Op Ans ε α → Prop
  | .done result => post result
  | .call op next => contract.allows op ∧
      ∀ answer, contract.promises op answer → Meets contract post (next answer)

/-- A result that is a good value, or a failure of a permitted kind. -/
def Yields (permitted : ε → Prop) (good : α → Prop) : Except ε α → Prop
  | .ok a => good a
  | .error err => permitted err

@[simp] theorem yields_ok {a : α} : Yields permitted good (.ok a) ↔ good a := Iff.rfl

@[simp] theorem yields_error {err : ε} : Yields permitted good (.error err) ↔ permitted err := Iff.rfl

section Rules

variable {contract : Contract Op Ans} {permitted : ε → Prop}

variable {good : α → Prop} {program : Proc Op Ans ε α} {post : Except ε α → Prop} {mid : α → Prop}
  {body : σ → α → Proc Op Ans ε σ} {items : List α} {state : σ} {serve : σ → (op : Op) → σ × Ans op} {holds : σ → Prop}

theorem meets_pure {a : α} (holds : good a) :
    Meets contract (Yields permitted good) (pure a : Proc Op Ans ε α) := holds

theorem meets_mono {strong weak : Except ε α → Prop} (meets : Meets contract strong program)
    (implies : ∀ result, strong result → weak result) : Meets contract weak program := by
  induction program with
  | done result => exact implies result meets
  | call op next ih => exact ⟨meets.1, fun answer told => ih answer (meets.2 answer told)⟩

theorem meets_weaken {loose : Contract Op Ans} (meets : Meets contract post program)
    (allows : ∀ op, contract.allows op → loose.allows op)
    (promises : ∀ op answer, loose.promises op answer → contract.promises op answer) :
    Meets loose post program := by
  induction program with
  | done result => exact meets
  | call op next ih =>
    exact ⟨allows op meets.1, fun answer told => ih answer (meets.2 answer (promises op answer told))⟩

theorem meets_uses {allowed : Op → Prop} (meets : Meets contract post program) (uses : Uses allowed program) :
    Meets ⟨fun op => contract.allows op ∧ allowed op, contract.promises⟩ post program := by
  induction program with
  | done result => exact meets
  | call op next ih =>
    obtain ⟨permitted, rest⟩ := uses_call.mp uses
    exact ⟨⟨meets.1, permitted⟩, fun answer told => ih answer (meets.2 answer told) (rest answer)⟩

theorem meets_of_uses (uses : Uses contract.allows program) :
    Meets contract (Yields (fun _ => True) (fun _ => True)) program := by
  induction program with
  | done result => cases result <;> trivial
  | call op next ih =>
    obtain ⟨allowed, rest⟩ := uses_call.mp uses
    exact ⟨allowed, fun answer _ => ih answer (rest answer)⟩

theorem meets_attempt {δ : Type} {caught : δ → Prop} (meets : Meets contract post program) :
    Meets contract (Yields caught post) (program.attempt : Proc Op Ans δ (Except ε α)) := by
  induction program with
  | done result => exact meets
  | call op next ih => exact ⟨meets.1, fun answer told => ih answer (meets.2 answer told)⟩

theorem meets_bind {good : β → Prop} {next : α → Proc Op Ans ε β}
    (first : Meets contract (Yields permitted mid) program)
    (rest : ∀ a, mid a → Meets contract (Yields permitted good) (next a)) :
    Meets contract (Yields permitted good) (program >>= next) := by
  change Meets contract (Yields permitted good) (program.bind next)
  induction program with
  | done result =>
    cases result with
    | ok a => exact rest a first
    | error err => exact first
  | call op later ih => exact ⟨first.1, fun answer told => ih answer (first.2 answer told)⟩

theorem meets_catch {caught : ε → Prop} {handle : ε → Proc Op Ans ε α}
    (first : Meets contract (Yields caught mid) program) (returns : ∀ a, mid a → good a)
    (handles : ∀ err, caught err → Meets contract (Yields permitted good) (handle err)) :
    Meets contract (Yields permitted good) (tryCatch program handle) := by
  change Meets contract (Yields permitted good) (program.catchError handle)
  induction program with
  | done result =>
    cases result with
    | ok a => exact returns a first
    | error err => exact handles err first
  | call op later ih => exact ⟨first.1, fun answer told => ih answer (first.2 answer told)⟩

theorem meets_each {holds : σ → Prop} (initial : holds state)
    (pass : ∀ state, ∀ item ∈ items, holds state → Meets contract (Yields permitted holds) (body state item)) :
    Meets contract (Yields permitted holds) (each body state items) := by
  induction items generalizing state with
  | nil => exact meets_pure initial
  | cons item rest ih =>
    apply meets_bind (pass state item List.mem_cons_self initial)
    intro next kept
    exact ih kept (fun state item member => pass state item (List.mem_cons_of_mem _ member))

theorem meets_loop
    (pass : ∀ state, ∀ item ∈ items, Meets contract (Yields permitted (fun _ => True)) (body state item)) :
    Meets contract (Yields permitted (fun _ => True)) (each body state items) :=
  meets_each trivial (fun state item member _ => pass state item member)

theorem meets_mapError {wrap : ε → τ} {allowed : τ → Prop} (meets : Meets contract (Yields permitted good) program)
    (wraps : ∀ err, permitted err → allowed (wrap err)) :
    Meets contract (Yields allowed good) (program.mapError wrap) := by
  induction program with
  | done result =>
    cases result with
    | ok a => exact meets
    | error err => exact wraps err meets
  | call op next ih => exact ⟨meets.1, fun answer told => ih answer (meets.2 answer told)⟩

theorem meets_lift {Large : Type} {LargeAns : Large → Type} {large : Contract Large LargeAns} {embed : Op → Large}
    {answers : ∀ op, LargeAns (embed op) → Ans op} (meets : Meets contract post program)
    (allows : ∀ op, contract.allows op → large.allows (embed op))
    (promises : ∀ op answer, large.promises (embed op) answer → contract.promises op (answers op answer)) :
    Meets large post (program.lift embed answers) := by
  induction program with
  | done result => exact meets
  | call op next ih =>
    exact ⟨allows op meets.1, fun answer told => ih _ (meets.2 _ (promises op answer told))⟩

def Backs (serve : σ → (op : Op) → σ × Ans op) (contract : Contract Op Ans) (holds : σ → Prop) : Prop :=
  ∀ state op, holds state → contract.allows op →
    holds (serve state op).1 ∧ contract.promises op (serve state op).2

theorem exec_meets (backs : Backs serve contract holds) {post : Except ε α → Prop} {program : Proc Op Ans ε α}
    (meets : Meets contract post program) (initial : holds state) :
    holds (exec serve state program).1 ∧ post (exec serve state program).2 := by
  induction program generalizing state with
  | done result => exact ⟨initial, meets⟩
  | call op next ih =>
    obtain ⟨kept, told⟩ := backs state op initial meets.1
    exact ih _ (meets.2 _ told) kept

/-- The state and what is left of the program after at most so many calls. -/
def execFor (serve : σ → (op : Op) → σ × Ans op) : Nat → σ → Proc Op Ans ε α → σ × Proc Op Ans ε α
  | 0, state, program => (state, program)
  | _ + 1, state, .done result => (state, .done result)
  | calls + 1, state, .call op next => execFor serve calls (serve state op).1 (next (serve state op).2)

theorem execFor_add (calls more : Nat) (state : σ) (program : Proc Op Ans ε α) :
    execFor serve (calls + more) state program =
    execFor serve more (execFor serve calls state program).1 (execFor serve calls state program).2 := by
  induction calls generalizing state program with
  | zero => rw [Nat.zero_add]; rfl
  | succ calls ih =>
    rw [Nat.succ_add]
    cases program with
    | done result => cases more <;> rfl
    | call op next => exact ih _ _

end Rules

end PasswallNode.Foundation
