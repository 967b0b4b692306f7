import PasswallNode.Foundation.Proc

/-! Programs run to their end against a world that answers every call from its own state. -/

namespace PasswallNode.Foundation

open Proc

variable {Op : Type} {Ans : Op → Type} {ε α β σ τ : Type} {serve : σ → (op : Op) → σ × Ans op} {state final : σ}
  {allowed : Op → Prop}

def exec (serve : σ → (op : Op) → σ × Ans op) : σ → Proc Op Ans ε α → σ × Except ε α
  | state, .done result => (state, result)
  | state, .call op next => exec serve (serve state op).1 (next (serve state op).2)

@[simp] theorem exec_done (result : Except ε α) :
    exec serve state (.done result : Proc Op Ans ε α) = (state, result) := rfl

@[simp] theorem exec_pure (a : α) : exec serve state (pure a : Proc Op Ans ε α) = (state, .ok a) := rfl

@[simp] theorem exec_throw (err : ε) : exec serve state (throw err : Proc Op Ans ε α) = (state, .error err) := rfl

theorem exec_call (op : Op) (next : Ans op → Proc Op Ans ε α) :
    exec serve state (.call op next) = exec serve (serve state op).1 (next (serve state op).2) := rfl

section Bind

variable {program : Proc Op Ans ε α} {next : α → Proc Op Ans ε β} {middle : σ} {a : α} {err : ε} {b : β}
  {handle : ε → Proc Op Ans ε α}

theorem exec_bind_ok (ran : exec serve state program = (middle, .ok a)) :
    exec serve state (program >>= next) = exec serve middle (next a) := by
  change exec serve state (program.bind next) = _
  induction program generalizing state with
  | done result =>
    cases ran
    rfl
  | call op rest ih => exact ih _ ran

theorem exec_bind_error (ran : exec serve state program = (final, .error err)) :
    exec serve state (program >>= next) = (final, .error err) := by
  change exec serve state (program.bind next) = _
  induction program generalizing state with
  | done result =>
    cases ran
    rfl
  | call op rest ih => exact ih _ ran

theorem exec_bind_eq_ok : exec serve state (program >>= next) = (final, .ok b) ↔
    ∃ middle a, exec serve state program = (middle, .ok a) ∧ exec serve middle (next a) = (final, .ok b) := by
  constructor
  · intro ran
    rcases first : exec serve state program with ⟨middle, result⟩
    cases result with
    | error err => rw [exec_bind_error first] at ran; cases ran
    | ok a => rw [exec_bind_ok first] at ran; exact ⟨middle, a, rfl, ran⟩
  · rintro ⟨middle, a, first, second⟩
    rw [exec_bind_ok first, second]

theorem exec_done_bind_eq_ok {result : Except ε α} :
    exec serve state ((.done result : Proc Op Ans ε α) >>= next) = (final, .ok b) ↔
    ∃ a, result = .ok a ∧ exec serve state (next a) = (final, .ok b) := by
  rw [exec_bind_eq_ok]
  constructor
  · rintro ⟨middle, a, first, second⟩
    cases first
    exact ⟨a, rfl, second⟩
  · rintro ⟨a, rfl, second⟩
    exact ⟨state, a, rfl, second⟩

theorem exec_catch_ok (ran : exec serve state program = (final, .ok a)) :
    exec serve state (tryCatch program handle) = (final, .ok a) := by
  change exec serve state (program.catchError handle) = _
  induction program generalizing state with
  | done result =>
    cases ran
    rfl
  | call op rest ih => exact ih _ ran

theorem exec_catch_error (ran : exec serve state program = (middle, .error err)) :
    exec serve state (tryCatch program handle) = exec serve middle (handle err) := by
  change exec serve state (program.catchError handle) = _
  induction program generalizing state with
  | done result =>
    cases ran
    rfl
  | call op rest ih => exact ih _ ran

/-- The program gets to its end, and to something good, exactly if everything fits. -/
def Decides (serve : σ → (op : Op) → σ × Ans op) (fits : Prop) (good : σ → Prop) (bad : ε → Prop) (state : σ)
    (program : Proc Op Ans ε α) : Prop :=
  (fits ∧ ∃ next a, exec serve state program = (next, .ok a) ∧ good next) ∨
    (¬ fits ∧ ∃ next err, exec serve state program = (next, .error err) ∧ bad err)

theorem exec_each_decides {body : β → α → Proc Op Ans ε β} {acc : β} {items : List α}
    (holds : List α → σ → Prop) {fits : α → Prop} {bad : ε → Prop}
    (pass : ∀ passed item rest acc state, items = passed ++ item :: rest → holds passed state →
      Decides serve (fits item) (holds (passed ++ [item])) bad state (body acc item)) (initial : holds [] state) :
    Decides serve (∀ item ∈ items, fits item) (holds items) bad state (each body acc items) := by
  -- The items not yet passed shrink; the loop from any such point on is decided.
  suffices decides : ∀ rest passed acc state, items = passed ++ rest → holds passed state →
      Decides serve (∀ item ∈ rest, fits item) (holds items) bad state (each body acc rest) from
    decides items [] acc state rfl initial
  intro rest
  induction rest with
  | nil =>
    intro passed acc state whole held
    rw [List.append_nil] at whole
    subst whole
    exact Or.inl ⟨fun _ member => absurd member List.not_mem_nil, state, acc, rfl, held⟩
  | cons item rest ih =>
    intro passed acc state whole held
    rcases pass passed item rest acc state whole held with
      ⟨good, next, after, ran, kept⟩ | ⟨misfit, next, err, ran, failed⟩
    · have decided := ih (passed ++ [item]) after next (by rw [whole]; simp) kept
      unfold Decides at *
      rw [each, exec_bind_ok ran]
      simpa [good] using decided
    · refine Or.inr ⟨fun all => misfit (all item List.mem_cons_self), next, err, ?_, failed⟩
      rw [each, exec_bind_error ran]

end Bind

theorem exec_invariant (holds : σ → Prop) (kept : ∀ state op, allowed op → holds state → holds (serve state op).1)
    {program : Proc Op Ans ε α} (uses : Uses allowed program) (initial : holds state) :
    holds (exec serve state program).1 := by
  induction program generalizing state with
  | done result => exact initial
  | call op rest ih =>
    obtain ⟨permitted, later⟩ := uses_call.mp uses
    exact ih _ (later _) (kept state op permitted initial)

theorem exec_related {other : τ → (op : Op) → τ × Ans op} (related : σ → τ → Prop)
    (alike : ∀ state twin op, allowed op → related state twin →
      (serve state op).2 = (other twin op).2 ∧ related (serve state op).1 (other twin op).1)
    {program : Proc Op Ans ε α} (uses : Uses allowed program) {twin : τ} (initial : related state twin) :
    (exec serve state program).2 = (exec other twin program).2 ∧
    related (exec serve state program).1 (exec other twin program).1 := by
  induction program generalizing state twin with
  | done result => exact ⟨rfl, initial⟩
  | call op rest ih =>
    obtain ⟨permitted, later⟩ := uses_call.mp uses
    obtain ⟨same, after⟩ := alike state twin op permitted initial
    rw [exec_call, exec_call, ← same]
    exact ih _ (later _) after

end PasswallNode.Foundation
