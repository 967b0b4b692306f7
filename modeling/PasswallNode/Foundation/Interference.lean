import Mathlib.Logic.Relation
import PasswallNode.Foundation.Contract

/-! Programs among others: the world moves between two calls, and a program may be left at any of them. -/

namespace PasswallNode.Foundation

open Proc Relation

variable {Op : Type} {Ans : Op → Type} {ε α β σ τ : Type}

structure Environment (σ Op : Type) (Ans : Op → Type) where
  answers : σ → (op : Op) → Ans op → σ → Prop
  moves : σ → σ → Prop

/-- The program makes a call, or the world moves. -/
inductive Environment.Step (env : Environment σ Op Ans) :
    σ × Proc Op Ans ε α → σ × Proc Op Ans ε α → Prop where
  | call {state after : σ} {op : Op} {next : Ans op → Proc Op Ans ε α} {answer : Ans op}
      (answered : env.answers state op answer after) : env.Step (state, .call op next) (after, next answer)
  | move {state after : σ} {program : Proc Op Ans ε α} (moved : env.moves state after) :
      env.Step (state, program) (after, program)

/-- A run of a program among others, as far as it has come. -/
def Among (env : Environment σ Op Ans) : σ × Proc Op Ans ε α → σ × Proc Op Ans ε α → Prop :=
  ReflTransGen env.Step

/-- Whatever the world does, every call of the program is allowed where it is made and its
result satisfies `post`. -/
def Ensures (env : Environment σ Op Ans) (allows : σ → Op → Prop) (post : σ → Except ε α → Prop) :
    σ → Proc Op Ans ε α → Prop
  | state, .done result => post state result
  | state, .call op next => ∀ later, ReflTransGen env.moves state later → allows later op ∧
      ∀ answer after, env.answers later op answer after → Ensures env allows post after (next answer)

def Stable (env : Environment σ Op Ans) (holds : σ → Prop) : Prop :=
  ∀ state after, env.moves state after → holds state → holds after

variable {env : Environment σ Op Ans} {allows : σ → Op → Prop} {state : σ}

theorem Stable.chain {holds : σ → Prop} (stable : Stable env holds) {after : σ}
    (moved : ReflTransGen env.moves state after) (initial : holds state) : holds after := by
  induction moved with
  | refl => exact initial
  | tail _ last ih => exact stable _ _ last ih

theorem Stable.and {first second : σ → Prop} (one : Stable env first) (other : Stable env second) :
    Stable env (fun state => first state ∧ second state) :=
  fun state after moved held => ⟨one state after moved held.1, other state after moved held.2⟩

theorem stable_const (fact : Prop) : Stable env (fun _ => fact) := fun _ _ _ held => held

section Runs

variable {post : σ → Except ε α → Prop} {program : Proc Op Ans ε α} {before after : σ × Proc Op Ans ε α} {op : Op}
  {next : Ans op → Proc Op Ans ε α} {holds : σ → Prop} {serve : σ → (op : Op) → σ × Ans op} {δ : Type}
  {other : σ → δ → Prop} {a : α} {final : σ} {failed : σ → ε → Prop}

theorem ensures_step (stable : ∀ result, Stable env (fun state => post state result))
    (ensures : Ensures env allows post before.1 before.2) (step : env.Step before after) :
    Ensures env allows post after.1 after.2 := by
  cases step with
  | call answered => exact (ensures _ .refl).2 _ _ answered
  | @move state after program moved =>
    cases program with
    | done result => exact stable result _ _ moved ensures
    | call op next => exact fun later more => ensures later (.head moved more)

theorem ensures_among (stable : ∀ result, Stable env (fun state => post state result))
    (ran : Among env before after) (ensures : Ensures env allows post before.1 before.2) :
    Ensures env allows post after.1 after.2 := by
  induction ran with
  | refl => exact ensures
  | tail _ step ih => exact ensures_step stable ih step

theorem ensures_allows (ensures : Ensures env allows post state (.call op next)) :
    allows state op := (ensures _ .refl).1

theorem among_holds (stable : Stable env holds) (ran : Among env before after)
    (ensures : Ensures env (fun state _ => holds state) (fun state _ => holds state) before.1 before.2) :
    holds after.1 := by
  obtain ⟨reached, rest⟩ := after
  have stays := ensures_among (fun _ => stable) ran ensures
  cases rest with
  | done result => exact stays
  | call op next => exact ensures_allows stays

theorem among_execFor (answered : ∀ state op, env.answers state op (serve state op).2 (serve state op).1)
    (calls : Nat) :
    Among env (state, program) ((execFor serve calls state program).1, (execFor serve calls state program).2) := by
  induction calls generalizing state program with
  | zero => exact .refl
  | succ calls ih =>
    cases program with
    | done result => exact .refl
    | call op next => exact .head (.call (answered state op)) ih

theorem among_resumed (answered : ∀ state op, env.answers state op (serve state op).2 (serve state op).1)
    (calls more : Nat) (asks : (execFor serve calls state program).2 = .call op next) :
    Among env ((serve (execFor serve calls state program).1 op).1,
      next (serve (execFor serve calls state program).1 op).2)
    ((execFor serve (calls + (more + 1)) state program).1, (execFor serve (calls + (more + 1)) state program).2) := by
  rw [execFor_add, asks]
  exact among_execFor answered more

theorem among_exec {other : τ → (op : Op) → τ × Ans op} (view : τ → σ)
    (answered : ∀ state op, env.answers (view state) op (other state op).2 (view (other state op).1)) (start : τ) :
    Among env (view start, program) (view (exec other start program).1, .done (exec other start program).2) := by
  induction program generalizing start with
  | done result => exact .refl
  | call op next ih => exact .head (.call (answered start op)) (ih _ _)

theorem among_within {ε' : Type} (inside : Proc Op Ans ε α → Proc Op Ans ε' β)
    (calls : ∀ op next, inside (.call op next) = .call op (fun answer => inside (next answer)))
    (ran : Among env before after) : Among env (before.1, inside before.2) (after.1, inside after.2) := by
  induction ran using ReflTransGen.head_induction_on with
  | refl => exact .refl
  | head step _ ih =>
    cases step with
    | call answered =>
      rw [calls]
      exact .head (.call answered) ih
    | move moved => exact .head (.move moved) ih

theorem among_bind {next : α → Proc Op Ans ε β} (ran : Among env (state, program) (final, .done (.ok a))) :
    Among env (state, program >>= next) (final, next a) :=
  among_within (fun program => program >>= next) (fun _ _ => rfl) ran

theorem among_mapError {ε' : Type} {f : ε → ε'} (ran : Among env (state, program) (final, .done (.ok a))) :
    Among env (state, program.mapError f) (final, .done (.ok a)) :=
  among_within (Proc.mapError f) (fun _ _ => rfl) ran

theorem step_execFor (answered : ∀ state op, env.answers state op (serve state op).2 (serve state op).1)
    {calls : Nat} (running : (execFor serve calls state program).2.running = true) :
    env.Step ((execFor serve calls state program).1, (execFor serve calls state program).2)
    ((execFor serve (calls + 1) state program).1, (execFor serve (calls + 1) state program).2) := by
  rw [execFor_add]
  generalize execFor serve calls state program = reached at running ⊢
  obtain ⟨reached, rest⟩ := reached
  cases rest with
  | done result => simp [Proc.running] at running
  | call op next => exact .call (answered reached op)

theorem ensures_mono {strong weak : σ → Except ε α → Prop} {strict : σ → Op → Prop}
    {program : Proc Op Ans ε α} (ensures : Ensures env strict strong state program)
    (permits : ∀ state op, strict state op → allows state op)
    (implies : ∀ state result, strong state result → weak state result) :
    Ensures env allows weak state program := by
  induction program generalizing state with
  | done result => exact implies state result ensures
  | call op next ih =>
    intro later moved
    obtain ⟨allowed, rest⟩ := ensures later moved
    exact ⟨permits later op allowed, fun answer after answered => ih answer (rest answer after answered)⟩

theorem ensures_yields {failed : σ → ε → Prop} {good : σ → α → Prop} {post : σ → Except ε α → Prop}
    {program : Proc Op Ans ε α} (ensures : Ensures env allows post state program)
    (fails : ∀ state err, post state (.error err) → failed state err)
    (gives : ∀ state a, post state (.ok a) → good state a) :
    Ensures env allows (fun state => Yields (failed state) (good state)) state program := by
  refine ensures_mono ensures (fun _ _ allowed => allowed) ?_
  rintro state (err | a) held
  · exact fails state err held
  · exact gives state a held

theorem ensures_and {first second : σ → Except ε α → Prop} {others : σ → Op → Prop}
    {program : Proc Op Ans ε α} (one : Ensures env allows first state program)
    (other : Ensures env others second state program) :
    Ensures env (fun state op => allows state op ∧ others state op)
    (fun state result => first state result ∧ second state result) state program := by
  induction program generalizing state with
  | done result => exact ⟨one, other⟩
  | call op next ih =>
    intro later moved
    exact ⟨⟨(one later moved).1, (other later moved).1⟩, fun answer after answered =>
      ih answer ((one later moved).2 answer after answered) ((other later moved).2 answer after answered)⟩

theorem ensures_invariant {post : σ → Except ε α → Prop} {program : Proc Op Ans ε α} (stable : Stable env holds)
    (keeps : ∀ state op answer after, holds state → allows state op → env.answers state op answer after → holds after)
    (ensures : Ensures env allows post state program) (initial : holds state) :
    Ensures env (fun state op => allows state op ∧ holds state) (fun state result => post state result ∧ holds state)
    state program := by
  induction program generalizing state with
  | done result => exact ⟨ensures, initial⟩
  | call op next ih =>
    intro later moved
    obtain ⟨allowed, rest⟩ := ensures later moved
    have held := stable.chain moved initial
    exact ⟨⟨allowed, held⟩, fun answer after answered =>
      ih answer (rest answer after answered) (keeps later op answer after held allowed answered)⟩

theorem ensures_any {post : σ → Except ε α → Prop} (program : Proc Op Ans ε α)
    (holds : ∀ state result, post state result) : Ensures env (fun _ _ => True) post state program := by
  induction program generalizing state with
  | done result => exact holds state result
  | call op next ih => exact fun _ _ => ⟨trivial, fun answer _ _ => ih answer⟩

theorem ensures_call {post : σ → Except ε α → Prop} (stable : Stable env holds) (initial : holds state)
    (answered : ∀ state, holds state → allows state op ∧ ∀ answer after,
      env.answers state op answer after → Ensures env allows post after (next answer)) :
    Ensures env allows post state (.call op next) :=
  fun later moved => answered later (stable.chain moved initial)

theorem ensures_bind {mid : σ → α → Prop} {good : σ → β → Prop} {program : Proc Op Ans ε α}
    {next : α → Proc Op Ans ε β}
    (first : Ensures env allows (fun state => Yields (failed state) (mid state)) state program)
    (rest : ∀ state a, mid state a →
    Ensures env allows (fun state => Yields (failed state) (good state)) state (next a)) :
    Ensures env allows (fun state => Yields (failed state) (good state)) state (program >>= next) := by
  change Ensures env allows _ state (program.bind next)
  induction program generalizing state with
  | done result =>
    cases result with
    | ok a => exact rest state a first
    | error err => exact first
  | call op later ih =>
    intro reached moved
    obtain ⟨allowed, onwards⟩ := first reached moved
    exact ⟨allowed, fun answer after answered => ih answer (onwards answer after answered)⟩

theorem ensures_mapError {good : σ → α → Prop} {wrap : ε → δ} {program : Proc Op Ans ε α}
    (ensures : Ensures env allows (fun state => Yields (failed state) (good state)) state program)
    (wraps : ∀ state err, failed state err → other state (wrap err)) :
    Ensures env allows (fun state => Yields (other state) (good state)) state (program.mapError wrap) := by
  induction program generalizing state with
  | done result =>
    cases result with
    | ok a => exact ensures
    | error err => exact wraps state err ensures
  | call op next ih =>
    intro later moved
    obtain ⟨allowed, rest⟩ := ensures later moved
    exact ⟨allowed, fun answer after answered => ih answer (rest answer after answered)⟩

theorem ensures_attempt {post : σ → Except ε α → Prop} {program : Proc Op Ans ε α}
    (ensures : Ensures env allows post state program) :
    Ensures env allows (fun state => Yields (other state) (post state)) state
    (program.attempt : Proc Op Ans δ (Except ε α)) := by
  induction program generalizing state with
  | done result => exact ensures
  | call op next ih =>
    intro later moved
    obtain ⟨allowed, rest⟩ := ensures later moved
    exact ⟨allowed, fun answer after answered => ih answer (rest answer after answered)⟩

theorem ensures_each {γ : Type} (holds : List α → γ → σ → Prop) {body : γ → α → Proc Op Ans ε γ}
    {items : List α} {acc : γ} (initial : holds [] acc state)
    (pass : ∀ passed item rest acc state, items = passed ++ item :: rest → holds passed acc state →
    Ensures env allows (fun state => Yields (failed state) (fun acc => holds (passed ++ [item]) acc state))
      state (body acc item)) :
    Ensures env allows (fun state => Yields (failed state) (fun acc => holds items acc state)) state
    (each body acc items) := by
  have onwards : ∀ rest passed acc state, items = passed ++ rest → holds passed acc state →
      Ensures env allows (fun state => Yields (failed state) (fun acc => holds items acc state)) state
        (each body acc rest) := by
    intro rest
    induction rest with
    | nil =>
      intro passed acc state whole held
      rw [List.append_nil] at whole
      subst whole
      exact held
    | cons item rest ih =>
      intro passed acc state whole held
      apply ensures_bind (pass passed item rest acc state whole held)
      intro state acc held
      exact ih (passed ++ [item]) acc state (by rw [whole, List.append_assoc]; rfl) held
  exact onwards items [] acc state rfl initial

theorem ensures_each_adding {γ : Type} (holds : (α → Prop) → σ → Prop)
    (fewer : ∀ {more less : α → Prop} {state}, holds more state → (∀ item, less item → more item) → holds less state)
    {begun : α → Prop} {body : γ → α → Proc Op Ans ε γ} {items : List α} {acc : γ}
    (initial : holds (fun item => item ∈ items ∧ begun item) state)
    (pass : ∀ item ∈ items, ∀ kept acc state, (∀ other, kept other → other ∈ items) → (begun item → kept item) →
      holds kept state → Ensures env allows (fun state => Yields (failed state)
        (fun _ => holds (fun other => kept other ∨ other = item) state)) state (body acc item)) :
    Ensures env allows (fun state => Yields (failed state) (fun _ => holds (· ∈ items) state)) state
    (each body acc items) := by
  refine ensures_yields (ensures_each (fun passed _ state =>
    holds (fun item => item ∈ items ∧ (begun item ∨ item ∈ passed)) state) ?_ ?_) (fun _ _ fails => fails)
    (fun _ _ held => fewer held fun _ member => ⟨member, Or.inr member⟩)
  · exact fewer initial fun _ member => ⟨member.1, member.2.resolve_right List.not_mem_nil⟩
  · intro passed item rest acc state whole held
    have member : item ∈ items := by simp [whole]
    refine ensures_yields
      (pass item member _ acc state (fun _ kept => kept.1) (fun early => ⟨member, Or.inl early⟩) held)
      (fun _ _ fails => fails) fun _ _ held => fewer held ?_
    rintro other ⟨among, early | earlier⟩
    · exact Or.inl ⟨among, Or.inl early⟩
    · rcases List.mem_append.mp earlier with before | last
      · exact Or.inl ⟨among, Or.inr before⟩
      · exact Or.inr (List.mem_singleton.mp last)

theorem ensures_view {narrow : Environment τ Op Ans} (view : τ → σ)
    (answers : ∀ state op answer after, narrow.answers state op answer after →
      env.answers (view state) op answer (view after))
    (moves : ∀ state after, narrow.moves state after → env.moves (view state) (view after)) {world : τ}
    (ensures : Ensures env allows post (view world) program) :
    Ensures narrow (fun world => allows (view world)) (fun world => post (view world)) world program := by
  induction program generalizing world with
  | done result => exact ensures
  | call op next ih =>
    intro later moved
    obtain ⟨allowed, rest⟩ := ensures (view later) (moved.lift view moves)
    exact ⟨allowed, fun answer after answered => ih answer (rest answer _ (answers _ _ _ _ answered))⟩

end Runs

section Known

variable {post : Except ε α → Prop} {program : Proc Op Ans ε α} {holds : σ → Prop}

/-- A program that keeps a contract, where the answers are as promised in the states of an
invariant that the calls and the world keep. -/
theorem ensures_of_meets {contract : Contract Op Ans} (stable : Stable env holds)
    (backs : ∀ state op answer after, holds state → contract.allows op → env.answers state op answer after →
      holds after ∧ contract.promises op answer)
    (permits : ∀ state op, holds state → contract.allows op → allows state op) (meets : Meets contract post program)
    (initial : holds state) : Ensures env allows (fun state result => holds state ∧ post result) state program := by
  induction program generalizing state with
  | done result => exact ⟨initial, meets⟩
  | call op next ih =>
    intro later moved
    have held := stable.chain moved initial
    refine ⟨permits later op held meets.1, fun answer after answered => ?_⟩
    obtain ⟨kept, told⟩ := backs later op answer after held meets.1 answered
    exact ih answer (meets.2 answer told) kept

theorem ensures_of_uses {allowed : Op → Prop} (stable : Stable env holds)
    (keeps : ∀ state op answer after, holds state → allowed op → env.answers state op answer after → holds after)
    (permits : ∀ state op, holds state → allowed op → allows state op) (uses : Uses allowed program)
    (initial : holds state) : Ensures env allows (fun state _ => holds state) state program := by
  induction program generalizing state with
  | done result => exact initial
  | call op next ih =>
    obtain ⟨permitted, rest⟩ := uses_call.mp uses
    intro later moved
    have held := stable.chain moved initial
    exact ⟨permits later op held permitted, fun answer after answered =>
      ih answer (rest answer) (keeps later op answer after held permitted answered)⟩

end Known

end PasswallNode.Foundation
