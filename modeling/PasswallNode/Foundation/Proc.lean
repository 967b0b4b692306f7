import Mathlib.Data.List.Basic

/-! Programs that end with a result or make one call and go on with its answer. -/

namespace PasswallNode.Foundation

inductive Proc (Op : Type) (Ans : Op → Type) (ε α : Type) where
  | done (result : Except ε α)
  | call (op : Op) (next : Ans op → Proc Op Ans ε α)

structure Event (Op : Type) (Ans : Op → Type) where
  op : Op
  answer : Ans op

namespace Proc

variable {Op : Type} {Ans : Op → Type} {ε α β : Type} {program : Proc Op Ans ε α} {result : Except ε α}
  {log : List (Event Op Ans)}

def bind : Proc Op Ans ε α → (α → Proc Op Ans ε β) → Proc Op Ans ε β
  | done (.ok a), next => next a
  | done (.error err), _ => done (.error err)
  | call op rest, next => call op (fun answer => (rest answer).bind next)

def catchError : Proc Op Ans ε α → (ε → Proc Op Ans ε α) → Proc Op Ans ε α
  | done (.ok a), _ => done (.ok a)
  | done (.error err), handle => handle err
  | call op rest, handle => call op (fun answer => (rest answer).catchError handle)

instance : Monad (Proc Op Ans ε) where
  pure a := done (.ok a)
  bind := bind

instance : MonadExceptOf ε (Proc Op Ans ε) where
  throw err := done (.error err)
  tryCatch := catchError

instance : MonadLift (Except ε) (Proc Op Ans ε) where
  monadLift := done

/-- `if err != nil { return instead }`. -/
def orThrow (body : Proc Op Ans ε α) (instead : ε) : Proc Op Ans ε α :=
  body.catchError (fun _ => done (.error instead))

def attempt {δ : Type} : Proc Op Ans ε α → Proc Op Ans δ (Except ε α)
  | done result => done (.ok result)
  | call op rest => call op (fun answer => (rest answer).attempt)

def running : Proc Op Ans ε α → Bool
  | done _ => false
  | call _ _ => true

def ended : Proc Op Ans ε α → Option (Except ε α)
  | done result => some result
  | call _ _ => none

def asks : Proc Op Ans ε α → Option Op
  | done _ => none
  | call op _ => some op

theorem eq_done_of_ended (finished : program.ended = some result) : program = done result := by
  cases program with
  | done other => rw [Option.some.inj finished]
  | call op next => cases finished

theorem eq_call_of_asks {op : Op} (asked : program.asks = some op) : ∃ next, program = call op next := by
  cases program with
  | done other => cases asked
  | call other next =>
    cases Option.some.inj asked
    exact ⟨next, rfl⟩

def mapError {δ : Type} (wrap : ε → δ) : Proc Op Ans ε α → Proc Op Ans δ α
  | done (.ok a) => done (.ok a)
  | done (.error err) => done (.error (wrap err))
  | call op rest => call op (fun answer => (rest answer).mapError wrap)

/-- A loop that threads its state and stops at the first error. -/
def each {σ : Type} (body : σ → α → Proc Op Ans ε σ) : σ → List α → Proc Op Ans ε σ
  | state, [] => pure state
  | state, item :: rest => body state item >>= fun next => each body next rest

def lift {Large : Type} {LargeAns : Large → Type} (embed : Op → Large)
    (answers : ∀ op, LargeAns (embed op) → Ans op) : Proc Op Ans ε α → Proc Large LargeAns ε α
  | done result => done result
  | call op rest => call (embed op) (fun answer => (rest (answers op answer)).lift embed answers)

/-- `Reaches start log rest`: after the calls of `log`, with their answers, `rest` is left. -/
inductive Reaches : Proc Op Ans ε α → List (Event Op Ans) → Proc Op Ans ε α → Prop where
  | here (program : Proc Op Ans ε α) : Reaches program [] program
  | step {op : Op} {next : Ans op → Proc Op Ans ε α} {answer : Ans op} {log : List (Event Op Ans)}
      {rest : Proc Op Ans ε α} :
      Reaches (next answer) log rest → Reaches (call op next) (⟨op, answer⟩ :: log) rest

theorem Reaches.through {next : α → Proc Op Ans ε β} {b : β}
    (reached : Reaches (program >>= next) log (done (.ok b))) : ∃ before a after, log = before ++ after ∧
    Reaches program before (done (.ok a)) ∧ Reaches (next a) after (done (.ok b)) := by
  change Reaches (program.bind next) log (done (.ok b)) at reached
  induction program generalizing log with
  | done result =>
    cases result with
    | error err => cases reached
    | ok a => exact ⟨[], a, log, rfl, .here _, reached⟩
  | call op rest ih =>
    cases reached with
    | step reached =>
      obtain ⟨before, a, after, rfl, first, second⟩ := ih _ reached
      exact ⟨_ :: before, a, after, rfl, .step first, second⟩

theorem Reaches.of_done {a : α} (reached : Reaches (done result) log (done (.ok a))) : log = [] ∧ result = .ok a := by
  cases reached
  exact ⟨rfl, rfl⟩

end Proc

section Uses

open Proc

variable {Op : Type} {Ans : Op → Type} {ε α β : Type} {allowed : Op → Prop} {program : Proc Op Ans ε α}

/-- Every call of the program belongs to a class of calls. -/
def Uses (allowed : Op → Prop) : Proc Op Ans ε α → Prop
  | done _ => True
  | call op next => allowed op ∧ ∀ answer, Uses allowed (next answer)

theorem uses_call {op : Op} {next : Ans op → Proc Op Ans ε α} :
    Uses allowed (call op next) ↔ allowed op ∧ ∀ answer, Uses allowed (next answer) := Iff.rfl

theorem uses_done (result : Except ε α) : Uses allowed (done result : Proc Op Ans ε α) := trivial

theorem uses_bind {next : α → Proc Op Ans ε β} (first : Uses allowed program) (rest : ∀ a, Uses allowed (next a)) :
    Uses allowed (program >>= next) := by
  change Uses allowed (program.bind next)
  induction program with
  | done result =>
    cases result with
    | ok a => exact rest a
    | error err => trivial
  | call op later ih => exact ⟨first.1, fun answer => ih answer (first.2 answer)⟩

theorem uses_catch {handle : ε → Proc Op Ans ε α} (first : Uses allowed program)
    (handler : ∀ err, Uses allowed (handle err)) : Uses allowed (tryCatch program handle) := by
  change Uses allowed (program.catchError handle)
  induction program with
  | done result =>
    cases result with
    | ok a => trivial
    | error err => exact handler err
  | call op later ih => exact ⟨first.1, fun answer => ih answer (first.2 answer)⟩

theorem uses_ite {condition : Prop} [Decidable condition]
    {first second : Proc Op Ans ε α} (whenTrue : Uses allowed first) (whenFalse : Uses allowed second) :
    Uses allowed (if condition then first else second) := by
  split
  · exact whenTrue
  · exact whenFalse

theorem uses_mono {strong weak : Op → Prop} (uses : Uses strong program) (implies : ∀ op, strong op → weak op) :
    Uses weak program := by
  induction program with
  | done result => trivial
  | call op rest ih => exact ⟨implies op uses.1, fun answer => ih answer (uses.2 answer)⟩

theorem uses_orThrow {instead : ε} (uses : Uses allowed program) :
    Uses allowed (program.orThrow instead) := uses_catch uses (fun _ => trivial)

theorem uses_attempt {δ : Type} (uses : Uses allowed program) :
    Uses allowed (program.attempt : Proc Op Ans δ (Except ε α)) := by
  induction program with
  | done result => trivial
  | call op rest ih => exact ⟨uses.1, fun answer => ih answer (uses.2 answer)⟩

theorem uses_mapError {δ : Type} {wrap : ε → δ} (uses : Uses allowed program) :
    Uses allowed (program.mapError wrap) := by
  induction program with
  | done result => cases result <;> trivial
  | call op rest ih => exact ⟨uses.1, fun answer => ih answer (uses.2 answer)⟩

theorem uses_each {σ : Type} {body : σ → α → Proc Op Ans ε σ}
    (pass : ∀ state item, Uses allowed (body state item)) (state : σ) (items : List α) :
    Uses allowed (each body state items) := by
  induction items generalizing state with
  | nil => trivial
  | cons item rest ih => exact uses_bind (pass state item) ih

-- The rules above are how a proof goes along a program; unfolding would run it.
attribute [irreducible] Uses

end Uses

end PasswallNode.Foundation
