import PasswallNode.Agent.Processor
import PasswallNode.Agent.Soundness
import PasswallNode.Foundation.Contract

/-! A sync round against the database and its surroundings. -/

namespace PasswallNode.Agent

open Foundation Protocol State Sqlite

/-- What answers the other calls: the runtime, the issue sink and the task worker. A round reads none of the
tables they write. -/
abbrev Surroundings (σ : Type) : Type := σ → Store → (call : ProcessCall) → σ × call.Answer

/-- The database, the state of its surroundings, and the calls of the round, oldest first. -/
structure RoundWorld (σ : Type) where
  store : Store
  outside : σ
  log : List ProcessCall

section World

variable {σ : Type} (libs : Libraries) (surroundings : Surroundings σ)

def serveRound (world : RoundWorld σ) : (call : ProcessCall) → RoundWorld σ × call.Answer
  | .store call =>
    (⟨(serve libs world.store call).1, world.outside, world.log ++ [.store call]⟩,
      (serve libs world.store call).2)
  | call =>
    (⟨world.store, (surroundings world.outside world.store call).1, world.log ++ [call]⟩,
      (surroundings world.outside world.store call).2)

structure Faultless : Prop where
  record : ∀ outside store issue, ∃ created,
    (surroundings outside store (.record issue)).2 = .ok created
  newRound : ∀ outside store, (surroundings outside store .newRound).2 ≠ .missing

end World

section Contracts

variable (libs : Libraries) (roster : Option RosterBody) (faultless : Prop)

def Promised : (call : ProcessCall) → call.Answer → Prop
  | .store call, answer => Yields (fun err => faultless → Excused call err) (Told libs call) answer
  | .record _, answer => faultless → ∃ created, answer = .ok created
  | .newRound, scope => faultless → scope ≠ .missing
  | _, _ => True

/-- Sound use of the database; `opens` is whether the runtime may be asked for anything yet. -/
def soundContract (opens : Prop) : Contract ProcessCall ProcessCall.Answer where
  allows
    | .store call => SoundCall libs call
    | .newRound | .runtime _ => opens
    | _ => True
  promises := Promised libs False

def roundContract : Contract ProcessCall ProcessCall.Answer where
  allows
    | .store call => RoundCall libs roster faultless call
    | .acceptTasksFenced _ _ | .newRound => False
    | _ => True
  promises := Promised libs faultless

variable {libs roster faultless}

theorem meets_sound_of_round {ε α : Type} {post : Except ε α → Prop}
    {program : Proc ProcessCall ProcessCall.Answer ε α}
    (valid : ∀ client ∈ rosterClients roster, ValidClient libs.wire client)
    (meets : Meets (roundContract libs roster False) post program) :
    Meets (soundContract libs True) post program := by
  apply meets_weaken meets
  · intro call allowed
    cases call with
    | store call => exact soundCall_of_roundCall valid allowed
    | newRound => exact absurd allowed id
    | _ => trivial
  · intro call answer told
    exact told

end Contracts

section Backs

variable {σ : Type} {libs : Libraries} {surroundings : Surroundings σ} {roster : Option RosterBody} {faultless : Prop}
  {store : Store} {call : StoreCall}

theorem serve_promised (sound : SoundStore libs store)
    (excused : ∀ err, transaction libs store call = .error err → faultless → Excused call err) :
    Promised libs faultless (.store call) (serve libs store call).2 := by
  cases done : transaction libs store call with
  | error err =>
    rw [serve_error done]
    exact excused err done
  | ok pair =>
    rw [serve_ok done]
    exact transaction_told sound done

theorem serve_sound (sound : SoundStore libs store) (allowed : SoundCall libs call) :
    SoundStore libs (serve libs store call).1 :=
  serve_invariant (SoundStore libs) sound (fun _ _ done => transaction_sound sound allowed done)

theorem soundContract_backs {opens : Prop} : Backs (serveRound libs surroundings) (soundContract libs opens)
    (fun world => SoundStore libs world.store ∧ (.newRound ∈ world.log → opens)) := by
  rintro world call ⟨sound, unopened⟩ allowed
  have logged : ∀ other : ProcessCall, (.newRound = other → opens) → .newRound ∈ world.log ++ [other] → opens := by
    intro other implies member
    rcases List.mem_append.mp member with earlier | last
    · exact unopened earlier
    · exact implies (List.mem_singleton.mp last)
  cases call with
  | store call =>
    exact ⟨⟨serve_sound sound allowed, logged _ (fun impossible => by cases impossible)⟩,
      serve_promised sound (fun _ _ impossible => impossible.elim)⟩
  | record issue =>
    exact ⟨⟨sound, logged _ (fun impossible => by cases impossible)⟩, fun impossible => impossible.elim⟩
  | newRound => exact ⟨⟨sound, logged _ (fun _ => allowed)⟩, fun impossible => impossible.elim⟩
  | _ => exact ⟨⟨sound, logged _ (fun impossible => by cases impossible)⟩, trivial⟩

theorem roundContract_backs (valid : ∀ client ∈ rosterClients roster, ValidClient libs.wire client)
    (distinct : ((rosterClients roster).map Client.key).Nodup) (calm : faultless → Faultless surroundings) :
    Backs (serveRound libs surroundings) (roundContract libs roster faultless)
    (fun world => SoundStore libs world.store ∧ (faultless → Bound (rosterClients roster) world.store)) := by
  rintro world call ⟨sound, bound⟩ allowed
  cases call with
  | store call =>
    refine ⟨⟨serve_sound sound (soundCall_of_roundCall valid allowed), ?_⟩, ?_⟩
    · intro fine
      exact serve_invariant (Bound (rosterClients roster)) (bound fine)
        (fun _ _ done => transaction_bound distinct (bound fine) allowed done)
    · apply serve_promised sound
      intro err failed fine
      exact transaction_excused valid (bound fine) fine allowed failed
  | record issue => exact ⟨⟨sound, bound⟩, fun fine => (calm fine).record _ _ issue⟩
  | acceptTasksFenced | newRound => exact absurd allowed id
  | _ => exact ⟨⟨sound, bound⟩, trivial⟩

end Backs

end PasswallNode.Agent
