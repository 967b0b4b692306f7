import PasswallNode.Agent.RoundStart
import PasswallNode.Foundation.Interference

/-! The lives of an agent with what has happened in them. -/

namespace PasswallNode.Agent

open Foundation Protocol State Sqlite Relation

abbrev RoundEvent : Type := Event ProcessCall ProcessCall.Answer

structure Moment where
  store : Store
  events : List RoundEvent

section Around

variable (libs : Libraries)

inductive Elsewhere : Store → Store → Prop where
  | count {store : Store} (call : ClientCall) (counts : Counts call) :
      Elsewhere store (perform libs.lib store call)
  | tasks {store : Store} (tasks : TaskTable) (outbox : Outbox) :
      Elsewhere store { store with tasks := tasks, outbox := outbox }

def Served (store : Store) : (call : ProcessCall) → call.Answer → Store → Prop
  | .store call, answer, next => serve libs store call = (next, answer)
  | _, _, next => next = store

def around : Environment Moment ProcessCall ProcessCall.Answer where
  answers now call answer later :=
    later.events = now.events ++ [⟨call, answer⟩] ∧ Served libs now.store call answer later.store
  moves now later := later.events = now.events ∧ Elsewhere libs now.store later.store

abbrev Ends {ε α : Type} (allows : Moment → ProcessCall → Prop) (good : Moment → α → Prop) :
    Moment → Proc ProcessCall ProcessCall.Answer ε α → Prop :=
  Ensures (around libs) allows (fun now => Yields (fun _ => True) (good now))

inductive Life (leaves : Processor → Moment → Moment → Round Bool → Prop) : Moment → Prop where
  | fresh : Life leaves ⟨Store.fresh, []⟩
  | round {start left : Moment} {rest : Round Bool} (p : Processor) (nowMS : Int) (response : SyncResponse)
      (before : Life leaves start) (wired : p.wire = libs.wire)
      (ran : Among (around libs) (start, process p nowMS response) (left, rest))
      (permitted : leaves p start left rest) : Life leaves left
  | idle {now later : Moment} (before : Life leaves now) (moved : (around libs).moves now later) :
      Life leaves later

def Moment.answering (answers : (call : ProcessCall) → call.Answer) (now : Moment) :
    (call : ProcessCall) → Moment × call.Answer
  | .store call =>
    (⟨(serve libs now.store call).1, now.events ++ [⟨.store call, (serve libs now.store call).2⟩]⟩,
      (serve libs now.store call).2)
  | call => (⟨now.store, now.events ++ [⟨call, answers call⟩]⟩, answers call)

theorem answering_around (answers : (call : ProcessCall) → call.Answer) (now : Moment) (call : ProcessCall) :
    (around libs).answers now call (now.answering libs answers call).2 (now.answering libs answers call).1 := by
  cases call with
  | _ => exact ⟨rfl, rfl⟩

end Around

section Sound

variable {libs : Libraries} {leaves : Processor → Moment → Moment → Round Bool → Prop} {now start : Moment}
  {p : Processor} {nowMS : Int} {response : SyncResponse}

theorem elsewhere_counting {store next : Store} (moved : Elsewhere libs store next) : Counting store next := by
  cases moved with
  | count call counts => exact perform_counting counts
  | tasks tasks outbox => exact ⟨rfl, rfl, Table.evolves_refl _, fun _ row found => ⟨row, found⟩⟩

theorem stable_of_counting {holds : Store → Prop}
    (kept : ∀ store next, Counting store next → holds store → holds next) :
    Stable (around libs) (fun now => holds now.store) :=
  fun now later moved held => kept now.store later.store (elsewhere_counting moved.2) held

theorem stable_sound : Stable (around libs) (fun now => SoundStore libs now.store) :=
  stable_of_counting (fun _ _ counting sound => counting_sound sound counting)

theorem soundContract_around {opens : Prop} {later : Moment} {call : ProcessCall} {answer : call.Answer}
    (sound : SoundStore libs now.store) (allowed : (soundContract libs opens).allows call)
    (answered : (around libs).answers now call answer later) :
    SoundStore libs later.store ∧ (soundContract libs opens).promises call answer := by
  obtain ⟨-, served⟩ := answered
  cases call with
  | store call =>
    have told : Promised libs False (.store call) (serve libs now.store call).2 :=
      serve_promised sound (fun _ _ impossible => impossible.elim)
    have kept := serve_sound sound allowed
    rw [show serve libs now.store call = _ from served] at told kept
    exact ⟨kept, told⟩
  | _ =>
    have told : Promised libs False _ answer := promised_of_outside (fun _ => by simp) answer
    rw [show later.store = now.store from served]
    exact ⟨sound, told⟩

theorem among_sound {rest : Round Bool} (sound : SoundStore libs start.store) (wired : p.wire = libs.wire)
    (ran : Among (around libs) (start, process p nowMS response) (now, rest)) : SoundStore libs now.store := by
  have stays : Ensures (around libs) (fun now _ => SoundStore libs now.store)
      (fun now _ => SoundStore libs now.store) start (process p nowMS response) := by
    refine ensures_mono (ensures_of_meets stable_sound ?_ (fun _ _ held _ => held)
      (sound_process wired nowMS response) sound) (fun _ _ held => held) (fun _ _ held => held.1)
    intro state call answer after held allowed answered
    exact soundContract_around held allowed answered
  exact among_holds stable_sound ran stays

theorem life_sound (lived : Life libs leaves now) : SoundStore libs now.store := by
  induction lived with
  | fresh => exact sound_fresh libs
  | round p nowMS response _ wired ran _ ih => exact among_sound ih wired ran
  | idle _ moved ih => exact stable_sound _ _ moved ih

theorem life_execFor {answers : (call : ProcessCall) → call.Answer} (calls : Nat) (before : Life libs leaves start)
    (wired : p.wire = libs.wire)
    (permitted : leaves p start (execFor (Moment.answering libs answers) calls start (process p nowMS response)).1
      (execFor (Moment.answering libs answers) calls start (process p nowMS response)).2) :
    Life libs leaves (execFor (Moment.answering libs answers) calls start (process p nowMS response)).1 :=
  .round p nowMS response before wired (among_execFor (answering_around libs answers) calls) permitted

end Sound

end PasswallNode.Agent
