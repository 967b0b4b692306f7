import PasswallNode.Foundation.Int64
import PasswallNode.Foundation.Runs

/-! The cadence of sync rounds: who asks for one, how long the runner waits and which reports are due. Times and
delays are nanoseconds. -/

namespace PasswallNode.Cadence

open Foundation

structure Rules (Envelope : Type) where
  zero : Envelope
  shouldSendFull : Envelope → Int → Bool
  nextPollSeconds : Envelope → Int
  defaultNextPollSeconds : Int
  positive : 0 < defaultNextPollSeconds

structure SyncResult (Envelope : Type) where
  envelope : Envelope
  reportWasFull : Bool
  reportImmediately : Bool

/-- A finished round and when it began; without a result it has failed. -/
structure Finished (Envelope : Type) where
  now : Int
  isPartial : Bool
  result : Option (SyncResult Envelope)

inductive Phase where
  | waiting
  | syncing (now : Int) (isPartial : Bool)
  | returned

/-- `wake` is the buffered channel. The finished rounds, latest first, and whether a round was asked for since
the last one began are kept beside the variables of the loop. -/
structure Runner (Envelope : Type) where
  wake : Bool
  lastEnvelope : Envelope
  lastFull : Option Int
  failures : Nat
  delay : Int
  phase : Phase
  rounds : List (Finished Envelope)
  asked : Bool

inductive Action (Envelope : Type) where
  | wake
  | woken (now : Int)
  | timer (now : Int)
  | cancelled
  | synced (result : SyncResult Envelope)
  | failed (random : Option Nat)

def second : Nat := 1000000000

def failureBackoff (failures : Nat) (random : Option Nat) : Nat :=
  let ceiling := min (second * (1 <<< min (max failures 1 - 1) 5)) (30 * second)
  let half := ceiling / 2
  random.elim ceiling fun n => half + n % (ceiling - half)

def since (lastFull : Option Int) (now : Int) : Int := lastFull.elim maxInt64 fun full => (now - full).tdiv second

variable {Envelope : Type} (rules : Rules Envelope)

def pollInterval (seconds : Int) : Int :=
  if seconds ≤ 0 then rules.defaultNextPollSeconds * second else seconds * second

namespace Runner

def start : Runner Envelope := ⟨false, rules.zero, none, 0, 0, .waiting, [], false⟩

def startRound (r : Runner Envelope) (now : Int) : Runner Envelope :=
  { r with phase := .syncing now (!rules.shouldSendFull r.lastEnvelope (since r.lastFull now)), asked := false }

/-- A producer wakes the runner at any time. Without a delay there is no wait to be woken from or cancelled. -/
def step (r : Runner Envelope) (action : Action Envelope) : Runner Envelope :=
  match action, r.phase with
  | .wake, _ => { r with wake := true, asked := true }
  | .timer now, .waiting => r.startRound rules now
  | .woken now, .waiting => if 0 < r.delay ∧ r.wake then { r with wake := false }.startRound rules now else r
  | .cancelled, .waiting => if 0 < r.delay then { r with phase := .returned } else r
  | .cancelled, .syncing _ _ => { r with phase := .returned }
  | .failed random, .syncing now isPartial =>
    { r with
      phase := .waiting, rounds := ⟨now, isPartial, none⟩ :: r.rounds
      failures := r.failures + 1, delay := failureBackoff (r.failures + 1) random }
  | .synced result, .syncing now isPartial =>
    { r with
      phase := .waiting, rounds := ⟨now, isPartial, some result⟩ :: r.rounds
      failures := 0, lastEnvelope := result.envelope
      lastFull := if result.reportWasFull then some now else r.lastFull
      delay := if result.reportImmediately then 0 else pollInterval rules (rules.nextPollSeconds result.envelope) }
  | _, _ => r

end Runner

def envelopeOf (rounds : List (Finished Envelope)) : Envelope :=
  (rounds.findSome? Finished.result).elim rules.zero SyncResult.envelope

def fullOf (rounds : List (Finished Envelope)) : Option Int :=
  (rounds.find? (fun round => round.result.any SyncResult.reportWasFull)).map Finished.now

def Due (earlier : List (Finished Envelope)) (now : Int) (isPartial : Bool) : Prop :=
  isPartial = !rules.shouldSendFull (envelopeOf rules earlier) (since (fullOf earlier) now)

def Paces (delay : Int) (round : Finished Envelope) : Prop :=
  (round.result = none → second ≤ 2 * delay ∧ delay ≤ 30 * second) ∧
    ∀ result ∈ round.result, (result.reportImmediately = true → delay = 0) ∧
      (result.reportImmediately = false → 0 < delay)

/-- No request is lost, and however often the runner is woken, which report is sent depends only on what has been
confirmed. -/
structure Cadenced (r : Runner Envelope) : Prop where
  wake : r.asked = true → r.wake = true
  envelope : r.lastEnvelope = envelopeOf rules r.rounds
  full : r.lastFull = fullOf r.rounds
  syncing : ∀ now isPartial, r.phase = .syncing now isPartial → Due rules r.rounds now isPartial
  due : ∀ round earlier, round :: earlier <:+ r.rounds → Due rules earlier round.now round.isPartial
  paced : ∀ round ∈ r.rounds.head?, Paces r.delay round

variable {rules} {r : Runner Envelope}

theorem failureBackoff_bounds (failures : Nat) (random : Option Nat) :
    second ≤ 2 * failureBackoff failures random ∧ failureBackoff failures random ≤ 30 * second := by
  have least : 0 < 1 <<< min (max failures 1 - 1) 5 := by
    rw [Nat.one_shiftLeft]
    exact Nat.two_pow_pos _
  unfold failureBackoff second
  generalize known : min (1000000000 * (1 <<< min (max failures 1 - 1) 5)) (30 * 1000000000) = ceiling
  have bounds : 1000000000 ≤ ceiling ∧ ceiling ≤ 30 * 1000000000 := by omega
  cases random with
  | none =>
    simp only [Option.elim]
    omega
  | some n =>
    have inside := Nat.mod_lt n (show 0 < ceiling - ceiling / 2 by omega)
    simp only [Option.elim]
    omega

theorem pollInterval_pos (seconds : Int) : 0 < pollInterval rules seconds := by
  have positive := rules.positive
  unfold pollInterval second
  split <;> omega

theorem Cadenced.startRound (held : Cadenced rules r) (now : Int) (wake : Bool) :
    Cadenced rules ({ r with wake := wake }.startRound rules now) := by
  refine ⟨nofun, held.envelope, held.full, ?_, held.due, held.paced⟩
  intro _ _ same
  cases same
  simp only [Due, Runner.startRound, held.envelope, held.full]

theorem Cadenced.suffix (held : Cadenced rules r) {now : Int} {isPartial : Bool}
    (syncing : r.phase = .syncing now isPartial) (result : Option (SyncResult Envelope)) (round : Finished Envelope)
    (earlier : List (Finished Envelope)) (latest : round :: earlier <:+ ⟨now, isPartial, result⟩ :: r.rounds) :
    Due rules earlier round.now round.isPartial := by
  rcases List.suffix_cons_iff.mp latest with same | before
  · cases same
    exact held.syncing now isPartial syncing
  · exact held.due round earlier before

theorem Cadenced.step (held : Cadenced rules r) (action : Action Envelope) : Cadenced rules (r.step rules action) := by
  have ⟨wake, envelope, full, syncing, due, paced⟩ := held
  unfold Runner.step
  split
  · exact ⟨fun _ => rfl, envelope, full, syncing, due, paced⟩
  · exact held.startRound _ r.wake
  · split
    · exact held.startRound _ false
    · exact held
  · split
    · exact ⟨wake, envelope, full, nofun, due, paced⟩
    · exact held
  · exact ⟨wake, envelope, full, nofun, due, paced⟩
  · rename_i random now isPartial phase
    have bounds := failureBackoff_bounds (r.failures + 1) random
    refine ⟨wake, envelope, full, nofun, held.suffix phase none, ?_⟩
    intro _ same
    cases same
    exact ⟨fun _ => by dsimp only; omega, nofun⟩
  · rename_i result now isPartial phase
    refine ⟨wake, rfl, ?_, nofun, held.suffix phase (some result), ?_⟩
    · cases whole : result.reportWasFull <;> simp [fullOf, whole, full]
    · intro _ same
      cases same
      refine ⟨nofun, ?_⟩
      intro _ same
      cases same
      refine ⟨fun immediately => if_pos immediately, fun later => ?_⟩
      simpa [later] using pollInterval_pos _
  · exact held

end PasswallNode.Cadence
