import PasswallNode.Agent.Honesty
import PasswallNode.Core.Attachments

/-! A sync round against the core runtime, whose operations share one convergence. -/

namespace PasswallNode.Core

open Foundation Protocol State Agent Sqlite

structure CoreSide where
  deployment : Option CoreDeployment
  asked : Nat
  handed : List Deployment
  ensured : Option (Except Failure Unit)

def CoreSide.world (side : CoreSide) (store : Store) : CoreWorld :=
  ⟨store, side.deployment, side.asked, side.handed⟩

def CoreSide.after (ended : CoreWorld × Except Failure Unit) : CoreSide :=
  ⟨ended.1.deployment, ended.1.asked, ended.1.handed, some ended.2⟩

def CoreSide.reset (side : CoreSide) : CoreSide := { side with ensured := none }

/-- The answer for one object: the convergence may have failed because of this very object. -/
def objectResult (name : Stream) (key : String) : Except Failure Unit → Except RuntimeError Unit
  | .ok _ => .ok ()
  | .error failure =>
    match failure.object.filter (fun object => decide (object.stream = name ∧ object.key = key)) with
    | none => .error ⟨failure.text, none⟩
    | some object =>
      let code := if trimSpace object.code = "" then objectRejected else trimSpace object.code
      .error ⟨s!"rejected: {code}: {failure.text}", some code⟩

def finalResult : Except Failure Unit → Except RuntimeError Unit
  | .ok _ => .ok ()
  | .error failure => .error ⟨failure.text, none⟩

def roundResult : RuntimeOp → Except Failure Unit → Except RuntimeError Unit
  | .upsertListener listener => objectResult .config listener.key
  | .removeListener key => objectResult .config key
  | .upsertClient client => objectResult .roster client.key
  | .removeClient key => objectResult .roster key
  | .finalize => finalResult

section Runtime

variable (libs : Libraries) (machine : Machine) (options : Options)

/-- `round.ensure`. A convergence only reads the database. -/
def ensure (store : Store) (side : CoreSide) : CoreSide :=
  match side.ensured with
  | some _ => side
  | none => .after (exec (serveCore libs machine) (side.world store) (converge options))

def CoreServed (store : Store) (side : CoreSide) : (call : ProcessCall) → call.Answer → CoreSide → Prop
  | .newRound, scope, after => scope = .shared ∧ after = side.reset
  | .runtime op, answer, after =>
    after = ensure libs machine options store side ∧ answer = roundResult op (after.ensured.getD (.ok ()))
  | _, _, after => after = side

/-- A round among others whose runtime is the core runtime. -/
def withCore : Environment (Moment × CoreSide) ProcessCall ProcessCall.Answer where
  answers now call answer later := (around libs).answers now.1 call answer later.1 ∧
    CoreServed libs machine options now.1.store now.2 call answer later.2
  moves now later := (around libs).moves now.1 later.1 ∧ later.2 = now.2

/-- The installer, the supervisor and the clock answer well, and the database takes the plan's row. -/
structure Cooperates (plan : Plan) : Prop where
  install : ∀ asked request, ∃ path, path ≠ "" ∧
    machine.install asked request = .ok ⟨request.engine, request.version, path⟩
  deploy : ∀ asked deployment, machine.deploy asked deployment = .ok ()
  clock : ∀ asked, 0 < machine.clock asked
  records : ∃ config roster, options.wire.config.marshal plan.config = .ok config ∧
    options.wire.roster.marshal (plan.roster.getD ⟨⟨0, 0⟩, [], ⟨0, 0, 0⟩⟩) = .ok roster ∧
    ∀ asked, ∃ row, saveCoreDeployment libs.lib libs.wire ⟨plan.selection.engine, plan.selection.version,
      plan.artifact.digest, plan.artifact.config, config, roster, machine.clock asked⟩ = .ok (row, ())

/-- The convergence ends well with the plan's artifact running and recorded. -/
def Deployed (plan : Plan) (world : CoreWorld) (side : CoreSide) : Prop :=
  side.ensured = some (.ok ()) ∧ Runs machine plan world.tick (side.world world.store) ∧
    ∃ deployment, Recorded libs options plan (recordedAt machine world plan) world (side.world world.store) deployment

end Runtime

section Plans

variable {options : Options} {libs : Libraries} {machine : Machine} {store : Store} {plan : Plan}
  {roster : Option RosterBody} {side : CoreSide} {p : Processor} {nowMS : Int} {response : SyncResponse}
  {start : Moment}

section Success

variable {world : CoreWorld} (cooperates : Cooperates libs machine options plan)

include cooperates

theorem saveDeployment_succeeds : ∃ after, exec (serveCore libs machine) world
    (saveDeployment options plan.selection plan.artifact plan.config plan.roster) = (after, .ok ()) := by
  obtain ⟨config, roster, encodes, also, takes⟩ := cooperates.records
  obtain ⟨row, saved⟩ := takes world.asked
  refine ⟨{ world.tick with deployment := row }, ?_⟩
  refine exec_done_bind_eq_ok.mpr ⟨config, failWith_eq_ok.mpr encodes, ?_⟩
  refine exec_done_bind_eq_ok.mpr ⟨roster, failWith_eq_ok.mpr also, ?_⟩
  rw [exec_ask]
  refine exec_done_bind_eq_ok.mpr ⟨(), rejectIf_eq_ok.mpr (Int.not_le.mpr (cooperates.clock _)), ?_⟩
  rw [exec_ask]
  simp only [serveCore, saved]
  rfl

theorem deployArtifact_succeeds : ∃ after, exec (serveCore libs machine) world
    (deployArtifact options plan.selection plan.artifact plan.config plan.roster) = (after, .ok ()) := by
  rw [deployArtifact, exec_ask]
  split
  · exact saveDeployment_succeeds cooperates
  · obtain ⟨path, named, installed⟩ := cooperates.install (world.asked + 1)
      ⟨plan.selection.engine, plan.selection.version, plan.selection.allowRestrictedReality, plan.artifact.config⟩
    have installs : exec (serveCore libs machine) world.tick (installAndDeploy plan.selection plan.artifact) =
        ({ world.tick.tick.tick with handed := world.handed ++ [plan.deployment path] }, .ok ()) := by
      rw [installAndDeploy, exec_ask]
      refine exec_done_bind_eq_ok.mpr ⟨⟨plan.selection.engine, plan.selection.version, path⟩,
        failWith_eq_ok.mpr installed, ?_⟩
      refine exec_done_bind_eq_ok.mpr ⟨(), rejectIf_eq_ok.mpr (by simp [named]), ?_⟩
      rw [exec_ask]
      exact Prod.ext rfl (failWith_eq_ok.mpr (cooperates.deploy _ _))
    obtain ⟨after, saved⟩ := saveDeployment_succeeds cooperates
    exact ⟨after, (exec_bind_ok installs).trans saved⟩

end Success

theorem desiredOf_ok {config : ConfigBody} (desired : desiredOf options store = .ok (config, roster)) :
    storedBody options.wire.config store .config = some config ∧
    roster = storedBody options.wire.roster store .roster := by
  simp only [desiredOf, bind_eq_ok, failWith_eq_ok] at desired
  obtain ⟨loaded, configured, found, optional, same⟩ := desired
  cases same
  constructor
  · simp only [bodyOf, bind_eq_ok, failWith_eq_ok] at configured
    obtain ⟨document, read, decoded⟩ := configured
    obtain ⟨record, present, rfl⟩ := Option.map_eq_some_iff.mp (orError_eq_ok.mp read)
    exact storedBody_of_find? present decoded
  · cases present : store.streams.find? .roster with
    | none =>
      simp [stream, present, orError, bodyOf, optionally, bind, Except.bind, storedBody, streamNotFound,
        Error.isSentinel, Error.within, Error.ofSentinel] at optional ⊢
      exact optional.symm
    | some record =>
      cases decoded : options.wire.roster.unmarshal record.document.body with
      | error text =>
        simp [stream, present, orError, bodyOf, decoded, failWith, optionally, bind, Except.bind,
          Error.isSentinel, Error.new] at optional
      | ok body =>
        rw [storedBody_of_find? present decoded]
        simp [stream, present, orError, bodyOf, decoded, failWith, optionally, bind, Except.bind] at optional
        exact optional.symm

theorem documents_of_plan {nowMS : Int} (planned : satisfiablePlanOf options store nowMS = .ok plan) :
    storedBody options.wire.config store .config = some plan.config ∧
    plan.roster = storedBody options.wire.roster store .roster := by
  simp only [satisfiablePlanOf, bind_eq_ok] at planned
  obtain ⟨⟨config, documents⟩, desired, ⟨selection, compiler⟩, -, artifact, -, same⟩ := planned
  cases same
  exact desiredOf_ok desired

theorem validRoster_of_plan {nowMS : Int} (sound : SoundStore libs store) (runs : options.wire = libs.wire)
    (planned : satisfiablePlanOf options store nowMS = .ok plan) :
    ∀ roster ∈ plan.roster, ValidRoster options.wire roster := by
  intro roster stored
  have body := (documents_of_plan planned).2
  rw [show plan.roster = some roster from stored] at body
  rw [runs] at body ⊢
  exact ((streamOf_roster libs.wire).stored sound).2 roster body.symm

theorem ensured_ensure : ((ensure libs machine options store side).ensured).isSome = true := by
  unfold ensure
  split
  · rename_i result ensured
    rw [ensured]
    rfl
  · rfl

theorem ensure_of_ensured (done : side.ensured.isSome = true) : ensure libs machine options store side = side := by
  obtain ⟨result, ensured⟩ := Option.isSome_iff_exists.mp done
  rw [ensure, ensured]

section Rounds

variable {world later : Moment × CoreSide} {call : ProcessCall} {answer : call.Answer}
  {before after now : Moment × CoreSide} {op : RuntimeOp} {reply : Except RuntimeError Unit}
  {next : Except RuntimeError Unit → Round Bool} {rest : Round Bool}

/-- Only an opening round writes documents or asks for a scope. -/
def Opens : ProcessCall → Prop
  | .store call => WritesStreams call
  | .newRound => True
  | _ => False

theorem ensures_opens (sound : SoundStore libs start.store) (wired : p.wire = libs.wire) :
    Ends libs (fun now call => SoundStore libs now.store ∧ (Opens call → Opening libs start now)) (fun _ _ => True)
    start (process p nowMS response) := by
  refine ensures_process sound wired (fun now call opening _ => ⟨opening.sound, fun _ => opening⟩)
    (fun _ _ _ => trivial) ?_
  intro now intake noted timed readied
  have mirrored : Mirrored now.store now := fun _ => rfl
  refine ensures_mono (ensures_runRound_calls timed.le readied.opened.valid stable_opening readied.opening
    ⟨readied.opening.sound, mirrored⟩) ?_ (fun _ outcome _ => by cases outcome <;> trivial)
  rintro now call ⟨⟨sound, -⟩, ⟨-, opening⟩ | allowed⟩
  · exact ⟨sound, fun _ => opening⟩
  · refine ⟨sound, fun opens => ?_⟩
    cases call with
    | store call =>
      cases call with
      | saveStream | clearStreamForHigherEpoch => exact absurd allowed id
      | _ => exact absurd opens id
    | newRound => exact absurd allowed id
    | _ => exact absurd opens id

theorem ensures_withCore {allows : Moment → ProcessCall → Prop} {post : Moment → Except ProcessFailure Bool → Prop}
    {program : Round Bool} (ensures : Ensures (around libs) allows post world.1 program) :
    Ensures (withCore libs machine options) (fun world => allows world.1) (fun world => post world.1) world program :=
  ensures_view Prod.fst (fun _ _ _ _ => And.left) (fun _ _ => And.left) ensures

/-- What a round keeps once its runtime has converged. -/
structure Converged (seen : Store) (side : CoreSide) (world : Moment × CoreSide) : Prop where
  side : world.2 = side
  streams : world.1.store.streams = seen.streams
  asked : ∃ event ∈ world.1.events, OfRuntime event.op

theorem stable_converged : Stable (withCore libs machine options) (Converged store side) := by
  rintro world later ⟨⟨events, moved⟩, same⟩ ⟨here, streams, asked⟩
  exact ⟨same.trans here, (elsewhere_counting moved).streams.trans streams, by rw [events]; exact asked⟩

theorem Converged.answered {begun : Store} (held : Converged store side world) (done : side.ensured.isSome = true)
    (opens : Opens call → Opening libs ⟨begun, []⟩ world.1)
    (answered : (withCore libs machine options).answers world call answer later) : Converged store side later := by
  obtain ⟨⟨events, served⟩, core⟩ := answered
  have closed : ¬ Opens call := by
    intro opening
    obtain ⟨calls, same, quiet⟩ := (opens opening).events
    obtain ⟨event, member, ofRuntime⟩ := held.asked
    exact quiet event (by rw [same] at member; exact member) ofRuntime
  refine ⟨?_, ?_, ?_⟩
  · cases call with
    | newRound => exact absurd trivial closed
    | runtime op =>
      obtain ⟨same, -⟩ := core
      rw [same, held.side]
      exact ensure_of_ensured done
    | _ => exact (show later.2 = world.2 from core).trans held.side
  · cases call with
    | store call =>
      have kept : (serve libs world.1.store call).1.streams = world.1.store.streams :=
        serve_invariant (fun next => next.streams = world.1.store.streams) rfl
          (fun _ _ done => (transaction_frame done).streams closed)
      rw [show serve libs world.1.store call = _ from served] at kept
      exact kept.trans held.streams
    | _ => rw [show later.1.store = world.1.store from served]; exact held.streams
  · obtain ⟨event, member, ofRuntime⟩ := held.asked
    exact ⟨event, by rw [events]; exact List.mem_append_left _ member, ofRuntime⟩

/-- The rows of the stored clients, as far as one names a listener that is not stored. -/
def WithheldRows (libs : Libraries) (now : Moment) : Prop :=
  (storedVersion now.store .roster).zero = false → ∀ client, StoredClient libs now client →
    Lacks (configKeys (storedBody libs.wire.config now.store .config)) client →
    ∃ row, now.store.objects.find? (.roster, client.key) = some row ∧
      Withheld (configKeys (storedBody libs.wire.config now.store .config)) client row.status.state

theorem stable_withheldRows : Stable (around libs) (WithheldRows libs) := by
  rintro now later ⟨-, moved⟩ held
  obtain ⟨streams, objects⟩ : later.store.streams = now.store.streams ∧ later.store.objects = now.store.objects :=
    ⟨(elsewhere_counting moved).streams, (elsewhere_counting moved).objects⟩
  unfold WithheldRows StoredClient storedVersion storedBody at *
  rw [streams, objects]
  exact held

theorem configKeys_congr {compact : Bytes → Bytes} {one other : Option ConfigBody}
    (related : Option.Rel (SameListeners compact) one other) : configKeys one = configKeys other := by
  cases related with
  | none => rfl
  | some same =>
    have keys := congrArg (List.map Prod.fst) same
    rw [List.map_map, List.map_map] at keys
    exact keys

theorem sameListeners_of_respells {one other : Option ConfigBody} (related : Option.Rel ConfigBody.Respells one other) :
    Option.Rel (SameListeners (fun _ => [])) one other := by
  cases related with
  | none => exact .none
  | some respells =>
    refine .some ?_
    rw [SameListeners, ← List.forall₂_eq_eq_eq, List.forall₂_map_left_iff, List.forall₂_map_right_iff]
    exact respells.2.2.imp fun _ _ same => by rw [same.1]

theorem ends_withheldRows (sound : SoundStore libs start.store) (wired : p.wire = libs.wire)
    (faithful : p.conformance.Faithful) (withholds : p.conformance.Withholds) :
    Ends libs (fun _ _ => True) (fun now _ => WithheldRows libs now) start (process p nowMS response) := by
  refine ensures_process sound wired (fun _ _ _ _ => trivial) (fun _ _ _ => trivial) ?_
  intro now intake noted timed readied
  have mirrored : Mirrored now.store now := fun _ => rfl
  have opened := readied.opened
  -- Of the listeners only the keys matter.
  have documented : Documented libs (fun _ => []) now.store intake :=
    ⟨opened.configVersion, opened.rosterVersion, sameListeners_of_respells opened.agrees.config,
      opened.agrees.roster, opened.valid⟩
  let settled : Client → Option StoredObject → Prop := fun client row =>
    Lacks (configKeys intake.received.config) client → ∃ stored, row = some stored ∧
      Withheld (configKeys intake.received.config) client stored.status.state
  have settles : Settles p intake nowMS settled := fun client status withheld lacks =>
    ⟨_, rfl, withheld withholds lacks⟩
  have begun : Converging (fun _ => []) False settled now.store (ListenerBefore libs now.store intake)
      (ClientBefore libs now.store intake False) now := by
    refine ⟨mirrored, fun impossible => impossible.elim, fun client before => ?_⟩
    unfold ClientBefore at before
    split at before
    · exact before.2.1.elim
    · exact before.1.elim
  refine ensures_mono (ensures_runRound faithful documented settles begun readied.opening.unfinalized)
    (fun _ _ _ => trivial) ?_
  intro later outcome ended
  cases outcome with
  | error failure => trivial
  | ok done =>
    rintro present client ⟨roster, stored, member⟩ lacks
    have settling : Settling libs (fun _ => []) now.store intake False settled later := ended
    rw [settling.mirrored.version, ← documented.rosterVersion] at present
    rw [settling.mirrored.body, ← documented.roster] at stored
    have document : rosterDocument intake = some roster := by
      rw [rosterDocument, present]
      exact stored
    have keys := configKeys_congr documented.config
    rw [settling.mirrored.body, ← keys] at lacks ⊢
    exact settling.rows client (by rw [ClientAfter, document]; exact member) lacks

theorem round_converges (sound : SoundStore libs store) (wired : p.wire = libs.wire)
    (asks : Among (withCore libs machine options) ((⟨store, []⟩, side), process p nowMS response)
      (before, .call (.runtime op) next))
    (answered : (withCore libs machine options).answers before (.runtime op) reply after)
    (ran : Among (withCore libs machine options) (after, next reply) (now, rest)) :
    SoundStore libs before.1.store ∧
    Converged before.1.store (ensure libs machine options before.1.store before.2) now := by
  have opens : Ensures (withCore libs machine options) _ _ (⟨store, []⟩, side) (process p nowMS response) :=
    ensures_withCore (ensures_opens sound wired)
  have reached := ensures_among (fun _ _ _ _ held => held) asks opens
  refine ⟨(ensures_allows reached).1, ?_⟩
  have initial : Converged before.1.store (ensure libs machine options before.1.store before.2) after := by
    obtain ⟨⟨events, served⟩, side, -⟩ := answered
    exact ⟨side, by rw [show after.1.store = before.1.store from served], ⟨.runtime op, reply⟩,
      by rw [events]; exact List.mem_append_right _ List.mem_cons_self, trivial⟩
  have stays := ensures_invariant stable_converged
    (fun _ _ _ _ held allowed answered => held.answered ensured_ensure allowed.2 answered)
    ((reached before .refl).2 reply after answered) initial
  exact among_holds stable_converged ran (ensures_mono stays (fun _ _ held => held.2) (fun _ _ held => held.2))

theorem round_withheldRows {done : Bool} (sound : SoundStore libs store) (wired : p.wire = libs.wire)
    (faithful : p.conformance.Faithful) (withholds : p.conformance.Withholds)
    (ran : Among (withCore libs machine options) ((⟨store, []⟩, side), process p nowMS response)
      (now, .done (.ok done))) : WithheldRows libs now.1 := by
  have ends : Ensures (withCore libs machine options) _ _ (⟨store, []⟩, side) (process p nowMS response) :=
    ensures_withCore (ends_withheldRows sound wired faithful withholds)
  refine ensures_among ?_ ran ends
  rintro outcome world later ⟨moved, -⟩ held
  cases outcome with
  | error failure => trivial
  | ok done => exact stable_withheldRows _ _ moved held

theorem deployed_of_plan {world : CoreWorld} (cooperates : Cooperates libs machine options plan)
    (planned : planOf options world.store (machine.clock world.asked) = .ok plan) :
    Deployed libs machine options plan world (.after (exec (serveCore libs machine) world (converge options))) := by
  obtain ⟨ended, deploys⟩ : ∃ ended, exec (serveCore libs machine) world.tick _ = (ended, .ok ()) :=
    deployArtifact_succeeds cooperates
  obtain ⟨deployment, recorded, running⟩ := deployArtifact_ok deploys
  rw [exec_converge_planned planned, deploys]
  obtain ⟨_, row, asked, handed⟩ := ended
  cases (show _ = world.store from recorded.store)
  exact ⟨rfl, running, deployment, { recorded with }⟩

/-- In a round whose runtime converges on documents of which the satisfiable part compiles, that part is deployed
exactly if no client that may use its listeners names one that is not stored. Otherwise nothing reaches the
supervisor. Either way a round that ends well leaves every client that lacks a listener withheld. -/
theorem satisfiable_attachments_deployed_iff (libs : Libraries) (machine : Machine) (options : Options)
    (p : Processor) {store : Store} {side : CoreSide} {nowMS : Int} {response : SyncResponse} {plan : Plan}
    {before after now : Moment × CoreSide} {op : RuntimeOp} {reply : Except RuntimeError Unit}
    {next : Except RuntimeError Unit → Round Bool} {rest : Round Bool}
    (lived : AgentRun libs store none) (wired : p.wire = libs.wire) (runs : options.wire = libs.wire)
    (asks : Among (withCore libs machine options) ((⟨store, []⟩, side), process p nowMS response)
      (before, .call (.runtime op) next))
    (unasked : before.2.ensured = none)
    (answered : (withCore libs machine options).answers before (.runtime op) reply after)
    (ran : Among (withCore libs machine options) (after, next reply) (now, rest))
    (planned : satisfiablePlanOf options before.1.store (machine.clock before.2.asked) = .ok plan)
    (cooperates : Cooperates libs machine options plan) :
    (Deployed libs machine options plan (before.2.world before.1.store) now.2 ↔
      ∀ client key, ¬ DanglingIn plan (clients before.1.store) (machine.clock before.2.asked) client key) ∧
    ((∃ client key, DanglingIn plan (clients before.1.store) (machine.clock before.2.asked) client key) →
      now.2.handed = before.2.handed ∧ now.2.deployment = before.2.deployment ∧
      ∃ client key, DanglingIn plan (clients before.1.store) (machine.clock before.2.asked) client key ∧
        now.2.ensured = some (.error (unknownListener key))) ∧
    (p.conformance.Faithful → p.conformance.Withholds → ∀ noted, rest = .done (.ok noted) →
      (storedVersion before.1.store .roster).zero = false → ∀ roster ∈ plan.roster, ∀ client ∈ roster.clients,
        Lacks (plan.config.listeners.map Listener.key) client →
        ∃ row, now.1.store.objects.find? (.roster, client.key) = some row ∧
          Withheld (plan.config.listeners.map Listener.key) client row.status.state) := by
  have sound := (agentRun_sound lived).1
  obtain ⟨here, same, streams, -⟩ := round_converges sound wired asks answered ran
  let world := before.2.world before.1.store
  have converges : now.2 = .after (exec (serveCore libs machine) world (converge options)) := by
    rw [same, ensure, unasked]
  have stops : ∀ {failure}, planOf options before.1.store (machine.clock before.2.asked) = .error failure →
      exec (serveCore libs machine) world (converge options) = _ := fun fails => exec_converge_unplanned fails
  refine ⟨?_, ?_, ?_⟩
  · rcases planOf_of_satisfiable (validRoster_of_plan here runs planned) planned with
      ⟨satisfied, plans⟩ | ⟨client, key, dangling, fails⟩
    · rw [converges]
      exact iff_of_true (deployed_of_plan cooperates plans) satisfied
    · refine iff_of_false ?_ (fun none => none client key dangling)
      rintro ⟨done, -⟩
      rw [converges, stops fails] at done
      cases done
  · rintro ⟨client, key, dangling⟩
    rcases planOf_of_satisfiable (validRoster_of_plan here runs planned) planned with
      ⟨satisfied, -⟩ | ⟨other, missing, also, fails⟩
    · exact absurd dangling (satisfied client key)
    · rw [converges, stops fails]
      exact ⟨rfl, rfl, other, missing, also, rfl⟩
  · rintro faithful withholds noted rfl present roster stored client member lacks
    have left := round_withheldRows sound wired faithful withholds (asks.trans (.head (.call answered) ran))
    obtain ⟨config, documents⟩ := documents_of_plan planned
    have bodies : ∀ {T : Type} (codec : Codec T) name,
        storedBody codec now.1.store name = storedBody codec before.1.store name :=
      fun _ _ => storedBody_congr (by rw [streams])
    have stores : StoredClient libs now.1 client :=
      ⟨roster, by rw [bodies, ← runs, ← documents]; exact stored, member⟩
    have rows := left (by rw [storedVersion, streams]; exact present) client stores
    rw [bodies, ← runs, config] at rows
    exact rows lacks

def coreAnswering (libs : Libraries) (machine : Machine) (options : Options) (now : Moment × CoreSide) :
    (call : ProcessCall) → (Moment × CoreSide) × call.Answer
  | .newRound => ((⟨now.1.store, now.1.events ++ [⟨.newRound, .shared⟩]⟩, now.2.reset), .shared)
  | .runtime op =>
    let side := ensure libs machine options now.1.store now.2
    let answer := roundResult op (side.ensured.getD (.ok ()))
    ((⟨now.1.store, now.1.events ++ [⟨.runtime op, answer⟩]⟩, side), answer)
  | call =>
    let (moment, answer) := now.1.answering libs (fun call => (gapSurroundings () Store.fresh call).2) call
    ((moment, now.2), answer)

theorem coreAnswering_withCore (now : Moment × CoreSide) (call : ProcessCall) :
    (withCore libs machine options).answers now call (coreAnswering libs machine options now call).2
    (coreAnswering libs machine options now call).1 := by
  cases call with
  | newRound | runtime => exact ⟨⟨rfl, rfl⟩, rfl, rfl⟩
  | _ => exact ⟨⟨rfl, rfl⟩, rfl⟩

def swapConfig : ConfigBody := ⟨⟨"", "", false⟩, [⟨"l1", [1]⟩], ⟨1, 0, 0⟩⟩

def swapClient (enabled : Bool) : Client := ⟨"c2", "s2", enabled, 0, ⟨"bob", "v", "", ""⟩, ["l1", "l2"]⟩

def swapRoster (enabled : Bool) : RosterBody :=
  ⟨⟨1, 1⟩, [⟨"c1", "s1", true, 0, ⟨"ann", "u", "", ""⟩, ["l1"]⟩, swapClient enabled], ⟨2, 0, 2⟩⟩

def swapOptions (enabled : Bool) : Options :=
  .transparent [swapConfig] [swapRoster enabled] [⟨⟨1, 1⟩, [], [], ⟨0, 0, 0⟩⟩]

def swapLibs (enabled : Bool) : Libraries := ⟨.transparent, .transparent, (swapOptions enabled).wire⟩

def swapProcessor (enabled : Bool) : Processor :=
  ⟨(swapOptions enabled).catalog, (swapOptions enabled).wire, .plain, 3, 60000, false, false⟩

def swapMachine : Machine := .willing (fun _ => 5)

def swapResponse (enabled : Bool) : SyncResponse where
  config := ⟨⟨1, 1⟩, (swapLibs enabled).lib.sha256Hex [0], false, some swapConfig⟩
  roster := ⟨⟨1, 1⟩, (swapLibs enabled).lib.sha256Hex [0], false, some (swapRoster enabled)⟩
  directives := ⟨⟨1, 1⟩, (swapLibs enabled).lib.sha256Hex [0], false, some ⟨⟨1, 1⟩, [], [], ⟨0, 0, 0⟩⟩⟩
  tasks := []

def swapRound (enabled : Bool) (calls : Nat) : (Moment × CoreSide) × Round Bool :=
  execFor (coreAnswering (swapLibs enabled) swapMachine (swapOptions enabled)) calls
    (⟨Store.fresh, []⟩, ⟨none, 0, [], none⟩) (process (swapProcessor enabled) 5 (swapResponse enabled))

def swapArtifact (enabled : Bool) : Artifact :=
  ((Compiler.xray ⟨"", "", "", "", "1.0.0", false⟩).compile (swapOptions enabled)
    (snapshotOf swapConfig (some (swapRoster enabled)) [] 5).satisfiable).toOption.getD ⟨[], ""⟩

def swapPlan (enabled : Bool) : Plan :=
  ⟨swapConfig, some (swapRoster enabled), ⟨"xray", "1.0.0", false⟩, .xray ⟨"", "", "", "", "1.0.0", false⟩,
    swapArtifact enabled⟩

theorem plain_withholds : Conformance.plain.Withholds := by
  refine ⟨?_, ?_, ?_, ?_⟩
  · rintro input decision unknown ⟨⟩
    exact Or.inl (by rw [unknown]; rfl)
  · rintro status atMS code next ⟨⟩
    rfl
  · rintro status atMS key next ⟨⟩
    rfl
  · rintro status atMS next ⟨⟩
    rfl

theorem swap_cooperates : Cooperates (swapLibs false) swapMachine (swapOptions false) (swapPlan false) := by
  have clock : 0 < (5 : Int) := by decide
  refine ⟨fun _ _ => ⟨"/core", by decide, rfl⟩, fun _ _ => rfl, fun _ => clock, [0], [0], by decide +kernel,
    by decide +kernel, fun _ => ⟨some ⟨"xray", "1.0.0", (swapArtifact false).digest,
      (swapArtifact false).config, [0], [0], 5⟩, ?_⟩⟩
  change saveCoreDeployment _ _ ⟨_, _, _, _, _, _, 5⟩ = _
  decide +kernel

/-- The second client is disabled and names a listener that is not stored: the round deploys, and rejects it. -/
theorem disabled_client_withheld :
    Deployed (swapLibs false) swapMachine (swapOptions false) (swapPlan false)
      ((swapRound false 16).1.2.world (swapRound false 16).1.1.store) (swapRound false 36).1.2 ∧
    ∃ row, (swapRound false 36).1.1.store.objects.find? (.roster, "c2") = some row ∧
      Withheld ["l1"] (swapClient false) row.status.state := by
  obtain ⟨next, asks⟩ : ∃ next, (swapRound false 16).2 = .call (.runtime (.upsertListener ⟨"l1", [1]⟩)) next :=
    Proc.eq_call_of_asks (by decide +kernel)
  have ended : (swapRound false 36).2 = .done (.ok false) := Proc.eq_done_of_ended (by decide +kernel)
  have reached : Among (withCore (swapLibs false) swapMachine (swapOptions false))
      ((⟨Store.fresh, []⟩, ⟨none, 0, [], none⟩), process (swapProcessor false) 5 (swapResponse false))
      ((swapRound false 16).1, (swapRound false 16).2) := among_execFor coreAnswering_withCore 16
  have ran : Among _ _ ((swapRound false 36).1, (swapRound false 36).2) :=
    among_resumed (@coreAnswering_withCore (swapOptions false) (swapLibs false) swapMachine) 16 19 asks
  rw [asks] at reached
  rw [ended] at ran
  obtain ⟨deploys, -, withheld⟩ := satisfiable_attachments_deployed_iff (swapLibs false) swapMachine
    (swapOptions false) (swapProcessor false) .fresh rfl rfl reached (by decide +kernel)
    (coreAnswering_withCore _ _) ran (by decide +kernel) swap_cooperates
  refine ⟨deploys.mpr ?_, withheld plain_faithful plain_withholds false rfl (by decide +kernel) _ rfl
    (swapClient false) (by decide) ⟨"l2", by decide, by decide⟩⟩
  rintro client key ⟨⟨roster, stored, listed⟩, permitted, missing⟩
  cases stored
  rcases List.mem_cons.mp listed with rfl | second
  · exact missing permitted.attached
  · have enabled := permitted.enabled
    rw [List.mem_singleton.mp second] at enabled
    cases enabled

/-- The same client, enabled: everything else compiles, but nothing is handed to the supervisor. -/
theorem unknown_attachment_stops_round :
    let ended := swapRound true 37
    storedBody (swapOptions true).wire.config ended.1.1.store .config = some swapConfig ∧
    storedBody (swapOptions true).wire.roster ended.1.1.store .roster = some (swapRoster true) ∧
    satisfiablePlanOf (swapOptions true) ended.1.1.store 5 = .ok (swapPlan true) ∧
    ended.2.ended = some (.ok true) ∧ ended.1.2.handed = [] ∧
    ended.1.2.ensured = some (.error (unknownListener "l2")) := by
  refine ⟨by decide +kernel, by decide +kernel, by decide +kernel, by decide +kernel, by decide +kernel,
    by decide +kernel⟩

end Rounds

end Plans

end PasswallNode.Core
