import Mathlib.Data.List.Induction
import PasswallNode.Core.Admission
import PasswallNode.Core.World

/-! The local expiry schedule: a deadline between the compilation and the end of the deployment is lost. -/

namespace PasswallNode.Core

open Foundation Protocol State Sqlite

section Earliest

variable {processed : Int} {clients : List Client} {client : Client}

def Pending (processed : Int) (client : Client) : Prop :=
  client.enabled = true ∧ processed < client.expiresAtMS

theorem earliestExpiry_concat (client : Client) : earliestExpiry processed (clients ++ [client]) =
    if client.enabled = false ∨ client.expiresAtMS ≤ processed then earliestExpiry processed clients
    else if earliestExpiry processed clients = 0 ∨ client.expiresAtMS < earliestExpiry processed clients then
      client.expiresAtMS else earliestExpiry processed clients := by
  rw [earliestExpiry, List.foldl_append]
  rfl

theorem not_pending : ¬ Pending processed client ↔ client.enabled = false ∨ client.expiresAtMS ≤ processed := by
  cases enabled : client.enabled <;> simp [Pending, enabled]

theorem earliestExpiry_spec (positive : 0 ≤ processed) (clients : List Client) :
    (earliestExpiry processed clients = 0 ∧ ∀ client ∈ clients, ¬ Pending processed client) ∨
    ((∃ client ∈ clients, Pending processed client ∧ earliestExpiry processed clients = client.expiresAtMS) ∧
      ∀ client ∈ clients, Pending processed client → earliestExpiry processed clients ≤ client.expiresAtMS) := by
  induction clients using List.reverseRecOn with
  | nil => exact Or.inl ⟨rfl, fun client member => by cases member⟩
  | append_singleton passed last ih =>
    rw [earliestExpiry_concat]
    by_cases pending : Pending processed last
    · have counts := mt not_pending.mpr (not_not.mpr pending)
      have later : 0 < last.expiresAtMS := lt_of_le_of_lt positive pending.2
      rw [if_neg counts]
      right
      rcases ih with ⟨none, idle⟩ | ⟨⟨first, member, due, equal⟩, least⟩
      · rw [if_pos (Or.inl none)]
        refine ⟨⟨last, by simp, pending, rfl⟩, ?_⟩
        intro client member due
        rcases List.mem_append.mp member with earlier | here
        · exact absurd due (idle client earlier)
        · rw [List.mem_singleton.mp here]
      · have positive : 0 < earliestExpiry processed passed := by
          rw [equal]
          exact lt_of_le_of_lt positive due.2
        split
        · rename_i sooner
          refine ⟨⟨last, by simp, pending, rfl⟩, ?_⟩
          intro client member due
          rcases List.mem_append.mp member with earlier | here
          · have bound := least client earlier due
            omega
          · rw [List.mem_singleton.mp here]
        · rename_i notSooner
          refine ⟨⟨first, List.mem_append_left _ member, due, equal⟩, ?_⟩
          intro client member due
          rcases List.mem_append.mp member with earlier | here
          · exact least client earlier due
          · rw [List.mem_singleton.mp here]
            omega
    · rw [if_pos (not_pending.mp pending)]
      rcases ih with ⟨none, idle⟩ | ⟨⟨first, member, due, equal⟩, least⟩
      · left
        refine ⟨none, ?_⟩
        intro client member
        rcases List.mem_append.mp member with earlier | here
        · exact idle client earlier
        · rw [List.mem_singleton.mp here]
          exact pending
      · right
        refine ⟨⟨first, List.mem_append_left _ member, due, equal⟩, ?_⟩
        intro client member due
        rcases List.mem_append.mp member with earlier | here
        · exact least client earlier due
        · rw [List.mem_singleton.mp here] at due
          exact absurd due pending

def deadlineOf (earliest : Int) : Option Int := if earliest = 0 then none else some earliest

theorem scheduled_iff (positive : 0 ≤ processed) (member : client ∈ clients) (enabled : client.enabled = true) :
    (∃ deadline, deadlineOf (earliestExpiry processed clients) = some deadline ∧
    deadline ≤ client.expiresAtMS) ↔ processed < client.expiresAtMS := by
  unfold deadlineOf
  rcases earliestExpiry_spec positive clients with ⟨none, idle⟩ | ⟨⟨first, _, due, equal⟩, least⟩
  · rw [none, if_pos rfl]
    constructor
    · rintro ⟨deadline, impossible, -⟩
      cases impossible
    · intro later
      exact absurd ⟨enabled, later⟩ (idle client member)
  · have nonzero : earliestExpiry processed clients ≠ 0 := by
      have beyond := due.2
      omega
    rw [if_neg nonzero]
    constructor
    · rintro ⟨deadline, same, bound⟩
      cases same
      have beyond := due.2
      omega
    · intro later
      exact ⟨_, rfl, least client member ⟨enabled, later⟩⟩

end Earliest

/-- The clients a plan's artifact admits: those its compiler was given for an enabled
listener. -/
def Plan.Admits (options : Options) (store : Store) (nowMS : Int) (plan : Plan) (client : Client) : Prop :=
  ∃ listener ∈ plan.config.listeners, isEnabled options.std listener = true ∧
    client ∈ attached nowMS (sortedClients (snapshotOf plan.config plan.roster (clients store) nowMS))
      listener.key

section Plan

variable {options : Options} {store : Store} {nowMS : Int} {plan : Plan} {client : Client}

theorem Plan.Admits.enabled (admits : plan.Admits options store nowMS client) : client.enabled = true := by
  obtain ⟨listener, -, -, member⟩ := admits
  have active := (List.mem_filter.mp member).2
  rw [Bool.and_eq_true] at active
  exact (effective_iff.mp active.1).1

theorem Plan.Admits.inRoster (admits : plan.Admits options store nowMS client) :
    ∃ roster, plan.roster = some roster ∧ client ∈ roster.clients := by
  have enabled := admits.enabled
  obtain ⟨listener, -, -, member⟩ := admits
  have sorted := (List.mem_filter.mp member).1
  have gatedMember : client ∈ (plan.roster.elim [] RosterBody.clients).map (gated (clients store)) :=
    (List.mem_insertionSort _).mp sorted
  obtain ⟨source, present, rfl⟩ := List.mem_map.mp gatedMember
  rw [(gated_enabled (clients_unique store) enabled).1]
  cases held : plan.roster with
  | none =>
    rw [held] at present
    cases present
  | some roster =>
    rw [held] at present
    exact ⟨roster, rfl, present⟩

theorem planOf_roster (planned : planOf options store nowMS = .ok plan) {roster : RosterBody}
    (held : plan.roster = some roster) : ∃ record, store.streams.find? .roster = some record ∧
    options.wire.roster.unmarshal record.document.body = .ok roster := by
  simp only [planOf, desiredOf, bind_eq_ok] at planned
  obtain ⟨desired, ⟨config, -, stored, loads, pair⟩, chosen, -, artifact, -, same⟩ := planned
  cases pair
  cases same
  simp only at held
  subst held
  have loaded := failWith_eq_ok.mp loads
  cases found : store.streams.find? .roster with
  | none => simp [stream, found, orError, bodyOf, optionally, bind, Except.bind, streamNotFound,
      Error.within, Error.ofSentinel, Error.isSentinel] at loaded
  | some record =>
    refine ⟨record, rfl, ?_⟩
    have streamed : stream store .roster = .ok record.document := by simp [stream, found, orError]
    rw [streamed] at loaded
    cases decoded : options.wire.roster.unmarshal record.document.body with
    | error text => simp [bodyOf, decoded, failWith, optionally, bind, Except.bind, Error.new,
        Error.isSentinel] at loaded
    | ok body =>
      simp only [bodyOf, decoded, failWith, optionally, bind, Except.bind, Except.ok.injEq,
        Option.some.injEq] at loaded
      rw [loaded]

end Plan

section Schedule

variable {libs : Libraries} {machine : Machine} {options : Options} {world : CoreWorld}

theorem exec_nextExpiry {wire : Wire} {record : StoredStream} {roster : RosterBody}
    {deployment : CoreDeployment} (found : world.store.streams.find? .roster = some record)
    (decoded : wire.roster.unmarshal record.document.body = .ok roster)
    (row : coreDeployment libs.lib libs.wire world.deployment = .ok deployment) :
    exec (serveCore libs machine) world (nextExpiry wire) = (world, .ok (deadlineOf (earliestExpiry
    (if record.document.body = deployment.rosterBody then deployment.appliedAtMS else 0) roster.clients))) := by
  have streamed : stream world.store .roster = .ok record.document := by simp [stream, found, orError]
  rw [nextExpiry, exec_ask, serve_stream, streamed]
  change exec (serveCore libs machine) world (scheduleOf wire record.document) = _
  rw [scheduleOf, decoded]
  change exec (serveCore libs machine) world (ask .coreDeployment >>= _) = _
  rw [exec_ask]
  change exec (serveCore libs machine) world ((Proc.done (processedThrough record.document.body
    (coreDeployment libs.lib libs.wire world.deployment)) : Convergence Int) >>= _) = _
  rw [row]
  rfl

theorem appliedAtMS_pos {row : Option CoreDeployment} {deployment : CoreDeployment}
    (read : coreDeployment libs.lib libs.wire row = .ok deployment) : 0 < deployment.appliedAtMS := by
  simp only [coreDeployment, bind_eq_ok, withError_eq_ok, orError_eq_ok] at read
  obtain ⟨found, -, _, valid, same⟩ := read
  cases same
  simp only [validateCoreDeployment, bind_eq_ok, rejectIf_eq_ok, not_or, not_le] at valid
  obtain ⟨_, ⟨-, -, positive⟩, -⟩ := valid
  exact positive

/-- The bytes of the stored roster are not those that its decoded form is encoded to. -/
def Respelled (wire : Wire) (store : Store) : Prop :=
  ∃ record roster, store.streams.find? .roster = some record ∧
    wire.roster.unmarshal record.document.body = .ok roster ∧
    wire.roster.marshal roster ≠ .ok record.document.body

/-- Right after a convergence the schedule covers every admitted client with a deadline exactly if each such
deadline is beyond the clock reading after the deployment, or the stored roster is encoded differently. -/
theorem expiry_scheduled_iff (libs : Libraries) (machine : Machine) (options : Options)
    (world after : CoreWorld)
    (converged : exec (serveCore libs machine) world (converge options) = (after, .ok ())) :
    ∃ plan, planOf options world.store (machine.clock world.asked) = .ok plan ∧
      ((∀ client, plan.Admits options world.store (machine.clock world.asked) client →
          0 < client.expiresAtMS → ∃ deadline,
            (exec (serveCore libs machine) after (nextExpiry options.wire)).2 = .ok (some deadline) ∧
              deadline ≤ client.expiresAtMS) ↔
        ∀ client, plan.Admits options world.store (machine.clock world.asked) client →
          0 < client.expiresAtMS → Respelled options.wire world.store ∨
            recordedAt machine world plan < client.expiresAtMS) := by
  obtain ⟨plan, deployment, planned, recorded⟩ := converge_ok converged
  refine ⟨plan, planned, ?_⟩
  apply forall_congr'
  intro client
  apply imp_congr_right
  intro admits
  apply imp_congr_right
  intro dated
  obtain ⟨roster, held, member⟩ := admits.inRoster
  obtain ⟨record, found, decoded⟩ := planOf_roster planned held
  have foundAfter : after.store.streams.find? .roster = some record := by rw [recorded.store, found]
  have applied := appliedAtMS_pos recorded.row
  have encoded := recorded.roster
  rw [held, Option.getD_some] at encoded
  rw [exec_nextExpiry foundAfter decoded recorded.row]
  simp only [Except.ok.injEq]
  rw [scheduled_iff (by split <;> omega) member admits.enabled, ← recorded.time]
  by_cases same : record.document.body = deployment.rosterBody
  · have spelled : ¬ Respelled options.wire world.store := by
      rintro ⟨other, body, also, decodes, differs⟩
      rw [found] at also
      cases also
      rw [decoded] at decodes
      cases decodes
      exact differs (same ▸ encoded)
    simp [same, spelled]
  · have respelled : Respelled options.wire world.store := by
      refine ⟨record, roster, found, decoded, ?_⟩
      rw [encoded]
      exact fun equal => same (Except.ok.inj equal).symm
    simp [same, dated, respelled]

section Example

def expiringClient : Client := ⟨"c1", "s1", true, 15, ⟨"ann", "u", "", ""⟩, ["l1"]⟩
def expiringRoster : RosterBody := ⟨⟨1, 1⟩, [expiringClient], ⟨1, 0, 1⟩⟩
def expiringConfig : ConfigBody := ⟨⟨"", "", false⟩, [⟨"l1", [1]⟩], ⟨1, 0, 0⟩⟩
def expiringOptions : Options := .transparent [expiringConfig] [expiringRoster] []
def expiringLibs : Libraries := ⟨.transparent, .transparent, expiringOptions.wire⟩

def expiringWorld : CoreWorld where
  store := { Store.fresh with streams :=
    ⟨[⟨⟨.config, ⟨1, 1⟩, "#", [0], 0⟩, 1⟩, ⟨⟨.roster, ⟨1, 1⟩, "#", [0], 0⟩, 1⟩], by decide, by decide⟩ }
  deployment := none
  asked := 0
  handed := []

def expiringMachine (recordedAtMS : Int) : Machine :=
  .willing (fun asked => if asked = 0 then 10 else recordedAtMS)

def expiringRun (recordedAtMS : Int) : CoreWorld × Except Failure Unit :=
  exec (serveCore expiringLibs (expiringMachine recordedAtMS)) expiringWorld (converge expiringOptions)

theorem deadline_ahead_scheduled :
    (expiringRun 12).2 = .ok () ∧
      (exec (serveCore expiringLibs (expiringMachine 12)) (expiringRun 12).1
        (nextExpiry expiringOptions.wire)).2 = .ok (some 15) ∧
      ∃ plan, planOf expiringOptions expiringWorld.store 10 = .ok plan ∧
        ((∀ client, plan.Admits expiringOptions expiringWorld.store 10 client →
            0 < client.expiresAtMS → ∃ deadline,
              (exec (serveCore expiringLibs (expiringMachine 12)) (expiringRun 12).1
                  (nextExpiry expiringOptions.wire)).2 = .ok (some deadline) ∧
                deadline ≤ client.expiresAtMS) ↔
          ∀ client, plan.Admits expiringOptions expiringWorld.store 10 client →
            0 < client.expiresAtMS → Respelled expiringOptions.wire expiringWorld.store ∨
              recordedAt (expiringMachine 12) expiringWorld plan < client.expiresAtMS) := by
  have done : (expiringRun 12).2 = .ok () := by decide +kernel
  have ran : expiringRun 12 = ((expiringRun 12).1, .ok ()) := by rw [← done]
  refine ⟨done, by decide +kernel, ?_⟩
  exact expiry_scheduled_iff expiringLibs (expiringMachine 12) expiringOptions expiringWorld (expiringRun 12).1 ran

/-- Recorded at 20, the deployment admits a client that no schedule will remove. -/
theorem deadline_passed_while_deploying_lost :
    (expiringRun 20).2 = .ok () ∧
      (∃ plan, planOf expiringOptions expiringWorld.store 10 = .ok plan ∧
        plan.Admits expiringOptions expiringWorld.store 10 expiringClient) ∧
      (exec (serveCore expiringLibs (expiringMachine 20)) (expiringRun 20).1
        (nextExpiry expiringOptions.wire)).2 = .ok none := by
  let compiler : Compiler := .xray ⟨"", "", "", "", "1.0.0", false⟩
  let compiled := compiler.compile expiringOptions (snapshotOf expiringConfig (some expiringRoster) [] 10)
  refine ⟨by decide +kernel, ⟨⟨expiringConfig, some expiringRoster, ⟨"xray", "1.0.0", false⟩, compiler,
    compiled.toOption.getD ⟨[], ""⟩⟩, by decide +kernel, ?_⟩, by decide +kernel⟩
  exact ⟨⟨"l1", [1]⟩, by decide, by decide, by decide +kernel⟩

end Example

end Schedule

end PasswallNode.Core
