import PasswallNode.Core.Admission
import PasswallNode.Core.Pipeline
import PasswallNode.Core.World

/-! Attachments to listeners that the configuration does not have. -/

namespace PasswallNode.Core

open Foundation Protocol State

def attachedTo (keys : List String) (client : Client) : Client :=
  { client with listeners := client.listeners.filter (fun key => decide (key ∈ keys)) }

def Snapshot.satisfiable (snapshot : Snapshot) : Snapshot :=
  { snapshot with clients := snapshot.clients.map (attachedTo snapshot.keys) }

section Inbounds

variable {wire : Wire} {noun : String} {inbound : BuildInbound} {assembly : Assembly} {options : Options}
  {snapshot : Snapshot} {nowMS : Int} {keys : List String} {key : String} {plan : Plan} {store : Sqlite.Store}

theorem attached_attachedTo (existing : key ∈ keys) (clients : List Client) :
    attached nowMS (clients.map (attachedTo keys)) key = (attached nowMS clients key).map (attachedTo keys) := by
  rw [attached, attached, List.filter_map]
  refine congrArg (List.map _) (List.filter_congr fun client _ => ?_)
  have kept : key ∈ (attachedTo keys client).listeners ↔ key ∈ client.listeners := by
    simp [attachedTo, existing]
  change (effective nowMS client && decide (key ∈ (attachedTo keys client).listeners)) = _
  rw [decide_eq_decide.mpr kept]

theorem sortedClients_satisfiable (snapshot : Snapshot) :
    sortedClients snapshot.satisfiable = (sortedClients snapshot).map (attachedTo snapshot.keys) :=
  (List.map_insertionSort (fun a b : Client => a.key ≤ b.key) (fun a b : Client => a.key ≤ b.key)
    (attachedTo snapshot.keys) snapshot.clients (fun _ _ _ _ => Iff.rfl)).symm

theorem assembles_satisfiable (distinct : ∀ client ∈ snapshot.clients, client.listeners.Nodup) (blind : Blind inbound) :
    Assembles wire noun inbound snapshot.satisfiable assembly ↔ Assembles wire noun inbound snapshot assembly := by
  have clock : snapshot.nowMS = snapshot.satisfiable.nowMS := rfl
  have listeners : sortedListeners snapshot = sortedListeners snapshot.satisfiable := rfl
  have once : ∀ client ∈ sortedClients snapshot, client.listeners.Nodup :=
    fun client member => distinct client ((List.mem_insertionSort _).mp member)
  constructor
  · refine assembles_alike blind clock listeners ?_ (fun listener member => ?_)
    · rw [sortedClients_satisfiable, List.forall₂_map_left_iff, List.forall₂_same]
      exact fun client member => ⟨rfl, fun _ => once client member⟩
    · have existing : listener.key ∈ snapshot.keys := List.mem_map_of_mem member
      rw [sortedClients_satisfiable, attached_attachedTo existing, List.forall₂_map_left_iff]
      exact List.forall₂_same.mpr (fun _ _ => rfl)
  · refine assembles_alike blind clock.symm listeners.symm ?_ (fun listener member => ?_)
    · rw [sortedClients_satisfiable, List.forall₂_map_right_iff, List.forall₂_same]
      exact fun client member => ⟨rfl, fun _ => (once client member).filter _⟩
    · have existing : listener.key ∈ snapshot.keys := List.mem_map_of_mem member
      rw [sortedClients_satisfiable, attached_attachedTo existing, List.forall₂_map_right_iff]
      exact List.forall₂_same.mpr (fun _ _ => rfl)

theorem satisfiable_satisfied (client : Client) (key : String) : ¬ Dangles snapshot.satisfiable client key := by
  rintro ⟨listed, -, named, missing⟩
  obtain ⟨source, -, rfl⟩ := List.mem_map.mp listed
  exact missing (of_decide_eq_true (List.mem_filter.mp named).2)

theorem compile_of_satisfiable {compiler : Compiler} {artifact : Artifact}
    (distinct : ∀ client ∈ snapshot.clients, client.listeners.Nodup)
    (done : compiler.compile options snapshot.satisfiable = .ok artifact) :
    ((∀ client key, ¬ Dangles snapshot client key) ∧ compiler.compile options snapshot = .ok artifact) ∨
    ∃ client key, Dangles snapshot client key ∧
    compiler.compile options snapshot = .error (unknownListener key) := by
  simp only [compile_eq, bind_eq_ok, bind_eq_error] at done ⊢
  obtain ⟨stage, prepared, inbounds, looped, encoded⟩ := done
  obtain ⟨assembly, assembles, rfl, -⟩ := assembles_of_ok looped
  have whole := (assembles_satisfiable distinct (prepare_blind prepared)).mp assembles
  rcases compileInbounds_of_assembles options.std whole with ⟨satisfied, compiled⟩ | ⟨client, key, dangles, failed⟩
  · exact .inl ⟨satisfied, stage, prepared, _, compiled, encoded⟩
  · exact .inr ⟨client, key, dangles, .inr ⟨stage, prepared, .inl failed⟩⟩

/-- What a convergence would deploy if attachments to listeners that do not exist were left out. -/
def satisfiablePlanOf (options : Options) (store : Sqlite.Store) (nowMS : Int) : Except Failure Plan := do
  let (config, roster) ← desiredOf options store
  let (selection, compiler) ← chooseCompiler options config
  let artifact ← compileSnapshot options compiler
    (snapshotOf config roster (Sqlite.clients store) nowMS).satisfiable
  .ok ⟨config, roster, selection, compiler, artifact⟩

theorem gated_listeners {rows : List ClientRuntime} {client : Client} :
    (gated rows client).listeners = client.listeners := by
  unfold gated
  split
  · rfl
  · split <;> rfl

/-- A client of the stored roster that is permitted to use a listener the stored config lacks. -/
def DanglingIn (plan : Plan) (rows : List ClientRuntime) (nowMS : Int) (client : Client) (key : String) : Prop :=
  (∃ roster ∈ plan.roster, client ∈ roster.clients) ∧ Permitted rows nowMS key client ∧
    key ∉ plan.config.listeners.map Listener.key

theorem dangles_snapshotOf {nowMS : Int} (valid : ∀ roster ∈ plan.roster, Agent.ValidRoster options.wire roster) :
    (∃ client, Dangles (snapshotOf plan.config plan.roster (Sqlite.clients store) nowMS) client key) ↔
    ∃ client, DanglingIn plan (Sqlite.clients store) nowMS client key := by
  cases stored : plan.roster with
  | none =>
    constructor
    · rintro ⟨client, dangles⟩
      exact absurd dangles.listed List.not_mem_nil
    · rintro ⟨client, ⟨roster, impossible, -⟩, -⟩
      rw [stored] at impossible
      cases impossible
  | some roster =>
    have passed := valid roster stored
    have admits : ∀ client, client ∈ attached nowMS (roster.clients.map (gated (Sqlite.clients store))) key ↔
        client ∈ roster.clients ∧ Permitted (Sqlite.clients store) nowMS key client := by
      intro client
      exact mem_attached_gated (clients_unique store) (fun client member => (passed.client client member).expiry)
    simp only [attached, List.mem_filter, Bool.and_eq_true, decide_eq_true_eq] at admits
    constructor
    · rintro ⟨client, listed, active, named, missing⟩
      obtain ⟨member, permitted⟩ := (admits client).mp ⟨listed, active, named⟩
      exact ⟨client, ⟨roster, stored, member⟩, permitted, missing⟩
    · rintro ⟨client, ⟨other, here, member⟩, permitted, missing⟩
      rw [stored] at here
      cases here
      obtain ⟨listed, active, named⟩ := (admits client).mpr ⟨member, permitted⟩
      exact ⟨client, listed, active, named, missing⟩

theorem planOf_of_satisfiable {nowMS : Int} (valid : ∀ roster ∈ plan.roster, Agent.ValidRoster options.wire roster)
    (planned : satisfiablePlanOf options store nowMS = .ok plan) :
    ((∀ client key, ¬ DanglingIn plan (Sqlite.clients store) nowMS client key) ∧
    planOf options store nowMS = .ok plan) ∨ ∃ client key, DanglingIn plan (Sqlite.clients store) nowMS client key ∧
    planOf options store nowMS = .error (unknownListener key) := by
  simp only [satisfiablePlanOf, compileSnapshot, bind_eq_ok] at planned
  obtain ⟨⟨config, roster⟩, desired, ⟨selection, compiler⟩, chosen, artifact,
    ⟨_, compiled, _, passed, made⟩, same⟩ := planned
  cases made
  cases same
  have distinct : ∀ client ∈ (snapshotOf config roster (Sqlite.clients store) nowMS).clients,
      client.listeners.Nodup := by
    intro client member
    obtain ⟨source, listed, rfl⟩ := List.mem_map.mp member
    rw [gated_listeners]
    cases roster with
    | none => exact absurd listed List.not_mem_nil
    | some body => exact ((valid body rfl).client source listed).distinct
  have dangling : ∀ key, (∃ client, Dangles (snapshotOf config roster (Sqlite.clients store) nowMS) client key) ↔
      ∃ client, DanglingIn ⟨config, roster, selection, compiler, artifact⟩ (Sqlite.clients store) nowMS client key :=
    fun key => dangles_snapshotOf valid
  rcases compile_of_satisfiable distinct compiled with ⟨satisfied, whole⟩ | ⟨client, key, dangles, failed⟩
  · refine Or.inl ⟨?_, ?_⟩
    · intro client key impossible
      obtain ⟨other, dangles⟩ := (dangling key).mpr ⟨client, impossible⟩
      exact satisfied other key dangles
    · simp only [planOf, compileSnapshot, bind_eq_ok]
      exact ⟨_, desired, _, chosen, artifact, ⟨artifact, whole, (), passed, rfl⟩, rfl⟩
  · obtain ⟨other, missing⟩ := (dangling key).mp ⟨client, dangles⟩
    refine Or.inr ⟨other, key, missing, ?_⟩
    simp only [planOf, compileSnapshot, bind_eq_error]
    exact Or.inr ⟨_, desired, Or.inr ⟨_, chosen, Or.inl (Or.inl failed)⟩⟩

end Inbounds

end PasswallNode.Core
