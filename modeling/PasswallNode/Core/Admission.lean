import Mathlib.Data.String.Basic
import PasswallNode.Agent.ValidateSpecs
import PasswallNode.Core.CompileSpecs
import PasswallNode.Core.Runtime
import PasswallNode.Sqlite.Clients

/-! Which clients a compiled configuration admits. -/

namespace PasswallNode.Core

open Foundation Protocol State

structure Permitted (rows : List ClientRuntime) (nowMS : Int) (key : String) (client : Client) : Prop where
  attached : key ∈ client.listeners
  enabled : client.enabled = true
  unexpired : client.expiresAtMS = 0 ∨ nowMS < client.expiresAtMS
  gate : ∀ row ∈ rows, row.key = client.key →
    row.gate ≠ .closed ∧ ¬ (row.gate = .unconfigured ∧ row.headroomBytes.isSome = true)

def Compiler.usersOf : Compiler → JsonObject → Option Json
  | .xray _ => Xray.usersOf
  | .singbox _ => Singbox.usersOf

def Compiler.compileUser (std : Stdlib) : Compiler → String → Client → Except String JsonObject
  | .xray _ => Xray.compileUser
  | .singbox _ => Singbox.compileUser std

def Compiler.engine : Compiler → String
  | .xray _ => "xray"
  | .singbox _ => "sing-box"

def isEnabled (std : Stdlib) (listener : Listener) : Bool :=
  match std.decodeListener listener.config with
  | .ok spec => spec.enabled
  | .error _ => false

def Renders (std : Stdlib) (compiler : Compiler) (inbounds : List JsonObject) (artifact : Artifact) : Prop :=
  ∃ fields : JsonObject, fields.get? "inbounds" = some (.array (inbounds.map .object)) ∧
    artifactOf std compiler.engine (.object fields) = .ok artifact

/-- A user entry: the name under `nameField`, and the credentials that the protocol uses and no other. -/
structure Identifies (nameField uuidField name protocolName : String) (credential : Credential)
    (user : JsonObject) : Prop where
  name : user.get? nameField = some (.string name)
  uuid : user.get? uuidField =
    if protocolName = "vless" ∨ protocolName = "vmess" then some (.string credential.uuid) else none
  flow : user.get? "flow" =
    if protocolName = "vless" ∧ credential.flow ≠ "" then some (.string credential.flow) else none
  password : user.get? "password" =
    if protocolName = "trojan" ∨ protocolName = "shadowsocks" then some (.string credential.password) else none

def Compiler.Identifies (compiler : Compiler) (protocolName : String) (client : Client) : JsonObject → Prop :=
  let credential := client.credentials
  match compiler with
  | .xray _ => Core.Identifies "email" "id" credential.username protocolName credential
  | .singbox _ => Core.Identifies "name" "uuid" (trimSpace credential.username) protocolName credential

/-- The inbound of a listener whose users are built from these clients, in this order, each under its own name
and with its own credentials. -/
structure Describes (std : Stdlib) (compiler : Compiler) (listener : Listener) (clients : List Client)
    (inbound : JsonObject) : Prop where
  tag : inbound.get? "tag" = some (.string ("psp-" ++ listener.key))
  users : ∃ spec users, std.decodeListener listener.config = .ok spec ∧
    compiler.usersOf inbound = some (.array users) ∧
    List.Forall₂ (fun client user => ∃ fields,
      compiler.compileUser std (std.toLower (trimSpace spec.proto)) client = .ok fields ∧
        compiler.Identifies (std.toLower (trimSpace spec.proto)) client fields ∧
        user = .object fields) clients users

section Compile

variable {options : Options} {compiler : Compiler} {snapshot : Snapshot} {artifact : Artifact}
  {rows : List ClientRuntime} {nowMS : Int} {client : Client}

theorem get?_cons (name other : String) (value : Json) (rest : JsonObject) :
    JsonObject.get? ((name, value) :: rest) other = if name = other then some value else rest.get? other := by
  by_cases same : name = other <;> simp [JsonObject.get?, same]

theorem compileUser_identifies {std : Stdlib} {protocolName : String} {client : Client} {user : JsonObject}
    (compiled : compiler.compileUser std protocolName client = .ok user) :
    compiler.Identifies protocolName client user := by
  have empty (name : String) : JsonObject.get? [] name = none := rfl
  have apart : protocolName = "vless" ∨ protocolName = "vmess" →
      protocolName ≠ "trojan" ∧ protocolName ≠ "shadowsocks" := by
    rintro (rfl | rfl) <;> simp
  cases compiler with
  | xray c =>
    simp only [Compiler.compileUser, Xray.compileUser] at compiled
    split_ifs at compiled <;> cases compiled <;> constructor <;> simp_all [get?_cons]
  | singbox c =>
    simp only [Compiler.compileUser, Singbox.compileUser, Singbox.putWhen] at compiled
    split_ifs at compiled <;> cases compiled <;> constructor <;> simp_all [get?_cons]

theorem compile_ok (compiled : compiler.compile options snapshot = .ok artifact) :
    ∃ inbounds noun compileEnabled, Renders options.std compiler inbounds artifact ∧
    compileInbounds options.std options.wire noun (compileListener options.std compileEnabled) snapshot = .ok inbounds ∧
    ∀ listener spec clients inbound bind, options.std.decodeListener listener.config = .ok spec →
      compileEnabled listener spec clients = .ok (inbound, bind) →
        Describes options.std compiler listener clients inbound := by
  cases compiler with
  | xray c =>
    simp only [Compiler.compile, Xray.compile, bind_eq_ok] at compiled
    obtain ⟨release, -, -, -, -, -, document, built, encoded⟩ := compiled
    obtain ⟨inbounds, looped, same⟩ := bind_eq_ok.mp built
    cases same
    refine ⟨inbounds, _, _, ⟨_, rfl, encoded⟩, looped, ?_⟩
    intro listener spec clients inbound bind decoded enabled
    obtain ⟨tagged, users, made, listed⟩ := Xray.compileEnabled_ok enabled
    refine ⟨tagged, spec, users, decoded, listed, (compileUsers_ok made).imp ?_⟩
    rintro client user ⟨fields, built, same⟩
    exact ⟨fields, built, @compileUser_identifies (.xray c) options.std _ _ _ built, same⟩
  | singbox c =>
    simp only [Compiler.compile, Singbox.compile, bind_eq_ok] at compiled
    obtain ⟨-, -, -, -, -, -, document, built, encoded⟩ := compiled
    obtain ⟨inbounds, looped, same⟩ := bind_eq_ok.mp built
    cases same
    refine ⟨inbounds, _, _, ⟨_, rfl, encoded⟩, looped, ?_⟩
    intro listener spec clients inbound bind decoded enabled
    obtain ⟨tagged, users, made, listed⟩ := Singbox.compileEnabled_ok enabled
    refine ⟨tagged, spec, users, decoded, listed, (compileUsers_ok made).imp ?_⟩
    rintro client user ⟨fields, built, same⟩
    exact ⟨fields, built, @compileUser_identifies (.singbox c) options.std _ _ _ built, same⟩

theorem inbounds_of_outcomes {std : Stdlib}
    {compileEnabled : Listener → ListenerSpec → List Client → Except InboundError (JsonObject × String)}
    {clientsOf : Listener → List Client} {listeners : List Listener}
    {outcomes : List (Option (JsonObject × String))} (built : List.Forall₂ (fun listener outcome =>
    compileListener std compileEnabled listener (clientsOf listener) = .ok outcome) listeners outcomes)
    (describes : ∀ listener spec clients inbound bind, std.decodeListener listener.config = .ok spec →
    compileEnabled listener spec clients = .ok (inbound, bind) → Describes std compiler listener clients inbound) :
    List.Forall₂ (fun listener inbound => Describes std compiler listener (clientsOf listener) inbound)
    (listeners.filter (isEnabled std)) (outcomes.filterMap (fun outcome => outcome.map (·.1))) := by
  induction built with
  | nil => exact .nil
  | @cons listener outcome listeners outcomes made _ ih =>
    obtain ⟨spec, decoded, ⟨disabled, rfl⟩ | ⟨⟨inbound, bind⟩, enabled, rfl, compiled⟩⟩ :=
      compileListener_ok made
    · rw [List.filter_cons_of_neg (by simp [isEnabled, decoded, disabled])]
      exact ih
    · rw [List.filter_cons_of_pos (by simp [isEnabled, decoded, enabled])]
      exact .cons (describes _ _ _ _ _ decoded compiled) ih

theorem gated_key : (gated rows client).key = client.key := by
  unfold gated
  split
  · rfl
  · split <;> rfl

theorem gated_enabled (table : (rows.map ClientRuntime.key).Nodup) (enabled : (gated rows client).enabled = true) :
    gated rows client = client ∧ ∀ row ∈ rows, row.key = client.key → gateDenies row = false := by
  unfold gated at enabled ⊢
  cases found : rows.reverse.find? (fun row => decide (row.key = client.key)) with
  | none =>
    refine ⟨rfl, fun row member same => ?_⟩
    have missed := List.find?_eq_none.mp found row (List.mem_reverse.mpr member)
    exact absurd same (by simpa using missed)
  | some row =>
    rw [found] at enabled
    have matching : row.key = client.key := by simpa using List.find?_some found
    have present : row ∈ rows := List.mem_reverse.mp (List.mem_of_find?_eq_some found)
    cases denied : gateDenies row with
    | true => simp [denied] at enabled
    | false =>
      refine ⟨by simp [denied], fun other member same => ?_⟩
      rw [List.inj_on_of_nodup_map table member present (same.trans matching.symm)]
      exact denied

theorem gated_of_open (opened : ∀ row ∈ rows, row.key = client.key → gateDenies row = false) :
    gated rows client = client := by
  unfold gated
  split
  · rfl
  · rename_i row found
    have matching : row.key = client.key := by simpa using List.find?_some found
    rw [opened row (List.mem_reverse.mp (List.mem_of_find?_eq_some found)) matching]
    rfl

theorem gateDenies_false {row : ClientRuntime} : gateDenies row = false ↔
    row.gate ≠ .closed ∧ ¬ (row.gate = .unconfigured ∧ row.headroomBytes.isSome = true) := by
  simp [gateDenies]

theorem mem_attached_gated {clients : List Client} {key : String}
    (table : (rows.map ClientRuntime.key).Nodup) (expiry : ∀ client ∈ clients, 0 ≤ client.expiresAtMS) :
    client ∈ attached nowMS (clients.map (gated rows)) key ↔
    client ∈ clients ∧ Permitted rows nowMS key client := by
  rw [attached, List.mem_filter, Bool.and_eq_true, effective_iff, decide_eq_true_eq, List.mem_map]
  constructor
  · rintro ⟨⟨source, member, rfl⟩, ⟨enabled, unexpired⟩, named⟩
    obtain ⟨same, opened⟩ := gated_enabled table enabled
    rw [same] at enabled unexpired named ⊢
    refine ⟨member, named, enabled, ?_, fun row present key => gateDenies_false.mp (opened row present key)⟩
    have bound := expiry source member
    omega
  · rintro ⟨member, named, enabled, unexpired, gate⟩
    refine ⟨⟨client, member, ?_⟩, ⟨enabled, by omega⟩, named⟩
    exact gated_of_open (fun row present same => gateDenies_false.mpr (gate row present same))

end Compile

theorem sortedClients_ascending {snapshot : Snapshot} (distinct : (snapshot.clients.map Client.key).Nodup) :
    (sortedClients snapshot).Pairwise (fun first second => first.key < second.key) := by
  have sorted : (sortedClients snapshot).Pairwise (fun first second => first.key ≤ second.key) :=
    List.pairwise_insertionSort (fun a b : Client => a.key ≤ b.key) snapshot.clients
  have apart : ((sortedClients snapshot).map Client.key).Nodup :=
    ((List.perm_insertionSort _ _).map Client.key).nodup_iff.mpr distinct
  have unequal := List.pairwise_map.mp apart
  exact (sorted.and unequal).imp (fun both => lt_of_le_of_ne both.1 both.2)

theorem clients_unique (store : Sqlite.Store) : ((Sqlite.clients store).map ClientRuntime.key).Nodup :=
  ((List.perm_insertionSort _ _).map ClientRuntime.key).nodup_iff.mpr store.clients.unique

structure AdmittedClients (roster : RosterBody) (rows : List ClientRuntime) (nowMS : Int) (key : String)
    (admitted : List Client) : Prop where
  exact : ∀ client, client ∈ admitted ↔ client ∈ roster.clients ∧ Permitted rows nowMS key client
  ascending : admitted.Pairwise (fun first second => first.key < second.key)

theorem admittedClients_attached {wire : Wire} {config : ConfigBody} {roster : RosterBody}
    {store : Sqlite.Store} {nowMS : Int} (valid : Agent.ValidRoster wire roster) (key : String) :
    AdmittedClients roster (Sqlite.clients store) nowMS key (attached nowMS
      (sortedClients (snapshotOf config (some roster) (Sqlite.clients store) nowMS)) key) := by
  have distinct : ((snapshotOf config (some roster) (Sqlite.clients store) nowMS).clients.map
      Client.key).Nodup := by
    have keys : ((roster.clients.map (gated (Sqlite.clients store))).map Client.key) =
        roster.clients.map Client.key := by
      rw [List.map_map]
      exact List.map_congr_left (fun client _ => gated_key)
    change ((roster.clients.map (gated (Sqlite.clients store))).map Client.key).Nodup
    rw [keys]
    exact valid.distinct
  constructor
  · intro client
    rw [← mem_attached_gated (clients_unique store) (fun client member => (valid.client client member).expiry)]
    simp only [attached, List.mem_filter]
    exact and_congr_left (fun _ => List.mem_insertionSort _)
  · exact (sortedClients_ascending distinct).filter _

/-- A compiled configuration has one inbound for each enabled listener and no other, and its
users are exactly the permitted clients. -/
theorem compiled_core_admits_permitted (options : Options) (compiler : Compiler) (config : ConfigBody)
    (roster : RosterBody) (store : Sqlite.Store) (nowMS : Int) (artifact : Artifact)
    (configAccepted : Agent.validateConfig options.catalog options.wire (some config) = .ok ())
    (rosterAccepted : Agent.validateRoster options.wire (some roster) = .ok ())
    (compiled : compiler.compile options (snapshotOf config (some roster) (Sqlite.clients store) nowMS) =
      .ok artifact) :
    ∃ inbounds served, Renders options.std compiler inbounds artifact ∧
      served.Perm (config.listeners.filter (isEnabled options.std)) ∧
      (served.map Listener.key).Nodup ∧
      List.Forall₂ (fun listener inbound => ∃ admitted,
          Describes options.std compiler listener admitted inbound ∧
            AdmittedClients roster (Sqlite.clients store) nowMS listener.key admitted)
        served inbounds := by
  obtain ⟨inbounds, noun, compileEnabled, renders, looped, describes⟩ := compile_ok compiled
  obtain ⟨⟨outcomes, built, rfl⟩, -⟩ := compileInbounds_ok looped
  have sorted : (sortedListeners (snapshotOf config (some roster) (Sqlite.clients store) nowMS)).Perm
      config.listeners := List.perm_insertionSort _ _
  have distinct := (Agent.validateConfig_ok configAccepted).distinct
  have apart := (sorted.map Listener.key).nodup_iff.mpr distinct
  refine ⟨_, _, renders, sorted.filter _, apart.sublist (List.filter_sublist.map _), ?_⟩
  refine (inbounds_of_outcomes built describes).imp ?_
  intro listener inbound described
  exact ⟨_, described, admittedClients_attached (Agent.validateRoster_ok rosterAccepted) listener.key⟩

/-- Two listeners, of which one is enabled; the second client's gate is closed. -/
theorem closed_gate_not_admitted :
    ∃ config roster store artifact inbounds served,
      (Compiler.xray ⟨"", "", "", "", "", false⟩).compile (Options.transparent [config] [roster] [])
        (snapshotOf config (some roster) (Sqlite.clients store) 5) = .ok artifact ∧
      Renders (Options.transparent [config] [roster] []).std (.xray ⟨"", "", "", "", "", false⟩) inbounds
        artifact ∧
      served.Perm (config.listeners.filter (isEnabled (Options.transparent [config] [roster] []).std)) ∧
      (served.map Listener.key).Nodup ∧
      List.Forall₂ (fun listener inbound => ∃ admitted,
          Describes (Options.transparent [config] [roster] []).std (.xray ⟨"", "", "", "", "", false⟩)
              listener admitted inbound ∧
            AdmittedClients roster (Sqlite.clients store) 5 listener.key admitted)
        served inbounds := by
  let config : ConfigBody := ⟨⟨"", "", false⟩, [⟨"l1", [1]⟩, ⟨"l2", [0]⟩], ⟨2, 0, 0⟩⟩
  let client (key name : String) : Client := ⟨key, "s1", true, 0, ⟨name, "u", "", ""⟩, ["l1"]⟩
  let roster : RosterBody := ⟨⟨1, 1⟩, [client "c2" "bob", client "c1" "ann"], ⟨2, 0, 1⟩⟩
  let row : ClientRuntime := ⟨"c2", "s1", true, 0, 0, 0, [], .closed, some 0, some 0, 0, none, "#", 0⟩
  let store : Sqlite.Store := { Sqlite.Store.fresh with clients := ⟨[row], by decide, by decide⟩ }
  let result := (Compiler.xray ⟨"", "", "", "", "", false⟩).compile (Options.transparent [config] [roster] [])
    (snapshotOf config (some roster) (Sqlite.clients store) 5)
  obtain ⟨artifact, compiled⟩ : ∃ artifact, result = .ok artifact := ⟨result.toOption.getD ⟨[], ""⟩, by decide +kernel⟩
  refine ⟨config, roster, store, artifact, ?_⟩
  obtain ⟨inbounds, served, admits⟩ := compiled_core_admits_permitted
    (Options.transparent [config] [roster] []) (.xray ⟨"", "", "", "", "", false⟩) config roster store 5
    artifact (by decide +kernel) (by decide +kernel) compiled
  exact ⟨inbounds, served, compiled, admits⟩

end PasswallNode.Core
