import Mathlib.Data.List.Forall2
import Mathlib.Data.List.Nodup
import PasswallNode.Core.Compile

/-! What a successful pass of the compilers' loops has built. -/

namespace PasswallNode.Core

open Foundation Protocol

theorem effective_iff {nowMS : Int} {client : Client} : effective nowMS client = true ↔
    client.enabled = true ∧ (client.expiresAtMS ≤ 0 ∨ nowMS < client.expiresAtMS) := by
  simp only [effective, Bool.and_eq_true, Bool.not_eq_true', Bool.and_eq_false_iff,
    decide_eq_false_iff_not, not_lt, ge_iff_le, not_le, gt_iff_lt]

def attachmentsOf (nowMS : Int) (clients : List Client) : List (String × Client) :=
  clients.flatMap (fun client =>
    if effective nowMS client then client.listeners.map (fun key => (key, client)) else [])

def attached (nowMS : Int) (clients : List Client) (key : String) : List Client :=
  clients.filter (fun client => effective nowMS client && decide (key ∈ client.listeners))

section Group

variable {wire : Wire} {noun : String} {nowMS : Int} {client : Client} {clients : List Client}
  {attachments : List (String × Client)}
  {compileInbound : Listener → List Client → Except InboundError (Option (JsonObject × String))} {std : Stdlib}

theorem clientsOf_append (first second : List (String × Client)) (key : String) :
    clientsOf (first ++ second) key = clientsOf first key ++ clientsOf second key := by
  simp [clientsOf]

theorem clientsOf_one (distinct : client.listeners.Nodup) (key : String) :
    clientsOf (client.listeners.map (fun key => (key, client))) key =
    if key ∈ client.listeners then [client] else [] := by
  generalize client.listeners = keys at distinct
  induction keys with
  | nil => rfl
  | cons first rest ih =>
    obtain ⟨fresh, later⟩ := List.nodup_cons.mp distinct
    have tail := ih later
    by_cases here : first = key
    · subst here
      have none : clientsOf (rest.map (fun key => (key, client))) first = [] := by
        rw [tail, if_neg fresh]
      simp only [clientsOf, List.map_cons, List.filter_cons, decide_true, if_true, List.mem_cons_self] at none ⊢
      rw [none]
    · have apart : key ≠ first := Ne.symm here
      simp only [clientsOf, List.map_cons, List.filter_cons, decide_eq_true_eq, here, if_false,
        List.mem_cons, apart, false_or] at tail ⊢
      exact tail

theorem clientsOf_attachmentsOf
    (distinct : ∀ client ∈ clients, effective nowMS client = true → client.listeners.Nodup) (key : String) :
    clientsOf (attachmentsOf nowMS clients) key = attached nowMS clients key := by
  induction clients with
  | nil => rfl
  | cons client rest ih =>
    have later := ih (fun other member => distinct other (List.mem_cons_of_mem _ member))
    rw [attachmentsOf, List.flatMap_cons, clientsOf_append]
    change _ ++ clientsOf (attachmentsOf nowMS rest) key = _
    rw [later, attached, attached, List.filter_cons]
    cases active : effective nowMS client with
    | false => simp [clientsOf]
    | true =>
      rw [if_pos rfl, clientsOf_one (distinct client List.mem_cons_self active)]
      by_cases named : key ∈ client.listeners <;> simp [named]

theorem attachListeners_ok {before : List (String × Client)} {final : List String × List (String × Client)}
    (done : forEach (attachListener client) ([], before) client.listeners = .ok final) :
    client.listeners.Nodup ∧ final.2 = before ++ client.listeners.map (fun key => (key, client)) := by
  have finished := forEach_collects
    (fun passed state => passed.Nodup ∧ state.1 = passed ∧
      state.2 = before ++ passed.map (fun key => (key, client))) ?_ ?_ done
  · obtain ⟨distinct, -, attachments⟩ := finished
    exact ⟨distinct, attachments⟩
  · rintro passed state key next ⟨distinct, keys, attachments⟩ attaches
    simp only [attachListener, bind_eq_ok, rejectIf_eq_ok] at attaches
    obtain ⟨-, fresh, rest⟩ := attaches
    cases rest
    rw [keys] at fresh
    refine ⟨?_, by rw [keys], ?_⟩
    · rw [← List.concat_eq_append]
      exact List.Nodup.concat fresh distinct
    · rw [attachments, List.map_append, List.append_assoc]
      rfl
  · exact ⟨List.nodup_nil, rfl, by simp⟩

theorem groupClient_ok {state next : Grouping} (grouped : groupClient wire noun nowMS state client = .ok next) :
    next.attachments = state.attachments ++ attachmentsOf nowMS [client] ∧
    (effective nowMS client = true → client.listeners.Nodup) := by
  simp only [groupClient, bind_eq_ok] at grouped
  obtain ⟨-, -, -, -, -, -, -, -, grouped⟩ := grouped
  split at grouped
  · cases grouped
  · split at grouped
    · rename_i idle
      cases grouped
      simp [attachmentsOf, idle]
    · rename_i active
      obtain ⟨final, attaches, built⟩ := bind_eq_ok.mp grouped
      obtain ⟨distinct, attachments⟩ := attachListeners_ok attaches
      cases built
      have enabled : effective nowMS client = true := by simpa using active
      exact ⟨by simp [attachmentsOf, enabled, attachments], fun _ => distinct⟩

theorem groupClients_ok {final : Grouping}
    (done : forEach (groupClient wire noun nowMS) ⟨[], []⟩ clients = .ok final) :
    final.attachments = attachmentsOf nowMS clients ∧
    ∀ client ∈ clients, effective nowMS client = true → client.listeners.Nodup := by
  have finished := forEach_collects
    (fun passed state => state.attachments = attachmentsOf nowMS passed ∧
      ∀ client ∈ passed, effective nowMS client = true → client.listeners.Nodup) ?_ ?_ done
  · exact finished
  · rintro passed state client next ⟨attachments, distinct⟩ grouped
    obtain ⟨added, own⟩ := groupClient_ok grouped
    refine ⟨by rw [added, attachments]; simp [attachmentsOf], ?_⟩
    intro other member active
    rcases List.mem_append.mp member with earlier | here
    · exact distinct other earlier active
    · rw [List.mem_singleton.mp here] at active ⊢
      exact own active
  · exact ⟨rfl, fun _ member => by cases member⟩

theorem addListener_ok {state next : Assembly} {listener : Listener}
    (added : addListener wire compileInbound attachments state listener = .ok next) :
    next.seen = state.seen ++ [listener.key] ∧
    ∃ outcome, compileInbound listener (clientsOf attachments listener.key) = .ok outcome ∧
      next.inbounds = state.inbounds ++ (outcome.map (·.1)).toList := by
  simp only [addListener, bind_eq_ok] at added
  obtain ⟨-, -, -, -, added⟩ := added
  split at added
  · cases added
  · rename_i built
    cases added
    exact ⟨rfl, none, built, by simp⟩
  · rename_i inbound bind built
    split at added
    · cases added
    · cases added
      exact ⟨rfl, some (inbound, bind), built, by simp⟩

theorem addListeners_ok {listeners : List Listener} {final : Assembly}
    (done : forEach (addListener wire compileInbound attachments) ⟨[], [], []⟩ listeners = .ok final) :
    final.seen = listeners.map Listener.key ∧ ∃ outcomes, List.Forall₂ (fun listener outcome =>
        compileInbound listener (clientsOf attachments listener.key) = .ok outcome) listeners outcomes ∧
      final.inbounds = outcomes.filterMap (fun outcome => outcome.map (·.1)) := by
  have finished := forEach_collects
    (fun passed state => state.seen = passed.map Listener.key ∧
      ∃ outcomes, List.Forall₂ (fun listener outcome =>
          compileInbound listener (clientsOf attachments listener.key) = .ok outcome)
          passed outcomes ∧
        state.inbounds = outcomes.filterMap (fun outcome => outcome.map (·.1))) ?_ ?_ done
  · exact finished
  · rintro passed state listener next ⟨seen, outcomes, built, inbounds⟩ added
    obtain ⟨nextSeen, outcome, compiled, nextInbounds⟩ := addListener_ok added
    refine ⟨by rw [nextSeen, seen, List.map_append]; rfl, outcomes ++ [outcome],
      List.rel_append built (.cons compiled .nil), ?_⟩
    rw [nextInbounds, inbounds, List.filterMap_append]
    cases outcome <;> rfl
  · exact ⟨rfl, [], .nil, rfl⟩

theorem compileInbounds_ok {snapshot : Snapshot} {inbounds : List JsonObject}
    (done : compileInbounds std wire noun compileInbound snapshot = .ok inbounds) :
    (∃ outcomes, List.Forall₂ (fun listener outcome =>
      compileInbound listener (attached snapshot.nowMS (sortedClients snapshot) listener.key) =
        .ok outcome) (sortedListeners snapshot) outcomes ∧
    inbounds = outcomes.filterMap (fun outcome => outcome.map (·.1))) ∧
    ∀ client ∈ snapshot.clients, effective snapshot.nowMS client = true →
    ∀ key ∈ client.listeners, ∃ listener ∈ snapshot.listeners, listener.key = key := by
  simp only [compileInbounds, bind_eq_ok] at done
  obtain ⟨grouping, grouped, assembly, assembled, done⟩ := done
  split at done
  · cases done
  · rename_i known
    cases done
    obtain ⟨attachments, distinct⟩ := groupClients_ok grouped
    obtain ⟨seen, outcomes, built, inbounds⟩ := addListeners_ok assembled
    refine ⟨⟨outcomes, ?_, inbounds⟩, ?_⟩
    · simpa only [attachments, clientsOf_attachmentsOf distinct] using built
    · intro client member active key named
      have isAttached : (key, client) ∈ grouping.attachments := by
        rw [attachments, attachmentsOf, List.mem_flatMap]
        refine ⟨client, (List.mem_insertionSort _).mpr member, ?_⟩
        rw [if_pos active]
        exact List.mem_map.mpr ⟨key, named, rfl⟩
      have found := List.find?_eq_none.mp known key
        ((std.mem_rangeKeys _ _).mpr (List.mem_map_of_mem isAttached))
      rw [seen] at found
      have isSeen : key ∈ (sortedListeners snapshot).map Listener.key := by simpa using found
      obtain ⟨listener, among, same⟩ := List.mem_map.mp isSeen
      exact ⟨listener, (List.mem_insertionSort _).mp among, same⟩

theorem compileListener_ok
    {compileEnabled : Listener → ListenerSpec → List Client → Except InboundError (JsonObject × String)}
    {listener : Listener} {outcome : Option (JsonObject × String)}
    (done : compileListener std compileEnabled listener clients = .ok outcome) :
    ∃ spec, std.decodeListener listener.config = .ok spec ∧ ((spec.enabled = false ∧ outcome = none) ∨
      ∃ inbound, spec.enabled = true ∧ outcome = some inbound ∧
        compileEnabled listener spec clients = .ok inbound) := by
  unfold compileListener at done
  split at done
  · cases done
  · rename_i spec decoded
    refine ⟨spec, decoded, ?_⟩
    split at done
    · rename_i disabled
      cases done
      exact Or.inl ⟨disabled, rfl⟩
    · rename_i enabled
      obtain ⟨inbound, built, same⟩ := bind_eq_ok.mp done
      cases same
      exact Or.inr ⟨inbound, by simpa using enabled, rfl, built⟩

theorem compileUsers_ok {compileUser : Client → Except String JsonObject} {users : List Json}
    (done : compileUsers compileUser clients = .ok users) :
    List.Forall₂ (fun client user => ∃ fields, compileUser client = .ok fields ∧ user = .object fields)
    clients users := by
  induction clients generalizing users with
  | nil =>
    cases done
    exact .nil
  | cons client rest ih =>
    rw [compileUsers] at done
    split at done
    · cases done
    · rename_i fields built
      obtain ⟨others, later, same⟩ := bind_eq_ok.mp done
      cases same
      exact .cons ⟨fields, built, rfl⟩ (ih later)

end Group

end PasswallNode.Core
