import PasswallNode.Core.Pipeline

/-! The order of a snapshot is erased. -/

namespace PasswallNode.Core

open Foundation Protocol State

section Sorting

variable {α : Type} (key : α → String) {items : List α} {related : α → α → Prop} {images : List α}

theorem insertionSort_perm {others : List α} (distinct : (items.map key).Nodup) (same : items.Perm others) :
    items.insertionSort (fun a b => key a ≤ key b) = others.insertionSort (fun a b => key a ≤ key b) := by
  have sorted (list : List α) : (list.insertionSort (fun a b => key a ≤ key b)).Pairwise (fun a b => key a ≤ key b) :=
    List.pairwise_insertionSort _ list
  refine List.Perm.eq_of_pairwise (fun a b first second below above => ?_) (sorted items) (sorted others)
    ((List.perm_insertionSort _ _).trans (same.trans (List.perm_insertionSort _ _).symm))
  have member := same.mem_iff.mpr ((List.mem_insertionSort _).mp second)
  exact List.inj_on_of_nodup_map distinct ((List.mem_insertionSort _).mp first) member (String.le_antisymm below above)

theorem insertionSort_forall₂ (keys : ∀ a b, related a b → key b = key a) (all : List.Forall₂ related items images) :
    List.Forall₂ related (items.insertionSort (fun a b => key a ≤ key b))
    (images.insertionSort (fun a b => key a ≤ key b)) := by
  have insert {a b : α} {list other : List α} (first : related a b) (rest : List.Forall₂ related list other) :
      List.Forall₂ related (list.orderedInsert (fun a b => key a ≤ key b) a)
        (other.orderedInsert (fun a b => key a ≤ key b) b) := by
    induction rest with
    | nil => exact .cons first .nil
    | cons next rest ih =>
      simp only [List.orderedInsert_cons, keys _ _ first, keys _ _ next]
      split
      · exact .cons first (.cons next rest)
      · exact .cons next ih
  induction all with
  | nil => exact .nil
  | cons first _ ih => exact insert first ih

end Sorting

def Reattached (client image : Client) : Prop := Alike client image ∧ client.listeners.Perm image.listeners

/-- The snapshot with its listeners, its clients and the attachments of each client in another order. -/
structure Reordered (snapshot other : Snapshot) : Prop where
  clock : other.nowMS = snapshot.nowMS
  listeners : snapshot.listeners.Perm other.listeners
  clients : ∃ images, List.Forall₂ Reattached snapshot.clients images ∧ images.Perm other.clients

section Reordered

variable {std : Stdlib} {wire : Wire} {noun : String} {inbound : BuildInbound} {snapshot other : Snapshot}
  {client image : Client}

theorem Reattached.symm (same : Reattached client image) : Reattached image client := by
  refine ⟨?_, same.2.symm⟩
  rw [same.1]
  rfl

theorem Reattached.key (same : Reattached client image) : image.key = client.key := by
  rw [same.1]

theorem Reattached.effective (same : Reattached client image) (nowMS : Int) :
    effective nowMS image = effective nowMS client := by
  rw [same.1]
  rfl

structure SameSorted (snapshot other : Snapshot) : Prop where
  clock : other.nowMS = snapshot.nowMS
  listeners : sortedListeners other = sortedListeners snapshot
  clients : List.Forall₂ Reattached (sortedClients snapshot) (sortedClients other)

theorem SameSorted.symm (same : SameSorted snapshot other) : SameSorted other snapshot :=
  ⟨same.clock.symm, same.listeners.symm, same.clients.flip.imp (fun _ _ => Reattached.symm)⟩

theorem Reordered.sorted (reordered : Reordered snapshot other) (listeners : snapshot.keys.Nodup)
    (clients : (snapshot.clients.map Client.key).Nodup) : SameSorted snapshot other := by
  obtain ⟨images, reattached, same⟩ := reordered.clients
  have keys : images.map Client.key = snapshot.clients.map Client.key :=
    (List.forall₂_eq_eq_eq ▸ List.rel_map (fun _ _ same => Reattached.key same) reattached.flip :)
  refine ⟨reordered.clock, (insertionSort_perm Listener.key listeners reordered.listeners).symm, ?_⟩
  rw [sortedClients, sortedClients, ← insertionSort_perm Client.key (keys ▸ clients) same]
  exact insertionSort_forall₂ Client.key (fun _ _ => Reattached.key) reattached

theorem attached_reattached {nowMS : Int} (key : String) {clients images : List Client}
    (same : List.Forall₂ Reattached clients images) :
    List.Forall₂ Alike (attached nowMS clients key) (attached nowMS images key) := by
  refine (List.rel_filter (fun client image same => ?_) same).imp (fun _ _ same => same.1)
  simp only [same.effective, Bool.and_eq_true, decide_eq_true_eq, same.2.mem_iff]

theorem dangles_of_sorted (same : SameSorted snapshot other) {key : String} (dangles : Dangles snapshot client key) :
    ∃ image, Dangles other image key := by
  obtain ⟨listed, active, attached, missing⟩ := dangles
  obtain ⟨image, member, reattached⟩ := forall₂_exists same.clients ((List.mem_insertionSort _).mpr listed)
  refine ⟨image, (List.mem_insertionSort _).mp member, ?_, reattached.2.mem_iff.mp attached, ?_⟩
  · rw [same.clock, reattached.effective, active]
  · have sorted : (sortedListeners other).Perm snapshot.listeners := same.listeners ▸ List.perm_insertionSort _ _
    have perm := (List.perm_insertionSort _ other.listeners).symm.trans sorted
    exact fun known => missing ((perm.map Listener.key).mem_iff.mp known)

theorem compileInbounds_of_sorted (blind : Blind inbound) (same : SameSorted snapshot other)
    {inbounds : List JsonObject}
    (done : compileInbounds std wire noun inbound snapshot = .ok inbounds) :
    compileInbounds std wire noun inbound other = .ok inbounds := by
  obtain ⟨assembly, assembles, rfl, satisfied⟩ := assembles_of_ok done
  have assemblesToo : Assembles wire noun inbound other assembly := by
    refine assembles_alike blind same.clock same.listeners ?_ (fun _ _ => attached_reattached _ same.clients) assembles
    obtain ⟨grouping, grouped, -⟩ := assembles
    have once := (groupClients_ok grouped).2
    refine List.forall₂_iff_get.mpr ⟨same.clients.length_eq, fun i below belowToo => ?_⟩
    have reattached := same.clients.get below belowToo
    refine ⟨reattached.1, fun active => reattached.2.nodup_iff.mp (once _ (List.get_mem _ _) ?_)⟩
    rw [← reattached.effective, active]
  rcases compileInbounds_of_assembles std assemblesToo with ⟨-, built⟩ | ⟨image, key, dangles, -⟩
  · exact built
  · obtain ⟨client, dangling⟩ := dangles_of_sorted same.symm dangles
    exact absurd dangling (satisfied client key)

end Reordered

/-- A compiled core is restarted for a change of what it serves only, never for a change of order. -/
theorem reordered_compiles_alike (options : Options) (compiler : Compiler) {snapshot other : Snapshot}
    (listeners : (snapshot.listeners.map Listener.key).Nodup) (clients : (snapshot.clients.map Client.key).Nodup)
    (reordered : Reordered snapshot other) (artifact : Artifact) :
    compiler.compile options snapshot = .ok artifact ↔ compiler.compile options other = .ok artifact := by
  have same := reordered.sorted listeners clients
  simp only [compile_eq, bind_eq_ok]
  constructor
  · rintro ⟨stage, prepared, inbounds, looped, encoded⟩
    exact ⟨stage, prepared, inbounds, compileInbounds_of_sorted (prepare_blind prepared) same looped, encoded⟩
  · rintro ⟨stage, prepared, inbounds, looped, encoded⟩
    exact ⟨stage, prepared, inbounds, compileInbounds_of_sorted (prepare_blind prepared) same.symm looped, encoded⟩

def pairSnapshot (keys : List String) : Snapshot where
  listeners := [⟨"l1", [1]⟩, ⟨"l2", [2]⟩]
  clients := [⟨"c1", "s1", true, 0, ⟨"ann", "u1", "", ""⟩, keys⟩, ⟨"c2", "s2", true, 0, ⟨"bob", "u2", "", ""⟩, ["l2"]⟩]
  nowMS := 5

theorem pairSnapshot_reordered :
    ((Compiler.xray ⟨"", "", "", "", "", false⟩).compile (.transparent [] [] [])
      (pairSnapshot ["l1", "l2"])).isOk = true ∧
    ∀ artifact,
      (Compiler.xray ⟨"", "", "", "", "", false⟩).compile (.transparent [] [] [])
      (pairSnapshot ["l1", "l2"]) = .ok artifact ↔
        (Compiler.xray ⟨"", "", "", "", "", false⟩).compile (.transparent [] [] [])
          ⟨(pairSnapshot []).listeners.reverse, (pairSnapshot ["l2", "l1"]).clients.reverse, 5⟩ = .ok artifact := by
  refine ⟨by decide +kernel, reordered_compiles_alike _ _ (by decide) (by decide) ⟨rfl, .swap _ _ _, ?_⟩⟩
  refine ⟨(pairSnapshot ["l2", "l1"]).clients, ?_, .swap _ _ _⟩
  exact .cons ⟨rfl, .swap _ _ _⟩ (.cons ⟨rfl, .refl _⟩ .nil)

end PasswallNode.Core
