import PasswallNode.Core.CompileSpecs
import PasswallNode.Core.Runtime

/-! Both compilers run the same two loops between what they check of themselves and the encoding. -/

namespace PasswallNode.Core

open Foundation Protocol State

def Alike (client other : Client) : Prop := other = { client with listeners := other.listeners }

abbrev BuildInbound : Type := Listener → List Client → Except InboundError (Option (JsonObject × String))

/-- The inbound is built without looking at the attachments of its clients. -/
def Blind (inbound : BuildInbound) : Prop :=
  ∀ (listener : Listener) {clients others : List Client}, List.Forall₂ Alike clients others →
    inbound listener clients = inbound listener others

section Users

theorem compileUsers_alike {compileUser : Client → Except String JsonObject}
    (blind : ∀ client (keys : List String), compileUser client = compileUser { client with listeners := keys })
    {clients others : List Client} (alike : List.Forall₂ Alike clients others) :
    compileUsers compileUser clients = compileUsers compileUser others := by
  induction alike with
  | nil => rfl
  | cons same _ ih =>
    rw [compileUsers, compileUsers, blind, ← same, ih, show Client.key _ = _ from congrArg Client.key same.symm]

variable {std : Stdlib}

theorem compileListener_blind
    {compileEnabled : Listener → ListenerSpec → List Client → Except InboundError (JsonObject × String)}
    (blind : ∀ listener spec {clients others},
      List.Forall₂ Alike clients others → compileEnabled listener spec clients = compileEnabled listener spec others) :
    Blind (compileListener std compileEnabled) := by
  intro listener clients others alike
  unfold compileListener
  simp only [blind listener _ alike]

theorem xray_blind {catalog : Corecatalog.Catalog} {c : Xray.Compiler} {release : Corecatalog.Release} :
    Blind (Xray.compileInbound catalog std c release) := by
  refine compileListener_blind (fun listener spec clients others alike => ?_)
  have users : compileUsers (Xray.compileUser (std.toLower (trimSpace spec.proto))) clients = _ :=
    compileUsers_alike (fun _ _ => rfl) alike
  simp only [Xray.compileEnabled, users]

theorem singbox_blind : Blind (Singbox.compileInbound std) := by
  refine compileListener_blind (fun listener spec clients others alike => ?_)
  have users : compileUsers (Singbox.compileUser std (std.toLower (trimSpace spec.proto))) clients = _ :=
    compileUsers_alike (fun _ _ => rfl) alike
  simp only [Singbox.compileEnabled, users]

end Users

def Snapshot.keys (snapshot : Snapshot) : List String := snapshot.listeners.map Listener.key

structure Dangles (snapshot : Snapshot) (client : Client) (key : String) : Prop where
  listed : client ∈ snapshot.clients
  active : effective snapshot.nowMS client = true
  attached : key ∈ client.listeners
  missing : key ∉ snapshot.keys

def unknownListener (key : String) : Failure :=
  objectError .roster key "attachment_unknown_listener" s!"attachment names missing listener {key}"

section Loops

variable {std : Stdlib} {wire : Wire} {noun : String} {inbound : BuildInbound} {snapshot other : Snapshot}
  {assembly : Assembly} {nowMS : Int} {key : String} {client : Client}

def Assembles (wire : Wire) (noun : String) (inbound : BuildInbound) (snapshot : Snapshot) (assembly : Assembly) :
    Prop :=
  ∃ grouping, forEach (groupClient wire noun snapshot.nowMS) ⟨[], []⟩ (sortedClients snapshot) = .ok grouping ∧
    forEach (addListener wire inbound grouping.attachments) ⟨[], [], []⟩ (sortedListeners snapshot) = .ok assembly

theorem mem_attachmentsOf_sorted : (key, client) ∈ attachmentsOf nowMS (sortedClients snapshot) ↔
    client ∈ snapshot.clients ∧ effective nowMS client = true ∧ key ∈ client.listeners := by
  simp only [attachmentsOf, List.mem_flatMap, sortedClients, List.mem_insertionSort]
  constructor
  · rintro ⟨source, listed, within⟩
    split at within
    · rename_i active
      obtain ⟨named, attached, same⟩ := List.mem_map.mp within
      cases same
      exact ⟨listed, active, attached⟩
    · exact absurd within List.not_mem_nil
  · rintro ⟨listed, active, attached⟩
    refine ⟨client, listed, ?_⟩
    rw [if_pos active]
    exact List.mem_map.mpr ⟨key, attached, rfl⟩

theorem seen_iff {attachments : List (String × Client)}
    (assembled : forEach (addListener wire inbound attachments) ⟨[], [], []⟩ (sortedListeners snapshot) = .ok assembly)
    (key : String) : key ∈ assembly.seen ↔ key ∈ snapshot.keys := by
  rw [(addListeners_ok assembled).1, Snapshot.keys, List.mem_map, List.mem_map]
  simp only [sortedListeners, List.mem_insertionSort]

theorem mem_rangeKeys_of_grouped {grouping : Grouping}
    (grouped : forEach (groupClient wire noun snapshot.nowMS) ⟨[], []⟩ (sortedClients snapshot) = .ok grouping) :
    key ∈ std.rangeKeys (grouping.attachments.map (·.1)) ↔
    ∃ client ∈ snapshot.clients, effective snapshot.nowMS client = true ∧ key ∈ client.listeners := by
  rw [std.mem_rangeKeys, (groupClients_ok grouped).1, List.mem_map]
  constructor
  · rintro ⟨⟨_, client⟩, member, rfl⟩
    exact ⟨client, mem_attachmentsOf_sorted.mp member⟩
  · rintro ⟨client, named⟩
    exact ⟨(key, client), mem_attachmentsOf_sorted.mpr named, rfl⟩

theorem compileInbounds_of_assembles (std : Stdlib) (assembles : Assembles wire noun inbound snapshot assembly) :
    ((∀ client key, ¬ Dangles snapshot client key) ∧
    compileInbounds std wire noun inbound snapshot = .ok assembly.inbounds) ∨
    ∃ client key, Dangles snapshot client key ∧
    compileInbounds std wire noun inbound snapshot = .error (unknownListener key) := by
  obtain ⟨grouping, grouped, assembled⟩ := assembles
  cases found : (std.rangeKeys (grouping.attachments.map (·.1))).find? (fun key => decide (key ∉ assembly.seen)) with
  | none =>
    refine .inl ⟨?_, bind_eq_ok.mpr ⟨grouping, grouped, bind_eq_ok.mpr ⟨assembly, assembled, by rw [found]⟩⟩⟩
    rintro client key ⟨listed, active, attached, missing⟩
    have known := List.find?_eq_none.mp found key
      ((mem_rangeKeys_of_grouped grouped).mpr ⟨client, listed, active, attached⟩)
    exact known (decide_eq_true (mt (seen_iff assembled key).mp missing))
  | some key =>
    obtain ⟨client, listed, active, attached⟩ :=
      (mem_rangeKeys_of_grouped grouped).mp (List.mem_of_find?_eq_some found)
    have missing : key ∉ assembly.seen := by simpa using List.find?_some found
    refine .inr ⟨client, key, ⟨listed, active, attached, mt (seen_iff assembled key).mpr missing⟩, ?_⟩
    refine bind_eq_error.mpr (.inr ⟨grouping, grouped, bind_eq_error.mpr (.inr ⟨assembly, assembled, ?_⟩)⟩)
    rw [found]
    rfl

theorem assembles_of_ok {inbounds : List JsonObject}
    (done : compileInbounds std wire noun inbound snapshot = .ok inbounds) :
    ∃ assembly, Assembles wire noun inbound snapshot assembly ∧ assembly.inbounds = inbounds ∧
    ∀ client key, ¬ Dangles snapshot client key := by
  obtain ⟨grouping, grouped, assembly, assembled, -⟩ := by
    simpa only [compileInbounds, bind_eq_ok] using done
  have assembles : Assembles wire noun inbound snapshot assembly := ⟨grouping, grouped, assembled⟩
  rcases compileInbounds_of_assembles std assembles with ⟨satisfied, built⟩ | ⟨client, key, -, failed⟩
  · exact ⟨assembly, assembles, Except.ok.inj (built.symm.trans done), satisfied⟩
  · cases failed.symm.trans done

theorem attachListeners_of_nodup (distinct : client.listeners.Nodup) (before : List (String × Client)) :
    ∃ final, forEach (attachListener client) ([], before) client.listeners = .ok final := by
  apply forEach_succeeds (fun state rest => (state.1 ++ rest).Nodup)
  · intro state key rest apart
    have fresh : key ∉ state.1 := fun again =>
      (List.nodup_append.mp apart).2.2 key again key List.mem_cons_self rfl
    refine ⟨_, bind_eq_ok.mpr ⟨(), rejectIf_eq_ok.mpr fresh, rfl⟩, ?_⟩
    simpa using apart
  · simpa using distinct

theorem groupClient_alike {state next mirror : Grouping} {keys : List String}
    (distinct : effective nowMS client = true → keys.Nodup) (same : state.usernames = mirror.usernames)
    (grouped : groupClient wire noun nowMS state client = .ok next) :
    ∃ after, groupClient wire noun nowMS mirror { client with listeners := keys } = .ok after ∧
      next.usernames = after.usernames := by
  simp only [groupClient, bind_eq_ok] at grouped ⊢
  obtain ⟨_, keyed, _, subjected, _, flowed, _, named, grouped⟩ := grouped
  rw [same] at grouped
  split at grouped
  · cases grouped
  · next free =>
      split at grouped
      · next idle =>
          cases grouped
          refine ⟨⟨mirror.usernames ++ [(trimSpace client.credentials.username, client.key)], mirror.attachments⟩,
            ⟨(), keyed, (), subjected, (), flowed, (), named, ?_⟩, rfl⟩
          simp only [free]
          exact if_pos idle
      · next active =>
          obtain ⟨_, -, built⟩ := bind_eq_ok.mp grouped
          cases built
          have once : { client with listeners := keys : Client }.listeners.Nodup := distinct (by simpa using active)
          obtain ⟨final, attaches⟩ := attachListeners_of_nodup once mirror.attachments
          refine ⟨⟨mirror.usernames ++ [(trimSpace client.credentials.username, client.key)], final.2⟩,
            ⟨(), keyed, (), subjected, (), flowed, (), named, ?_⟩, rfl⟩
          simp only [free]
          exact (if_neg active).trans (bind_eq_ok.mpr ⟨final, attaches, rfl⟩)

theorem assembles_alike (blind : Blind inbound) (clock : other.nowMS = snapshot.nowMS)
    (listeners : sortedListeners other = sortedListeners snapshot)
    (clients : List.Forall₂ (fun client image => Alike client image ∧
    (effective snapshot.nowMS image = true → image.listeners.Nodup)) (sortedClients snapshot) (sortedClients other))
    (attaches : ∀ listener ∈ snapshot.listeners, List.Forall₂ Alike
    (attached snapshot.nowMS (sortedClients snapshot) listener.key)
    (attached snapshot.nowMS (sortedClients other) listener.key))
    (assembles : Assembles wire noun inbound snapshot assembly) : Assembles wire noun inbound other assembly := by
  obtain ⟨grouping, grouped, assembled⟩ := assembles
  have follows : ∃ last, forEach (groupClient wire noun snapshot.nowMS) ⟨[], []⟩ (sortedClients other) = .ok last ∧
      grouping.usernames = last.usernames := by
    refine forEach_follows (fun state mirror : Grouping => state.usernames = mirror.usernames) ?_ clients rfl grouped
    rintro state mirror next client image same ⟨alike, distinct⟩ passed
    rw [alike] at distinct ⊢
    exact groupClient_alike distinct same passed
  obtain ⟨last, groupedToo, -⟩ := follows
  refine ⟨last, by rw [clock]; exact groupedToo, ?_⟩
  obtain ⟨attachments, one⟩ := groupClients_ok grouped
  obtain ⟨attachmentsToo, oneToo⟩ := groupClients_ok groupedToo
  rw [listeners, ← assembled]
  refine forEach_congr (fun state listener member => ?_) _
  have same := attaches listener ((List.mem_insertionSort _).mp member)
  rw [← clientsOf_attachmentsOf one, ← clientsOf_attachmentsOf oneToo, ← attachments, ← attachmentsToo] at same
  simp only [addListener, blind listener same]

end Loops

/-- What a compiler has settled when its loops start: how they build an inbound, and what is left
to do with their inbounds. -/
structure Stage where
  noun : String
  /-- What an inbound has of one client. -/
  user : ListenerSpec → Client → Except String JsonObject
  inbound : BuildInbound
  finish : List JsonObject → Except Failure Artifact

def Compiler.prepare (options : Options) : Compiler → Except Failure Stage
  | .xray c => do
      let release ← failWith (fun err => .new ("resolve Xray core release: " ++ err.text))
        (Xray.resolveCoreRelease options.catalog c)
      let apiListen := if trimSpace c.apiListen = "" then Xray.defaultAPIListen else trimSpace c.apiListen
      failWith (fun text => .new ("xray api listen: " ++ text)) (validateLoopbackEndpoint options.std apiListen)
      let logLevel := if trimSpace c.logLevel = "" then "warning" else trimSpace c.logLevel
      rejectIf (Xray.validLogLevel logLevel = false) (.new s!"xray log level {logLevel.quote} is invalid")
      .ok ⟨"username/email", fun spec => Xray.compileUser (options.std.toLower (trimSpace spec.proto)),
        Xray.compileInbound options.catalog options.std c release,
        fun inbounds => artifactOf options.std "xray" (Xray.document c logLevel apiListen inbounds)⟩
  | .singbox c => do
      let apiListen := trimSpace c.apiListen
      failWith (fun text => .new ("sing-box API listen: " ++ text)) (validateLoopbackEndpoint options.std apiListen)
      rejectIf (trimSpace c.apiSecret ≠ c.apiSecret ∨ c.apiSecret.utf8ByteSize < 32)
        (.new "sing-box API secret must be at least 32 canonical characters")
      let logLevel := if trimSpace c.logLevel = "" then "warn" else trimSpace c.logLevel
      rejectIf (Singbox.validLogLevel logLevel = false) (.new s!"sing-box log level {logLevel.quote} is invalid")
      let (apiHost, apiPort) := Singbox.apiEndpoint options.std apiListen
      .ok ⟨"username", fun spec => Singbox.compileUser options.std (options.std.toLower (trimSpace spec.proto)),
        Singbox.compileInbound options.std,
        fun inbounds => artifactOf options.std "sing-box" (Singbox.document c logLevel apiHost apiPort inbounds)⟩

section Stages

variable {options : Options} {compiler : Compiler} {stage : Stage}

theorem compile_eq (options : Options) (compiler : Compiler) (snapshot : Snapshot) :
    compiler.compile options snapshot = compiler.prepare options >>= fun stage =>
    compileInbounds options.std options.wire stage.noun stage.inbound snapshot >>= stage.finish := by
  cases compiler with
  | xray c =>
    simp only [Compiler.compile, Compiler.prepare, Xray.compile, Xray.compileDocument, bind_assoc]
    rfl
  | singbox c =>
    simp only [Compiler.compile, Compiler.prepare, Singbox.compile, Singbox.compileDocument, bind_assoc]
    rfl

/-- A stage finishes with the encoding of a document, and its inbounds are those of one of the two compilers. -/
theorem prepare_eq_ok (prepared : compiler.prepare options = .ok stage) :
    (∀ inbounds, ∃ engine document, stage.finish inbounds = artifactOf options.std engine document) ∧
    ((∃ c release, stage.inbound = Xray.compileInbound options.catalog options.std c release ∧
      stage.user = fun spec => Xray.compileUser (options.std.toLower (trimSpace spec.proto))) ∨
    (stage.inbound = Singbox.compileInbound options.std ∧
      stage.user = fun spec => Singbox.compileUser options.std (options.std.toLower (trimSpace spec.proto)))) := by
  cases compiler with
  | xray c =>
    simp only [Compiler.prepare, bind_eq_ok] at prepared
    obtain ⟨release, -, -, -, -, -, same⟩ := prepared
    cases same
    exact ⟨fun _ => ⟨_, _, rfl⟩, .inl ⟨c, release, rfl, rfl⟩⟩
  | singbox c =>
    simp only [Compiler.prepare, bind_eq_ok] at prepared
    obtain ⟨-, -, -, -, -, -, same⟩ := prepared
    cases same
    exact ⟨fun _ => ⟨_, _, rfl⟩, .inr ⟨rfl, rfl⟩⟩

theorem prepare_blind (prepared : compiler.prepare options = .ok stage) : Blind stage.inbound := by
  obtain ⟨-, ⟨c, release, inbound, -⟩ | ⟨inbound, -⟩⟩ := prepare_eq_ok prepared
  · rw [inbound]
    exact xray_blind
  · rw [inbound]
    exact singbox_blind

end Stages

end PasswallNode.Core
