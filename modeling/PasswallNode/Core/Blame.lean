import Mathlib.Tactic.FinCases
import PasswallNode.Core.Round

/-! Which object a failed compilation blames, and what the round then answers for each object. -/

namespace PasswallNode.Core

open Foundation Protocol State Agent

def username (client : Client) : String := trimSpace client.credentials.username

inductive Ungrouped (wire : Wire) (nowMS : Int) (taken : List String) (client : Client) : Prop where
  | key (text : String) (unreadable : wire.clientRowID client.key = .error text)
  | subject (text : String) (unreadable : wire.subjectRowID client.subject = .error text)
  | flow (unsupported : client.credentials.flow ≠ "" ∧ client.credentials.flow ≠ "xtls-rprx-vision")
  | nameless (blank : username client = "")
  | namesake (member : username client ∈ taken)
  | repeats (active : effective nowMS client = true) (twice : ¬ client.listeners.Nodup)

section Faults

variable (options : Options) (stage : Stage) (snapshot : Snapshot) {wire : Wire} {noun : String} {nowMS : Int}
  {state next : Grouping} {client : Client} {failure : Failure}

/-- Why a client cannot be compiled: what it is, a name that another client has, or what it is
attached to. -/
inductive Faulty (client : Client) : Prop where
  | ungrouped (others : List Client) (listed : (client :: others).Subperm snapshot.clients)
      (why : Ungrouped options.wire snapshot.nowMS (others.map username) client)
  | refused (listener : Listener) (spec : ListenerSpec) (text : String) (listed : listener ∈ snapshot.listeners)
      (active : effective snapshot.nowMS client = true) (attached : listener.key ∈ client.listeners)
      (decoded : options.std.decodeListener listener.config = .ok spec) (enabled : spec.enabled = true)
      (failed : stage.user spec client = .error text)
  | dangles (key : String) (dangles : Dangles snapshot client key)

def Blames (object : ObjectError) : Prop :=
  (object.stream = .roster ∧ ∃ client ∈ snapshot.clients,
    client.key = object.key ∧ Faulty options stage snapshot client) ∨
    (object.stream = .config ∧ object.key ∈ snapshot.keys)

theorem requireRowID_eq_error {parsed : Except String Nat} {fail : String → Failure}
    (failed : requireRowID parsed fail = .error failure) : ∃ text, parsed = .error text ∧ fail text = failure := by
  cases parsed with
  | ok id => cases failed
  | error text =>
    cases failed
    exact ⟨text, rfl, rfl⟩

theorem groupClient_usernames (grouped : groupClient wire noun nowMS state client = .ok next) :
    next.usernames = state.usernames ++ [(username client, client.key)] := by
  simp only [groupClient, bind_eq_ok] at grouped
  obtain ⟨-, -, -, -, -, -, -, -, grouped⟩ := grouped
  split at grouped
  · cases grouped
  · split at grouped
    · cases grouped
      rfl
    · obtain ⟨_, -, built⟩ := bind_eq_ok.mp grouped
      cases built
      rfl

theorem groupClients_usernames {clients : List Client}
    (done : forEach (groupClient wire noun nowMS) ⟨[], []⟩ clients = .ok next) :
    next.usernames.map (·.1) = clients.map username := by
  refine forEach_collects (fun passed state => state.usernames.map (·.1) = passed.map username) ?_ rfl done
  intro passed state client next held grouped
  rw [groupClient_usernames grouped, List.map_append, held, List.map_append]
  rfl

theorem groupClient_eq_error (failed : groupClient wire noun nowMS state client = .error failure) :
    (∃ text, failure = compileClientError client.key text) ∧
      Ungrouped wire nowMS (state.usernames.map (·.1)) client := by
  simp only [groupClient, bind_eq_error, rejectIf_eq_error] at failed
  rcases failed with unread | ⟨_, -, unread | ⟨_, -, ⟨flow, rfl⟩ | ⟨_, -, ⟨blank, rfl⟩ | ⟨_, -, failed⟩⟩⟩⟩
  · obtain ⟨text, unreadable, rfl⟩ := requireRowID_eq_error unread
    exact ⟨⟨_, rfl⟩, .key text unreadable⟩
  · obtain ⟨text, unreadable, rfl⟩ := requireRowID_eq_error unread
    exact ⟨⟨_, rfl⟩, .subject text unreadable⟩
  · exact ⟨⟨_, rfl⟩, .flow flow⟩
  · exact ⟨⟨_, rfl⟩, .nameless blank⟩
  · split at failed
    · next name other found =>
        cases failed
        have same : name = username client := by
          have equal := List.find?_some found
          exact of_decide_eq_true equal
        exact ⟨⟨_, rfl⟩, .namesake (same ▸ List.mem_map_of_mem (List.mem_of_find?_eq_some found))⟩
    · split at failed
      · cases failed
      · next active =>
          rcases bind_eq_error.mp failed with repeated | ⟨_, -, impossible⟩
          · obtain ⟨_, key, _, before, -, -, again⟩ := forEach_eq_error repeated
            simp only [attachListener, bind_eq_error, rejectIf_eq_error] at again
            obtain ⟨-, rfl⟩ := again.resolve_right (by rintro ⟨_, -, impossible⟩; cases impossible)
            refine ⟨⟨_, rfl⟩, .repeats (by simpa using active) (fun once => ?_)⟩
            obtain ⟨final, done⟩ := attachListeners_of_nodup once state.attachments
            rw [done] at repeated
            cases repeated
          · cases impossible

theorem groupClients_eq_error {snapshot : Snapshot}
    (failed : forEach (groupClient wire noun snapshot.nowMS) ⟨[], []⟩ (sortedClients snapshot) = .error failure) :
    ∃ client ∈ snapshot.clients, (∃ text, failure = compileClientError client.key text) ∧
    ∃ others, (client :: others).Subperm snapshot.clients ∧
      Ungrouped wire snapshot.nowMS (others.map username) client := by
  obtain ⟨passed, client, rest, before, whole, done, fails⟩ := forEach_eq_error failed
  obtain ⟨named, why⟩ := groupClient_eq_error fails
  have perm : (passed ++ client :: rest).Perm snapshot.clients := whole ▸ List.perm_insertionSort _ _
  refine ⟨client, perm.mem_iff.mp (by simp), named, passed, ?_, groupClients_usernames done ▸ why⟩
  have among : (client :: passed).Subperm (client :: (passed ++ rest)) :=
    (List.sublist_append_left (client :: passed) rest).subperm
  exact (List.perm_middle.symm.trans perm).subperm_left.mp among

end Faults

section Inbounds

variable {options : Options} {snapshot : Snapshot} {listener : Listener} {clients : List Client} {failure : Failure}
  {user : Client → Except String JsonObject} {call : Except String α} {raw : String} {inbound : JsonObject}
  {spec : ListenerSpec} {α : Type} {catalog : Corecatalog.Catalog} {std : Stdlib} {c : Xray.Compiler}
  {release : Corecatalog.Release} {compiler : Compiler} {stage : Stage}

def Own : InboundError → Prop
  | .object _ => False
  | _ => True

theorem compileUsers_eq_error {err : InboundError} (failed : compileUsers user clients = .error err) :
    ∃ client ∈ clients, ∃ text, user client = .error text ∧ err = .object (compileClientError client.key text) := by
  induction clients with
  | nil => cases failed
  | cons client rest ih =>
    rw [compileUsers] at failed
    split at failed
    · next text refused =>
        cases failed
        exact ⟨client, List.mem_cons_self, text, refused, rfl⟩
    · rcases bind_eq_error.mp failed with later | ⟨_, -, impossible⟩
      · obtain ⟨other, member, why⟩ := ih later
        exact ⟨other, List.mem_cons_of_mem _ member, why⟩
      · cases impossible

theorem plainly_own {context : String} : FailsWith Own (plainly context call) := by
  intro err failed
  cases call with
  | ok a => cases failed
  | error text =>
    cases failed
    trivial

theorem failWith_own : FailsWith Own (failWith .plain call) := by
  intro err failed
  cases call with
  | ok a => cases failed
  | error text =>
    cases failed
    trivial

/-- An error of an inbound is the listener's own, or that of a client that it has no user for. -/
def Refuses (user : Client → Except String JsonObject) (clients : List Client) (err : InboundError) : Prop :=
  Own err ∨ ∃ client ∈ clients, ∃ text, user client = .error text ∧ err = .object (compileClientError client.key text)

theorem refuses_own {call : Except InboundError α} (own : FailsWith Own call) :
    FailsWith (Refuses user clients) call := fun err failed => .inl (own err failed)

theorem applyRealityCompatibility_own {stream : JsonObject} :
    FailsWith Own (Xray.applyRealityCompatibility catalog std c release stream) := by
  unfold Xray.applyRealityCompatibility
  split
  · exact failsWith_ok _
  · split
    · exact failsWith_error trivial
    · exact failsWith_ok _
    · split
      · exact failsWith_error trivial
      · exact failsWith_ok _
    · split
      · exact failsWith_ok _
      · exact failsWith_error trivial

theorem addObject_own {name : String} : FailsWith Own (Xray.addObject std name raw inbound) := by
  refine failsWith_bind plainly_own (fun object _ => ?_)
  cases object <;> exact failsWith_ok _

theorem addStreamSettings_own : FailsWith Own (Xray.addStreamSettings catalog std c release raw inbound) := by
  refine failsWith_bind plainly_own (fun stream _ => ?_)
  cases stream with
  | none => exact failsWith_ok _
  | some stream => exact failsWith_bind applyRealityCompatibility_own (fun _ _ => failsWith_ok _)

theorem xray_refuses : FailsWith (Refuses (Xray.compileUser (std.toLower (trimSpace spec.proto))) clients)
    (Xray.compileEnabled catalog std c release listener spec clients) := by
  refine failsWith_bind (failsWith_rejectIf (.inl trivial)) (fun _ _ => ?_)
  refine failsWith_bind (failsWith_rejectIf (.inl trivial)) (fun _ _ => ?_)
  refine failsWith_bind (refuses_own plainly_own) (fun _ _ => ?_)
  refine failsWith_bind (fun err failed => .inr (compileUsers_eq_error failed)) (fun _ _ => ?_)
  refine failsWith_bind (refuses_own addStreamSettings_own) (fun _ _ => ?_)
  refine failsWith_bind (refuses_own addObject_own) (fun _ _ => ?_)
  exact failsWith_bind (refuses_own addObject_own) (fun _ _ => failsWith_ok _)

theorem singbox_refuses : FailsWith (Refuses (Singbox.compileUser std (std.toLower (trimSpace spec.proto))) clients)
    (Singbox.compileEnabled std listener spec clients) := by
  refine failsWith_bind (failsWith_rejectIf (.inl trivial)) (fun _ _ => ?_)
  refine failsWith_bind (failsWith_rejectIf (.inl trivial)) (fun _ _ => ?_)
  refine failsWith_bind (failsWith_rejectIf (.inl trivial)) (fun _ _ => ?_)
  refine failsWith_bind (failsWith_rejectIf (.inl trivial)) (fun _ _ => ?_)
  refine failsWith_bind (refuses_own plainly_own) (fun _ _ => ?_)
  refine failsWith_bind (fun err failed => .inr (compileUsers_eq_error failed)) (fun _ _ => ?_)
  refine failsWith_bind (refuses_own failWith_own) (fun _ _ => ?_)
  refine failsWith_bind (refuses_own plainly_own) (fun _ _ => ?_)
  refine failsWith_bind (refuses_own failWith_own) (fun _ _ => ?_)
  refine failsWith_bind (refuses_own failWith_own) (fun _ _ => ?_)
  exact failsWith_bind (refuses_own failWith_own) (fun _ _ => failsWith_ok _)

theorem compileListener_refuses {user : ListenerSpec → Client → Except String JsonObject}
    {compileEnabled : Listener → ListenerSpec → List Client → Except InboundError (JsonObject × String)}
    (refuses : ∀ spec, FailsWith (Refuses (user spec) clients) (compileEnabled listener spec clients))
    (failed : compileListener std compileEnabled listener clients = .error (.object failure)) :
    ∃ client ∈ clients, ∃ spec text, (std.decodeListener listener.config = .ok spec ∧ spec.enabled = true) ∧
    user spec client = .error text ∧ failure = compileClientError client.key text := by
  unfold compileListener at failed
  split at failed
  · cases failed
  · next spec decoded =>
      split at failed
      · cases failed
      · next enabled =>
          rcases bind_eq_error.mp failed with refused | ⟨_, -, impossible⟩
          · obtain ⟨client, member, text, unfit, same⟩ := (refuses spec _ refused).resolve_left id
            exact ⟨client, member, spec, text, ⟨decoded, by simpa using enabled⟩, unfit, InboundError.object.inj same⟩
          · cases impossible

theorem prepare_refuses (prepared : compiler.prepare options = .ok stage) {listener : Listener} {clients : List Client}
    (failed : stage.inbound listener clients = .error (.object failure)) :
    ∃ client ∈ clients, ∃ spec text, (options.std.decodeListener listener.config = .ok spec ∧ spec.enabled = true) ∧
    stage.user spec client = .error text ∧ failure = compileClientError client.key text := by
  obtain ⟨-, ⟨c, release, inbound, user⟩ | ⟨inbound, user⟩⟩ := prepare_eq_ok prepared
  · rw [inbound] at failed
    rw [user]
    exact compileListener_refuses (fun _ => xray_refuses) failed
  · rw [inbound] at failed
    rw [user]
    exact compileListener_refuses (fun _ => singbox_refuses) failed

theorem prepare_nameless : FailsWith (fun failure => failure.object = none) (compiler.prepare options) := by
  have nameless {α ε : Type} {wrap : ε → String} {call : Except ε α} :
      FailsWith (fun failure : Failure => failure.object = none) (failWith (fun err => .new (wrap err)) call) := by
    intro err failed
    cases call with
    | ok a => cases failed
    | error text =>
      cases failed
      rfl
  cases compiler with
  | xray c =>
    refine failsWith_bind nameless (fun _ _ => failsWith_bind nameless (fun _ _ => ?_))
    exact failsWith_bind (failsWith_rejectIf rfl) (fun _ _ => failsWith_ok _)
  | singbox c =>
    refine failsWith_bind nameless (fun _ _ => ?_)
    refine failsWith_bind (failsWith_rejectIf rfl) (fun _ _ => ?_)
    exact failsWith_bind (failsWith_rejectIf rfl) (fun _ _ => failsWith_ok _)

theorem finish_nameless (prepared : compiler.prepare options = .ok stage) (inbounds : List JsonObject) :
    FailsWith (fun failure => failure.object = none) (stage.finish inbounds) := by
  obtain ⟨engine, document, finishes⟩ := (prepare_eq_ok prepared).1 inbounds
  rw [finishes, artifactOf]
  split
  · exact failsWith_error rfl
  · exact failsWith_ok _

theorem addListener_blames (prepared : compiler.prepare options = .ok stage) {grouping : Grouping}
    (grouped : forEach (groupClient options.wire stage.noun snapshot.nowMS) ⟨[], []⟩ (sortedClients snapshot) =
    .ok grouping) {state : Assembly} {listener : Listener} (listed : listener ∈ snapshot.listeners)
    (failed : addListener options.wire stage.inbound grouping.attachments state listener = .error failure) :
    ∃ object, failure.object = some object ∧ Blames options stage snapshot object := by
  have own (code text : String) : ∃ object, (objectError .config listener.key code text).object = some object ∧
      Blames options stage snapshot object := ⟨_, rfl, .inr ⟨rfl, List.mem_map_of_mem listed⟩⟩
  simp only [addListener, bind_eq_error, rejectIf_eq_error] at failed
  rcases failed with unread | ⟨_, -, ⟨-, rfl⟩ | ⟨_, -, failed⟩⟩
  · obtain ⟨text, -, rfl⟩ := requireRowID_eq_error unread
    exact own _ _
  · exact own _ _
  · split at failed
    · next err built =>
        cases failed
        cases err with
        | rejected code text => exact own _ _
        | plain text => exact own _ _
        | object failure =>
          obtain ⟨client, member, spec, text, ⟨decoded, enabled⟩, unfit, rfl⟩ := prepare_refuses prepared built
          obtain ⟨attachments, once⟩ := groupClients_ok grouped
          rw [attachments, clientsOf_attachmentsOf once, attached, List.mem_filter, Bool.and_eq_true,
            decide_eq_true_eq] at member
          have among : client ∈ snapshot.clients := (List.mem_insertionSort _).mp member.1
          exact ⟨_, rfl, .inl ⟨rfl, client, among, rfl,
            .refused listener spec text listed member.2.1 member.2.2 decoded enabled unfit⟩⟩
    · cases failed
    · split at failed
      · cases failed
        exact own _ _
      · cases failed

theorem compileInbounds_eq_error (prepared : compiler.prepare options = .ok stage)
    (failed : compileInbounds options.std options.wire stage.noun stage.inbound snapshot = .error failure) :
    (∃ object, failure.object = some object ∧ Blames options stage snapshot object) ∨
    (∃ assembly, Assembles options.wire stage.noun stage.inbound snapshot assembly) ∧
      ∃ client key, Dangles snapshot client key := by
  rcases bind_eq_error.mp failed with ungrouped | ⟨grouping, grouped, later⟩
  · obtain ⟨client, listed, ⟨text, rfl⟩, others, among, why⟩ := groupClients_eq_error ungrouped
    exact .inl ⟨_, rfl, .inl ⟨rfl, client, listed, rfl, .ungrouped others among why⟩⟩
  · rcases bind_eq_error.mp later with unassembled | ⟨assembly, assembled, -⟩
    · obtain ⟨passed, listener, rest, before, whole, -, fails⟩ := forEach_eq_error unassembled
      have among : listener ∈ sortedListeners snapshot := by rw [whole]; simp
      exact .inl (addListener_blames prepared grouped ((List.mem_insertionSort _).mp among) fails)
    · have assembles : Assembles options.wire stage.noun stage.inbound snapshot assembly :=
        ⟨grouping, grouped, assembled⟩
      rcases compileInbounds_of_assembles options.std assembles with ⟨-, built⟩ | ⟨client, key, dangles, -⟩
      · cases built.symm.trans failed
      · exact .inr ⟨⟨assembly, assembles⟩, client, key, dangles⟩

end Inbounds

section Rounds

/-- A round answers a rejection for the object of the error, and a retryable failure for every other. -/
def Rejects (failure : Failure) (object : ObjectError) : Prop :=
  ∀ name key, ∃ err, objectResult name key (.error failure) = .error err ∧
    ((rejectionCode err).isSome = true ↔ name = object.stream ∧ key = object.key)

theorem rejects_object {failure : Failure} {object : ObjectError} (named : failure.object = some object) :
    Rejects failure object := by
  intro name key
  have nonempty : (if trimSpace object.code = "" then objectRejected else trimSpace object.code) ≠ "" := by
    split
    · decide
    · assumption
  simp only [objectResult, named, Option.filter_some]
  by_cases same : object.stream = name ∧ object.key = key
  · rw [if_pos (decide_eq_true same)]
    refine ⟨_, rfl, ?_⟩
    simp [rejectionCode, nonempty, same]
  · rw [if_neg (by simpa using same)]
    refine ⟨_, rfl, ?_⟩
    have other : ¬ (name = object.stream ∧ key = object.key) := fun both => same ⟨both.1.symm, both.2.symm⟩
    simp [rejectionCode, other]

variable (options : Options) (compiler : Compiler) (snapshot : Snapshot)

/-- A compile failure that names an object names one of the snapshot, the only one that the round then rejects.
-/
def Accountable : Prop :=
  ∀ failure object, compiler.compile options snapshot = .error failure → failure.object = some object →
    ∃ stage, compiler.prepare options = .ok stage ∧ Blames options stage snapshot object ∧ Rejects failure object

theorem validated_snapshot {config : ConfigBody} {roster : Option RosterBody} {rows : List ClientRuntime} {nowMS : Int}
    (valid : ∀ body ∈ roster, validateRoster options.wire (some body) = .ok ()) :
    ∀ client ∈ (snapshotOf config roster rows nowMS).clients, client.listeners.Nodup ∧
      (∃ id, options.wire.clientRowID client.key = .ok id) ∧
      ∀ key ∈ client.listeners, ∃ id, options.wire.listenerRowID key = .ok id := by
  intro client member
  obtain ⟨source, listed, rfl⟩ := List.mem_map.mp member
  rw [gated_listeners, gated_key]
  cases roster with
  | none => exact absurd listed List.not_mem_nil
  | some body =>
    have checked := (validateRoster_ok (valid body rfl)).client source listed
    exact ⟨checked.distinct, checked.row, checked.attachments⟩

/-- A compile failure of a validated roster blames an object of the snapshot exactly if no effective client names a
missing listener, or if an earlier check fails: without these attachments the snapshot does not compile either. -/
theorem accountable_iff_satisfied (config : ConfigBody) (roster : Option RosterBody) (rows : List ClientRuntime)
    (nowMS : Int) (valid : ∀ body ∈ roster, validateRoster options.wire (some body) = .ok ())
    (encodes : ∀ document, ∃ bytes, options.std.marshalIndent document = .ok bytes) :
    Accountable options compiler (snapshotOf config roster rows nowMS) ↔
    (∀ client key, ¬ Dangles (snapshotOf config roster rows nowMS) client key) ∨
      ∃ failure, compiler.compile options (snapshotOf config roster rows nowMS).satisfiable = .error failure := by
  have checked := @validated_snapshot options config roster rows nowMS valid
  generalize snapshotOf config roster rows nowMS = snapshot at checked ⊢
  have distinct : ∀ client ∈ snapshot.clients, client.listeners.Nodup := fun client listed => (checked client listed).1
  constructor
  · intro accountable
    cases compiled : compiler.compile options snapshot.satisfiable with
    | error failure => exact .inr ⟨failure, rfl⟩
    | ok artifact =>
      rcases compile_of_satisfiable distinct compiled with ⟨satisfied, -⟩ | ⟨client, key, dangles, failed⟩
      · exact .inl satisfied
      · -- The key is that of a listener, so no client of the snapshot has it.
        obtain ⟨-, -, ⟨-, named, listed, same, -⟩ | ⟨impossible, -⟩, -⟩ := accountable _ _ failed rfl
        · obtain ⟨id, read⟩ := (checked named listed).2.1
          obtain ⟨other, readToo⟩ := (checked client dangles.listed).2.2 key dangles.attached
          rw [same] at read
          exact absurd readToo (options.wire.rowIDs_apart key id other read)
        · cases impossible
  · intro condition failure object failed named
    simp only [compile_eq, bind_eq_error] at failed
    rcases failed with unprepared | ⟨stage, prepared, looped | ⟨inbounds, -, unfinished⟩⟩
    · rw [prepare_nameless failure unprepared] at named
      cases named
    · refine ⟨stage, prepared, ?_, rejects_object named⟩
      rcases compileInbounds_eq_error prepared looped with
        ⟨found, same, blames⟩ | ⟨⟨assembly, assembles⟩, client, key, dangles⟩
      · cases named.symm.trans same
        exact blames
      · obtain ⟨early, fails⟩ := condition.resolve_left (fun satisfied => satisfied client key dangles)
        have part := (assembles_satisfiable distinct (prepare_blind prepared)).mpr assembles
        rcases compileInbounds_of_assembles options.std part with ⟨-, built⟩ | ⟨other, missing, impossible, -⟩
        · obtain ⟨engine, document, finishes⟩ := (prepare_eq_ok prepared).1 assembly.inbounds
          obtain ⟨bytes, encoded⟩ := encodes document
          rw [artifactOf, encoded] at finishes
          rw [compile_eq] at fails
          cases fails.symm.trans (bind_eq_ok.mpr ⟨stage, prepared, bind_eq_ok.mpr ⟨_, built, finishes⟩⟩)
        · exact absurd impossible (satisfiable_satisfied other missing)
    · rw [finish_nameless prepared inbounds failure unfinished] at named
      cases named

def namesakes : RosterBody :=
  { swapRoster true with clients := (swapRoster true).clients.map (fun client =>
      { client with credentials := { client.credentials with username := "ann" } }) }

/-- Two clients have one name, and the second names a missing listener: the error names the second client. -/
theorem namesake_blamed :
    (Compiler.xray ⟨"", "", "", "", "", false⟩).compile (swapOptions true)
        (snapshotOf swapConfig (some namesakes) [] 5) =
      .error (compileClientError "c2" "username/email duplicates client c1") ∧
    Accountable (swapOptions true) (.xray ⟨"", "", "", "", "", false⟩)
      (snapshotOf swapConfig (some namesakes) [] 5) := by
  refine ⟨by decide +kernel, (accountable_iff_satisfied _ _ swapConfig (some namesakes) [] 5 ?_ ?_).mpr (.inr ?_)⟩
  · rintro body ⟨⟩
    decide +kernel
  · exact fun _ => ⟨_, rfl⟩
  · exact ⟨compileClientError "c2" "username/email duplicates client c1", by decide +kernel⟩

/-- A client names a missing listener: the error gives the listener's key as that of a client. -/
theorem missing_listener_misnamed :
    validateConfig (swapOptions true).catalog (swapOptions true).wire (some swapConfig) = .ok () ∧
    validateRoster (swapOptions true).wire (some (swapRoster true)) = .ok () ∧
    ∀ compiler ∈ [Compiler.xray ⟨"", "", "", "", "", false⟩,
        Compiler.singbox ⟨"127.0.0.1:9090", "0123456789abcdef0123456789abcdef", ""⟩],
      ¬ Accountable (swapOptions true) compiler (snapshotOf swapConfig (some (swapRoster true)) [] 5) := by
  refine ⟨by decide +kernel, by decide +kernel, fun compiler either accountable => ?_⟩
  have failed : compiler.compile (swapOptions true) (snapshotOf swapConfig (some (swapRoster true)) [] 5) =
      .error (unknownListener "l2") := by
    fin_cases either <;> decide +kernel
  obtain ⟨stage, -, ⟨-, client, listed, key, -⟩ | ⟨impossible, -⟩, -⟩ := accountable _ _ failed rfl
  · fin_cases listed <;> revert key <;> decide
  · cases impossible

end Rounds

end PasswallNode.Core
