import PasswallNode.Agent.ReceiveSpecs
import PasswallNode.Foundation.Runs

/-! Segments are received by themselves. -/

namespace PasswallNode.Agent

open Foundation Protocol State Sqlite

def OnStream (name : Stream) : StoreCall → Prop
  | .stream other => other = name
  | .saveStream doc => doc.stream = name
  | .clearStreamForHigherEpoch other _ => other = name
  | _ => False

section Uses

variable {T : Type} {wire : Wire} {codec : Codec T} {validate : Option T → Except Error Unit} {name : Stream}
  {segment : Segment T} {call : StoreCall} {libs : Libraries} {store twin : Store} {other : Stream} {acceptedAtMS : Int}

theorem uses_transact {allowed : StoreCall → Prop} (permitted : allowed call) : Uses allowed (transact call) :=
  uses_call.mpr ⟨permitted, fun answer => uses_done answer⟩

theorem optionalStoredBody_uses : Uses (OnStream name) (optionalStoredBody codec name) := by
  refine uses_catch (uses_bind (uses_bind (uses_transact rfl) ?_) fun _ => uses_done _) ?_
  · intro doc
    split
    · exact uses_done _
    · exact uses_done _
  · intro err
    exact uses_ite (uses_done _) (uses_done _)

theorem receiveUnchanged_uses (current : Option T) :
    Uses (OnStream name) (receiveUnchanged wire name segment current) := by
  refine uses_bind (uses_transact rfl) ?_
  intro doc
  refine uses_ite (uses_bind (uses_transact rfl) fun _ => uses_done _) ?_
  exact uses_ite (uses_done _) (uses_ite (uses_done _) (uses_done _))

theorem receiveChanged_uses (current : Option T) (body : T) (acceptedAtMS : Int) :
    Uses (OnStream name) (receiveChanged codec validate name segment current body acceptedAtMS) := by
  unfold receiveChanged
  split
  · exact uses_done _
  · split
    · exact uses_done _
    · refine uses_catch (uses_bind (uses_transact rfl) fun _ => uses_done _) ?_
      intro err
      exact uses_ite (uses_done _) (uses_done _)

theorem receiveSegment_uses (acceptedAtMS : Int) :
    Uses (OnStream name) (receiveSegment wire codec validate name segment acceptedAtMS) := by
  refine uses_bind optionalStoredBody_uses ?_
  intro current
  refine uses_ite (uses_done _) (uses_ite (uses_done _) (uses_ite ?_ ?_))
  · split
    · exact uses_done _
    · exact uses_done _
    · exact receiveUnchanged_uses _
  · split
    · exact uses_done _
    · exact receiveChanged_uses _ _ _

theorem serve_frame {other : Stream} (on : OnStream name call) (apart : other ≠ name) :
    (serve libs store call).1.streams.find? other = store.streams.find? other := by
  refine serve_invariant (fun next : Store => next.streams.find? other = store.streams.find? other) rfl ?_
  intro next value done
  cases call with
  | stream first =>
    obtain ⟨rfl, _⟩ := query_eq_ok.mp done
    rfl
  | saveStream doc =>
    obtain ⟨_, ⟨rfl, _⟩ | ⟨_, stored⟩⟩ := saveStream_ok done
    · rfl
    · rw [stored.2 other, if_neg (by rw [show doc.stream = name from on]; exact apart.symm)]
  | clearStreamForHigherEpoch first epoch =>
    obtain ⟨_, rfl⟩ | ⟨_, _, _, stored⟩ := clearStreamForHigherEpoch_ok done
    · rfl
    · rw [stored.2 other, if_neg (by rw [show first = name from on]; exact apart.symm)]
  | _ => exact absurd on (by simp [OnStream])

theorem serve_local_save {doc : StreamDocument} (valid : validateStreamDocument libs.lib libs.wire doc = .ok ())
    (same : store.streams.find? doc.stream = twin.streams.find? doc.stream) :
    (serve libs store (.saveStream doc)).2 = (serve libs twin (.saveStream doc)).2 ∧
    (serve libs store (.saveStream doc)).1.streams.find? doc.stream =
      (serve libs twin (.saveStream doc)).1.streams.find? doc.stream := by
  obtain ⟨first, written⟩ := writeStream_of_valid valid store
  obtain ⟨second, rewritten⟩ := writeStream_of_valid valid twin
  have one := (writeStream_ok written).2 doc.stream
  have two := (writeStream_ok rewritten).2 doc.stream
  simp only [if_true] at one two
  cases found : twin.streams.find? doc.stream with
  | none =>
    simp [serve, transaction, saveStream, valid, bind, Except.bind, same, found, written, rewritten, one, two]
  | some current =>
    simp only [serve, transaction, saveStream, valid, bind, Except.bind, same, found]
    split_ifs
    · simp [same, found]
    · simp [same, found]
    · simp [same, found]
    · simp [same, found]
    · simp [written, rewritten, one, two]

theorem serve_local_clear {epoch : Nat} (same : store.streams.find? name = twin.streams.find? name) :
    (serve libs store (.clearStreamForHigherEpoch name epoch)).2 =
      (serve libs twin (.clearStreamForHigherEpoch name epoch)).2 ∧
    (serve libs store (.clearStreamForHigherEpoch name epoch)).1.streams.find? name =
      (serve libs twin (.clearStreamForHigherEpoch name epoch)).1.streams.find? name := by
  cases found : twin.streams.find? name with
  | none =>
    simp [serve, transaction, clearStreamForHigherEpoch, same, found]
  | some current =>
    have present := same.trans found
    by_cases refused : epoch ≤ current.epochFloor
    · simp [serve, transaction, clearStreamForHigherEpoch, same, found, rejectIf, refused, bind, Except.bind]
    · obtain ⟨done, cleared⟩ : ∃ done, clearStreamForHigherEpoch store name epoch = .ok done :=
        clearStreamForHigherEpoch_isOk.mpr (by simp [present]; omega)
      obtain ⟨also, recleared⟩ : ∃ done, clearStreamForHigherEpoch twin name epoch = .ok done :=
        clearStreamForHigherEpoch_isOk.mpr (by simp [found]; omega)
      have one := clearStreamForHigherEpoch_ok cleared
      have two := clearStreamForHigherEpoch_ok recleared
      simp only [present, found, reduceCtorEq, false_and, false_or, Option.some.injEq, exists_eq_left'] at one two
      have first : serve libs store (.clearStreamForHigherEpoch name epoch) = (done.1, .ok ()) :=
        serve_ok cleared
      have second : serve libs twin (.clearStreamForHigherEpoch name epoch) = (also.1, .ok ()) :=
        serve_ok recleared
      rw [first, second]
      exact ⟨rfl, by rw [one.2.2 name, two.2.2 name, if_pos rfl, if_pos rfl]⟩

theorem serve_local (on : OnStream name call) (same : store.streams.find? name = twin.streams.find? name) :
    (serve libs store call).2 = (serve libs twin call).2 ∧
    (serve libs store call).1.streams.find? name = (serve libs twin call).1.streams.find? name := by
  cases call with
  | stream first =>
    cases (show first = name from on)
    cases found : twin.streams.find? name with
    | none => simp [serve, transaction, query, stream, same, found, orError, Except.map]
    | some record => simp [serve, transaction, query, stream, same, found, orError, Except.map]
  | saveStream doc =>
    cases (show doc.stream = name from on)
    cases valid : validateStreamDocument libs.lib libs.wire doc with
    | error err =>
      have refuses : ∀ s : Store, transaction libs s (.saveStream doc) = .error err := by
        intro s
        simp [transaction, saveStream, valid, bind, Except.bind]
      rw [serve_error (refuses store), serve_error (refuses twin)]
      exact ⟨rfl, same⟩
    | ok _ => exact serve_local_save valid same
  | clearStreamForHigherEpoch first epoch =>
    cases (show first = name from on)
    exact serve_local_clear same
  | _ => exact absurd on (by simp [OnStream])

theorem receiveSegment_frame (apart : other ≠ name) :
    (exec (serve libs) store (receiveSegment libs.wire codec validate name segment
    acceptedAtMS)).1.streams.find? other = store.streams.find? other := by
  refine exec_invariant (fun next : Store => next.streams.find? other = store.streams.find? other)
    ?_ (receiveSegment_uses acceptedAtMS) rfl
  intro next call on kept
  rw [serve_frame on apart, kept]

theorem receiveSegment_local (same : store.streams.find? name = twin.streams.find? name) :
    (exec (serve libs) store (receiveSegment libs.wire codec validate name segment acceptedAtMS)).2 =
    (exec (serve libs) twin (receiveSegment libs.wire codec validate name segment acceptedAtMS)).2 ∧
    (exec (serve libs) store (receiveSegment libs.wire codec validate name segment
      acceptedAtMS)).1.streams.find? name =
    (exec (serve libs) twin (receiveSegment libs.wire codec validate name segment
      acceptedAtMS)).1.streams.find? name := by
  refine exec_related (fun one two : Store => one.streams.find? name = two.streams.find? name)
    ?_ (receiveSegment_uses acceptedAtMS) same
  intro one two call on alike
  exact serve_local on alike

def StreamDecodes (codec : Codec T) (store : Store) (name : Stream) : Prop :=
  ∀ record, store.streams.find? name = some record →
    ∃ body, codec.unmarshal record.document.body = .ok body

theorem repeatsEpoch_congr (same : store.streams.find? name = twin.streams.find? name) :
    RepeatsEpoch store name segment ↔ RepeatsEpoch twin name segment := by
  unfold RepeatsEpoch
  rw [same]

def storedBody (codec : Codec T) (store : Store) (name : Stream) : Option T :=
  (store.streams.find? name).bind (fun record => (codec.unmarshal record.document.body).toOption)

theorem storedBody_of_find? {record : StoredStream} {body : T} (found : store.streams.find? name = some record)
    (decoded : codec.unmarshal record.document.body = .ok body) : storedBody codec store name = some body := by
  simp [storedBody, found, decoded, Except.toOption]

theorem exec_optionalStoredBody (libs : Libraries) (decodes : StreamDecodes codec store name) :
    exec (serve libs) store (optionalStoredBody codec name) = (store, .ok (storedBody codec store name)) := by
  cases found : store.streams.find? name with
  | none =>
    rw [exec_optionalStoredBody_none found]
    simp [storedBody, found]
  | some record =>
    obtain ⟨body, decoded⟩ := decodes record found
    rw [exec_optionalStoredBody_ok found decoded, storedBody_of_find? found decoded]

theorem storedBody_some (body : T) (present : storedBody codec store name = some body) :
    ∃ record, store.streams.find? name = some record := by
  cases found : store.streams.find? name with
  | none => simp [storedBody, found] at present
  | some record => exact ⟨record, rfl⟩

theorem receiveSegment_ended {next : Store} {outcome : Except Error (ReceivedSegment T)}
    (decodes : StreamDecodes codec store name) (ran : exec (serve libs) store
    (receiveSegment libs.wire codec validate name segment acceptedAtMS) = (next, outcome)) :
    SegmentEnd libs codec name segment acceptedAtMS store (storedBody codec store name) (next, outcome) :=
  ran ▸ receiveSegment_end (exec_optionalStoredBody libs decodes) storedBody_some

theorem receiveSegment_error (decodes : StreamDecodes codec store name)
    (repeated : RepeatsEpoch store name segment) :
    ∃ err, exec (serve libs) store (receiveSegment libs.wire codec validate name segment
    acceptedAtMS) = (store, .error err) := by
  obtain ⟨committed, tagged, unchanged, bare, record, found, higher, behind⟩ := repeated
  obtain ⟨body, decoded⟩ := decodes record found
  have refuses : ∃ err, transaction libs store
      (.clearStreamForHigherEpoch name segment.version.epoch) = .error err := by
    cases cleared : transaction libs store (.clearStreamForHigherEpoch name segment.version.epoch) with
    | error err => exact ⟨err, rfl⟩
    | ok done =>
      have above := clearStreamForHigherEpoch_isOk.mp ⟨done, cleared⟩ record found
      omega
  obtain ⟨err, refused⟩ := refuses
  refine ⟨err, ?_⟩
  rw [receiveSegment, exec_bind_ok (exec_optionalStoredBody_ok found decoded),
    if_neg (by simp [committed]), if_neg tagged, if_pos unchanged, bare]
  change exec (serve libs) store (receiveUnchanged libs.wire name segment (some body)) = _
  rw [receiveUnchanged, exec_transact_ok (transaction_stream found), if_pos higher, exec_transact_error refused]

theorem receiveSegment_isOk (decodes : StreamDecodes codec store name) :
    (∃ next received, exec (serve libs) store (receiveSegment libs.wire codec validate name segment
    acceptedAtMS) = (next, .ok received)) ↔ ¬RepeatsEpoch store name segment := by
  constructor
  · rintro ⟨next, received, ran⟩ repeated
    obtain ⟨err, failed⟩ := receiveSegment_error decodes repeated
    rw [ran] at failed
    cases failed
  · intro fresh
    cases ran : exec (serve libs) store (receiveSegment libs.wire codec validate name segment acceptedAtMS)
    cases receiveSegment_ended decodes ran with
    | refuse err => exact ⟨_, _, rfl⟩
    | keep => exact ⟨_, _, rfl⟩
    | clear cleared => exact ⟨_, _, rfl⟩
    | abort repeated => exact absurd repeated fresh
    | accept _ _ _ _ => exact ⟨_, _, rfl⟩

theorem receiveSegment_failure (decodes : StreamDecodes codec store name) {next : Store}
    {received : ReceivedSegment T} (ran : exec (serve libs) store (receiveSegment libs.wire codec
    validate name segment acceptedAtMS) = (next, .ok received)) :
    ∀ failure ∈ received.failure, failure.stream = name := by
  cases receiveSegment_ended decodes ran with
  | refuse err => rintro failure ⟨⟩; rfl
  | keep => rintro failure ⟨⟩
  | clear cleared => rintro failure ⟨⟩
  | accept _ _ _ _ => rintro failure ⟨⟩

end Uses

section Response

variable {libs : Libraries} {catalog : Corecatalog.Catalog} {nowMS : Stream → Int}
  {store twin next : Store} {response : SyncResponse}

structure StreamOutcome (T : Type) where
  record : Option StoredStream
  body : Option T
  changed : Bool
  failed : Bool
  deriving DecidableEq, Repr

def rejects (received : ReceivedDocuments) (name : Stream) : Bool :=
  received.failures.any (fun failure => decide (failure.stream = name))

def configOutcome (store : Store) (received : ReceivedDocuments) : StreamOutcome ConfigBody :=
  ⟨store.streams.find? .config, received.config, received.configChanged, rejects received .config⟩

def rosterOutcome (store : Store) (received : ReceivedDocuments) : StreamOutcome RosterBody :=
  ⟨store.streams.find? .roster, received.roster, received.rosterChanged, rejects received .roster⟩

def directivesOutcome (store : Store) (received : ReceivedDocuments) : StreamOutcome DirectivesBody :=
  ⟨store.streams.find? .directives, received.directives, received.directivesChanged,
    rejects received .directives⟩

structure StoredBodiesDecode (wire : Wire) (store : Store) : Prop where
  config : StreamDecodes wire.config store .config
  roster : StreamDecodes wire.roster store .roster
  directives : StreamDecodes wire.directives store .directives

def segmentOutcome {T : Type} (name : Stream) (ended : Store × Except Error (ReceivedSegment T)) :
    Option (StreamOutcome T) :=
  match ended with
  | (store, .ok received) =>
    some ⟨store.streams.find? name, received.body, received.changed, received.failure.isSome⟩
  | (_, .error _) => none

section Segments

variable (libs catalog nowMS response)

def configEnd (store : Store) : Store × Except Error (ReceivedSegment ConfigBody) :=
  exec (serve libs) store (receiveSegment libs.wire libs.wire.config
    (validateConfig catalog libs.wire) .config response.config (nowMS .config))

def rosterEnd (store : Store) : Store × Except Error (ReceivedSegment RosterBody) :=
  exec (serve libs) store (receiveSegment libs.wire libs.wire.roster
    (validateRoster libs.wire) .roster response.roster (nowMS .roster))

def directivesEnd (store : Store) : Store × Except Error (ReceivedSegment DirectivesBody) :=
  exec (serve libs) store (receiveSegment libs.wire libs.wire.directives
    (validateDirectives libs.wire) .directives response.directives (nowMS .directives))

end Segments

theorem receive_eq_ok {received : ReceivedDocuments} :
    exec (serve libs) store (receive catalog libs.wire nowMS response) = (next, .ok received) ↔
    ∃ first config second roster directives, configEnd libs catalog nowMS response store = (first, .ok config) ∧
      rosterEnd libs nowMS response first = (second, .ok roster) ∧
      directivesEnd libs nowMS response second = (next, .ok directives) ∧
      received = ⟨config.body, roster.body, directives.body, config.changed, roster.changed,
        directives.changed, config.needFull || roster.needFull || directives.needFull,
        config.failure.toList ++ roster.failure.toList ++ directives.failure.toList⟩ := by
  unfold receive
  simp only [exec_bind_eq_ok, exec_pure, Prod.mk.injEq, Except.ok.injEq]
  constructor
  · rintro ⟨first, config, one, second, roster, two, third, directives, three, rfl, same⟩
    exact ⟨first, config, second, roster, directives, one, two, three, same.symm⟩
  · rintro ⟨first, config, second, roster, directives, one, two, three, same⟩
    exact ⟨first, config, one, second, roster, two, next, directives, three, rfl, same.symm⟩

theorem streamDecodes_congr {T : Type} {codec : Codec T} {name : Stream}
    (same : twin.streams.find? name = store.streams.find? name)
    (decodes : StreamDecodes codec store name) : StreamDecodes codec twin name := by
  intro record found
  exact decodes record (same ▸ found)

theorem any_failure {failure : Option SegmentFailure} {name : Stream} (other : Stream)
    (own : ∀ rejected ∈ failure, rejected.stream = name) :
    failure.toList.any (fun rejected => decide (rejected.stream = other)) =
    (failure.isSome && decide (name = other)) := by
  cases failure with
  | none => rfl
  | some rejected => simp [own rejected rfl]

theorem receive_isOk (decodes : StoredBodiesDecode libs.wire store) :
    (∃ next received, exec (serve libs) store (receive catalog libs.wire nowMS response) = (next, .ok received)) ↔
    ¬RepeatsEpoch store .config response.config ∧ ¬RepeatsEpoch store .roster response.roster ∧
      ¬RepeatsEpoch store .directives response.directives := by
  have rosterKept : (configEnd libs catalog nowMS response store).1.streams.find? .roster =
      store.streams.find? .roster := receiveSegment_frame (by decide)
  have directivesKept : (configEnd libs catalog nowMS response store).1.streams.find? .directives =
      store.streams.find? .directives := receiveSegment_frame (by decide)
  have lastKept : ∀ first : Store, (rosterEnd libs nowMS response first).1.streams.find? .directives =
      first.streams.find? .directives := fun first => receiveSegment_frame (by decide)
  simp only [receive_eq_ok]
  constructor
  · rintro ⟨_, _, first, config, second, roster, directives, one, two, three, _⟩
    rw [one] at rosterKept directivesKept
    have third := lastKept first
    rw [two] at third
    refine ⟨(receiveSegment_isOk decodes.config).mp ⟨_, _, one⟩, ?_, ?_⟩
    · rw [← repeatsEpoch_congr rosterKept]
      exact (receiveSegment_isOk (streamDecodes_congr rosterKept decodes.roster)).mp ⟨_, _, two⟩
    · have kept := third.trans directivesKept
      rw [← repeatsEpoch_congr kept]
      exact (receiveSegment_isOk (streamDecodes_congr kept decodes.directives)).mp ⟨_, _, three⟩
  · rintro ⟨freshConfig, freshRoster, freshDirectives⟩
    obtain ⟨first, config, one⟩ := (receiveSegment_isOk decodes.config).mpr freshConfig
    have one' : configEnd libs catalog nowMS response store = (first, .ok config) := one
    rw [one'] at rosterKept directivesKept
    rw [← repeatsEpoch_congr rosterKept] at freshRoster
    obtain ⟨second, roster, two⟩ :=
      (receiveSegment_isOk (streamDecodes_congr rosterKept decodes.roster)).mpr freshRoster
    have two' : rosterEnd libs nowMS response first = (second, .ok roster) := two
    have third := lastKept first
    rw [two'] at third
    have kept := third.trans directivesKept
    rw [← repeatsEpoch_congr kept] at freshDirectives
    obtain ⟨next, directives, three⟩ :=
      (receiveSegment_isOk (streamDecodes_congr kept decodes.directives)).mpr freshDirectives
    exact ⟨next, _, first, config, second, roster, directives, one', two', three, rfl⟩

theorem segmentOutcome_congr {T : Type} {name : Stream}
    {one two : Store × Except Error (ReceivedSegment T)} (answer : one.2 = two.2)
    (record : one.1.streams.find? name = two.1.streams.find? name) :
    segmentOutcome name one = segmentOutcome name two := by
  obtain ⟨first, result⟩ := one
  obtain ⟨second, other⟩ := two
  cases answer
  cases result with
  | error err => rfl
  | ok received => simp only [segmentOutcome, record]

theorem receive_outcomes (decodes : StoredBodiesDecode libs.wire store) {received : ReceivedDocuments}
    (ran : exec (serve libs) store (receive catalog libs.wire nowMS response) = (next, .ok received)) :
    segmentOutcome .config (configEnd libs catalog nowMS response store) = some (configOutcome next received) ∧
    segmentOutcome .roster (rosterEnd libs nowMS response store) = some (rosterOutcome next received) ∧
    segmentOutcome .directives (directivesEnd libs nowMS response store) =
      some (directivesOutcome next received) := by
  obtain ⟨first, config, second, roster, directives, one, two, three, rfl⟩ := receive_eq_ok.mp ran
  have keeps : ∀ name : Stream, name ≠ .config →
      first.streams.find? name = store.streams.find? name := by
    intro name apart
    have kept : (configEnd libs catalog nowMS response store).1.streams.find? name =
        store.streams.find? name := receiveSegment_frame apart
    rwa [one] at kept
  have holds : ∀ name : Stream, name ≠ .roster →
      second.streams.find? name = first.streams.find? name := by
    intro name apart
    have kept : (rosterEnd libs nowMS response first).1.streams.find? name =
        first.streams.find? name := receiveSegment_frame apart
    rwa [two] at kept
  have stays : ∀ name : Stream, name ≠ .directives →
      next.streams.find? name = second.streams.find? name := by
    intro name apart
    have kept : (directivesEnd libs nowMS response second).1.streams.find? name =
        second.streams.find? name := receiveSegment_frame apart
    rwa [three] at kept
  have rosterSame := keeps .roster (by decide)
  have directivesSame := (holds .directives (by decide)).trans (keeps .directives (by decide))
  have ownConfig := receiveSegment_failure decodes.config one
  have ownRoster := receiveSegment_failure (streamDecodes_congr rosterSame decodes.roster) two
  have ownDirectives :=
    receiveSegment_failure (streamDecodes_congr directivesSame decodes.directives) three
  have listed : ∀ name : Stream, (config.failure.toList ++ roster.failure.toList ++
      directives.failure.toList).any (fun rejected => decide (rejected.stream = name)) =
      ((config.failure.isSome && decide (Stream.config = name)) ||
        (roster.failure.isSome && decide (Stream.roster = name)) ||
        (directives.failure.isSome && decide (Stream.directives = name))) := by
    intro name
    rw [List.any_append, List.any_append, any_failure name ownConfig, any_failure name ownRoster,
      any_failure name ownDirectives]
  have rosterLocal : segmentOutcome .roster (rosterEnd libs nowMS response store) =
      segmentOutcome .roster (rosterEnd libs nowMS response first) :=
    segmentOutcome_congr (receiveSegment_local rosterSame.symm).1 (receiveSegment_local rosterSame.symm).2
  have directivesLocal : segmentOutcome .directives (directivesEnd libs nowMS response store) =
      segmentOutcome .directives (directivesEnd libs nowMS response second) :=
    segmentOutcome_congr (receiveSegment_local directivesSame.symm).1 (receiveSegment_local directivesSame.symm).2
  rw [rosterLocal, directivesLocal, one, two, three]
  refine ⟨?_, ?_, ?_⟩
  · simp only [segmentOutcome, configOutcome, rejects, listed,
      (stays .config (by decide)).trans (holds .config (by decide))]
    simp
  · simp only [segmentOutcome, rosterOutcome, rejects, listed, stays .roster (by decide)]
    simp
  · simp only [segmentOutcome, directivesOutcome, rejects, listed]
    simp

/-- What becomes of a stream depends on its own record and segment only. -/
def Isolated (libs : Libraries) (catalog : Corecatalog.Catalog) (nowMS : Stream → Int) (store : Store)
    (response : SyncResponse) : Prop :=
  ∃ next received,
    exec (serve libs) store (receive catalog libs.wire nowMS response) = (next, .ok received) ∧
    ∀ twin reply after answered, StoredBodiesDecode libs.wire twin →
      exec (serve libs) twin (receive catalog libs.wire nowMS reply) = (after, .ok answered) →
      (twin.streams.find? .config = store.streams.find? .config → reply.config = response.config →
        configOutcome after answered = configOutcome next received) ∧
      (twin.streams.find? .roster = store.streams.find? .roster → reply.roster = response.roster →
        rosterOutcome after answered = rosterOutcome next received) ∧
      (twin.streams.find? .directives = store.streams.find? .directives →
        reply.directives = response.directives →
        directivesOutcome after answered = directivesOutcome next received)

theorem segments_isolated_iff (libs : Libraries) (catalog : Corecatalog.Catalog) (nowMS : Stream → Int)
    (store : Store) (response : SyncResponse) (decodes : StoredBodiesDecode libs.wire store) :
    Isolated libs catalog nowMS store response ↔
      ¬RepeatsEpoch store .config response.config ∧ ¬RepeatsEpoch store .roster response.roster ∧
        ¬RepeatsEpoch store .directives response.directives := by
  rw [← receive_isOk decodes]
  constructor
  · rintro ⟨next, received, ran, _⟩
    exact ⟨next, received, ran⟩
  · rintro ⟨next, received, ran⟩
    refine ⟨next, received, ran, ?_⟩
    intro twin reply after answered decoded replied
    obtain ⟨config, roster, directives⟩ := receive_outcomes decodes ran
    obtain ⟨config', roster', directives'⟩ := receive_outcomes decoded replied
    refine ⟨?_, ?_, ?_⟩
    · intro record segment
      have same : segmentOutcome .config (configEnd libs catalog nowMS reply twin) =
          segmentOutcome .config (configEnd libs catalog nowMS response store) := by
        unfold configEnd
        rw [segment]
        exact segmentOutcome_congr (receiveSegment_local record).1 (receiveSegment_local record).2
      rw [config, config'] at same
      exact Option.some.inj same
    · intro record segment
      have same : segmentOutcome .roster (rosterEnd libs nowMS reply twin) =
          segmentOutcome .roster (rosterEnd libs nowMS response store) := by
        unfold rosterEnd
        rw [segment]
        exact segmentOutcome_congr (receiveSegment_local record).1 (receiveSegment_local record).2
      rw [roster, roster'] at same
      exact Option.some.inj same
    · intro record segment
      have same : segmentOutcome .directives (directivesEnd libs nowMS reply twin) =
          segmentOutcome .directives (directivesEnd libs nowMS response store) := by
        unfold directivesEnd
        rw [segment]
        exact segmentOutcome_congr (receiveSegment_local record).1 (receiveSegment_local record).2
      rw [directives, directives'] at same
      exact Option.some.inj same

end Response

section Repeated

def receiveAll (libs : Libraries) (catalog : Corecatalog.Catalog) (nowMS : Stream → Int) :
    List SyncResponse → Store :=
  run (fun store response =>
    (exec (serve libs) store (receive catalog libs.wire nowMS response)).1) Store.fresh

def exampleConfig : ConfigBody := ⟨⟨"", "", false⟩, [], ⟨0, 0, 0⟩⟩

def exampleRoster : RosterBody := ⟨⟨1, 1⟩, [], ⟨0, 0, 0⟩⟩

def exampleDirectives : DirectivesBody := ⟨⟨1, 1⟩, [], [], ⟨0, 0, 0⟩⟩

def exampleLibraries : Libraries :=
  ⟨.transparent, .transparent, .ofTables [exampleConfig] [exampleRoster] [exampleDirectives]⟩

def exampleCatalog : Corecatalog.Catalog := ⟨.ok [], id⟩

def exampleTag : String := exampleLibraries.lib.sha256Hex [0]

def acceptedResponse : SyncResponse where
  config := ⟨⟨1, 1⟩, exampleTag, false, some exampleConfig⟩
  roster := ⟨⟨1, 1⟩, exampleTag, false, some exampleRoster⟩
  directives := ⟨⟨1, 1⟩, exampleTag, false, some exampleDirectives⟩
  tasks := []

def announcedResponse (rosterVersion : Nat) : SyncResponse where
  config := ⟨⟨2, 1⟩, exampleTag, true, none⟩
  roster := ⟨⟨1, rosterVersion⟩, exampleTag, false, some exampleRoster⟩
  directives := ⟨⟨1, 1⟩, exampleTag, true, none⟩
  tasks := []

def clearedExample : Store :=
  receiveAll exampleLibraries exampleCatalog (fun _ => 5) [acceptedResponse, announcedResponse 2]

def receivedExample : Store :=
  receiveAll exampleLibraries exampleCatalog (fun _ => 5) [acceptedResponse]

def untaggedResponse : SyncResponse :=
  { announcedResponse 2 with config := ⟨⟨1, 2⟩, "", false, some exampleConfig⟩ }

/-- The config without a tag is rejected, and the roster beside it is received. -/
theorem untagged_config_isolated :
    Isolated exampleLibraries exampleCatalog (fun _ => 5) receivedExample untaggedResponse ∧
    ∃ next received, exec (serve exampleLibraries) receivedExample
        (receive exampleCatalog exampleLibraries.wire (fun _ => 5) untaggedResponse) = (next, .ok received) ∧
      rejects received .config = true ∧ received.rosterChanged = true := by
  refine ⟨(segments_isolated_iff exampleLibraries exampleCatalog (fun _ => 5) receivedExample
    untaggedResponse ⟨?_, ?_, ?_⟩).mpr ⟨?_, ?_, ?_⟩, _, _, rfl, rfl, rfl⟩
  · rintro record ⟨⟩
    exact ⟨exampleConfig, rfl⟩
  · rintro record ⟨⟩
    exact ⟨exampleRoster, rfl⟩
  · rintro record ⟨⟩
    exact ⟨exampleDirectives, rfl⟩
  · rintro ⟨_, tagged, _⟩
    exact tagged rfl
  · rintro ⟨_, _, changed, _⟩
    cases changed
  · rintro ⟨_, _, _, _, record, ⟨⟩, newer, _⟩
    exact absurd newer (by decide)

/-- The second announcement of an epoch aborts the response: the new roster beside it is
not received. -/
theorem repeated_epoch_aborts_response :
    (exec (serve exampleLibraries) clearedExample
        (receive exampleCatalog exampleLibraries.wire (fun _ => 5) (announcedResponse 3))).2 =
      .error (.new "observed epoch 2 is not higher than epoch floor 2") ∧
    ¬Isolated exampleLibraries exampleCatalog (fun _ => 5) clearedExample (announcedResponse 3) := by
  have failed : (exec (serve exampleLibraries) clearedExample
      (receive exampleCatalog exampleLibraries.wire (fun _ => 5) (announcedResponse 3))).2 =
      .error (.new "observed epoch 2 is not higher than epoch floor 2") := by rfl
  refine ⟨failed, ?_⟩
  rintro ⟨next, received, ran, _⟩
  rw [ran] at failed
  cases failed

end Repeated

end PasswallNode.Agent
