import Mathlib.Data.List.Induction
import PasswallNode.Agent.ReceiveSpecs
import PasswallNode.Foundation.Runs

/-! The history of one stream: its record only moves forward. -/

namespace PasswallNode.Agent

open Foundation Protocol State Sqlite

inductive StreamCall (T : Type) where
  | save (version : Version) (etag : String) (body : Bytes) (acceptedAtMS : Int)
  | clear (observedEpoch : Nat)
  | receive (segment : Segment T) (acceptedAtMS : Int)
  deriving DecidableEq, Repr

section History

variable {T : Type}

def StreamCall.Delivers (codec : Codec T) (version : Version) (bytes : Bytes) : StreamCall T → Prop
  | .save saved _ body _ => saved = version ∧ body = bytes
  | .clear _ => False
  | .receive segment _ => segment.unchanged = false ∧ segment.version = version ∧
      ∃ body, segment.body = some body ∧ codec.marshal body = .ok bytes

variable (libs : Libraries) (codec : Codec T) (validate : Option T → Except Error Unit) (name : Stream)

def streamStep (store : Store) : StreamCall T → Store
  | .save version etag body acceptedAtMS =>
    commit store (saveStream libs.lib libs.wire store ⟨name, version, etag, body, acceptedAtMS⟩)
  | .clear observedEpoch => commit store (clearStreamForHigherEpoch store name observedEpoch)
  | .receive segment acceptedAtMS =>
    (exec (serve libs) store
      (receiveSegment libs.wire codec validate name segment acceptedAtMS)).1

def recordAfter (calls : List (StreamCall T)) : Option StoredStream :=
  (run (streamStep libs codec validate name) Store.fresh calls).streams.find? name

inductive StreamMove (call : StreamCall T) : Option StoredStream → Option StoredStream → Prop where
  | stay (record : Option StoredStream) : StreamMove call record record
  | accept {record : Option StoredStream} {doc : StreamDocument}
      (delivered : call.Delivers codec doc.version doc.body)
      (valid : validateStreamDocument libs.lib libs.wire doc = .ok ())
      (supersedes : ∀ current, record = some current → Supersedes doc current) :
      StreamMove call record (some ⟨doc, doc.version.epoch⟩)
  | clear {current : StoredStream} {observedEpoch : Nat}
      (higher : current.epochFloor < observedEpoch) :
      StreamMove call (some current) (some (clearedStream observedEpoch current))

variable {libs codec validate name} {store next : Store} {call : StreamCall T}

theorem saveStream_moves (doc : StreamDocument) (here : doc.stream = name)
    (delivered : call.Delivers codec doc.version doc.body)
    (saved : saveStream libs.lib libs.wire store doc = .ok (next, ())) :
    StreamMove libs codec call (store.streams.find? name) (next.streams.find? name) := by
  subst here
  obtain ⟨valid, ⟨rfl, _⟩ | ⟨supersedes, stored⟩⟩ := saveStream_ok saved
  · exact .stay _
  · rw [stored.2 doc.stream, if_pos rfl]
    exact .accept delivered valid supersedes

theorem clearStream_moves {observedEpoch : Nat}
    (cleared : clearStreamForHigherEpoch store name observedEpoch = .ok (next, ())) :
    StreamMove libs codec call (store.streams.find? name) (next.streams.find? name) := by
  obtain ⟨_, rfl⟩ | ⟨current, found, higher, stored⟩ := clearStreamForHigherEpoch_ok cleared
  · exact .stay _
  · rw [stored.2 name, if_pos rfl, found]
    exact .clear higher

theorem receiveSegment_moves (segment : Segment T) (acceptedAtMS : Int) :
    StreamMove libs codec (.receive segment acceptedAtMS) (store.streams.find? name) ((exec (serve libs) store
      (receiveSegment libs.wire codec validate name segment acceptedAtMS)).1.streams.find? name) := by
  have moves : ∀ current, SegmentEnd libs codec name segment acceptedAtMS store current
      (exec (serve libs) store (receiveSegment libs.wire codec validate name segment acceptedAtMS)) →
      StreamMove libs codec (.receive segment acceptedAtMS) (store.streams.find? name)
        ((exec (serve libs) store
          (receiveSegment libs.wire codec validate name segment acceptedAtMS)).1.streams.find? name) := by
    intro current ended
    generalize exec (serve libs) store
      (receiveSegment libs.wire codec validate name segment acceptedAtMS) = result at ended
    cases ended with
    | refuse err => exact .stay _
    | keep => exact .stay _
    | clear cleared => exact clearStream_moves cleared
    | abort _ => exact .stay _
    | accept changed carried encoded saved =>
      exact saveStream_moves _ rfl ⟨changed, rfl, _, carried, encoded⟩ saved
  cases found : store.streams.find? name with
  | none =>
    rw [← found]
    exact moves none (receiveSegment_end (exec_optionalStoredBody_none found) (by simp))
  | some record =>
    cases decoded : codec.unmarshal record.document.body with
    | ok body =>
      rw [← found]
      exact moves (some body) (receiveSegment_end (exec_optionalStoredBody_ok found decoded) (by simp [found]))
    | error text =>
      rw [receiveSegment, exec_bind_error (exec_optionalStoredBody_error found decoded), ← found]
      exact .stay _

theorem streamStep_moves (store : Store) (call : StreamCall T) :
    StreamMove libs codec call (store.streams.find? name)
    ((streamStep libs codec validate name store call).streams.find? name) := by
  cases call with
  | save version etag body acceptedAtMS =>
    refine commit_invariant
      (fun next : Store => StreamMove libs codec (.save version etag body acceptedAtMS)
        (store.streams.find? name) (next.streams.find? name)) (.stay _) ?_
    intro next _ saved
    exact saveStream_moves ⟨name, version, etag, body, acceptedAtMS⟩ rfl ⟨rfl, rfl⟩ saved
  | clear observedEpoch =>
    refine commit_invariant
      (fun next : Store => StreamMove libs codec (.clear observedEpoch)
        (store.streams.find? name) (next.streams.find? name)) (.stay _) ?_
    intro next _ cleared
    exact clearStream_moves cleared
  | receive segment acceptedAtMS => exact receiveSegment_moves segment acceptedAtMS

structure NeverRollsBack (old new : StoredStream) : Prop where
  floor : old.epochFloor ≤ new.epochFloor
  version : old.document.version.zero = false → new.document.version.zero = false →
    old.document.version.newer new.document.version = false
  content : old.document.version.zero = false → new.document.version = old.document.version →
    new.document.body = old.document.body

/-- At one floor a version stays or is replaced by a newer one; only a higher floor lets it disappear. -/
def Forward (old new : StoredStream) : Prop :=
  old.epochFloor < new.epochFloor ∨
    (old.epochFloor = new.epochFloor ∧ (old.document.version.zero = true ∨
      (new.document.version.zero = false ∧
        ((new.document.version = old.document.version ∧ new.document.body = old.document.body) ∨
          new.document.version.newer old.document.version = true))))

theorem newer_eq_true {v other : Version} : v.newer other = true ↔
    other.epoch < v.epoch ∨ (v.epoch = other.epoch ∧ other.version < v.version) := by
  simp [Version.newer]

theorem newer_trans {first second third : Version} (later : third.newer second = true)
    (earlier : second.newer first = true) : third.newer first = true := by
  rw [newer_eq_true] at *
  omega

theorem zero_of_committed {v : Version} (committed : v.committed = true) : v.zero = false := by
  simp only [Version.committed, Bool.decide_and, Bool.and_eq_true, decide_eq_true_eq] at committed
  simp only [Version.zero, decide_eq_false_iff_not]
  omega

theorem forward_refl (record : StoredStream) : Forward record record := by
  cases cleared : record.document.version.zero with
  | true => exact Or.inr ⟨rfl, Or.inl cleared⟩
  | false => exact Or.inr ⟨rfl, Or.inr ⟨cleared, Or.inl ⟨rfl, rfl⟩⟩⟩

theorem forward_trans {first second third : StoredStream} (earlier : Forward first second)
    (later : Forward second third) : Forward first third := by
  rcases earlier with below | ⟨level, early⟩
  · rcases later with above | ⟨same, _⟩
    · exact Or.inl (below.trans above)
    · exact Or.inl (same ▸ below)
  · rcases later with above | ⟨same, late⟩
    · exact Or.inl (level ▸ above)
    · refine Or.inr ⟨level.trans same, ?_⟩
      rcases early with cleared | ⟨present, step⟩
      · exact Or.inl cleared
      · rcases late with impossible | ⟨there, rest⟩
        · rw [present] at impossible; cases impossible
        · refine Or.inr ⟨there, ?_⟩
          rcases step with ⟨version, body⟩ | newer
          · rcases rest with ⟨kept, held⟩ | ahead
            · exact Or.inl ⟨kept.trans version, held.trans body⟩
            · exact Or.inr (version ▸ ahead)
          · rcases rest with ⟨kept, _⟩ | ahead
            · exact Or.inr (by rw [kept]; exact newer)
            · exact Or.inr (newer_trans ahead newer)

def AtFloor (record : StoredStream) : Prop :=
  record.document.version.zero = false → record.document.version.epoch = record.epochFloor

theorem neverRollsBack_of_forward {old new : StoredStream} (forward : Forward old new)
    (before : AtFloor old) (after : AtFloor new) : NeverRollsBack old new := by
  rcases forward with below | ⟨level, rest⟩
  · refine ⟨below.le, ?_, ?_⟩
    · intro present there
      have first := before present
      have last := after there
      rw [Bool.eq_false_iff, ne_eq, newer_eq_true]
      omega
    · intro present same
      have first := before present
      have last := after (by rw [same]; exact present)
      rw [same] at last
      omega
  · refine ⟨level.le, ?_, ?_⟩
    · intro present there
      rw [Bool.eq_false_iff, ne_eq, newer_eq_true]
      rcases rest with cleared | ⟨_, ⟨same, _⟩ | ahead⟩
      · rw [present] at cleared; cases cleared
      · rw [same]; omega
      · rw [newer_eq_true] at ahead; omega
    · intro present same
      rcases rest with cleared | ⟨_, ⟨_, body⟩ | ahead⟩
      · rw [present] at cleared; cases cleared
      · exact body
      · rw [same, newer_eq_true] at ahead; omega

theorem move_atFloor {before after : Option StoredStream} (move : StreamMove libs codec call before after)
    (held : ∀ record ∈ before, AtFloor record) : ∀ record ∈ after, AtFloor record := by
  cases move with
  | stay => exact held
  | accept delivered valid supersedes =>
    rintro record ⟨⟩ _
    rfl
  | clear higher =>
    rintro record ⟨⟩ present
    cases present

theorem move_forward {old : StoredStream} {after : Option StoredStream}
    (move : StreamMove libs codec call (some old) after) : ∃ new ∈ after, Forward old new := by
  cases move with
  | stay => exact ⟨old, rfl, forward_refl old⟩
  | clear higher => exact ⟨_, rfl, Or.inl higher⟩
  | accept delivered valid supersedes =>
    obtain ⟨reached, apart, rest⟩ := supersedes old rfl
    refine ⟨_, rfl, ?_⟩
    rcases reached.lt_or_eq with above | level
    · exact Or.inl above
    · refine Or.inr ⟨level, ?_⟩
      rcases rest with cleared | newer
      · exact Or.inl cleared
      · exact Or.inr ⟨zero_of_committed (validateStreamDocument_ok valid).1, Or.inr newer⟩

theorem recordAfter_concat (calls : List (StreamCall T)) (last : StreamCall T) :
    StreamMove libs codec last (recordAfter libs codec validate name calls)
    (recordAfter libs codec validate name (calls ++ [last])) := by
  unfold recordAfter
  rw [run_concat]
  exact streamStep_moves _ last

theorem recordAfter_atFloor (calls : List (StreamCall T)) :
    ∀ record ∈ recordAfter libs codec validate name calls, AtFloor record := by
  refine run_invariant (fun store : Store => ∀ record ∈ store.streams.find? name, AtFloor record) ?_ ?_ calls
  · intro store call held
    exact move_atFloor (streamStep_moves store call) held
  · rintro record ⟨⟩

theorem recordAfter_forward (before after : List (StreamCall T)) :
    ∀ old ∈ recordAfter libs codec validate name before,
    ∃ new ∈ recordAfter libs codec validate name (before ++ after), Forward old new := by
  unfold recordAfter
  rw [run_append]
  refine run_relation (fun _ => True)
    (fun store later : Store =>
      ∀ old ∈ store.streams.find? name, ∃ new ∈ later.streams.find? name, Forward old new)
    (fun _ _ _ => trivial) ?_ ?_ ?_ trivial after
  · intro store old found
    exact ⟨old, found, forward_refl old⟩
  · intro first second third early late old found
    obtain ⟨middle, present, one⟩ := early old found
    obtain ⟨new, there, two⟩ := late middle present
    exact ⟨new, there, forward_trans one two⟩
  · intro store call _ old found
    have move : StreamMove libs codec call (store.streams.find? name)
        ((streamStep libs codec validate name store call).streams.find? name) :=
      streamStep_moves store call
    rw [Option.mem_def.mp found] at move
    exact move_forward move

structure LastAccepted (libs : Libraries) (codec : Codec T) (validate : Option T → Except Error Unit)
    (name : Stream) (record : StoredStream) (before after : List (StreamCall T))
    (accepted : StoredStream) : Prop where
  stored : recordAfter libs codec validate name before = some accepted
  present : accepted.document.version.zero = false
  tagged : accepted.document.etag = libs.lib.sha256Hex accepted.document.body
  arrived : ∃ call ∈ before, call.Delivers codec accepted.document.version accepted.document.body
  kept : ∀ middle rest, after = middle ++ rest →
    ∃ later ∈ recordAfter libs codec validate name (before ++ middle),
      later.document.body = accepted.document.body
  since : record = accepted ∨ (record.document.version.zero = true ∧ record.document.etag = "")

theorem LastAccepted.extend {record later accepted : StoredStream} {before after : List (StreamCall T)}
    (held : LastAccepted libs codec validate name record before after accepted) (last : StreamCall T)
    (stored : recordAfter libs codec validate name (before ++ after ++ [last]) = some later)
    (same : later.document.body = accepted.document.body)
    (since : later = accepted ∨ (later.document.version.zero = true ∧ later.document.etag = "")) :
    LastAccepted libs codec validate name later before (after ++ [last]) accepted := by
  refine ⟨held.stored, held.present, held.tagged, held.arrived, ?_, since⟩
  intro middle rest split
  rcases List.eq_nil_or_concat rest with rfl | ⟨front, final, rfl⟩
  · rw [List.append_nil] at split
    subst split
    exact ⟨later, by rw [← List.append_assoc]; exact stored, same⟩
  · rw [List.concat_eq_append, ← List.append_assoc] at split
    exact held.kept middle front (List.append_inj' split rfl).1

theorem exists_lastAccepted (calls : List (StreamCall T)) :
    ∀ record ∈ recordAfter libs codec validate name calls, ∃ before after accepted,
    calls = before ++ after ∧ LastAccepted libs codec validate name record before after accepted := by
  induction calls using List.reverseRecOn with
  | nil => rintro record ⟨⟩
  | append_singleton calls last ih =>
    intro later found
    have move : StreamMove libs codec last (recordAfter libs codec validate name calls)
        (recordAfter libs codec validate name (calls ++ [last])) := recordAfter_concat calls last
    generalize earlier : recordAfter libs codec validate name calls = former at move ih
    generalize final : recordAfter libs codec validate name (calls ++ [last]) = latter at move found
    cases move with
    | stay =>
      obtain ⟨before, after, accepted, rfl, held⟩ := ih later found
      have body : later.document.body = accepted.document.body := by
        obtain ⟨same, present, equal⟩ := held.kept after [] (by simp)
        rw [earlier, Option.mem_def, Option.mem_def.mp found] at present
        cases present
        exact equal
      rw [Option.mem_def] at found
      exact ⟨before, after ++ [last], accepted, by simp, held.extend last (by rw [final, found]) body held.since⟩
    | accept delivered valid supersedes =>
      cases found
      refine ⟨calls ++ [last], [], _, by simp, final, ?_, ?_, ?_, ?_, Or.inl rfl⟩
      · exact zero_of_committed (validateStreamDocument_ok valid).1
      · exact (validateStreamDocument_ok valid).2.2
      · exact ⟨last, by simp, delivered⟩
      · intro middle rest split
        obtain ⟨rfl, rfl⟩ := List.append_eq_nil_iff.mp split.symm
        exact ⟨_, by rw [List.append_nil, final]; rfl, rfl⟩
    | clear higher =>
      cases found
      obtain ⟨before, after, accepted, rfl, held⟩ := ih _ rfl
      obtain ⟨same, present, equal⟩ := held.kept after [] (by simp)
      rw [earlier] at present
      cases present
      exact ⟨before, after ++ [last], accepted, by simp, held.extend last final equal (Or.inr ⟨rfl, rfl⟩)⟩

structure HonestRecord (libs : Libraries) (codec : Codec T) (validate : Option T → Except Error Unit)
    (name : Stream) (calls : List (StreamCall T)) (record : StoredStream) : Prop where
  present : record.document.version.zero = false →
    record.document.version.epoch = record.epochFloor ∧
      record.document.etag = libs.lib.sha256Hex record.document.body ∧
      ∃ call ∈ calls, call.Delivers codec record.document.version record.document.body
  cleared : record.document.version.zero = true → record.document.etag = "" ∧
    ∃ before after accepted, calls = before ++ after ∧
      recordAfter libs codec validate name before = some accepted ∧
      accepted.document.version.zero = false ∧
      ∀ middle rest, after = middle ++ rest →
        ∃ kept ∈ recordAfter libs codec validate name (before ++ middle),
          kept.document.body = record.document.body

theorem recordAfter_honest (calls : List (StreamCall T)) : ∀ record ∈ recordAfter libs codec validate name calls,
    HonestRecord libs codec validate name calls record := by
  intro record found
  obtain ⟨before, after, accepted, rfl, held⟩ := exists_lastAccepted calls record found
  obtain ⟨last, present, body⟩ := held.kept after [] (by simp)
  rw [Option.mem_def, Option.mem_def.mp found] at present
  cases present
  refine ⟨?_, ?_⟩
  · intro there
    rcases held.since with rfl | ⟨gone, _⟩
    · obtain ⟨call, member, delivered⟩ := held.arrived
      exact ⟨recordAfter_atFloor _ record found there, held.tagged, call, List.mem_append_left _ member, delivered⟩
    · rw [there] at gone; cases gone
  · intro gone
    rcases held.since with rfl | ⟨_, untagged⟩
    · rw [held.present] at gone; cases gone
    · refine ⟨untagged, before, after, accepted, rfl, held.stored, held.present, ?_⟩
      intro middle rest split
      obtain ⟨later, there, same⟩ := held.kept middle rest split
      exact ⟨later, there, same.trans body.symm⟩

theorem stream_history (libs : Libraries) (codec : Codec T) (validate : Option T → Except Error Unit)
    (name : Stream) (before after : List (StreamCall T)) :
    (∀ old ∈ recordAfter libs codec validate name before,
      ∃ new ∈ recordAfter libs codec validate name (before ++ after), NeverRollsBack old new) ∧
    ∀ record ∈ recordAfter libs codec validate name (before ++ after),
      HonestRecord libs codec validate name (before ++ after) record := by
  refine ⟨?_, recordAfter_honest (before ++ after)⟩
  intro old found
  obtain ⟨new, present, forward⟩ := recordAfter_forward before after old found
  exact ⟨new, present, neverRollsBack_of_forward forward (recordAfter_atFloor before old found)
    (recordAfter_atFloor (before ++ after) new present)⟩

end History

end PasswallNode.Agent
