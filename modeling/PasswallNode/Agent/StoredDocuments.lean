import PasswallNode.Agent.ContentGap

/-! What a round goes on with is what the database holds. -/

namespace PasswallNode.Agent

open Foundation Protocol State Sqlite

section Segment

variable {T : Type} {libs : Libraries} {codec : Codec T} {name : Stream} {store next : Store}
  {validate : Option T → Except Error Unit} {segment : Segment T} {acceptedAtMS : Int} {received : ReceivedSegment T}
  {catalog : Corecatalog.Catalog} {nowMS : Stream → Int} {response : SyncResponse} {documents : ReceivedDocuments}

theorem storedBody_congr (same : next.streams.find? name = store.streams.find? name) :
    storedBody codec next name = storedBody codec store name := by
  rw [storedBody, storedBody, same]

theorem storedBody_cleared {epoch : Nat} (cleared : clearStreamForHigherEpoch store name epoch = .ok (next, ())) :
    storedBody codec next name = storedBody codec store name := by
  rcases clearStreamForHigherEpoch_ok cleared with ⟨absent, rfl⟩ | ⟨current, found, -, -, records⟩
  · rfl
  · have here := records name
    rw [if_pos rfl] at here
    simp [storedBody, here, found, clearedStream]

theorem saveStream_holds {doc : StreamDocument} (saved : saveStream libs.lib libs.wire store doc = .ok (next, ())) :
    ∃ record, next.streams.find? doc.stream = some record ∧ record.document.body = doc.body ∧
      (storedVersion next doc.stream).zero = false := by
  obtain ⟨valid, stored⟩ := saveStream_ok saved
  have present : doc.version.zero = false := zero_of_committed (validateStreamDocument_ok valid).1
  rcases stored with ⟨rfl, current, found, version, -, body⟩ | ⟨-, -, records⟩
  · exact ⟨current, found, body, by rw [storedVersion, found, ← present, ← version]; rfl⟩
  · exact ⟨_, (records doc.stream).trans (if_pos rfl), rfl, by rw [storedVersion, records, if_pos rfl]; exact present⟩

theorem receiveSegment_stored {same : T → T → Prop} (refl : ∀ body, same body body)
    (encodes : ∀ body bytes, codec.marshal body = .ok bytes → ∃ back, codec.unmarshal bytes = .ok back ∧ same body back)
    (decodes : StreamDecodes codec store name)
    (ran : exec (serve libs) store
      (receiveSegment libs.wire codec validate name segment acceptedAtMS) = (next, .ok received)) :
    Option.Rel same received.body (storedBody codec next name) ∧ StreamDecodes codec next name := by
  have unmoved : Option.Rel same (storedBody codec store name) (storedBody codec store name) := by
    cases storedBody codec store name with
    | none => exact .none
    | some body => exact .some (refl body)
  cases receiveSegment_ended decodes ran with
  | refuse err => exact ⟨unmoved, decodes⟩
  | keep => exact ⟨unmoved, decodes⟩
  | clear cleared =>
    rcases clearStreamForHigherEpoch_ok cleared with ⟨absent, rfl⟩ | ⟨current, found, -, -, records⟩
    · exact ⟨unmoved, decodes⟩
    · have here := records name
      rw [if_pos rfl] at here
      refine ⟨by rw [storedBody_cleared cleared]; exact unmoved, ?_⟩
      intro record present
      rw [here] at present
      cases present
      exact decodes current found
  | accept changed carried encoded saved =>
    rename_i body bytes
    obtain ⟨back, decoded, respelled⟩ := encodes body bytes encoded
    obtain ⟨record, found, rfl, -⟩ := saveStream_holds saved
    refine ⟨?_, ?_⟩
    · rw [storedBody_of_find? found decoded]
      exact .some respelled
    · intro other present
      rw [found] at present
      cases present
      exact ⟨back, decoded⟩

theorem receiveSegment_source (decodes : StreamDecodes codec store name)
    (ran : exec (serve libs) store
      (receiveSegment libs.wire codec validate name segment acceptedAtMS) = (next, .ok received)) :
    storedBody codec next name = storedBody codec store name ∨
    segment.unchanged = false ∧ (storedVersion next name).zero = false ∧ ∃ body bytes, segment.body = some body ∧
      codec.marshal body = .ok bytes ∧ storedBody codec next name = (codec.unmarshal bytes).toOption := by
  cases receiveSegment_ended decodes ran with
  | refuse err => exact Or.inl rfl
  | keep => exact Or.inl rfl
  | clear cleared => exact Or.inl (storedBody_cleared cleared)
  | accept changed carried encoded saved =>
    rename_i body bytes
    obtain ⟨record, found, held, present⟩ := saveStream_holds saved
    exact Or.inr ⟨changed, present, body, bytes, carried, encoded, by simp [storedBody, found, held]⟩

theorem segment_frame {other : Stream} {outcome : Except Error (ReceivedSegment T)} (apart : other ≠ name)
    (ran : exec (serve libs) store (receiveSegment libs.wire codec validate name segment acceptedAtMS) =
    (next, outcome)) : next.streams.find? other = store.streams.find? other := by
  have framed : (exec (serve libs) store
      (receiveSegment libs.wire codec validate name segment acceptedAtMS)).1.streams.find? other =
        store.streams.find? other := receiveSegment_frame apart
  rw [ran] at framed
  exact framed

theorem storedBodiesDecode_of_sound (sound : SoundStore libs store) : StoredBodiesDecode libs.wire store where
  config := ((streamOf_config libs.wire).stored sound).1
  roster := ((streamOf_roster libs.wire).stored sound).1
  directives := ((streamOf_directives libs.wire).stored sound).1

structure AgreesWithStore (wire : Wire) (store : Store) (documents : ReceivedDocuments) : Prop where
  config : Option.Rel ConfigBody.Respells documents.config (storedBody wire.config store .config)
  roster : documents.roster = storedBody wire.roster store .roster
  directives : documents.directives = storedBody wire.directives store .directives

theorem option_eq_of_rel {T : Type} {first second : Option T} (related : Option.Rel (· = ·) first second) :
    first = second := by
  cases related with
  | none => rfl
  | some same => rw [same]

theorem receive_agrees (sound : SoundStore libs store)
    (ran : exec (serve libs) store (receive catalog libs.wire nowMS response) = (next, .ok documents)) :
    AgreesWithStore libs.wire next documents := by
  have decodes := storedBodiesDecode_of_sound sound
  obtain ⟨first, config, second, roster, directives, one, two, three, rfl⟩ := receive_eq_ok.mp ran
  have frameOne : ∀ other, other ≠ .config → first.streams.find? other = store.streams.find? other :=
    fun other apart => segment_frame apart one
  have frameTwo : ∀ other, other ≠ .roster → second.streams.find? other = first.streams.find? other :=
    fun other apart => segment_frame apart two
  have frameThree : ∀ other, other ≠ .directives → next.streams.find? other = second.streams.find? other :=
    fun other apart => segment_frame apart three
  have rosterFirst : StreamDecodes libs.wire.roster first .roster :=
    streamDecodes_congr (frameOne .roster (by decide)) decodes.roster
  have directivesSecond : StreamDecodes libs.wire.directives second .directives :=
    streamDecodes_congr ((frameTwo .directives (by decide)).trans (frameOne .directives (by decide)))
      decodes.directives
  refine ⟨?_, ?_, ?_⟩
  · rw [storedBody_congr (frameThree .config (by decide)), storedBody_congr (frameTwo .config (by decide))]
    exact (receiveSegment_stored ConfigBody.respells_refl libs.wire.config_decodes decodes.config one).1
  · rw [storedBody_congr (frameThree .roster (by decide))]
    refine option_eq_of_rel (receiveSegment_stored (fun _ => rfl) ?_ rosterFirst two).1
    exact fun body bytes encoded => ⟨body, libs.wire.roster_decodes body bytes encoded, rfl⟩
  · refine option_eq_of_rel (receiveSegment_stored (fun _ => rfl) ?_ directivesSecond three).1
    exact fun body bytes encoded => ⟨body, libs.wire.directives_decodes body bytes encoded, rfl⟩

theorem receive_roster_source (sound : SoundStore libs store)
    (ran : exec (serve libs) store (receive catalog libs.wire nowMS response) = (next, .ok documents)) :
    storedBody libs.wire.roster next .roster = storedBody libs.wire.roster store .roster ∨
    response.roster.unchanged = false ∧ ∃ body, response.roster.body = some body ∧
      storedBody libs.wire.roster next .roster = some body := by
  obtain ⟨first, config, second, roster, directives, one, two, three, rfl⟩ := receive_eq_ok.mp ran
  have early : first.streams.find? .roster = store.streams.find? .roster := segment_frame (by decide) one
  have late : next.streams.find? .roster = second.streams.find? .roster := segment_frame (by decide) three
  rw [storedBody_congr late, ← storedBody_congr early]
  have decodes := streamDecodes_congr early (storedBodiesDecode_of_sound sound).roster
  rcases receiveSegment_source decodes two with same | ⟨changed, -, body, bytes, carried, encoded, stored⟩
  · exact Or.inl same
  · refine Or.inr ⟨changed, body, carried, ?_⟩
    rw [stored, libs.wire.roster_decodes body bytes encoded]
    rfl

end Segment

section Open

variable {result : Bool}

def Aside : ProcessCall → Prop
  | .record _ | .taskWake | .acceptTasksFenced _ _ => True
  | _ => False

theorem uses_recordIssue (issue : LocalIssue) : Uses Aside (recordIssue result issue) :=
  uses_call.mpr ⟨trivial, fun _ => uses_done _⟩

theorem uses_recordIssues {β : Type} (issue : β → LocalIssue) (items : List β) : Uses Aside
    (Proc.each (fun result item => recordIssue result (issue item)) result items) := by
  induction items generalizing result with
  | nil => exact uses_done _
  | cons item rest ih => exact uses_bind (uses_recordIssue (issue item)) (fun _ => ih)

structure Opened (libs : Libraries) (before after : Store) (intake : Intake) : Prop where
  oldConfig : intake.oldConfig = storedBody libs.wire.config before .config
  oldRoster : intake.oldRoster = storedBody libs.wire.roster before .roster
  agrees : AgreesWithStore libs.wire after intake.received
  configVersion : intake.configVersion = storedVersion after .config
  rosterVersion : intake.rosterVersion = storedVersion after .roster
  valid : ValidDocuments libs.wire intake.received

end Open

end PasswallNode.Agent
