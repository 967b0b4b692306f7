import Mathlib.Data.String.Basic
import PasswallNode.Foundation.Interference
import PasswallNode.Handover.Looking

/-! The name of an updater over a chain of handovers. -/

namespace PasswallNode.Handover

open Foundation Relation
open Upgrade (Failure dockerObjectName)

section Names

def stripHandoverSuffix (middle chars : List Char) : Option (List Char) :=
  let size := middle.length + 8
  let tail := chars.drop (chars.length - size)
  if size ≤ chars.length ∧ middle.isPrefixOf tail = true ∧ (tail.drop middle.length).all isLowerHex = true then
    some (chars.take (chars.length - size))
  else none

/-- `-(next|retired)-[0-9a-f]{8}$`, removed once. -/
def withoutHandoverSuffix (name : String) : String :=
  let stripped (middle : String) := stripHandoverSuffix middle.toList name.toList
  String.ofList (((stripped "-next-").orElse (fun _ => stripped "-retired-")).getD name.toList)

def withoutSlash (name : String) : String :=
  if startsWith "/" name then String.ofList (name.toList.drop 1) else name

def canonicalUpdaterName (self : Container) (journal : Option DockerHandover) : String :=
  match journal with
  | some journal =>
    if handoverTerminal journal.phase ∧ self.id ≠ "" ∧ journal.successorID = self.id then journal.canonicalName
    else withoutHandoverSuffix (withoutSlash self.name)
  | none => withoutHandoverSuffix (withoutSlash self.name)

end Names

namespace Controller

variable (c : Controller)

section Tidy

def removeLeftover (self : String) (agent : Container) (id : String) : Updating Unit :=
  if id = "" ∨ id = self then return ()
  else do
    match ← (inspect id).attempt with
    | .error _ => return ()
    | .ok container =>
      match c.isUpdaterContainer container agent with
      | .error _ => return ()
      | .ok _ => do
          let _ ← (c.removeUpdater id).attempt

def takeName (self : String) (journal : DockerHandover) : Updating Unit := do
  let _ ← (c.mutate (.rename self journal.canonicalName)).attempt

def freeName (self : String) (journal : DockerHandover) : Updating Unit := do
  match ← (inspect journal.canonicalName).attempt with
  | .error .dockerNotFound => c.takeName self journal
  | .error _ => return ()
  | .ok holder =>
    if holder.id = journal.predecessorID ∧ holder.id ≠ self then do
      match ← (c.mutate (.rename holder.id journal.retiredName)).attempt with
      | .error _ => return ()
      | .ok _ => c.takeName self journal
    else return ()

def regainName (self : String) (journal : DockerHandover) : Updating Unit :=
  if self ≠ journal.predecessorID ∧ self ≠ journal.successorID then return ()
  else do
    match ← (inspect self).attempt with
    | .error _ => return ()
    | .ok own => if own.name = "/" ++ journal.canonicalName then return () else c.freeName self journal

/-- What a finished handover left behind is removed, and this updater gets its name back. -/
def tidy (self : String) : Updating Unit := do
  match ← (readHandover true).attempt with
  | .ok (some journal) =>
    if handoverTerminal journal.phase = false then return ()
    else do
      match ← (inspect c.targetName).attempt with
      | .error _ => return ()
      | .ok agent => do
          let _ ← Proc.each (fun _ id => c.removeLeftover self agent id) ()
            [journal.predecessorID, journal.successorID]
          c.regainName self journal
  | _ => return ()

def abandonedJournal (journal : DockerHandover) : DockerHandover :=
  { journal with phase := .abandoned, reason := "predecessor removed" }

def supersededJournal (journal : DockerHandover) : DockerHandover :=
  { journal with phase := .superseded, reason := "another updater holds the lock" }

def completedJournal (journal : DockerHandover) : DockerHandover := { journal with phase := .completed }

inductive Ending (journal : DockerHandover) : DockerHandover → Prop where
  | aborted (reason : String) (now : Int) : Ending journal (abortedJournal journal reason now)
  | reverted (now : Int) : Ending journal (revertedJournal journal now)
  | abandoned : Ending journal (abandonedJournal journal)
  | superseded : Ending journal (supersededJournal journal)
  | completed : Ending journal (completedJournal journal)

def inProgress (journal : Option DockerHandover) : Except Failure Unit :=
  match journal with
  | none => .ok ()
  | some journal => rejectIf (handoverTerminal journal.phase = false)
      (.text s!"handover {shortHandoverID journal.id} is in progress ({journal.phase.text})")

/-- The part of `followTarget` that names the successor; `found` is what the rest of it checks and
finds. -/
def followTarget (found : Container → Option DockerHandover → Except Failure HandoverTarget) (self : String) :
    Updating HandoverTarget := do
  let journal ← (readHandover true).mapError
    (fun err => .text ("the handover journal cannot be read: " ++ err.message))
  inProgress journal
  let own ← (inspect self).mapError
    (fun err => .text ("this updater's own container cannot be inspected: " ++ err.message))
  rejectIf (own.id ≠ self) (Failure.text "this updater's own container cannot be inspected: <nil>")
  let canonical := canonicalUpdaterName own journal
  rejectIf (dockerObjectName canonical = false ∨ dockerObjectName (canonical ++ "-retired-00000000") = false)
    (Failure.text s!"the updater name {c.docker.quote canonical} leaves no room for a successor's")
  let target ← found own journal
  return { target with self := own, canonical := canonical }

def evaluate (found : Container → Option DockerHandover → Except Failure HandoverTarget) (self : String) :
    Updating Bool := do
  c.tidy self
  match ← (c.followTarget found self).attempt with
  | .error _ => return false
  | .ok target => c.handOver target

end Tidy

end Controller

section Engine

/-- The updaters of the chain, their names and the journal. An updater that is gone has no name. -/
structure Engine where
  updaters : List String
  name : String → Option String
  journal : Option DockerHandover

def Engine.named (state : Engine) (id name : String) : Engine :=
  { state with name := Function.update state.name id (some ("/" ++ name)) }

theorem Engine.named_self (state : Engine) (id given : String) :
    (state.named id given).name id = some ("/" ++ given) := Function.update_self ..

def Engine.created (state : Engine) (id name : String) : Engine :=
  { state.named id name with updaters := id :: state.updaters }

def Engine.removed (state : Engine) (id : String) : Engine :=
  { state with name := Function.update state.name id none }

/-- Any call may fail, and one that fails may have taken effect. Only the updaters of the chain are followed: all
other containers may change as they like. -/
def Engine.answers (state : Engine) : (op : UpdaterCall) → op.Answer → Engine → Prop
  | .inspectContainer _, answer, after => after = state ∧ ∀ container, answer = .ok container →
    container.id ∈ state.updaters → state.name container.id = some container.name
  | .createReplacement name _ _ _, answer, after =>
    (after = state ∧ ∃ err, answer = .error err) ∨
      ∃ id, after = state.created id name ∧ ∀ told, answer = .ok told → told = id
  | .renameContainer id name, _, after => after = state ∨ after = state.named id name
  | .removeContainer id _, _, after => after = state ∨ after = state.removed id
  | .loadHandover, answer, after => after = state ∧ ∀ h, answer = .journal h → state.journal = some h
  | .storeHandover h, _, after => after = state ∨ after = { state with journal := some h }
  | .quarantine, _, after => after = state ∨ after = { state with journal := none }
  | .random, answer, after => after = state ∧ ∀ id, answer = .ok id → lowerHex id 32 = true
  | _, _, after => after = state

def engine : Environment Engine UpdaterCall UpdaterCall.Answer where
  answers state := state.answers
  moves _ _ := False

def HexDigits (digits : String) : Prop := digits.toList.length = 8 ∧ digits.toList.all isLowerHex = true

theorem utf8Len_le (chars : List Char) : String.utf8Len chars ≤ 4 * chars.length := by
  induction chars with
  | nil => exact Nat.zero_le _
  | cons c rest ih =>
    have small := Char.utf8Size_le_four c
    simp only [String.utf8Len_cons, List.length_cons]
    omega

theorem hexDigits_short {id : String} (hex : lowerHex id 32 = true) : HexDigits (shortHandoverID id) := by
  obtain ⟨size, digits⟩ := Bool.and_eq_true_iff.mp hex
  have long := utf8Len_le id.toList
  rw [← String.utf8ByteSize_ofList, String.ofList_toList, of_decide_eq_true size] at long
  refine ⟨by simp [shortHandoverID]; omega, ?_⟩
  rw [shortHandoverID, String.toList_ofList, List.all_eq_true]
  exact fun c member => List.all_eq_true.mp digits c (List.mem_of_mem_take member)

theorem strip_suffixed {middle digits : List Char} (name : List Char) (eight : digits.length = 8)
    (hex : digits.all isLowerHex = true) : stripHandoverSuffix middle (name ++ (middle ++ digits)) = some name := by
  have start : (name ++ (middle ++ digits)).length - (middle.length + 8) = name.length := by
    simp only [List.length_append, eight]
    omega
  simp only [stripHandoverSuffix, start]
  simp [eight, hex]

theorem strip_next_retired {digits : List Char} (name : List Char) (eight : digits.length = 8) :
    stripHandoverSuffix "-next-".toList (name ++ ("-retired-".toList ++ digits)) = none := by
  have parts : name ++ ("-retired-".toList ++ digits) = (name ++ ['-', 'r', 'e']) ++ ("tired-".toList ++ digits) := by
    simp
  have start : (name ++ ("-retired-".toList ++ digits)).length - ("-next-".toList.length + 8) =
      (name ++ ['-', 'r', 'e']).length := by
    simp [eight]
  rw [stripHandoverSuffix, start, parts]
  simp

inductive Variant (name : String) : String → Prop where
  | plain : Variant name name
  | next (digits : String) (hex : HexDigits digits) : Variant name (name ++ "-next-" ++ digits)
  | retired (digits : String) (hex : HexDigits digits) : Variant name (name ++ "-retired-" ++ digits)

theorem Variant.stripped {name given : String} (variant : Variant name given)
    (plain : withoutHandoverSuffix name = name) : withoutHandoverSuffix given = name := by
  cases variant with
  | plain => exact plain
  | next digits hex =>
    simp only [withoutHandoverSuffix, String.toList_append, List.append_assoc, strip_suffixed _ hex.1 hex.2]
    simp
  | retired digits hex =>
    simp only [withoutHandoverSuffix, String.toList_append, List.append_assoc, strip_next_retired _ hex.1,
      strip_suffixed _ hex.1 hex.2]
    simp

theorem withoutSlash_slash (name : String) : withoutSlash ("/" ++ name) = name := by
  simp [withoutSlash, startsWith]

structure Named (name : String) (h : DockerHandover) : Prop where
  canonical : h.canonicalName = name
  successor : Variant name h.successorName
  retired : Variant name h.retiredName

def Proper (name : String) : UpdaterCall → Prop
  | .createReplacement given _ _ _ => Variant name given
  | .renameContainer _ given => Variant name given
  | .storeHandover h => Named name h
  | _ => True

def Told (name self : String) : (op : UpdaterCall) → op.Answer → Prop
  | .inspectContainer _, answer => ∀ container, answer = .ok container → container.id = self →
      ∃ own, Variant name own ∧ container.name = "/" ++ own
  | .loadHandover, answer => ∀ h, answer = .journal h → Named name h
  | .random, answer => ∀ id, answer = .ok id → lowerHex id 32 = true
  | _, _ => True

def naming (name self : String) : Contract UpdaterCall UpdaterCall.Answer := ⟨Proper name, Told name self⟩

variable {name self : String} {α β : Type} {program : Updating α}

def Keeps (name self : String) (program : Updating α) : Prop :=
  Meets (naming name self) (Yields (fun _ => True) (fun _ => True)) program

theorem proper_of_observes (op : UpdaterCall) (observes : Observes op) : Proper name op := by
  cases op <;> trivial

theorem keeps_of_uses (uses : Uses (Proper name) program) : Keeps name self program :=
  meets_of_uses uses

theorem keeps_bind {next : α → Updating β} (first : Keeps name self program) (rest : ∀ a, Keeps name self (next a)) :
    Keeps name self (program >>= next) :=
  meets_bind first (fun a _ => rest a)

theorem keeps_attempt {post : Except Failure α → Prop} {next : Except Failure α → Updating β}
    (first : Meets (naming name self) post program)
    (rest : ∀ outcome, post outcome → Keeps name self (next outcome)) :
    Keeps name self (program.attempt >>= next) :=
  meets_bind (meets_attempt first) rest

theorem keeps_observes {next : α → Updating β} (uses : Uses Observes program) (rest : ∀ a, Keeps name self (next a)) :
    Keeps name self (program >>= next) :=
  keeps_bind (keeps_of_uses (uses_mono uses proper_of_observes)) rest

theorem keeps_tries {next : Except Failure α → Updating β} (uses : Uses (Proper name) program)
    (rest : ∀ outcome, Keeps name self (next outcome)) : Keeps name self (program.attempt >>= next) :=
  keeps_attempt (keeps_of_uses uses) (fun outcome _ => rest outcome)

end Engine

section Programs

variable {name self : String} {h : DockerHandover}

theorem named_prepared (c : Controller) {t : HandoverTarget} {id : String} (canonical : t.canonical = name)
    (hex : lowerHex id 32 = true) : Named name (c.preparedHandover t id) := by
  subst canonical
  exact ⟨rfl, .next _ (hexDigits_short hex), .retired _ (hexDigits_short hex)⟩

theorem meets_readHandover :
    Meets (naming name self) (Yields (fun _ => True) (fun journal => ∀ h, journal = some h → Named name h))
    (readHandover true) := by
  refine ⟨trivial, fun loaded told => ?_⟩
  cases loaded with
  | absent => exact fun _ impossible => by cases impossible
  | journal h =>
    intro other same
    cases same
    exact told h rfl
  | failed err => trivial
  | invalid =>
    refine ⟨trivial, fun moved _ => ?_⟩
    cases moved with
    | error err => trivial
    | ok _ => exact fun _ impossible => by cases impossible

theorem keeps_writeHandover (named : Named name h) : Keeps name self (writeHandover h) := by
  have stores : Keeps name self (storeHandover h) := keeps_of_uses (uses_call.mpr ⟨named, fun _ => uses_done _⟩)
  refine keeps_bind (by cases h.validate <;> trivial) (fun _ => ?_)
  refine keeps_bind (keeps_of_uses (uses_call.mpr ⟨trivial, fun _ => uses_done _⟩)) (fun prev => ?_)
  split
  · exact keeps_bind (by cases movesOn _ h <;> trivial) (fun _ => stores)
  · refine keeps_bind (by cases replaces prev h <;> trivial) (fun _ => ?_)
    refine keeps_observes (looks_request trivial) (fun now => ?_)
    exact keeps_bind (by cases numbered prev h now <;> trivial) (fun _ => stores)

namespace Controller

variable (c : Controller)

theorem keeps_abortHandover (named : Named name h) {known reason : String} {byName : Bool} :
    Keeps name self (c.abortHandover h known byName reason) := by
  refine keeps_observes (looks_abortedSuccessor h known byName) (fun successor => ?_)
  refine keeps_observes (c.looks_removeSuccessor successor) (fun _ => ?_)
  refine keeps_observes (looks_request trivial) (fun now => ?_)
  exact meets_mapError (keeps_writeHandover ⟨named.canonical, named.successor, named.retired⟩) (fun _ _ => trivial)

theorem keeps_abortWith (named : Named name h) {known reason : String} {byName : Bool} :
    Keeps name self (c.abortWith h known byName reason) :=
  keeps_bind (c.keeps_abortHandover named) (fun _ => trivial)

theorem keeps_abortUnlessStopping (named : Named name h) {reason : String} :
    Keeps name self (c.abortUnlessStopping h reason) := by
  refine keeps_observes (looks_request trivial) (fun stopping => ?_)
  split
  · trivial
  · exact c.keeps_abortWith named

theorem keeps_commitHandover (named : Named name h) : Keeps name self (c.commitHandover h) := by
  refine keeps_attempt (keeps_writeHandover ⟨named.canonical, named.successor, named.retired⟩) (fun written _ => ?_)
  cases written with
  | ok _ => trivial
  | error err => exact keeps_bind (c.keeps_abortHandover named) (fun _ => trivial)

theorem keeps_proveSuccessor (named : Named name h) {t : HandoverTarget} :
    Keeps name self (c.proveSuccessor h t) := by
  refine keeps_tries (uses_mono (c.looks_verifySuccessor h t) proper_of_observes) (fun verified => ?_)
  cases verified with
  | error err => exact c.keeps_abortUnlessStopping named
  | ok _ =>
    refine keeps_tries (c.uses_mutate proper_of_observes trivial) (fun started => ?_)
    cases started with
    | error err => exact c.keeps_abortUnlessStopping named
    | ok _ =>
      refine keeps_observes (c.looks_waitStandby h) (fun waited => ?_)
      cases waited with
      | some reason => exact c.keeps_abortUnlessStopping named
      | none => exact c.keeps_commitHandover named

theorem keeps_createSuccessor (named : Named name h) {t : HandoverTarget} {source : Container} :
    Keeps name self (c.createSuccessor h t source) := by
  refine keeps_tries (c.uses_mutate proper_of_observes named.successor) (fun created => ?_)
  cases created with
  | error err => exact c.keeps_abortWith named
  | ok successorID =>
    have recorded : Named name { h with phase := .created, successorID := successorID } :=
      ⟨named.canonical, named.successor, named.retired⟩
    refine keeps_attempt (keeps_writeHandover recorded) (fun written _ => ?_)
    cases written with
    | error err => exact c.keeps_abortWith named
    | ok _ => exact c.keeps_proveSuccessor recorded

theorem keeps_handOver {t : HandoverTarget} (canonical : t.canonical = name) : Keeps name self (c.handOver t) := by
  refine ⟨trivial, fun drawn told => ?_⟩
  cases drawn with
  | error err => trivial
  | ok id =>
    have named : Named name (c.preparedHandover t id) := named_prepared c canonical (told id rfl)
    change Keeps name self ((writeHandover (c.preparedHandover t id)).mapError _ >>= _)
    refine keeps_bind (meets_mapError (keeps_writeHandover named) (fun _ _ => trivial)) (fun _ => ?_)
    refine keeps_tries (uses_mono (looks_inspect _) proper_of_observes) (fun found => ?_)
    split
    · exact c.keeps_abortWith named
    · split
      · exact c.keeps_abortWith named
      · exact c.keeps_createSuccessor named
    · exact c.keeps_abortWith named

theorem uses_takeName (named : Named name h) : Uses (Proper name) (c.takeName self h) := by
  have renames : (Mutation.rename self h.canonicalName).Issues (Proper name) := fun _ => named.canonical ▸ .plain
  exact uses_bind (uses_attempt (c.uses_mutate proper_of_observes renames)) (fun _ => uses_done _)

theorem uses_freeName (named : Named name h) : Uses (Proper name) (c.freeName self h) := by
  refine uses_bind (uses_attempt (uses_mono (looks_inspect _) proper_of_observes)) (fun holder => ?_)
  split
  · exact c.uses_takeName named
  · exact uses_done _
  · refine uses_ite
      (uses_bind (uses_attempt (c.uses_mutate proper_of_observes (fun _ => named.retired))) (fun moved => ?_))
      (uses_done _)
    split
    · exact uses_done _
    · exact c.uses_takeName named

theorem uses_regainName (named : Named name h) : Uses (Proper name) (c.regainName self h) := by
  refine uses_ite (uses_done _)
    (uses_bind (uses_attempt (uses_mono (looks_inspect _) proper_of_observes)) (fun own => ?_))
  split
  · exact uses_done _
  · exact uses_ite (uses_done _) (c.uses_freeName named)

theorem looks_removeLeftover (agent : Container) (id : String) : Uses Observes (c.removeLeftover self agent id) := by
  refine uses_ite (uses_done _) (uses_bind (uses_attempt (looks_inspect _)) (fun found => ?_))
  split
  · exact uses_done _
  · split
    · exact uses_done _
    · exact uses_bind (uses_attempt (c.looks_removeUpdater id)) (fun _ => uses_done _)

theorem keeps_tidy : Keeps name self (c.tidy self) := by
  refine keeps_attempt meets_readHandover (fun read told => ?_)
  split
  · next journal =>
      split
      · trivial
      · refine keeps_tries (uses_mono (looks_inspect _) proper_of_observes) (fun agent => ?_)
        split
        · trivial
        · refine keeps_observes (uses_each (fun _ id => c.looks_removeLeftover _ id) _ _) (fun _ => ?_)
          exact keeps_of_uses (c.uses_regainName (told journal rfl))
  · trivial

theorem canonicalUpdaterName_eq {own : Container} {journal : Option DockerHandover} {given : String}
    (plain : withoutHandoverSuffix name = name) (known : ∀ h, journal = some h → Named name h)
    (variant : Variant name given) (called : own.name = "/" ++ given) : canonicalUpdaterName own journal = name := by
  have stripped : withoutHandoverSuffix (withoutSlash own.name) = name := by
    rw [called, withoutSlash_slash, variant.stripped plain]
  cases journal with
  | none => exact stripped
  | some h =>
    simp only [canonicalUpdaterName]
    split
    · exact (known h rfl).canonical
    · exact stripped

theorem meets_followTarget {found : Container → Option DockerHandover → Except Failure HandoverTarget}
    (plain : withoutHandoverSuffix name = name) :
    Meets (naming name self) (Yields (fun _ => True) (fun t => t.canonical = name)) (c.followTarget found self) := by
  have checked {α : Type} (result : Except Failure α) : Meets (naming name self)
      (Yields (fun _ => True) (fun a => result = .ok a)) (.done result) := by
    cases result <;> trivial
  refine meets_bind (meets_mapError meets_readHandover (fun _ _ => trivial)) (fun journal known => ?_)
  refine meets_bind (checked (inProgress journal)) (fun _ _ => ?_)
  have inspected : Meets (naming name self) (Yields (fun _ => True)
      (fun own => own.id = self → ∃ given, Variant name given ∧ own.name = "/" ++ given)) (inspect self) := by
    refine ⟨trivial, fun answer told => ?_⟩
    cases answer with
    | error err => trivial
    | ok own => exact told own rfl
  refine meets_bind (meets_mapError inspected (fun _ _ => trivial)) (fun own called => ?_)
  refine meets_bind (checked (rejectIf _ _)) (fun _ ours => ?_)
  obtain ⟨given, variant, eq⟩ := called (not_not.mp (rejectIf_eq_ok.mp ours))
  refine meets_bind (checked (rejectIf _ _)) (fun _ _ => ?_)
  refine meets_bind (checked (found own journal)) (fun target _ => ?_)
  exact canonicalUpdaterName_eq plain known variant eq

theorem keeps_evaluate {found : Container → Option DockerHandover → Except Failure HandoverTarget}
    (plain : withoutHandoverSuffix name = name) : Keeps name self (c.evaluate found self) := by
  refine keeps_bind c.keeps_tidy (fun _ => ?_)
  refine keeps_attempt (c.meets_followTarget plain) (fun followed canonical => ?_)
  cases followed with
  | error err => trivial
  | ok target => exact c.keeps_handOver canonical

end Controller

end Programs

section Chain

variable {name first self : String} {state after : Engine}

/-- Every updater of the chain has the name, with at most one suffix, and the journal records it. -/
structure Bears (name : String) (state : Engine) : Prop where
  updaters : ∀ id, id ∈ state.updaters → ∀ called, state.name id = some called →
    ∃ given, Variant name given ∧ called = "/" ++ given
  journal : ∀ h, state.journal = some h → Named name h

theorem Bears.named (bears : Bears name state) {id given : String} (variant : Variant name given) :
    Bears name (state.named id given) := by
  refine ⟨fun other member called eq => ?_, bears.journal⟩
  by_cases same : other = id
  · subst same
    rw [Engine.named_self] at eq
    exact ⟨given, variant, (Option.some.inj eq).symm⟩
  · exact bears.updaters other member called ((Function.update_of_ne same ..).symm.trans eq)

theorem Bears.removed (bears : Bears name state) (id : String) : Bears name (state.removed id) := by
  refine ⟨fun other member called eq => ?_, bears.journal⟩
  by_cases same : other = id
  · subst same
    have gone : (state.removed other).name other = none := Function.update_self ..
    rw [gone] at eq
    cases eq
  · exact bears.updaters other member called ((Function.update_of_ne same ..).symm.trans eq)

theorem Bears.created (bears : Bears name state) {id given : String} (variant : Variant name given) :
    Bears name (state.created id given) := by
  refine ⟨fun other member called eq => ?_, bears.journal⟩
  rcases List.mem_cons.mp member with rfl | member
  · exact ⟨given, variant, (Option.some.inj ((state.named_self _ given).symm.trans eq)).symm⟩
  · exact (bears.named variant).updaters other member called eq

theorem bears_answer {op : UpdaterCall} {answer : op.Answer} (held : Bears name state ∧ self ∈ state.updaters)
    (proper : Proper name op) (answered : state.answers op answer after) :
    (Bears name after ∧ self ∈ after.updaters) ∧ Told name self op answer := by
  obtain ⟨bears, ours⟩ := held
  cases op with
  | inspectContainer target =>
    obtain ⟨rfl, shown⟩ := answered
    refine ⟨⟨bears, ours⟩, fun container eq own => ?_⟩
    subst own
    exact bears.updaters container.id ours container.name (shown container eq ours)
  | createReplacement given source image reference =>
    rcases answered with ⟨rfl, -⟩ | ⟨id, rfl, -⟩
    · exact ⟨⟨bears, ours⟩, trivial⟩
    · exact ⟨⟨bears.created proper, List.mem_cons_of_mem _ ours⟩, trivial⟩
  | renameContainer id given =>
    rcases answered with rfl | rfl
    · exact ⟨⟨bears, ours⟩, trivial⟩
    · exact ⟨⟨bears.named proper, ours⟩, trivial⟩
  | removeContainer id force =>
    rcases answered with rfl | rfl
    · exact ⟨⟨bears, ours⟩, trivial⟩
    · exact ⟨⟨bears.removed id, ours⟩, trivial⟩
  | loadHandover =>
    obtain ⟨rfl, shown⟩ := answered
    exact ⟨⟨bears, ours⟩, fun h eq => bears.journal h (shown h eq)⟩
  | storeHandover h =>
    rcases answered with rfl | rfl
    · exact ⟨⟨bears, ours⟩, trivial⟩
    · refine ⟨⟨⟨bears.updaters, fun other eq => ?_⟩, ours⟩, trivial⟩
      cases eq
      exact proper
  | quarantine =>
    rcases answered with rfl | rfl
    · exact ⟨⟨bears, ours⟩, trivial⟩
    · exact ⟨⟨⟨bears.updaters, fun _ eq => by cases eq⟩, ours⟩, trivial⟩
  | random =>
    obtain ⟨rfl, drawn⟩ := answered
    exact ⟨⟨bears, ours⟩, drawn⟩
  | _ =>
    cases answered
    exact ⟨⟨bears, ours⟩, trivial⟩

theorem stable_engine (holds : Engine → Prop) : Stable engine holds := fun _ _ impossible => impossible.elim

theorem ensures_meets {α : Type} {post : Except Failure α → Prop} {program : Updating α}
    (meets : Meets (naming name self) post program) (bears : Bears name state) (ours : self ∈ state.updaters) :
    Ensures engine (fun state _ => Bears name state ∧ self ∈ state.updaters)
    (fun state result => (Bears name state ∧ self ∈ state.updaters) ∧ post result) state program :=
  ensures_of_meets (stable_engine _)
    (fun _ _ _ _ held proper answered => bears_answer held proper answered) (fun _ _ held _ => held) meets ⟨bears, ours⟩

/-- What an updater of the chain does: it evaluates whether to hand over, or ends the handover that the journal
records. -/
inductive Acted (before after : Engine) : Prop where
  | evaluate (c : Controller) (found : Container → Option DockerHandover → Except Failure HandoverTarget)
      (self : String) (rest : Updating Bool) (ours : self ∈ before.updaters)
      (ran : Among engine (before, c.evaluate found self) (after, rest))
  | ends (h next : DockerHandover) (self : String) (rest : Updating Unit) (ours : self ∈ before.updaters)
      (found : before.journal = some h) (ending : Controller.Ending h next)
      (ran : Among engine (before, writeHandover next) (after, rest))

theorem bears_among {α : Type} {program rest : Updating α} (keeps : Keeps name self program) (bears : Bears name state)
    (ours : self ∈ state.updaters) (ran : Among engine (state, program) (after, rest)) : Bears name after :=
  (among_holds (stable_engine (fun state => Bears name state ∧ self ∈ state.updaters)) ran
    (ensures_mono (ensures_meets keeps bears ours) (fun _ _ both => both) (fun _ _ both => both.1))).1

theorem bears_acted (plain : withoutHandoverSuffix name = name) (bears : Bears name state)
    (acted : Acted state after) : Bears name after := by
  cases acted with
  | evaluate c found self rest ours ran => exact bears_among (c.keeps_evaluate plain) bears ours ran
  | ends h next self rest ours found ending ran =>
    have named := bears.journal h found
    have kept : Named name next := by
      cases ending <;> exact ⟨named.canonical, named.successor, named.retired⟩
    exact bears_among (keeps_writeHandover kept) bears ours ran

def Engine.start (first name : String) : Engine where
  updaters := [first]
  name := fun id => if id = first then some ("/" ++ name) else none
  journal := none

theorem bears_runs (plain : withoutHandoverSuffix name = name)
    (ran : ReflTransGen Acted (Engine.start first name) state) : Bears name state := by
  induction ran with
  | refl =>
    refine ⟨fun id member called eq => ?_, fun _ impossible => by cases impossible⟩
    exact ⟨name, .plain, (Option.some.inj ((if_pos (List.mem_singleton.mp member)).symm.trans eq)).symm⟩
  | tail _ acted ih => exact bears_acted plain ih acted

theorem isAlphanum_of_lowerHex {c : Char} (hex : isLowerHex c = true) : c.isAlphanum = true := by
  rcases Bool.or_eq_true_iff.mp hex with digit | letter
  · exact Bool.or_eq_true_iff.mpr (.inr digit)
  · obtain ⟨low, high⟩ := Bool.and_eq_true_iff.mp letter
    have low := Char.le_def.mp (of_decide_eq_true low)
    have high := UInt32.le_trans (Char.le_def.mp (of_decide_eq_true high)) (by decide : 'f'.val ≤ 122)
    have lower : c.isLower = true := Bool.and_eq_true_iff.mpr ⟨decide_eq_true low, decide_eq_true high⟩
    have alpha : c.isAlpha = true := Bool.or_eq_true_iff.mpr (.inr lower)
    exact Bool.or_eq_true_iff.mpr (.inl alpha)

theorem dockerObjectName_suffixed {middle digits earlier : String} (hex : HexDigits digits)
    (earlierHex : HexDigits earlier) (valid : dockerObjectName name = true)
    (room : dockerObjectName (name ++ middle ++ earlier) = true) :
    dockerObjectName (name ++ middle ++ digits) = true := by
  obtain ⟨eight, digital⟩ := hex
  have plain : digits.toList.all (fun c => c.isAlphanum || c = '_' || c = '.' || c = '-') = true := by
    rw [List.all_eq_true] at *
    intro c member
    simp [isAlphanum_of_lowerHex (digital c member)]
  unfold dockerObjectName at *
  cases chars : name.toList with
  | nil => simp [chars] at valid
  | cons c rest =>
    simp only [String.toList_append, chars, List.cons_append, List.length_append, List.all_append,
      Bool.and_eq_true, decide_eq_true_eq, eight, earlierHex.1] at room ⊢
    exact ⟨room.1, room.2.1, plain⟩

/-- The name of every journal of the chain, and that it is valid if one of them was. -/
structure SameName (name : String) (h : DockerHandover) : Prop where
  canonical : h.canonicalName = name
  successor : ∃ digits, HexDigits digits ∧ h.successorName = name ++ "-next-" ++ digits
  retired : ∃ digits, HexDigits digits ∧ h.retiredName = name ++ "-retired-" ++ digits
  valid : ∀ earlier : DockerHandover, earlier.canonicalName = name → lowerHex earlier.id 32 = true →
    earlier.namesValid = true → h.namesValid = true

theorem sameName_prepared (c : Controller) {t : HandoverTarget} {id : String} (canonical : t.canonical = name)
    (hex : lowerHex id 32 = true) : SameName name (c.preparedHandover t id) := by
  subst canonical
  refine ⟨rfl, ⟨_, hexDigits_short hex, rfl⟩, ⟨_, hexDigits_short hex, rfl⟩, fun earlier same drawn valid => ?_⟩
  simp only [DockerHandover.namesValid, Bool.and_eq_true, decide_eq_true_eq, same] at valid ⊢
  obtain ⟨⟨⟨⟨plain, successor⟩, retired⟩, next⟩, last⟩ := valid
  rw [next] at successor
  rw [last] at retired
  exact ⟨⟨⟨⟨plain, dockerObjectName_suffixed (hexDigits_short hex) (hexDigits_short drawn) plain successor⟩,
    dockerObjectName_suffixed (hexDigits_short hex) (hexDigits_short drawn) plain retired⟩, rfl⟩, rfl⟩

/-- Whatever happened since the first updater was started, a handover that one of its successors
begins is recorded under the first updater's name. -/
theorem handovers_keep_the_name (c : Controller)
    (found : Container → Option DockerHandover → Except Failure HandoverTarget)
    {t : HandoverTarget} {id : String} (plain : withoutHandoverSuffix name = name)
    (ran : ReflTransGen Acted (Engine.start first name) state) (ours : self ∈ state.updaters)
    (followed : Among engine (state, c.followTarget found self) (after, .done (.ok t)))
    (hex : lowerHex id 32 = true) : SameName name (c.preparedHandover t id) := by
  have ensured := ensures_among (fun result => stable_engine _) followed
    (ensures_meets (c.meets_followTarget plain) (bears_runs plain ran) ours)
  exact sameName_prepared c ensured.2 hex

section Example

def successor : String := digits 64 '2'

structure Stage where
  engine : Engine
  started : Bool
  clock : Int

def Stage.inspects (stage : Stage) (name : String) : Except Failure Container :=
  if name = "agent" ∧ Container.agent.id ∉ stage.engine.updaters then .ok .agent
  else
    let called := stage.engine.updaters.find? (fun id => decide (id = name ∨ stage.engine.name id = some ("/" ++ name)))
    match called.bind
      (fun id => (stage.engine.name id).map (Container.updater id · (stage.started || id ≠ successor))) with
    | none => .error .dockerNotFound
    | some container => .ok container

/-- Every call succeeds, but no container can be renamed. -/
def Stage.serves (stage : Stage) : (op : UpdaterCall) → Stage × op.Answer
  | .inspectContainer name => (stage, stage.inspects name)
  | .createReplacement name _ _ _ => ({ stage with engine := stage.engine.created successor name }, .ok successor)
  | .startContainer _ => ({ stage with started := true }, .ok ())
  | .stopContainer _ => (stage, .ok ())
  | .removeContainer id _ => ({ stage with engine := stage.engine.removed id }, .ok ())
  | .loadHandover => (stage, stage.engine.journal.elim .absent .journal)
  | .storeHandover h => ({ stage with engine := { stage.engine with journal := some h } }, .ok ())
  | .readStandbyProof => (stage, .ok ⟨digits 32 'a', successor, "4.1.3", digits 64 '5'⟩)
  | .readRequest => (stage, .error (.notExist ""))
  | .random => (stage, .ok (digits 32 'a'))
  | .monotonic => ({ stage with clock := stage.clock + 10 * second }, stage.clock + 10 * second)
  | op => (stage, op.refused)

theorem stage_answers (stage : Stage) (op : UpdaterCall) :
    engine.answers stage.engine op (stage.serves op).2 (stage.serves op).1.engine := by
  cases op with
  | inspectContainer name =>
    refine ⟨rfl, fun container shown member => ?_⟩
    simp only [Stage.serves, Stage.inspects] at shown
    split at shown
    · next agent =>
        cases shown
        exact absurd member agent.2
    · split at shown
      · cases shown
      · next found =>
          cases shown
          obtain ⟨id, -, found⟩ := Option.bind_eq_some_iff.mp found
          obtain ⟨called, named, rfl⟩ := Option.map_eq_some_iff.mp found
          exact named
  | createReplacement name source image reference => exact .inr ⟨_, rfl, fun _ told => (Except.ok.inj told).symm⟩
  | renameContainer id name => exact .inl rfl
  | removeContainer id force => exact .inr rfl
  | loadHandover =>
    refine ⟨rfl, fun h shown => ?_⟩
    cases found : stage.engine.journal <;> simp_all [Stage.serves]
  | storeHandover h => exact .inr rfl
  | quarantine => exact .inl rfl
  | random =>
    refine ⟨rfl, fun id drawn => ?_⟩
    cases drawn
    decide +kernel
  | _ => rfl

def Stage.evaluates (stage : Stage) (found : Except Failure HandoverTarget) (self : String) : Stage :=
  (exec Stage.serves stage ((Controller.plain "4.1.2").evaluate (fun _ _ => found) self)).1

theorem acted_evaluates (stage : Stage) (found : Except Failure HandoverTarget) (ours : self ∈ stage.engine.updaters) :
    Acted stage.engine (stage.evaluates found self).engine :=
  .evaluate (.plain "4.1.2") (fun _ _ => found) self _ ours (among_exec Stage.engine stage_answers stage)

def Stage.completes (stage : Stage) : Stage :=
  stage.engine.journal.elim stage (fun h => (exec Stage.serves stage (writeHandover (Controller.completedJournal h))).1)

theorem acted_completes (stage : Stage) (ours : self ∈ stage.engine.updaters) :
    ReflTransGen Acted stage.engine stage.completes.engine := by
  unfold Stage.completes
  cases found : stage.engine.journal with
  | none => exact .refl
  | some h =>
    exact .single (.ends h _ self _ ours found .completed (among_exec Stage.engine stage_answers stage))

def Stage.follows (stage : Stage) (self : String) : Stage × Except Failure HandoverTarget :=
  exec Stage.serves stage ((Controller.plain "4.1.3").followTarget (fun _ _ => .ok (.plain 1)) self)

theorem Stage.follows_ok (stage : Stage) (succeeds : (stage.follows self).2.isOk = true) :
    ∃ t, (stage.follows self).2 = .ok t := by
  cases followed : (stage.follows self).2 with
  | error err => simp [followed, Except.isOk, Except.toBool] at succeeds
  | ok t => exact ⟨t, rfl⟩

theorem among_follows (stage : Stage) {t : HandoverTarget} (follows : (stage.follows self).2 = .ok t) :
    Among engine (stage.engine, (Controller.plain "4.1.3").followTarget (fun _ _ => .ok (.plain 1)) self)
    ((stage.follows self).1.engine, .done (.ok t)) :=
  follows ▸ among_exec Stage.engine stage_answers stage

def firstStage : Stage := ⟨.start (digits 64 '1') "updater", false, 0⟩

/-- The first updater hands over, its successor completes the handover and tries to take the name back. -/
def handedOver : Stage := firstStage.evaluates (.ok (.plain 1)) (digits 64 '1')

def tidied : Stage := handedOver.completes.evaluates (.error .cancelled) successor

theorem tidied_unnamed : successor ∈ handedOver.engine.updaters ∧ successor ∈ handedOver.completes.engine.updaters ∧
    successor ∈ tidied.engine.updaters ∧ tidied.engine.journal.map DockerHandover.phase = some .completed ∧
    tidied.engine.name successor = some "/updater-next-aaaaaaaa" ∧ (tidied.follows successor).2.isOk = true := by
  decide +kernel

theorem handovers_keep_the_name_unrenamed : tidied.engine.journal.map DockerHandover.phase = some .completed ∧
    tidied.engine.name successor = some "/updater-next-aaaaaaaa" ∧ ∃ t, (tidied.follows successor).2 = .ok t ∧
    SameName "updater" ((Controller.plain "4.1.3").preparedHandover t (digits 32 'b')) := by
  obtain ⟨created, completed, still, done, unnamed, succeeds⟩ := tidied_unnamed
  have start : digits 64 '1' ∈ firstStage.engine.updaters := List.mem_singleton.mpr rfl
  have handsOver : Acted firstStage.engine handedOver.engine := acted_evaluates firstStage _ start
  have tidies : Acted handedOver.completes.engine tidied.engine := acted_evaluates handedOver.completes _ completed
  have ran : ReflTransGen Acted firstStage.engine tidied.engine :=
    .tail (.head handsOver (acted_completes handedOver created)) tidies
  obtain ⟨t, target⟩ := Stage.follows_ok tidied succeeds
  refine ⟨done, unnamed, t, target, ?_⟩
  exact handovers_keep_the_name _ _ (by decide +kernel) ran still (among_follows tidied target) (by decide +kernel)

end Example

end Chain

end PasswallNode.Handover
