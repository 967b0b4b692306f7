import Mathlib.Data.List.Forall2

/-! Fallible code in the shape the source writes it. -/

namespace PasswallNode.Foundation

variable {ε α β σ : Type} {call : Except ε α} {err : ε} {a : α} {body : σ → α → Except ε σ} {items : List α}
  {state final : σ} {next : α → Except ε β} {bad : Prop} {value : Option α} {wrap : ε → ε} {other : ε}

/-- `if bad { return err }`. -/
def rejectIf (bad : Prop) [Decidable bad] (err : ε) : Except ε Unit :=
  if bad then .error err else .ok ()

def orError (value : Option α) (err : ε) : Except ε α :=
  match value with
  | some a => .ok a
  | none => .error err

def withError (wrap : ε → ε) (call : Except ε α) : Except ε α :=
  match call with
  | .ok a => .ok a
  | .error err => .error (wrap err)

@[simp] theorem bind_eq_ok {result : β} :
    (call >>= next) = .ok result ↔ ∃ a, call = .ok a ∧ next a = .ok result := by
  cases call with
  | error err =>
    constructor
    · intro impossible; cases impossible
    · rintro ⟨a, impossible, _⟩; cases impossible
  | ok a =>
    constructor
    · intro continued; exact ⟨a, rfl, continued⟩
    · rintro ⟨b, same, continued⟩; cases same; exact continued

@[simp] theorem rejectIf_eq_ok [Decidable bad] {u : Unit} : rejectIf bad err = .ok u ↔ ¬bad := by
  unfold rejectIf
  split
  · rename_i holds; simp [holds]
  · rename_i fails; simp [fails]

@[simp] theorem orError_eq_ok : orError value err = .ok a ↔ value = some a := by
  cases value <;> simp [orError]

@[simp] theorem withError_eq_ok : withError wrap call = .ok a ↔ call = .ok a := by
  cases call <;> simp [withError]

@[simp] theorem pure_eq_ok {b : α} : (pure a : Except ε α) = .ok b ↔ a = b :=
  Except.ok.injEq a b ▸ Iff.rfl

theorem bind_eq_error : (call >>= next) = .error err ↔
    call = .error err ∨ ∃ a, call = .ok a ∧ next a = .error err := by
  cases call with
  | error other =>
    constructor
    · intro failed; exact Or.inl (by cases failed; rfl)
    · rintro (same | ⟨a, impossible, _⟩)
      · cases same; rfl
      · cases impossible
  | ok a =>
    constructor
    · intro failed; exact Or.inr ⟨a, rfl, failed⟩
    · rintro (impossible | ⟨b, same, failed⟩)
      · cases impossible
      · cases same; exact failed

theorem rejectIf_eq_error [Decidable bad] : rejectIf bad err = .error other ↔ bad ∧ err = other := by
  unfold rejectIf
  split
  · rename_i holds; simp [holds]
  · rename_i fails; simp [fails]

theorem withError_eq_error :
    withError wrap call = .error err ↔ ∃ inner, call = .error inner ∧ wrap inner = err := by
  cases call with
  | error inner => simp [withError]
  | ok a => simp [withError]

theorem orError_eq_error : orError value err = .error other ↔ value = none ∧ err = other := by
  cases value <;> simp [orError]

/-- A loop that threads its state and stops at the first error. -/
def forEach (body : σ → α → Except ε σ) : σ → List α → Except ε σ
  | state, [] => .ok state
  | state, item :: rest => do
      let next ← body state item
      forEach body next rest

theorem forEach_invariant (holds : σ → Prop)
    (preserved : ∀ state next, ∀ item ∈ items, holds state → body state item = .ok next → holds next)
    (initial : holds state) (done : forEach body state items = .ok final) : holds final := by
  induction items generalizing state with
  | nil =>
    cases done
    exact initial
  | cons item rest ih =>
    obtain ⟨next, passed, continued⟩ := bind_eq_ok.mp done
    refine ih ?_ (preserved state next item List.mem_cons_self initial passed) continued
    intro state next item member
    exact preserved state next item (List.mem_cons_of_mem _ member)

theorem forEach_accumulates (holds : List α → σ → Prop)
    (preserved : ∀ seen state item next, holds seen state → body state item = .ok next → holds (seen ++ [item]) next)
    {seen : List α} (initial : holds seen state) (done : forEach body state items = .ok final) :
    holds (seen ++ items) final := by
  induction items generalizing seen state with
  | nil =>
    cases done
    rwa [List.append_nil]
  | cons item rest ih =>
    obtain ⟨next, passed, continued⟩ := bind_eq_ok.mp done
    have later := ih (preserved seen state item next initial passed) continued
    rwa [List.append_assoc] at later

theorem forEach_collects (holds : List α → σ → Prop)
    (preserved : ∀ seen state item next, holds seen state → body state item = .ok next → holds (seen ++ [item]) next)
    (initial : holds [] state) (done : forEach body state items = .ok final) : holds items final :=
  forEach_accumulates holds preserved initial done

theorem forEach_succeeds (holds : σ → List α → Prop)
    (progress : ∀ state item rest, holds state (item :: rest) → ∃ next, body state item = .ok next ∧ holds next rest)
    (initial : holds state items) : ∃ final, forEach body state items = .ok final := by
  induction items generalizing state with
  | nil => exact ⟨state, rfl⟩
  | cons item rest ih =>
    obtain ⟨next, passed, kept⟩ := progress state item rest initial
    obtain ⟨final, finished⟩ := ih kept
    exact ⟨final, bind_eq_ok.mpr ⟨next, passed, finished⟩⟩

theorem forEach_follows {τ : Type} {other : τ → β → Except ε τ} {alike : α → β → Prop} (related : σ → τ → Prop)
    (counterpart : ∀ state mirror next item image, related state mirror → alike item image →
      body state item = .ok next → ∃ after, other mirror image = .ok after ∧ related next after)
    {images : List β} (all : List.Forall₂ alike items images) {mirror : τ} (initial : related state mirror)
    (done : forEach body state items = .ok final) :
    ∃ last, forEach other mirror images = .ok last ∧ related final last := by
  induction all generalizing state mirror with
  | nil =>
    cases done
    exact ⟨mirror, rfl, initial⟩
  | cons same _ ih =>
    obtain ⟨next, passed, finished⟩ := bind_eq_ok.mp done
    obtain ⟨after, mirrored, kept⟩ := counterpart _ _ _ _ _ initial same passed
    obtain ⟨last, ended, agrees⟩ := ih kept finished
    exact ⟨last, bind_eq_ok.mpr ⟨after, mirrored, ended⟩, agrees⟩

theorem forEach_eq_error (failed : forEach body state items = .error err) :
    ∃ passed item rest before, items = passed ++ item :: rest ∧ forEach body state passed = .ok before ∧
    body before item = .error err := by
  induction items generalizing state with
  | nil => cases failed
  | cons item rest ih =>
    rcases bind_eq_error.mp failed with here | ⟨next, passes, later⟩
    · exact ⟨[], item, rest, state, rfl, rfl, here⟩
    · obtain ⟨passed, last, tail, before, rfl, done, fails⟩ := ih later
      exact ⟨item :: passed, last, tail, before, rfl, bind_eq_ok.mpr ⟨next, passes, done⟩, fails⟩

theorem forEach_congr {other : σ → α → Except ε σ}
    (same : ∀ state, ∀ item ∈ items, body state item = other state item) (state : σ) :
    forEach body state items = forEach other state items := by
  induction items generalizing state with
  | nil => rfl
  | cons item rest ih =>
    rw [forEach, forEach, same state item List.mem_cons_self]
    refine congrArg (other state item >>= ·) (funext fun next => ?_)
    exact ih (fun state item member => same state item (List.mem_cons_of_mem _ member)) next

theorem forEach_visits (holds : σ → List α → Prop)
    (preserved : ∀ state item rest next, holds state (item :: rest) → body state item = .ok next → holds next rest)
    (initial : holds state items) (done : forEach body state items = .ok final) :
    ∀ item ∈ items, ∃ before rest after, holds before (item :: rest) ∧ body before item = .ok after := by
  induction items generalizing state with
  | nil => intro item member; cases member
  | cons head rest ih =>
    obtain ⟨next, passed, continued⟩ := bind_eq_ok.mp done
    intro item member
    rcases List.mem_cons.mp member with rfl | later
    · exact ⟨state, rest, next, initial, passed⟩
    · exact ih (preserved state head rest next initial passed) continued item later

def FailsWith (allowed : ε → Prop) (result : Except ε α) : Prop :=
  ∀ err, result = .error err → allowed err

theorem forall₂_exists {related : α → β → Prop} {images : List β} (all : List.Forall₂ related items images) {item : α}
    (member : item ∈ items) : ∃ image ∈ images, related item image := by
  induction all with
  | nil => cases member
  | cons first _ ih =>
    rcases List.mem_cons.mp member with rfl | later
    · exact ⟨_, List.mem_cons_self, first⟩
    · obtain ⟨image, listed, same⟩ := ih later
      exact ⟨image, List.mem_cons_of_mem _ listed, same⟩

section FailsWith

variable {allowed : ε → Prop}

theorem failsWith_ok (a : α) : FailsWith allowed (.ok a) := by
  intro err failed
  cases failed

theorem failsWith_error {err : ε} (holds : allowed err) : FailsWith allowed (.error err : Except ε α) := by
  intro found failed
  cases failed
  exact holds

theorem failsWith_bind {call : Except ε α} {next : α → Except ε β} (first : FailsWith allowed call)
    (second : ∀ a, call = .ok a → FailsWith allowed (next a)) : FailsWith allowed (call >>= next) := by
  intro err failed
  rcases bind_eq_error.mp failed with here | ⟨a, done, later⟩
  · exact first err here
  · exact second a done err later

theorem failsWith_rejectIf {bad : Prop} [Decidable bad] {err : ε} (holds : allowed err) :
    FailsWith allowed (rejectIf bad err) := by
  intro found failed
  rw [← (rejectIf_eq_error.mp failed).2]
  exact holds

theorem failsWith_orError {value : Option α} {err : ε} (holds : allowed err) :
    FailsWith allowed (orError value err) := by
  intro found failed
  rw [← (orError_eq_error.mp failed).2]
  exact holds

theorem failsWith_withError {wrap : ε → ε} {call : Except ε α}
    (kept : ∀ err, allowed err → allowed (wrap err)) (fails : FailsWith allowed call) :
    FailsWith allowed (withError wrap call) := by
  intro found failed
  cases call with
  | ok a => cases failed
  | error err =>
    cases failed
    exact kept err (fails err rfl)

theorem failsWith_forEach {body : σ → α → Except ε σ} (holds : σ → Prop) {items : List α}
    (pass : ∀ state, ∀ item ∈ items, holds state →
    FailsWith allowed (body state item) ∧ ∀ next, body state item = .ok next → holds next)
    {state : σ} (initial : holds state) :
    FailsWith allowed (forEach body state items) ∧ ∀ next, forEach body state items = .ok next → holds next := by
  refine ⟨?_,
    fun next => forEach_invariant holds (fun state next item member kept => (pass state item member kept).2 next)
    initial⟩
  induction items generalizing state with
  | nil => exact failsWith_ok state
  | cons item rest ih =>
    obtain ⟨fails, keeps⟩ := pass state item List.mem_cons_self initial
    refine failsWith_bind fails fun next passed => ih ?_ (keeps next passed)
    exact fun state item member => pass state item (List.mem_cons_of_mem _ member)

end FailsWith

end PasswallNode.Foundation
