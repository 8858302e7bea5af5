import Mathlib.Data.List.Forall2

/-!
# Results that may be failures

`Gives` says that a computation has a result, and what holds of it. A computation made of steps
gives something when each step does, given what holds of the results before it.
-/

namespace Segmentation

variable {ε α β : Type}

/-- The computation has a result with the property. -/
def Gives (step : Except ε α) (property : α → Prop) : Prop :=
  ∃ result, step = .ok result ∧ property result

namespace Gives

variable {step : Except ε α}

theorem pure {property : α → Prop} {value : α} (holds : property value) :
    Gives (.ok value : Except ε α) property :=
  ⟨value, rfl, holds⟩

theorem imp {property weaker : α → Prop} (given : Gives step property)
    (weaken : ∀ result, property result → weaker result) : Gives step weaker := by
  obtain ⟨result, equal, holds⟩ := given
  exact ⟨result, equal, weaken result holds⟩

theorem and {property property' : α → Prop} (given : Gives step property)
    (given' : Gives step property') :
    Gives step fun result => property result ∧ property' result := by
  obtain ⟨result, equal, holds⟩ := given
  obtain ⟨result', equal', holds'⟩ := given'
  obtain rfl : result = result' := Except.ok.inj (equal.symm.trans equal')
  exact ⟨result, equal, holds, holds'⟩

/-- What holds of every result of a computation that has one holds of the one that it has. -/
theorem and_of_ok {property property' : α → Prop} (given : Gives step property)
    (always : ∀ result, step = .ok result → property' result) :
    Gives step fun result => property result ∧ property' result := by
  obtain ⟨result, equal, holds⟩ := given
  exact ⟨result, equal, holds, always result equal⟩

/-- A computation that has a result has one of which everything holds that holds of all of them. -/
theorem of_ok {property : α → Prop} (given : Gives step fun _ => True)
    (always : ∀ result, step = .ok result → property result) : Gives step property :=
  (given.and_of_ok always).imp fun _ holds => holds.2

theorem bind {next : α → Except ε β} {final : β → Prop} (property : α → Prop)
    (given : Gives step property) (after : ∀ value, property value → Gives (next value) final) :
    Gives (step >>= next) final := by
  obtain ⟨value, rfl, holds⟩ := given
  exact after value holds

theorem map {image : α → β} {property : α → Prop} {final : β → Prop} (given : Gives step property)
    (after : ∀ value, property value → final (image value)) : Gives (image <$> step) final := by
  obtain ⟨value, rfl, holds⟩ := given
  exact ⟨image value, rfl, after value holds⟩

theorem mapM {next : α → Except ε β} {related : α → β → Prop} {values : List α}
    (each : ∀ value ∈ values, Gives (next value) (related value)) :
    Gives (values.mapM next) (List.Forall₂ related values) := by
  induction values with
  | nil => exact pure .nil
  | cons value others ih =>
      rw [List.mapM_cons]
      refine bind _ (each value List.mem_cons_self) fun result first => ?_
      have rest := ih fun other member => each other (List.mem_cons_of_mem value member)
      exact bind _ rest fun results later => pure (.cons first later)

end Gives

theorem flatMap_eq_of_forall₂ {γ : Type} {image : α → List γ} {image' : β → List γ}
    {values : List α} {results : List β}
    (each : List.Forall₂ (fun value result => image' result = image value) values results) :
    values.flatMap image = results.flatMap image' := by
  induction each with
  | nil => rfl
  | cons here later ih => rw [List.flatMap_cons, List.flatMap_cons, here, ih]

/-- When each step on an image gives the image of what the step on the value gives, or fails as it
does, so do all steps in a row. -/
theorem mapM_map_eq {γ δ : Type} {step : α → Except ε β} {step' : γ → Except ε δ} {image : α → γ}
    {image' : β → δ} {values : List α}
    (each : ∀ value ∈ values, step' (image value) = image' <$> step value) :
    (values.map image).mapM step' = List.map image' <$> values.mapM step := by
  induction values with
  | nil => rfl
  | cons value others ih =>
      rw [List.forall_mem_cons] at each
      rw [List.map_cons, List.mapM_cons, List.mapM_cons, each.1, ih each.2]
      cases step value with
      | error fault => rfl
      | ok result => cases others.mapM step <;> rfl

/-- When what follows a step gives the image of what it gives elsewhere, so do both together. -/
theorem bind_eq_map {γ : Type} {step : Except ε α} {next : α → Except ε β} {next' : α → Except ε γ}
    {image : β → γ} (after : ∀ value, next' value = image <$> next value) :
    step >>= next' = image <$> (step >>= next) := by
  cases step with
  | error fault => rfl
  | ok value => exact after value

theorem map_bind_eq_map {γ δ : Type} {step : Except ε α} {next : α → Except ε β}
    {next' : γ → Except ε δ} {image : α → γ} {image' : β → δ}
    (after : ∀ value, next' (image value) = image' <$> next value) :
    (image <$> step) >>= next' = image' <$> (step >>= next) := by
  cases step with
  | error fault => rfl
  | ok value => exact after value

theorem bind_eq_ok {step : Except ε α} {next : α → Except ε β} {result : β} :
    step >>= next = .ok result ↔ ∃ value, step = .ok value ∧ next value = .ok result := by
  cases step with
  | error fault =>
      refine ⟨fun failed => absurd failed (by simp [bind, Except.bind]), ?_⟩
      rintro ⟨value, found, -⟩
      exact absurd found (by simp)
  | ok value =>
      refine ⟨fun found => ⟨value, rfl, found⟩, ?_⟩
      rintro ⟨value', same, found⟩
      rwa [← Except.ok.inj same] at found

theorem eq_ok_of_toOption {step : Except ε α} {result : α} (found : step.toOption = some result) :
    step = .ok result := by
  cases step with
  | error fault => cases found
  | ok value => exact congrArg Except.ok (Option.some.inj found)

theorem mapError_eq_ok {image : ε → β} {step : Except ε α} {result : α} :
    step.mapError image = .ok result ↔ step = .ok result := by
  cases step with
  | error fault => simp [Except.mapError]
  | ok value => simp [Except.mapError]

theorem map_eq_ok {image : α → β} {step : Except ε α} {result : β} :
    image <$> step = .ok result ↔ ∃ value, step = .ok value ∧ image value = result := by
  cases step with
  | error fault =>
      refine ⟨fun failed => absurd failed (by simp [Functor.map, Except.map]), ?_⟩
      rintro ⟨value, found, -⟩
      exact absurd found (by simp)
  | ok value =>
      refine ⟨fun found => ⟨value, rfl, Except.ok.inj found⟩, ?_⟩
      rintro ⟨value', same, made⟩
      rw [← made, ← Except.ok.inj same]
      rfl

theorem mapM_eq_ok {step : α → Except ε β} {values : List α} {results : List β} :
    values.mapM step = .ok results ↔
      List.Forall₂ (fun value result => step value = .ok result) values results := by
  induction values generalizing results with
  | nil => exact ⟨fun same => Except.ok.inj same ▸ .nil, fun same => by cases same; rfl⟩
  | cons value others ih =>
      rw [List.mapM_cons, bind_eq_ok]
      constructor
      · rintro ⟨first, here, rest⟩
        obtain ⟨later, further, made⟩ := bind_eq_ok.1 rest
        rw [← Except.ok.inj made]
        exact .cons here (ih.1 further)
      · intro each
        cases each with
        | cons here further => exact ⟨_, here, bind_eq_ok.2 ⟨_, ih.2 further, rfl⟩⟩

/-- Steps on the values of a list all succeed, or there is a first one that fails. -/
theorem forall_ok_or_first_error (step : α → Except ε β) (values : List α) :
    (∃ results, List.Forall₂ (fun value result => step value = .ok result) values results) ∨
      ∃ before value after results fault, values = before ++ value :: after ∧
        List.Forall₂ (fun value result => step value = .ok result) before results ∧
        step value = .error fault := by
  induction values with
  | nil => exact .inl ⟨[], .nil⟩
  | cons value others ih =>
      cases here : step value with
      | error fault => exact .inr ⟨[], value, others, [], fault, rfl, .nil, here⟩
      | ok result =>
          rcases ih with
            ⟨results, each⟩ | ⟨before, failing, after, results, fault, rfl, each, fails⟩
          · exact .inl ⟨result :: results, .cons here each⟩
          · exact .inr ⟨value :: before, failing, after, result :: results, fault, rfl,
              .cons here each, fails⟩

/-! ## Two computations -/

/-- Two computations that fail alike, or have results that are related. -/
inductive SameOutcome (related : α → β → Prop) : Except ε α → Except ε β → Prop where
  | error (fault : ε) : SameOutcome related (.error fault) (.error fault)
  | ok {result : α} {result' : β} (relates : related result result') :
      SameOutcome related (.ok result) (.ok result')

namespace SameOutcome

variable {related : α → β → Prop} {step : Except ε α} {step' : Except ε β}

theorem bind {γ δ : Type} {related' : γ → δ → Prop} {next : α → Except ε γ} {next' : β → Except ε δ}
    (before : SameOutcome related step step')
    (after : ∀ result result', related result result' →
      SameOutcome related' (next result) (next' result')) :
    SameOutcome related' (step >>= next) (step' >>= next') := by
  cases before with
  | error fault => exact .error fault
  | ok relates => exact after _ _ relates

/-- After one step, two computations agree when they do for what the step gives. -/
theorem bind_same {γ δ : Type} {related' : γ → δ → Prop} {next : α → Except ε γ}
    {next' : α → Except ε δ}
    (after : ∀ result, step = .ok result → SameOutcome related' (next result) (next' result)) :
    SameOutcome related' (step >>= next) (step >>= next') := by
  cases step with
  | error fault => exact .error fault
  | ok result => exact after result rfl

theorem mapM {γ : Type} {next : γ → Except ε α} {next' : γ → Except ε β} {values : List γ}
    (each : ∀ value ∈ values, SameOutcome related (next value) (next' value)) :
    SameOutcome (List.Forall₂ related) (values.mapM next) (values.mapM next') := by
  induction values with
  | nil => exact .ok .nil
  | cons value others ih =>
      rw [List.mapM_cons, List.mapM_cons]
      refine (each value List.mem_cons_self).bind fun first first' here => ?_
      refine (ih fun other member => each other (List.mem_cons_of_mem value member)).bind
        fun later later' rest => ?_
      exact .ok (.cons here rest)

end SameOutcome

/-! ## Related lists -/

theorem exists_of_mem_forall₂ {related : α → β → Prop} {values : List α} {results : List β}
    {result : β} (each : List.Forall₂ related values results) (member : result ∈ results) :
    ∃ value ∈ values, related value result := by
  induction each with
  | nil => exact absurd member List.not_mem_nil
  | @cons value first others rest here later ih =>
      rcases List.mem_cons.1 member with rfl | inside
      · exact ⟨value, List.mem_cons_self, here⟩
      · obtain ⟨value', found, relates⟩ := ih inside
        exact ⟨value', List.mem_cons_of_mem value found, relates⟩

theorem exists_of_getElem?_forall₂ {related : α → β → Prop} {values : List α} {results : List β}
    {index : Nat} {result : β} (each : List.Forall₂ related values results)
    (found : results[index]? = some result) :
    ∃ value, values[index]? = some value ∧ related value result := by
  induction each generalizing index with
  | nil => exact absurd found (by simp)
  | @cons value first others rest here later ih =>
      cases index with
      | zero =>
          obtain rfl := Option.some.inj found
          exact ⟨value, rfl, here⟩
      | succ index => exact ih found

/-- What is made from each value of a list is related to it when each of them is. -/
theorem forall₂_mapIdx {related : α → β → Prop} {values : List α} {image : Nat → α → β}
    (each : ∀ index, ∀ value ∈ values, related value (image index value)) :
    List.Forall₂ related values (values.mapIdx image) := by
  induction values generalizing image with
  | nil => exact .nil
  | cons value others ih =>
      rw [List.mapIdx_cons]
      exact .cons (each 0 value List.mem_cons_self)
        (ih fun index other member => each (index + 1) other (List.mem_cons_of_mem value member))

theorem related_of_getElem? {before : α → α → Prop} {values : List α}
    (ordered : values.Pairwise before) {first second : Nat} (less : first < second) {left right : α}
    (found : values[first]? = some left) (found' : values[second]? = some right) :
    before left right := by
  obtain ⟨inside, rfl⟩ := List.getElem?_eq_some_iff.1 found
  obtain ⟨inside', rfl⟩ := List.getElem?_eq_some_iff.1 found'
  exact List.pairwise_iff_getElem.1 ordered first second inside inside' less

/-- What holds between values one after the other carries over to what they are related to. -/
theorem pairwise_of_forall₂ {related : α → β → Prop} {before : α → α → Prop}
    {after : β → β → Prop} {values : List α} {results : List β}
    (carry : ∀ left right left' right', related left left' → related right right' →
      before left right → after left' right')
    (each : List.Forall₂ related values results) (ordered : values.Pairwise before) :
    results.Pairwise after := by
  induction each with
  | nil => exact .nil
  | @cons value result others rest here later ih =>
      rw [List.pairwise_cons] at ordered ⊢
      refine ⟨fun result' member => ?_, ih ordered.2⟩
      obtain ⟨value', inside, relates⟩ := exists_of_mem_forall₂ later member
      exact carry value value' result result' here relates (ordered.1 value' inside)

end Segmentation
