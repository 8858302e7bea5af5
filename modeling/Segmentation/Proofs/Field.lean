import Segmentation.Field

/-!
# Values of fields

A field that is given has the value that it is converted to, if it keeps its bound; a field that is
not given has its default. `Bound.Allows` says what a bound asks, apart from the problem that is
reported where it is broken.
-/

namespace Segmentation

/-- The bound lets the value pass. -/
def Bound.Allows : Bound → Int → Prop
  | free, _ => True
  | nonnegative, value => 0 ≤ value
  | positive, value => 0 < value

theorem Bound.problem?_eq_none_iff (bound : Bound) (value : Int) :
    bound.problem? value = none ↔ bound.Allows value := by
  cases bound with
  | free => simp [problem?, Allows]
  | nonnegative => simp [problem?, Allows]
  | positive => simp [problem?, Allows]

section

variable {name : String} {bound : Bound} {given : FieldInput}

theorem integerField_some_eq_ok_iff {default_ value : Int} :
    integerField name bound default_ (some given) = .ok value ↔
      given.toInteger = .ok value ∧ bound.Allows value := by
  cases converted : given.toInteger with
  | error problem => simp [integerField, converted]
  | ok integer =>
      cases broken : bound.problem? integer with
      | some problem =>
          have refused : ¬ bound.Allows integer := by
            rw [← bound.problem?_eq_none_iff, broken]
            exact Option.some_ne_none problem
          simp only [integerField, converted, broken, reduceCtorEq, Except.ok.injEq, false_iff]
          rintro ⟨rfl, allowed⟩
          exact refused allowed
      | none =>
          have allowed := (bound.problem?_eq_none_iff integer).1 broken
          simp only [integerField, converted, broken, Except.ok.injEq]
          constructor
          · rintro rfl
            exact ⟨rfl, allowed⟩
          · exact fun equal => equal.1

/-- An integer is given as it is, so that only the bound can refuse it. -/
theorem integerField_integer_eq_ok_iff {default_ integer value : Int} :
    integerField name bound default_ (some (.integer integer)) = .ok value ↔
      integer = value ∧ bound.Allows value := by
  rw [integerField_some_eq_ok_iff]
  simp [FieldInput.toInteger]

theorem booleanField_some_eq_ok_iff {default_ value : Bool} :
    booleanField name default_ (some given) = .ok value ↔ given.toBoolean = .ok value := by
  cases converted : given.toBoolean <;> simp [booleanField, converted]

end

end Segmentation
