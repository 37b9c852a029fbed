import Mathlib.Data.List.Basic

/-!
# Results of fallible steps

How a sequence of steps that may fail is taken apart: from a success of the
whole, and as the values of its successes alone.
-/

namespace Results

variable {Error First Second : Type}

variable {first : Except Error First} {rest : First → Except Error Second}

theorem bind_eq_ok {res : Second} (succeeded : first >>= rest = .ok res) :
    ∃ value, first = .ok value ∧ rest value = .ok res := by
  cases first with
  | error error => cases succeeded
  | ok value => exact ⟨value, rfl, succeeded⟩

theorem bind_eq_ok_iff {res : Second} :
    first >>= rest = .ok res ↔ ∃ value, first = .ok value ∧ rest value = .ok res := by
  constructor
  · exact bind_eq_ok
  · rintro ⟨value, rfl, rest⟩
    exact rest

variable {res : Except Error First}

theorem mapError_eq_ok_iff {Other : Type} {convert : Error → Other} {value : First} :
    res.mapError convert = .ok value ↔ res = .ok value := by
  cases res with
  | error error => exact ⟨nofun, nofun⟩
  | ok other =>
    constructor
    · intro same
      exact congrArg _ (Except.ok.inj same)
    · intro same
      exact congrArg _ (Except.ok.inj same)

theorem isOk_iff : res.isOk = true ↔ ∃ value, res = .ok value := by
  cases res with
  | error error => exact ⟨nofun, nofun⟩
  | ok value => exact ⟨fun _ => ⟨value, rfl⟩, fun _ => rfl⟩

theorem toOption_bind :
    (first >>= rest).toOption = first.toOption.bind fun value => (rest value).toOption := by
  cases first <;> rfl

theorem toOption_mapError {Other : Type} {res : Except Error First} {convert : Error → Other} :
    (res.mapError convert).toOption = res.toOption := by
  cases res <;> rfl

theorem toOption_eq_some_iff {value : First} : res.toOption = some value ↔ res = .ok value := by
  cases res <;> simp [Except.toOption]

end Results
