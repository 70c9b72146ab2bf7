/-!
# Results

A row of steps gives a result just when every step gives one. Whether a step gives a certain result
can be decided where results can be compared, whatever its errors are.
-/

namespace SalesDesk

variable {ε α β : Type} {x : Except ε α} {f : α → Except ε β} {b : β}

theorem bind_eq_ok_iff : x >>= f = .ok b ↔ ∃ a, x = .ok a ∧ f a = .ok b := by
  cases x with
  | error e => exact ⟨nofun, nofun⟩
  | ok a => exact ⟨fun h => ⟨a, rfl, h⟩, fun ⟨_, ha, h⟩ => Except.ok.inj ha ▸ h⟩

instance decidableEqOk [DecidableEq β] (x : Except ε β) (b : β) : Decidable (x = .ok b) :=
  match x with
  | .ok a => decidable_of_iff (a = b) (by simp)
  | .error _ => isFalse nofun

end SalesDesk
