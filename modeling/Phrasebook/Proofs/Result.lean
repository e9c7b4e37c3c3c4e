/-!
Results of steps that may fail. A chain of steps gives a result only if each of its steps does, and
fails only if one of them fails.
-/

namespace Phrasebook

universe u v

/-- A chain of steps gives a result only if its first step does. -/
theorem ok_of_bind {ε : Type u} {α β : Type v} {x : Except ε α} {f : α → Except ε β} {r : β}
    (done : x >>= f = .ok r) : ∃ a, x = .ok a ∧ f a = .ok r := by
  cases x with
  | error e => cases done
  | ok a => exact ⟨a, rfl, done⟩

/-- A chain that fails does so at its first step or behind it. -/
theorem error_of_bind {ε α β : Type} {x : Except ε α} {f : α → Except ε β} {error : ε}
    (failed : x >>= f = .error error) : x = .error error ∨ ∃ a, x = .ok a ∧ f a = .error error := by
  cases x with
  | error e =>
    obtain rfl := Except.error.inj failed
    exact .inl rfl
  | ok a => exact .inr ⟨a, rfl, failed⟩

theorem ok_of_forM {α ε : Type} {f : α → Except ε Unit} {items : List α}
    (done : items.forM f = .ok ()) : ∀ item ∈ items, f item = .ok () := by
  induction items with
  | nil => exact fun item listed => absurd listed List.not_mem_nil
  | cons first rest ih =>
    obtain ⟨_, head, tail⟩ := ok_of_bind (x := f first) (f := fun _ => rest.forM f) done
    exact List.forall_mem_cons.mpr ⟨head, ih tail⟩

theorem ok_of_map_toOption {α β ε : Type} {x : Except ε α} {f : α → β} {y : β}
    (done : x.toOption.map f = some y) : ∃ a, x = .ok a ∧ f a = y := by
  cases x with
  | error e => cases done
  | ok a => exact ⟨a, rfl, Option.some.inj done⟩

theorem ok_of_mem_toOption {α ε : Type} {x : Except ε α} {P : α → Prop}
    (found : ∃ a ∈ x.toOption, P a) : ∃ a, x = .ok a ∧ P a := by
  obtain ⟨a, member, holds⟩ := found
  cases x with
  | error e => cases member
  | ok b =>
    obtain rfl := Option.some.inj member
    exact ⟨b, rfl, holds⟩

end Phrasebook
