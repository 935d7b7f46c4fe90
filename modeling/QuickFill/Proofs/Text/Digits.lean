import Mathlib.Algebra.GroupWithZero.Nat
import QuickFill.Text.Digits

/-!
# Written numbers and what follows them

The digits of a number end where something else begins, and zeros in front of them change
neither the number nor where it ends.
-/

namespace QuickFill

namespace Text

theorem leadingDigits_append {digits rest : List Char}
    (all : ∀ character ∈ digits, character.isDigit = true)
    (ends : ∀ character ∈ rest.head?, character.isDigit = false) :
    leadingDigits (digits ++ rest) = digits ∧ afterDigits (digits ++ rest) = rest := by
  have stops : rest.takeWhile Char.isDigit = [] ∧ rest.dropWhile Char.isDigit = rest := by
    cases rest with
    | nil => exact ⟨rfl, rfl⟩
    | cons character others =>
        have noDigit : ¬character.isDigit = true := by simpa using ends character rfl
        exact ⟨List.takeWhile_cons_of_neg noDigit, List.dropWhile_cons_of_neg noDigit⟩
  rw [leadingDigits, afterDigits, List.takeWhile_append_of_pos all,
    List.dropWhile_append_of_pos all, stops.1, stops.2, List.append_nil]
  exact ⟨rfl, rfl⟩

/-- The digits of a number end where something else begins. -/
theorem leadingDigits_decimal (number : Nat) {rest : List Char}
    (ends : ∀ character ∈ rest.head?, character.isDigit = false) :
    leadingDigits (decimal number ++ rest) = decimal number ∧
      afterDigits (decimal number ++ rest) = rest :=
  leadingDigits_append (fun _ => isDigit_of_mem_decimal) ends

variable {width number : Nat}

theorem isDigit_of_mem_zeroPadded {character : Char}
    (member : character ∈ zeroPadded width number) : character.isDigit = true := by
  rcases List.mem_append.mp member with zero | digit
  · rw [List.eq_of_mem_replicate zero]
    decide
  · exact isDigit_of_mem_decimal digit

@[simp]
theorem digitsValue_zeroPadded (width number : Nat) :
    digitsValue (zeroPadded width number) = number := by
  rw [zeroPadded, padLeft, digitsValue, Nat.ofDigitChars_append, Nat.ofDigitChars_replicate_zero]
  exact digitsValue_decimal number

theorem length_zeroPadded (positive : 0 < width) (short : number < 10 ^ width) :
    (zeroPadded width number).length = width := by
  have fits : (decimal number).length ≤ width :=
    (Nat.length_toDigits_le_iff (by decide) positive).mpr short
  rw [zeroPadded, padLeft, List.length_append, List.length_replicate]
  omega

theorem zeroPadded_ne_nil (width number : Nat) : zeroPadded width number ≠ [] := by
  intro empty
  have written : (decimal number).length = 0 := by
    rw [zeroPadded, padLeft, List.append_eq_nil_iff] at empty
    rw [empty.2, List.length_nil]
  have some : 0 < (decimal number).length := Nat.length_toDigits_pos
  omega

end Text

end QuickFill
