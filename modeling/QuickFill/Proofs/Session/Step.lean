import QuickFill.Proofs.Text.Integer
import QuickFill.Session.Fill

/-!
# Steps that are read

The step of an input is read from the start of a text: blanks, a plus sign if there is one, and
digits up to where something else begins.  What comes after the digits is not looked at, and a
text that does not begin like this names no step.
-/

namespace QuickFill

open Text

/-- A text that begins with a number of seconds. -/
structure StepText where
  blanks : List Char
  /-- Whether a plus sign stands before the digits. -/
  plus : Bool
  digits : List Char
  rest : List Char
  blank : ∀ character ∈ blanks, isBlank character = true
  digital : IsDigits digits
  /-- All digits are among the digits. -/
  ends : ∀ character ∈ rest.head?, character.isDigit = false

namespace StepText

def plusText (plus : Bool) : List Char :=
  if plus then ['+'] else []

def text (step : StepText) : List Char :=
  step.blanks ++ (plusText step.plus ++ (step.digits ++ step.rest))

/-- The number that the digits denote. -/
def value (step : StepText) : Nat :=
  digitsValue step.digits

end StepText

open StepText (plusText)

/-- A number of seconds, or the standard one if there are none or too many. -/
def stepWithin (standard seconds : Nat) : Nat :=
  if 1 ≤ seconds ∧ seconds ≤ 2 ^ 32 - 1 then seconds else standard

variable {standard : Nat} {raw : String} {blanks tail : List Char} {plus : Bool}

/-! ### What is skipped -/

theorem isBlank_eq_false_of_isDigit {character : Char} (digit : character.isDigit = true) :
    isBlank character = false := by
  simp only [Char.isDigit, Bool.and_eq_true, decide_eq_true_eq, UInt32.le_iff_toNat_le,
    ge_iff_le] at digit
  have code : character.toNat = character.val.toNat := rfl
  have bounds : '0'.val.toNat = 48 ∧ '9'.val.toNat = 57 := ⟨rfl, rfl⟩
  simp only [isBlank, code, Bool.or_eq_false_iff, Bool.and_eq_false_imp, decide_eq_true_eq,
    decide_eq_false_iff_not, beq_eq_false_iff_ne]
  omega

theorem not_of_mem_head?_dropWhile {holds : Char → Bool} {text : List Char} {character : Char}
    (first : character ∈ (text.dropWhile holds).head?) : holds character = false := by
  have stops := text.head?_dropWhile_not holds
  rw [Option.mem_def.mp first] at stops
  exact stops

theorem trimStart_append (blank : ∀ character ∈ blanks, isBlank character = true)
    (begins : ∀ character ∈ tail.head?, isBlank character = false) :
    trimStart (blanks ++ tail) = tail := by
  rw [trimStart, List.dropWhile_append_of_pos blank]
  cases tail with
  | nil => rfl
  | cons character rest =>
      exact List.dropWhile_cons_of_neg (by simp [begins character rfl])

/-- What is left for the digits: behind a plus sign anything, and else what begins with neither
a blank nor a plus sign. -/
def Begins (plus : Bool) (tail : List Char) : Prop :=
  plus = false → ∀ character ∈ tail.head?, isBlank character = false ∧ character ≠ '+'

/-- A step is read from the digits behind the blanks and the plus sign. -/
theorem readStep_eq (blank : ∀ character ∈ blanks, isBlank character = true)
    (begins : Begins plus tail) (split : raw.toList = blanks ++ (plusText plus ++ tail)) :
    readStep standard (some raw) =
      stepWithin standard (digitsValue (leadingDigits tail)) := by
  have trimmed : trimStart raw.toList = plusText plus ++ tail := by
    rw [split]
    apply trimStart_append blank
    cases plus with
    | true =>
        rintro character ⟨⟩
        rfl
    | false => exact fun character first => (begins rfl character first).1
  rw [readStep, trimmed]
  cases plus with
  | true => rfl
  | false =>
      rw [plusText, if_neg Bool.false_ne_true, List.nil_append]
      split
      · next rest => exact ((begins rfl '+' rfl).2 rfl).elim
      · rfl

theorem begins_of_digits {digits rest : List Char} (digital : IsDigits digits) :
    Begins plus (digits ++ rest) := by
  intro _ character first
  cases digits with
  | nil => exact (digital.1 rfl).elim
  | cons digit others =>
      obtain rfl : digit = character := Option.some.inj first
      have isDigit := digital.2 digit List.mem_cons_self
      refine ⟨isBlank_eq_false_of_isDigit isDigit, ?_⟩
      rintro rfl
      cases isDigit

/-- Every text begins with blanks, behind which there may be a plus sign. -/
theorem exists_begins (text : List Char) :
    ∃ blanks plus tail, (∀ character ∈ blanks, isBlank character = true) ∧ Begins plus tail ∧
      text = blanks ++ (plusText plus ++ tail) := by
  have blank : ∀ character ∈ text.takeWhile isBlank, isBlank character = true :=
    List.all_eq_true.mp List.all_takeWhile
  have split : text = text.takeWhile isBlank ++ text.dropWhile isBlank :=
    List.takeWhile_append_dropWhile.symm
  by_cases signed : (text.dropWhile isBlank).head? = some '+'
  · obtain ⟨tail, tailEq⟩ := List.head?_eq_some_iff.mp signed
    exact ⟨_, true, tail, blank, nofun, split.trans (congrArg _ tailEq)⟩
  · refine ⟨_, false, _, blank, fun _ character first => ?_, split⟩
    refine ⟨not_of_mem_head?_dropWhile first, ?_⟩
    rintro rfl
    exact signed first

/-! ### What is read -/

theorem readStep_spelled {step : StepText} (spells : raw.toList = step.text) :
    readStep standard (some raw) = stepWithin standard step.value := by
  rw [readStep_eq step.blank (begins_of_digits step.digital) spells,
    (leadingDigits_append step.digital.2 step.ends).1]
  rfl

/-- Without a digit in its place nothing is read. -/
theorem readStep_noDigit (blank : ∀ character ∈ blanks, isBlank character = true)
    (begins : Begins plus tail) (noDigit : ∀ character ∈ tail.head?, character.isDigit = false)
    (split : raw.toList = blanks ++ (plusText plus ++ tail)) :
    readStep standard (some raw) = standard := by
  have none : leadingDigits ([] ++ tail) = [] :=
    (leadingDigits_append (List.forall_mem_nil _) noDigit).1
  rw [List.nil_append] at none
  rw [readStep_eq blank begins split, none, stepWithin, if_neg]
  exact fun some => Nat.not_succ_le_zero 0 some.1

theorem readStep_unspelled (unspelled : ∀ step : StepText, raw.toList ≠ step.text) :
    readStep standard (some raw) = standard := by
  obtain ⟨blanks, plus, tail, blank, begins, split⟩ := exists_begins raw.toList
  apply readStep_noDigit blank begins _ split
  intro character first
  apply Bool.eq_false_iff.mpr
  intro isDigit
  have filled : leadingDigits tail ≠ [] := by
    obtain ⟨others, rfl⟩ := List.head?_eq_some_iff.mp first
    rw [leadingDigits, List.takeWhile_cons_of_pos isDigit]
    exact List.cons_ne_nil _ _
  -- Else the digits at the start of the tail, and what follows them, would spell a step.
  have ends : ∀ character ∈ (afterDigits tail).head?, character.isDigit = false :=
    fun _ => not_of_mem_head?_dropWhile
  apply unspelled
    ⟨blanks, plus, leadingDigits tail, afterDigits tail, blank,
      ⟨filled, isDigit_of_mem_leadingDigits⟩, ends⟩
  rw [StepText.text, leadingDigits_append_afterDigits, split]

theorem stepWithin_pos (positive : 0 < standard) (seconds : Nat) :
    0 < stepWithin standard seconds := by
  rw [stepWithin]
  split <;> omega

theorem exists_stepWithin (standard : Nat) (raw : Option String) :
    ∃ seconds, readStep standard raw = stepWithin standard seconds := by
  cases raw with
  | none => exact ⟨0, rfl⟩
  | some raw =>
      obtain ⟨blanks, plus, tail, blank, begins, split⟩ := exists_begins raw.toList
      exact ⟨_, readStep_eq blank begins split⟩

theorem clockTemplate_eq_self_iff (template : String) (step : Nat) :
    clockTemplate template step = template ↔ 60 ∣ step := by
  rw [clockTemplate, Nat.dvd_iff_mod_eq_zero]
  split
  · next whole => exact iff_of_true rfl whole
  · next seconds =>
    refine iff_of_false (fun same => ?_) seconds
    have lengths := congrArg String.length same
    rw [String.length_append] at lengths
    have longer : ":%S".length = 3 := rfl
    omega

/-- How steps are read, and what they do to templates. -/
structure StepsRead (standard : Nat) : Prop where
  /-- A text that begins with a number of seconds is read as that number, if it is in the
  range. -/
  spelled : ∀ (raw : String) (step : StepText), raw.toList = step.text →
    readStep standard (some raw) =
      if 1 ≤ step.value ∧ step.value ≤ 2 ^ 32 - 1 then step.value else standard
  /-- Nothing else is read. -/
  unspelled : ∀ raw : String, (∀ step : StepText, raw.toList ≠ step.text) →
    readStep standard (some raw) = standard
  absent : readStep standard none = standard
  /-- So there has to be an ASCII digit right after the blanks and the plus sign; a minus sign,
  a second sign, or another digit in its place is none. -/
  noDigit : ∀ (raw : String) (blanks : List Char) (plus : Bool) (tail : List Char),
    (∀ character ∈ blanks, isBlank character = true) → Begins plus tail →
      (∀ character ∈ tail.head?, character.isDigit = false) →
        raw.toList = blanks ++ (plusText plus ++ tail) → readStep standard (some raw) = standard
  /-- What follows the digits plays no part, nor does what stands before them. -/
  digits_only : ∀ (raw other : String) (step another : StepText), raw.toList = step.text →
    other.toList = another.text → step.digits = another.digits →
      readStep standard (some raw) = readStep standard (some other)
  positive : 0 < standard → ∀ raw, 0 < readStep standard raw
  /-- Seconds are shown just when the step is no whole number of minutes. -/
  seconds : ∀ (template : String) (raw : Option String),
    (clockTemplate template (readStep standard raw) = template ++ ":%S" ↔
      ¬ 60 ∣ readStep standard raw) ∧
    (clockTemplate template (readStep standard raw) = template ↔ 60 ∣ readStep standard raw)

/-- Every text is read by this grammar, whatever the standard step is. -/
theorem steps_read (standard : Nat) : StepsRead standard where
  spelled raw step spells := readStep_spelled spells
  unspelled raw unspelled := readStep_unspelled unspelled
  absent := rfl
  noDigit raw blanks plus tail blank begins noDigit split :=
    readStep_noDigit blank begins noDigit split
  digits_only raw other step another spells alsoSpells same := by
    rw [readStep_spelled spells, readStep_spelled alsoSpells, StepText.value, StepText.value, same]
  positive positive raw := by
    obtain ⟨seconds, readEq⟩ := exists_stepWithin standard raw
    rw [readEq]
    exact stepWithin_pos positive seconds
  seconds template raw := by
    generalize readStep standard raw = step
    have unchanged := clockTemplate_eq_self_iff template step
    refine ⟨?_, unchanged⟩
    constructor
    · intro shown whole
      have doubled := shown.symm.trans (unchanged.mpr whole)
      have lengths := congrArg String.length doubled
      rw [String.length_append] at lengths
      have longer : ":%S".length = 3 := rfl
      omega
    · intro seconds
      rw [clockTemplate, if_neg fun whole => seconds (Nat.dvd_of_mod_eq_zero whole)]

example : readStep 60 (some " +0090 s") = 90 ∧ readStep 60 (some "+-5") = 60 ∧
    readStep 60 (some "4294967296") = 60 := by
  decide

end QuickFill
