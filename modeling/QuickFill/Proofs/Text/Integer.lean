import QuickFill.Proofs.Text.Digits

/-!
# Whole numbers that are read

A whole number is read from a sign, if there is one, and digits up to the end of the text.  It
may have any number of leading zeros, and only its value has to fit the limits.
-/

namespace QuickFill

namespace Text

/-- What stands before a number. -/
inductive Sign where
  | absent
  | plus
  | minus
  deriving DecidableEq, Repr

def Sign.text : Sign → List Char
  | .absent => []
  | .plus => ['+']
  | .minus => ['-']

/-- What a sign makes of a number. -/
def Sign.apply {α : Type} [Neg α] : Sign → α → α
  | .minus, number => -number
  | _, number => number

/-- At least one digit and nothing else. -/
def IsDigits (text : List Char) : Prop :=
  text ≠ [] ∧ ∀ character ∈ text, character.isDigit = true

instance (text : List Char) : Decidable (IsDigits text) :=
  decidable_of_iff ((!text.isEmpty && text.all Char.isDigit) = true) (by simp [IsDigits])

/-- Digits with a number as their value. -/
def SpellsNatural (number : Nat) (text : List Char) : Prop :=
  IsDigits text ∧ digitsValue text = number

/-- A sign, if there is one, and digits, with an integer as their value. -/
def SpellsInteger (number : Int) (text : List Char) : Prop :=
  ∃ (sign : Sign) (digits : List Char), IsDigits digits ∧ text = sign.text ++ digits ∧
    sign.apply (digitsValue digits : Int) = number

variable {limit lower upper number : Nat} {overflow : NumeralFault} {text digits : List Char}

/-! ### Digits -/

theorem IsDigits.leading (digital : IsDigits digits) :
    leadingDigits digits = digits ∧ afterDigits digits = [] := by
  have ends : ∀ character ∈ ([] : List Char).head?, character.isDigit = false := nofun
  have split := leadingDigits_append digital.2 ends
  rwa [List.append_nil] at split

theorem isDigit_of_mem_leadingDigits : ∀ character ∈ leadingDigits text, character.isDigit = true :=
  List.all_eq_true.mp List.all_takeWhile

theorem isDigits_of_ended (filled : leadingDigits text ≠ []) (ended : afterDigits text = []) :
    IsDigits text := by
  have whole := leadingDigits_append_afterDigits text
  rw [ended, List.append_nil] at whole
  rw [← whole]
  exact ⟨filled, isDigit_of_mem_leadingDigits⟩

theorem isDigits_decimal (number : Nat) : IsDigits (decimal number) := by
  refine ⟨?_, fun _ => isDigit_of_mem_decimal⟩
  intro empty
  have filled : 0 < (decimal number).length := Nat.length_toDigits_pos
  rw [empty] at filled
  exact Nat.lt_irrefl 0 filled

theorem IsDigits.ne_cons {mark : Char} {rest : List Char} (digital : IsDigits digits)
    (noDigit : mark.isDigit = false) : digits ≠ mark :: rest := by
  rintro rfl
  rw [digital.2 mark List.mem_cons_self] at noDigit
  cases noDigit

/-- Only a sign is no digit among a sign and digits. -/
theorem IsDigits.sign_of_mem {sign : Sign} {character : Char} (digital : IsDigits digits)
    (member : character ∈ sign.text ++ digits) (noDigit : character.isDigit = false) :
    character = '-' ∨ character = '+' := by
  rcases List.mem_append.mp member with inSign | inDigits
  · cases sign with
    | absent => cases inSign
    | plus => exact Or.inr (List.mem_singleton.mp inSign)
    | minus => exact Or.inl (List.mem_singleton.mp inSign)
  · rw [digital.2 character inDigits] at noDigit
    cases noDigit

/-- Digits are read to the end of the text, and have to fit the limit. -/
theorem readDigits_eq_ok_iff :
    readDigits limit overflow text = .ok number ↔
      SpellsNatural number text ∧ number ≤ limit := by
  constructor
  · intro reads
    unfold readDigits at reads
    simp only at reads
    split at reads
    · cases reads
    · next filled =>
      split at reads
      · cases reads
      · next within =>
        split at reads
        · next ended =>
          obtain rfl := Except.ok.inj reads
          have digital := isDigits_of_ended (by simpa using filled) (List.isEmpty_iff.mp ended)
          rw [digital.leading.1] at within ⊢
          exact ⟨⟨digital, rfl⟩, Nat.not_lt.mp within⟩
        · cases reads
  · rintro ⟨⟨digital, rfl⟩, within⟩
    obtain ⟨leading, after⟩ := digital.leading
    have filled : text.isEmpty = false := by simpa using digital.1
    unfold readDigits
    simp only [leading, after, filled, Bool.false_eq_true, if_false, if_neg (Nat.not_lt.mpr within),
      List.isEmpty_nil, if_true]

/-! ### Signs -/

theorem readInteger_minus (lower upper : Nat) (rest : List Char) :
    readInteger lower upper ('-' :: rest) =
      (readDigits lower .tooSmall rest).map fun number => -Int.ofNat number := by
  unfold readInteger
  simp only
  cases readDigits lower .tooSmall rest <;> rfl

/-- Digits have no sign in front of them. -/
theorem readInteger_digits (digital : IsDigits digits) :
    readInteger lower upper digits = (readDigits upper .tooLarge digits).map Int.ofNat := by
  unfold readInteger
  split
  · exact (digital.1 rfl).elim
  · exact (digital.ne_cons rfl rfl).elim
  · exact (digital.ne_cons rfl rfl).elim
  · rfl

theorem readNatural_digits (digital : IsDigits digits) :
    readNatural limit digits = readDigits limit .tooLarge digits := by
  unfold readNatural
  split
  · exact (digital.1 rfl).elim
  · exact (digital.ne_cons rfl rfl).elim
  · rfl

/-- A natural number is read from digits, perhaps after a plus sign. -/
theorem readNatural_eq_ok_iff :
    readNatural limit text = .ok number ↔
      (∃ sign digits, sign ≠ Sign.minus ∧ text = sign.text ++ digits ∧
        SpellsNatural number digits) ∧ number ≤ limit := by
  constructor
  · intro reads
    unfold readNatural at reads
    split at reads
    · cases reads
    · next rest =>
      obtain ⟨spelled, within⟩ := readDigits_eq_ok_iff.mp reads
      exact ⟨⟨.plus, rest, nofun, rfl, spelled⟩, within⟩
    · obtain ⟨spelled, within⟩ := readDigits_eq_ok_iff.mp reads
      exact ⟨⟨.absent, _, nofun, rfl, spelled⟩, within⟩
  · rintro ⟨⟨sign, digits, notMinus, rfl, spelled⟩, within⟩
    have reads : readDigits limit .tooLarge digits = .ok number :=
      readDigits_eq_ok_iff.mpr ⟨spelled, within⟩
    cases sign with
    | absent => exact (readNatural_digits spelled.1).trans reads
    | plus => exact reads
    | minus => exact (notMinus rfl).elim

theorem map_readDigits_eq_ok {number : Int} {convert : Nat → Int} :
    (readDigits limit overflow digits).map convert = .ok number ↔
      ∃ found, SpellsNatural found digits ∧ found ≤ limit ∧ convert found = number := by
  constructor
  · intro reads
    cases found : readDigits limit overflow digits with
    | error fault =>
        rw [found] at reads
        cases reads
    | ok value =>
        rw [found] at reads
        obtain ⟨spelled, within⟩ := readDigits_eq_ok_iff.mp found
        exact ⟨value, spelled, within, Except.ok.inj reads⟩
  · rintro ⟨found, spelled, within, rfl⟩
    rw [readDigits_eq_ok_iff.mpr ⟨spelled, within⟩]
    rfl

/-- An integer is read from digits, perhaps after a sign, and has to fit both limits. -/
theorem readInteger_eq_ok_iff {number : Int} :
    readInteger lower upper text = .ok number ↔
      SpellsInteger number text ∧ -lower ≤ number ∧ number ≤ upper := by
  constructor
  · intro reads
    unfold readInteger at reads
    split at reads
    · cases reads
    · next rest =>
      obtain ⟨found, ⟨digital, rfl⟩, within, rfl⟩ := map_readDigits_eq_ok.mp reads
      exact ⟨⟨.plus, rest, digital, rfl, rfl⟩, by rw [Int.ofNat_eq_natCast]; omega,
        Int.ofNat_le.mpr within⟩
    · next rest =>
      have negated := (readInteger_minus lower upper rest).symm.trans reads
      obtain ⟨found, ⟨digital, rfl⟩, within, rfl⟩ := map_readDigits_eq_ok.mp negated
      rw [Int.ofNat_eq_natCast]
      exact ⟨⟨.minus, rest, digital, rfl, rfl⟩, by omega, by omega⟩
    · obtain ⟨found, ⟨digital, rfl⟩, within, rfl⟩ := map_readDigits_eq_ok.mp reads
      exact ⟨⟨.absent, _, digital, rfl, rfl⟩, by rw [Int.ofNat_eq_natCast]; omega,
        Int.ofNat_le.mpr within⟩
  · rintro ⟨⟨sign, digits, digital, rfl, rfl⟩, above, below⟩
    cases sign with
    | absent =>
        rw [Sign.text, List.nil_append, readInteger_digits digital, map_readDigits_eq_ok]
        exact ⟨_, ⟨digital, rfl⟩, Int.ofNat_le.mp below, rfl⟩
    | plus => exact map_readDigits_eq_ok.mpr ⟨_, ⟨digital, rfl⟩, Int.ofNat_le.mp below, rfl⟩
    | minus =>
        refine (readInteger_minus lower upper digits).trans
          (map_readDigits_eq_ok.mpr ⟨_, ⟨digital, rfl⟩, ?_, rfl⟩)
        rw [Sign.apply] at above
        omega

/-! ### Written numbers -/

theorem spellsNatural_toString (number : Nat) :
    SpellsNatural number (toString number).toList := by
  rw [Nat.toString_eq_repr, Nat.repr_eq_ofList_toDigits, String.toList_ofList]
  exact ⟨isDigits_decimal number, digitsValue_decimal number⟩

theorem spellsInteger_toString (number : Int) :
    SpellsInteger number (toString number).toList := by
  cases number with
  | ofNat natural =>
      obtain ⟨digital, valueEq⟩ := spellsNatural_toString natural
      exact ⟨.absent, _, digital, rfl, congrArg Int.ofNat valueEq⟩
  | negSucc natural =>
      obtain ⟨digital, valueEq⟩ := spellsNatural_toString (natural + 1)
      have shown : toString (Int.negSucc natural) = "-" ++ toString (natural + 1) := rfl
      rw [shown, String.toList_append]
      refine ⟨.minus, _, digital, rfl, ?_⟩
      rw [valueEq]
      rfl

end Text

end QuickFill
