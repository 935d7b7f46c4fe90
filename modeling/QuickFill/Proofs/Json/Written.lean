import QuickFill.Json.Reader
import QuickFill.Proofs.Text.Digits

/-!
# Written values

A value is written without white space, its strings with the fewest escapes and its
numbers as their digits with a power of ten.  The reader gets the same value back, and
stops right where the value ends.
-/

namespace QuickFill

namespace Text

/-- Only zero is written with a zero in front. -/
theorem eq_zero_of_head?_decimal {number : Nat} (zero : (decimal number).head? = some '0') :
    number = 0 := by
  induction number using Nat.strongRecOn with
  | ind number ih =>
      by_cases small : number < 10
      · rw [decimal, Nat.toDigits_of_lt_base small, List.head?_cons] at zero
        have digits : ∀ digit < 10, some (Nat.digitChar digit) = some '0' → digit = 0 := by decide
        exact digits number small zero
      · have split : decimal number = decimal (number / 10) ++ [(number % 10).digitChar] :=
          Nat.toDigits_of_base_le (by decide) (Nat.le_of_not_lt small)
        have notEmpty : decimal (number / 10) ≠ [] := Nat.toDigits_ne_nil
        rw [split, List.head?_append, List.head?_eq_some_head notEmpty, Option.some_or,
          ← List.head?_eq_some_head] at zero
        have shorter := ih (number / 10) (Nat.div_lt_self (by omega) (by decide)) zero
        omega

end Text

namespace Json

open Text

/-! ### Writing -/

/-- The letter that stands for a character after a backslash, where one does. -/
def mark? : Char → Option Char
  | '"' => some '"'
  | '\\' => some '\\'
  | '\x08' => some 'b'
  | '\x0c' => some 'f'
  | '\n' => some 'n'
  | '\r' => some 'r'
  | '\t' => some 't'
  | _ => none

def writeChar (character : Char) : List Char :=
  match mark? character with
  | some mark => ['\\', mark]
  | none =>
    if character.toNat < 0x20 then
      ['\\', 'u', '0', '0', (character.toNat / 16).digitChar, (character.toNat % 16).digitChar]
    else [character]

def writeString (text : String) : List Char :=
  '"' :: text.toList.flatMap writeChar ++ ['"']

/-- A string with half of a surrogate pair. -/
def writeHalfPair : List Char :=
  ['"', '\\', 'u', 'd', '8', '0', '0', '"']

def writeName : Option String → List Char
  | some name => writeString name
  | none => writeHalfPair

def writeSign (negative : Bool) : List Char :=
  if negative then ['-'] else []

def writePower (exponent : Int) : List Char :=
  'e' :: writeSign (decide (exponent < 0)) ++ decimal exponent.natAbs

def writeNumber (value : Decimal) (plain : Bool) : List Char :=
  writeSign value.negative ++ decimal value.digits ++
    if plain then [] else writePower value.exponent

mutual

def write : Json → List Char
  | .null => ['n', 'u', 'l', 'l']
  | .bool true => ['t', 'r', 'u', 'e']
  | .bool false => ['f', 'a', 'l', 's', 'e']
  | .number value plain => writeNumber value plain
  | .string text => writeString text
  | .halfPair => writeHalfPair
  | .array items _ => '[' :: writeItems items
  | .object members _ => '{' :: writeMembers members
  | .unread => []

/-- The items of an array and its closing bracket. -/
def writeItems : List Json → List Char
  | [] => [']']
  | item :: rest =>
    match rest with
    | [] => write item ++ [']']
    | _ :: _ => write item ++ ',' :: writeItems rest

/-- The members of an object and its closing brace. -/
def writeMembers : List (Option String × Json) → List Char
  | [] => ['}']
  | (name, value) :: rest =>
    match rest with
    | [] => writeName name ++ ':' :: write value ++ ['}']
    | _ :: _ => writeName name ++ ':' :: write value ++ ',' :: writeMembers rest

end

def writeText (value : Json) : String :=
  String.ofList value.write

/-- Whether the outermost layer of a value has a text: it was read to its end, and a number
without an exponent in its text has none in its value. -/
def hasText : Json → Bool
  | .number value plain => !plain || value.exponent == 0
  | value => value.isFinished

/-- Whether the value can be written. -/
def isWritable (value : Json) : Bool :=
  value.nodes.all hasText

/-! ### Reading strings back -/

/-- A letter after a backslash is read as the character that it stands for. -/
theorem readString_mark {character mark : Char} (marked : mark? character = some mark)
    (rest : List Char) :
    readString none ('\\' :: mark :: rest) = (readString none rest).map (consText character) := by
  revert marked
  fun_cases mark? character with
  | case8 => rintro ⟨⟩
  | _ =>
      rintro ⟨⟩
      rfl

/-- A control character is read from its two last digits. -/
theorem readString_control {character : Char} (control : character.toNat < 0x20)
    (rest : List Char) :
    readString none ('\\' :: 'u' :: '0' :: '0' :: (character.toNat / 16).digitChar ::
        (character.toNat % 16).digitChar :: rest) =
      (readString none rest).map (consText character) := by
  have units : ∀ code < 0x20,
      hexUnit? '0' '0' (code / 16).digitChar (code % 16).digitChar = some code := by decide
  have notLeading : isLeading character.toNat = false := by
    simp [isLeading]
    omega
  have notTrailing : isTrailing character.toNat = false := by
    simp [isTrailing]
    omega
  rw [readString, units _ control]
  simp only [notLeading, notTrailing, Char.ofNat_toNat]
  rfl

theorem readString_writeChar (character : Char) (rest : List Char) :
    readString none (writeChar character ++ rest) =
      (readString none rest).map (consText character) := by
  rw [writeChar]
  cases marked : mark? character with
  | some mark => exact readString_mark marked rest
  | none =>
      by_cases control : character.toNat < 0x20
      · simp only [if_pos control]
        exact readString_control control rest
      · have notQuote : character ≠ '"' := by
          rintro rfl
          cases marked
        have notBackslash : character ≠ '\\' := by
          rintro rfl
          cases marked
        simp only [if_neg control, List.singleton_append]
        rw [readString]
        · simp [control, notBackslash, settle]
        · exact notQuote
        all_goals simp [notBackslash]

theorem readString_writeString (text : String) (rest : List Char) :
    readString none (text.toList.flatMap writeChar ++ '"' :: rest) =
      some (some text.toList, rest) := by
  induction text.toList with
  | nil => rfl
  | cons character others ih =>
      rw [List.flatMap_cons, List.append_assoc, readString_writeChar, ih]
      rfl

/-! ### Reading numbers back -/

/-- Where a written value ends: at the end of the text or before what goes on around it. -/
def IsEnd (rest : List Char) : Prop :=
  ∀ character ∈ rest.head?, character = ',' ∨ character = ']' ∨ character = '}'

theorem isEnd_nil : IsEnd [] := by
  rintro character ⟨⟩

theorem isEnd_cons {character : Char} {rest : List Char} :
    IsEnd (character :: rest) ↔ character = ',' ∨ character = ']' ∨ character = '}' := by
  simp [IsEnd]

theorem IsEnd.not_isDigit {rest : List Char} (ends : IsEnd rest) :
    ∀ character ∈ rest.head?, character.isDigit = false := by
  intro character first
  rcases ends character first with rfl | rfl | rfl <;> rfl

/-- A numeral starts with a digit. -/
theorem exists_decimal (number : Nat) :
    ∃ first others, decimal number = first :: others ∧ first.isDigit = true := by
  cases digits : decimal number with
  | nil => exact (Nat.toDigits_ne_nil digits).elim
  | cons first others =>
      exact ⟨first, others, rfl, isDigit_of_mem_decimal (digits ▸ List.mem_cons_self)⟩

theorem splitSign_writeSign (negative : Bool) (number : Nat) (rest : List Char) :
    Decimal.splitSign (writeSign negative ++ (decimal number ++ rest)) =
      (negative, decimal number ++ rest) := by
  cases negative with
  | true => rfl
  | false =>
      obtain ⟨first, others, digits, isDigit⟩ := exists_decimal number
      rw [writeSign, if_neg (by decide), List.nil_append, digits, List.cons_append,
        Decimal.splitSign]
      all_goals
        rintro tail ⟨rfl, -⟩
        cases isDigit

theorem readPower?_writePower (exponent : Int) {rest : List Char} (ends : IsEnd rest) :
    readPower? (writePower exponent ++ rest) = some (some exponent, rest) := by
  obtain ⟨leading, after⟩ := leadingDigits_decimal exponent.natAbs ends.not_isDigit
  obtain ⟨first, others, digits, -⟩ := exists_decimal exponent.natAbs
  have notEmpty : (decimal exponent.natAbs).isEmpty = false := by rw [digits]; rfl
  have isMark : ('e' == 'e' || 'e' == 'E') = true := rfl
  rw [writePower, List.cons_append, List.cons_append, List.append_assoc, readPower?,
    if_pos isMark, splitSign_writeSign]
  have signed : (if decide (exponent < 0) = true then -(exponent.natAbs : Int)
      else exponent.natAbs) = exponent := by
    by_cases negative : exponent < 0
    · rw [if_pos (decide_eq_true negative)]
      omega
    · rw [if_neg (by simpa using negative)]
      omega
  simp only [leading, after, notEmpty, digitsValue_decimal, signed]
  rfl

theorem readPower?_end {rest : List Char} (ends : IsEnd rest) :
    readPower? rest = some (none, rest) := by
  cases rest with
  | nil => rfl
  | cons character others =>
      rcases isEnd_cons.mp ends with rfl | rfl | rfl <;> rfl

/-- Right after the digits of a written number there is neither a digit nor a point. -/
def IsTail (tail : List Char) : Prop :=
  ∀ character ∈ tail.head?, character.isDigit = false ∧ character ≠ '.'

theorem isTail_power (plain : Bool) (exponent : Int) {rest : List Char} (ends : IsEnd rest) :
    IsTail ((if plain then [] else writePower exponent) ++ rest) := by
  intro character first
  cases plain with
  | true => rcases ends character first with rfl | rfl | rfl <;> exact ⟨rfl, by decide⟩
  | false =>
      obtain rfl := Option.some.inj first
      exact ⟨rfl, by decide⟩

theorem readPlaces?_tail {tail : List Char} (isTail : IsTail tail) :
    readPlaces? tail = some (none, tail) := by
  cases tail with
  | nil => rfl
  | cons character others =>
      rw [readPlaces?]
      rintro more ⟨rfl, -⟩
      exact (isTail '.' rfl).2 rfl

/-- What follows the digits of a written number: nothing, or its power of ten. -/
theorem readPower?_tail (plain : Bool) (exponent : Int) {rest : List Char} (ends : IsEnd rest) :
    readPower? ((if plain then [] else writePower exponent) ++ rest) =
      some (if plain then none else some exponent, rest) := by
  cases plain with
  | true => exact readPower?_end ends
  | false => exact readPower?_writePower exponent ends

theorem readNumber?_writeNumber {value : Decimal} {plain : Bool}
    (hasText : (Json.number value plain).hasText = true) {rest : List Char} (ends : IsEnd rest) :
    readNumber? (writeNumber value plain ++ rest) = some (.number value plain, rest) := by
  obtain ⟨negative, digits, exponent⟩ := value
  have places := readPlaces?_tail (isTail_power plain exponent ends)
  have power := readPower?_tail plain exponent ends
  obtain ⟨leading, after⟩ := leadingDigits_decimal digits
    fun _ first => (isTail_power plain exponent ends _ first).1
  rw [writeNumber, List.append_assoc, List.append_assoc]
  generalize (if plain then [] else writePower exponent) ++ rest = tail
    at places power leading after
  obtain ⟨first, others, written, isDigit⟩ := exists_decimal digits
  have guarded : ((decimal digits).isEmpty ||
      ((decimal digits).head? == some '0' && decide (1 < (decimal digits).length))) = false := by
    by_cases zero : (decimal digits).head? = some '0'
    · rw [eq_zero_of_head?_decimal zero]
      rfl
    · rw [written] at zero ⊢
      have notZero : first ≠ '0' := fun isZero => zero (congrArg some isZero)
      simp [notZero]
  have powerEq : (if plain then none else some exponent).getD 0 = exponent := by
    cases plain with
    | true =>
        have noExponent : exponent = 0 := by simpa [Json.hasText] using hasText
        exact noExponent.symm
    | false => rfl
  have plainEq : (if plain then none else some exponent).isNone = plain := by cases plain <;> rfl
  generalize (if plain then none else some exponent) = found at power powerEq plainEq
  cases negative with
  | true =>
      rw [writeSign, if_pos rfl, List.singleton_append, readNumber?]
      simp only [leading, after, guarded, places]
      simp [power, powerEq, plainEq]
  | false =>
      rw [writeSign, if_neg Bool.false_ne_true, List.nil_append, readNumber?]
      · simp only [leading, after, guarded, places]
        simp [power, powerEq, plainEq]
      · rw [written]
        rintro rest ⟨rfl, -⟩
        cases isDigit

/-! ### Reading values back -/

theorem all_nodesOfItems (holds : Json → Bool) (items : List Json) :
    (nodesOfItems items).all holds = items.all fun item => item.nodes.all holds := by
  induction items with
  | nil => rfl
  | cons item rest ih => rw [nodesOfItems, List.all_append, ih, List.all_cons]

theorem all_nodesOfMembers (holds : Json → Bool) (members : List (Option String × Json)) :
    (nodesOfMembers members).all holds = members.all fun member => member.2.nodes.all holds := by
  induction members with
  | nil => rfl
  | cons member rest ih => rw [nodesOfMembers, List.all_append, ih, List.all_cons]

theorem isWritable_array {items : List Json} {closed : Bool} :
    (Json.array items closed).isWritable = (closed && items.all isWritable) := by
  rw [isWritable, nodes, List.all_cons, all_nodesOfItems]
  rfl

theorem isWritable_object {members : List (Option String × Json)} {closed : Bool} :
    (Json.object members closed).isWritable =
      (closed && members.all fun member => member.2.isWritable) := by
  rw [isWritable, nodes, List.all_cons, all_nodesOfMembers]
  rfl

@[simp]
theorem isWritable_ofMembers (members : List (String × Json)) :
    (ofMembers members).isWritable = members.all fun member => member.2.isWritable := by
  rw [ofMembers, isWritable_object, Bool.true_and, List.all_map]
  rfl

@[simp]
theorem isWritable_ofList (items : List Json) :
    (ofList items).isWritable = items.all isWritable := by
  rw [ofList, isWritable_array, Bool.true_and]

@[simp]
theorem isWritable_ofInt (number : Int) : (ofInt number).isWritable = true :=
  rfl

@[simp]
theorem isWritable_bool (value : Bool) : (Json.bool value).isWritable = true :=
  rfl

@[simp]
theorem isWritable_string (text : String) : (Json.string text).isWritable = true :=
  rfl

@[simp]
theorem isWritable_ofText? (text : Option String) : (ofText? text).isWritable = true := by
  cases text <;> rfl

theorem skipGap_cons {first : Char} (noGap : isGap first = false) (more : List Char) :
    skipGap (first :: more) = first :: more :=
  List.dropWhile_cons_of_neg (by simp [noGap])

theorem skipGap_comma (more : List Char) : skipGap (',' :: more) = ',' :: more :=
  skipGap_cons rfl more

theorem skipGap_colon (more : List Char) : skipGap (':' :: more) = ':' :: more :=
  skipGap_cons rfl more

/-- What a number starts with. -/
def IsNumeric (first : Char) : Prop :=
  first = '-' ∨ first.isDigit = true

instance (first : Char) : Decidable (IsNumeric first) :=
  inferInstanceAs (Decidable (_ ∨ _))

theorem IsNumeric.noGap {first : Char} (numeric : IsNumeric first) : isGap first = false := by
  rw [← Bool.not_eq_true]
  intro isGap
  simp only [Json.isGap, Bool.or_eq_true, beq_iff_eq] at isGap
  rcases isGap with ((rfl | rfl) | rfl) | rfl <;> exact absurd numeric (by decide)

theorem exists_writeNumber (value : Decimal) (plain : Bool) :
    ∃ first more, writeNumber value plain = first :: more ∧ IsNumeric first := by
  obtain ⟨first, others, written, isDigit⟩ := exists_decimal value.digits
  rw [writeNumber, writeSign, written]
  cases value.negative with
  | true => exact ⟨_, _, rfl, Or.inl rfl⟩
  | false => exact ⟨_, _, rfl, Or.inr isDigit⟩

/-- Nothing that is written starts with white space or with a closing bracket. -/
theorem exists_write {value : Json} (writable : value.isWritable = true) :
    ∃ first more, value.write = first :: more ∧ isGap first = false ∧ first ≠ ']' := by
  cases value with
  | null => exact ⟨_, _, rfl, rfl, by decide⟩
  | bool value => cases value <;> exact ⟨_, _, rfl, rfl, by decide⟩
  | number value plain =>
      obtain ⟨first, more, written, numeric⟩ := exists_writeNumber value plain
      refine ⟨first, more, written, numeric.noGap, ?_⟩
      rintro rfl
      exact absurd numeric (by decide)
  | string text => exact ⟨_, _, rfl, rfl, by decide⟩
  | halfPair => exact ⟨_, _, rfl, rfl, by decide⟩
  | array items closed => exact ⟨_, _, rfl, rfl, by decide⟩
  | object members closed => exact ⟨_, _, rfl, rfl, by decide⟩
  | unread => cases writable

/-- What starts like a number is read as one. -/
theorem readValue_number {first : Char} (numeric : IsNumeric first) (more : List Char)
    (fuel : Nat) :
    readValue (fuel + 1) (first :: more) =
      match readNumber? (first :: more) with
      | some (value, rest) => (value, some rest)
      | none => (.unread, none) := by
  rw [readValue, skipGap_cons numeric.noGap]
  split
  case h_7 => rfl
  all_goals
    next same =>
    obtain ⟨rfl, -⟩ := List.cons.inj same
    exact absurd numeric (by decide)

theorem readName_writeName (name : Option String) (rest : List Char) :
    ∃ body, writeName name ++ rest = '"' :: body ∧
      readString none body = some (name.map String.toList, rest) := by
  cases name with
  | none =>
      have unit : hexUnit? 'd' '8' '0' '0' = some 0xD800 := by decide
      refine ⟨'\\' :: 'u' :: 'd' :: '8' :: '0' :: '0' :: '"' :: rest, rfl, ?_⟩
      rw [readString, unit]
      rfl
  | some text =>
      refine ⟨text.toList.flatMap writeChar ++ '"' :: rest, ?_, readString_writeString text rest⟩
      rw [writeName, writeString, List.cons_append, List.cons_append, List.append_assoc,
        List.singleton_append]

/-- The items that are left of an array after one of them. -/
def writeRest : List Json → List Char
  | [] => [']']
  | item :: rest => ',' :: writeItems (item :: rest)

theorem writeItems_cons (item : Json) (rest : List Json) :
    writeItems (item :: rest) = item.write ++ writeRest rest := by
  cases rest <;> rw [writeItems, writeRest]

def writeOthers : List (Option String × Json) → List Char
  | [] => ['}']
  | member :: rest => ',' :: writeMembers (member :: rest)

theorem writeMembers_cons (member : Option String × Json) (rest : List (Option String × Json)) :
    writeMembers (member :: rest) =
      writeName member.1 ++ ':' :: (member.2.write ++ writeOthers rest) := by
  cases rest <;> rw [writeMembers, writeOthers, List.append_assoc, List.cons_append]

/-- What a reader with some fuel makes of written values. -/
structure ReadsBack (fuel : Nat) : Prop where
  value : ∀ value : Json, value.isWritable = true → value.write.length < fuel →
    ∀ rest, IsEnd rest → readValue fuel (value.write ++ rest) = (value, some rest)
  items : ∀ items : List Json, items ≠ [] → items.all isWritable = true →
    (writeItems items).length < fuel →
      ∀ rest, readItems fuel (writeItems items ++ rest) = (items, some rest)
  members : ∀ members : List (Option String × Json), members ≠ [] →
    (members.all fun member => member.2.isWritable) = true →
      (writeMembers members).length < fuel →
        ∀ rest, readMembers fuel (writeMembers members ++ rest) = (members, some rest)

variable {fuel : Nat}

theorem ReadsBack.next_array (back : ReadsBack fuel) {items : List Json}
    (writable : items.all isWritable = true) (enough : (writeItems items).length < fuel)
    (rest : List Char) :
    readValue (fuel + 1) ('[' :: writeItems items ++ rest) = (.array items true, some rest) := by
  cases items with
  | nil => rfl
  | cons item others =>
      have found := back.items (item :: others) (List.cons_ne_nil _ _) writable enough rest
      obtain ⟨first, more, written, noGap, notBracket⟩ :=
        exists_write (List.all_eq_true.mp writable item List.mem_cons_self)
      have start : skipGap (writeItems (item :: others) ++ rest) =
          first :: (more ++ writeRest others ++ rest) := by
        rw [writeItems_cons, written, List.cons_append, List.cons_append, skipGap_cons noGap]
      rw [List.cons_append, readValue, skipGap_cons rfl]
      simp only [found, start]
      split
      · next same => exact (notBracket (List.cons.inj same).1).elim
      · rfl

theorem ReadsBack.next_object (back : ReadsBack fuel) {members : List (Option String × Json)}
    (writable : (members.all fun member => member.2.isWritable) = true)
    (enough : (writeMembers members).length < fuel) (rest : List Char) :
    readValue (fuel + 1) ('{' :: writeMembers members ++ rest) =
      (.object members true, some rest) := by
  cases members with
  | nil => rfl
  | cons member others =>
      have found := back.members (member :: others) (List.cons_ne_nil _ _) writable enough rest
      obtain ⟨body, written, -⟩ := readName_writeName member.1
        (':' :: (member.2.write ++ writeOthers others) ++ rest)
      have start : skipGap (writeMembers (member :: others) ++ rest) = '"' :: body := by
        rw [writeMembers_cons, List.append_assoc, written, skipGap_cons rfl]
      rw [List.cons_append, readValue, skipGap_cons rfl]
      simp only [found, start]
      rfl

theorem ReadsBack.next_value (back : ReadsBack fuel) {value : Json}
    (writable : value.isWritable = true) (enough : value.write.length < fuel + 1)
    {rest : List Char} (ends : IsEnd rest) :
    readValue (fuel + 1) (value.write ++ rest) = (value, some rest) := by
  cases value with
  | null => rfl
  | bool value => cases value <;> rfl
  | number value plain =>
      have hasText : (Json.number value plain).hasText = true := by
        simpa [isWritable, nodes] using writable
      obtain ⟨first, more, written, numeric⟩ := exists_writeNumber value plain
      have found := readNumber?_writeNumber hasText ends
      rw [written, List.cons_append] at found
      rw [write, written, List.cons_append, readValue_number numeric, found]
  | string text =>
      obtain ⟨body, written, found⟩ := readName_writeName (some text) rest
      rw [writeName] at written
      rw [write, written, readValue, skipGap_cons rfl]
      simp [found, ofString]
  | halfPair => rfl
  | array items closed =>
      rw [isWritable_array, Bool.and_eq_true] at writable
      obtain ⟨rfl, writable⟩ := writable
      rw [write, List.length_cons] at enough
      exact back.next_array writable (Nat.lt_of_succ_lt_succ enough) rest
  | object members closed =>
      rw [isWritable_object, Bool.and_eq_true] at writable
      obtain ⟨rfl, writable⟩ := writable
      rw [write, List.length_cons] at enough
      exact back.next_object writable (Nat.lt_of_succ_lt_succ enough) rest
  | unread => cases writable

theorem isEnd_writeRest (items : List Json) (rest : List Char) :
    IsEnd (writeRest items ++ rest) := by
  cases items with
  | nil => exact isEnd_cons.mpr (Or.inr (Or.inl rfl))
  | cons item others => exact isEnd_cons.mpr (Or.inl rfl)

theorem isEnd_writeOthers (members : List (Option String × Json)) (rest : List Char) :
    IsEnd (writeOthers members ++ rest) := by
  cases members with
  | nil => exact isEnd_cons.mpr (Or.inr (Or.inr rfl))
  | cons member others => exact isEnd_cons.mpr (Or.inl rfl)

theorem ReadsBack.next_items (back : ReadsBack fuel) {items : List Json}
    (notEmpty : items ≠ []) (writable : items.all isWritable = true)
    (enough : (writeItems items).length < fuel + 1) (rest : List Char) :
    readItems (fuel + 1) (writeItems items ++ rest) = (items, some rest) := by
  cases items with
  | nil => exact (notEmpty rfl).elim
  | cons item others =>
      rw [List.all_cons, Bool.and_eq_true] at writable
      rw [writeItems_cons, List.length_append] at enough
      have positive : 0 < (writeRest others).length := by
        cases others <;> exact Nat.zero_lt_succ _
      have first := back.value item writable.1 (by omega) _ (isEnd_writeRest others rest)
      rw [writeItems_cons, List.append_assoc, readItems, first]
      cases others with
      | nil => rfl
      | cons next more =>
          have found := back.items (next :: more) (List.cons_ne_nil _ _) writable.2
            (by rw [writeRest, List.length_cons] at enough; omega) rest
          simp only [writeRest, List.cons_append, skipGap_comma, found]

theorem ReadsBack.next_members (back : ReadsBack fuel) {members : List (Option String × Json)}
    (notEmpty : members ≠ [])
    (writable : (members.all fun member => member.2.isWritable) = true)
    (enough : (writeMembers members).length < fuel + 1) (rest : List Char) :
    readMembers (fuel + 1) (writeMembers members ++ rest) = (members, some rest) := by
  cases members with
  | nil => exact (notEmpty rfl).elim
  | cons member others =>
      obtain ⟨name, value⟩ := member
      rw [List.all_cons, Bool.and_eq_true] at writable
      rw [writeMembers_cons, List.length_append, List.length_cons, List.length_append] at enough
      simp only at enough
      obtain ⟨body, written, named⟩ := readName_writeName name
        (':' :: (value.write ++ writeOthers others) ++ rest)
      have first := back.value value writable.1 (by omega) _ (isEnd_writeOthers others rest)
      have nameEq : (name.map String.toList).map String.ofList = name := by
        cases name <;> simp
      rw [writeMembers_cons, List.append_assoc, written, readMembers, skipGap_cons rfl]
      simp only [named, nameEq, List.cons_append, List.append_assoc, skipGap_colon, first]
      cases others with
      | nil => rfl
      | cons next more =>
          have found := back.members (next :: more) (List.cons_ne_nil _ _) writable.2
            (by rw [writeOthers, List.length_cons] at enough; omega) rest
          simp only [writeOthers, List.cons_append, skipGap_comma, found]

theorem readsBack (fuel : Nat) : ReadsBack fuel := by
  induction fuel with
  | zero =>
      exact ⟨fun _ _ none => by omega, fun _ _ _ none => by omega, fun _ _ _ none => by omega⟩
  | succ fuel back =>
      exact ⟨fun _ writable enough _ => back.next_value writable enough,
        fun _ notEmpty writable enough => back.next_items notEmpty writable enough,
        fun _ notEmpty writable enough => back.next_members notEmpty writable enough⟩

/-- A written value is read back, and nothing is left of the text. -/
theorem read_write {value : Json} (writable : value.isWritable = true) :
    read value.write = (value, true) := by
  have back := (readsBack (2 * value.write.length + 2)).value value writable (by omega) [] isEnd_nil
  rw [List.append_nil] at back
  rw [read, back]
  rfl

end Json

end QuickFill
