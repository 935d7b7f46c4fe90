import QuickFill.Json.Value

/-!
# Reading JSON

The reader goes once from left to right and stops at the first character that
keeps the text from being JSON.  What was read so far is still a value, so that
a wrong value before that place can be told from the broken text after it.
-/

namespace QuickFill

namespace Json

open Text

/-- The white space between the tokens of a JSON text. -/
def isGap (character : Char) : Bool :=
  character == ' ' || character == '\t' || character == '\n' || character == '\r'

/-- A text without the white space at its start. -/
def skipGap (text : List Char) : List Char :=
  text.dropWhile isGap

/-- The value of a hexadecimal digit. -/
def hexDigit? (character : Char) : Option Nat :=
  if character.isDigit then some (character.toNat - '0'.toNat)
  else if 'a' ≤ character ∧ character ≤ 'f' then some (character.toNat - 'a'.toNat + 10)
  else if 'A' ≤ character ∧ character ≤ 'F' then some (character.toNat - 'A'.toNat + 10)
  else none

/-- The 16-bit unit that four hexadecimal digits denote. -/
def hexUnit? (first second third fourth : Char) : Option Nat := do
  some (((← hexDigit? first) * 16 + (← hexDigit? second)) * 256 +
    ((← hexDigit? third) * 16 + (← hexDigit? fourth)))

/-- Whether a 16-bit unit starts a pair. -/
def isLeading (unit : Nat) : Bool := 0xD800 ≤ unit && unit < 0xDC00

/-- Whether a 16-bit unit ends a pair. -/
def isTrailing (unit : Nat) : Bool := 0xDC00 ≤ unit && unit < 0xE000

/-- The character that a letter stands for after a backslash. -/
def escaped? : Char → Option Char
  | '"' => some '"'
  | '\\' => some '\\'
  | '/' => some '/'
  | 'b' => some '\x08'
  | 'f' => some '\x0c'
  | 'n' => some '\n'
  | 'r' => some '\r'
  | 't' => some '\t'
  | _ => none

/-- What was read of a string: its text, which is missing when the string holds
half of a surrogate pair, and what follows it. -/
abbrev ReadString := Option (List Char) × List Char

def consText (character : Char) (found : ReadString) : ReadString :=
  (found.1.map (character :: ·), found.2)

/-- A string that goes on after a first half without the second one has no text. -/
def settle (half : Option Nat) (found : ReadString) : ReadString :=
  if half.isSome then (none, found.2) else found

/-- The character that the two halves of a surrogate pair stand for. -/
def pairChar (leading trailing : Nat) : Char :=
  Char.ofNat (0x10000 + (leading - 0xD800) * 0x400 + (trailing - 0xDC00))

/-- Read the rest of a string after its opening quote, or after the first half of a
surrogate pair in it. -/
def readString : Option Nat → List Char → Option ReadString
  | _, [] => none
  | half, '"' :: rest => some (settle half (some [], rest))
  | half, '\\' :: 'u' :: first :: second :: third :: fourth :: rest =>
    match hexUnit? first second third fourth with
    | none => none
    | some unit =>
      if isLeading unit then (readString (some unit) rest).map (settle half)
      else if isTrailing unit then
        match half with
        | some leading => (readString none rest).map (consText (pairChar leading unit))
        | none => (readString none rest).map fun found => (none, found.2)
      else (readString none rest).map fun found => settle half (consText (Char.ofNat unit) found)
  | half, '\\' :: mark :: rest =>
    match escaped? mark with
    | none => none
    | some character =>
      (readString none rest).map fun found => settle half (consText character found)
  | half, character :: rest =>
    if character.toNat < 0x20 || character == '\\' then none
    else (readString none rest).map fun found => settle half (consText character found)

def ofString : Option (List Char) → Json
  | some text => .string (String.ofList text)
  | none => .halfPair

/-- Read the exponent of a number, if there is one; `none` when it is broken. -/
def readPower? : List Char → Option (Option Int × List Char)
  | mark :: rest =>
    if mark == 'e' || mark == 'E' then
      let (negative, text) := Decimal.splitSign rest
      let digits := leadingDigits text
      if digits.isEmpty then none
      else
        let power : Int := digitsValue digits
        some (some (if negative then -power else power), afterDigits text)
    else some (none, mark :: rest)
  | [] => some (none, [])

/-- Read the fraction of a number, if there is one; `none` when it is broken. -/
def readPlaces? : List Char → Option (Option (List Char) × List Char)
  | '.' :: rest =>
    if (leadingDigits rest).isEmpty then none
    else some (some (leadingDigits rest), afterDigits rest)
  | text => some (none, text)

def readNumber? (text : List Char) : Option (Json × List Char) := do
  let (negative, body) :=
    match text with
    | '-' :: rest => (true, rest)
    | _ => (false, text)
  let whole := leadingDigits body
  if whole.isEmpty || (whole.head? == some '0' && 1 < whole.length) then none
  let (fraction, afterFraction) ← readPlaces? (afterDigits body)
  let (power, rest) ← readPower? afterFraction
  let places := fraction.getD []
  let value : Decimal :=
    ⟨negative, digitsValue (whole ++ places), power.getD 0 - places.length⟩
  some (.number value (fraction.isNone && power.isNone), rest)

mutual

/-- Read a value; the rest of the text is missing when the text is broken. -/
def readValue : Nat → List Char → Json × Option (List Char)
  | 0, _ => (.unread, none)
  | fuel + 1, text =>
    match skipGap text with
    | '"' :: rest =>
      match readString none rest with
      | some (found, more) => (ofString found, some more)
      | none => (.unread, none)
    | '[' :: rest =>
      match skipGap rest with
      | ']' :: more => (.array [] true, some more)
      | _ =>
        let (items, ending) := readItems fuel rest
        (.array items ending.isSome, ending)
    | '{' :: rest =>
      match skipGap rest with
      | '}' :: more => (.object [] true, some more)
      | _ =>
        let (members, ending) := readMembers fuel rest
        (.object members ending.isSome, ending)
    | 'n' :: 'u' :: 'l' :: 'l' :: rest => (.null, some rest)
    | 't' :: 'r' :: 'u' :: 'e' :: rest => (.bool true, some rest)
    | 'f' :: 'a' :: 'l' :: 's' :: 'e' :: rest => (.bool false, some rest)
    | start =>
      match readNumber? start with
      | some (value, rest) => (value, some rest)
      | none => (.unread, none)

/-- Read the items of an array up to its closing bracket. -/
def readItems : Nat → List Char → List Json × Option (List Char)
  | 0, _ => ([], none)
  | fuel + 1, text =>
    match readValue fuel text with
    | (item, none) => ([item], none)
    | (item, some rest) =>
      match skipGap rest with
      | ',' :: more =>
        let (items, ending) := readItems fuel more
        (item :: items, ending)
      | ']' :: more => ([item], some more)
      | _ => ([item], none)

/-- Read the members of an object up to its closing brace. -/
def readMembers : Nat → List Char → List (Option String × Json) × Option (List Char)
  | 0, _ => ([], none)
  | fuel + 1, text =>
    match skipGap text with
    | '"' :: rest =>
      match readString none rest with
      | none => ([], none)
      | some (found, afterKey) =>
        let key := found.map String.ofList
        match skipGap afterKey with
        | ':' :: afterColon =>
          match readValue fuel afterColon with
          | (value, none) => ([(key, value)], none)
          | (value, some more) =>
            match skipGap more with
            | ',' :: next =>
              let (members, ending) := readMembers fuel next
              ((key, value) :: members, ending)
            | '}' :: next => ([(key, value)], some next)
            | _ => ([(key, value)], none)
        | _ => ([(key, .unread)], none)
    | _ => ([], none)

end

/-- Read a text: its value, and whether the text holds that value and no more. -/
def read (text : List Char) : Json × Bool :=
  match readValue (2 * text.length + 2) text with
  | (value, some rest) => (value, (skipGap rest).isEmpty)
  | (value, none) => (value, false)

end Json

end QuickFill
