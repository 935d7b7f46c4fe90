import QuickFill.Text.Escape

/-!
# Reading escaped text back

Escaped text holds none of the marks that end a text inside markup, and can be read
back.  So a text inside markup ends at the first such mark, whatever the text is, and
is known from what stands before that mark.
-/

namespace QuickFill

namespace Text

/-- The text that was escaped. -/
def unescape : List Char → List Char
  | '&' :: 'a' :: 'm' :: 'p' :: ';' :: rest => '&' :: unescape rest
  | '&' :: 'l' :: 't' :: ';' :: rest => '<' :: unescape rest
  | '&' :: 'g' :: 't' :: ';' :: rest => '>' :: unescape rest
  | '&' :: 'q' :: 'u' :: 'o' :: 't' :: ';' :: rest => '"' :: unescape rest
  | '&' :: '#' :: '3' :: '9' :: ';' :: rest => '\'' :: unescape rest
  | character :: rest => character :: unescape rest
  | [] => []

theorem unescape_cons {character : Char} (plain : character ≠ '&') (rest : List Char) :
    unescape (character :: rest) = character :: unescape rest := by
  rw [unescape]
  all_goals
    intro _ isAmpersand
    exact absurd isAmpersand plain

theorem unescape_escapeChar (character : Char) (rest : List Char) :
    unescape (escapeChar character ++ rest) = character :: unescape rest := by
  fun_cases escapeChar character with
  | case6 _ plain => exact unescape_cons plain rest
  | _ => simp [unescape]

/-- Escaping loses nothing. -/
theorem unescape_flatMap (text : List Char) : unescape (text.flatMap escapeChar) = text := by
  induction text with
  | nil => rfl
  | cons character rest ih => rw [List.flatMap_cons, unescape_escapeChar, ih]

theorem toList_escape (text : String) : (escape text).toList = text.toList.flatMap escapeChar := by
  rw [escape, String.toList_ofList]

theorem escape_injective {first second : String} (equal : escape first = escape second) :
    first = second := by
  have unescaped := congrArg (fun text => unescape text.toList) equal
  simp only [toList_escape, unescape_flatMap] at unescaped
  exact String.toList_inj.mp unescaped

/-- The marks that end a text inside markup: a quote ends an attribute, and a tag ends
the text of an element. -/
def isEndMark (character : Char) : Bool :=
  character == '"' || character == '<'

theorem not_isEndMark_of_mem_escapeChar (original : Char) :
    ∀ character ∈ escapeChar original, isEndMark character = false := by
  have noMark : (escapeChar original).all (fun character => !isEndMark character) = true := by
    fun_cases escapeChar original with
    | case6 _ _ noOpening _ noQuote => simpa [isEndMark] using ⟨noQuote, noOpening⟩
    | _ => rfl
  intro character member
  simpa using List.all_eq_true.mp noMark character member

theorem not_isEndMark_of_mem_escape {text : String} :
    ∀ character ∈ (escape text).toList, isEndMark character = false := by
  intro character member
  rw [toList_escape, List.mem_flatMap] at member
  obtain ⟨original, -, written⟩ := member
  exact not_isEndMark_of_mem_escapeChar original character written

/-- Two texts that are split at their first mark in the same way are the same. -/
theorem append_mark_inj {isMark : Char → Bool} {mark other : Char}
    {first second rest others : List Char}
    (firstPlain : ∀ character ∈ first, isMark character = false)
    (secondPlain : ∀ character ∈ second, isMark character = false)
    (marks : isMark mark) (otherMarks : isMark other)
    (equal : first ++ mark :: rest = second ++ other :: others) :
    first = second ∧ mark :: rest = other :: others := by
  induction first generalizing second with
  | nil =>
      cases second with
      | nil => exact ⟨rfl, equal⟩
      | cons head tail =>
          obtain ⟨rfl, -⟩ := List.cons.inj equal
          simp [secondPlain mark List.mem_cons_self] at marks
  | cons head tail ih =>
      cases second with
      | nil =>
          obtain ⟨rfl, -⟩ := List.cons.inj equal
          simp [firstPlain head List.mem_cons_self] at otherMarks
      | cons otherHead otherTail =>
          obtain ⟨rfl, equalTails⟩ := List.cons.inj equal
          obtain ⟨rfl, restEq⟩ := ih
            (fun character member => firstPlain character (List.mem_cons_of_mem _ member))
            (fun character member => secondPlain character (List.mem_cons_of_mem _ member))
            equalTails
          exact ⟨rfl, restEq⟩

/-- An escaped text and what follows it are known from the whole, when what follows
starts with an end mark. -/
theorem escape_append_inj {first second : String} {mark other : Char} {rest others : List Char}
    (marks : isEndMark mark) (otherMarks : isEndMark other)
    (equal : (escape first).toList ++ mark :: rest = (escape second).toList ++ other :: others) :
    first = second ∧ mark :: rest = other :: others := by
  obtain ⟨escapedEq, restEq⟩ := append_mark_inj not_isEndMark_of_mem_escape
    not_isEndMark_of_mem_escape marks otherMarks equal
  exact ⟨escape_injective (String.toList_inj.mp escapedEq), restEq⟩

/-! ### Rows of escaped texts -/

/-- Escaped texts in a row, each with the fixed text that comes after it. -/
def woven (parts : List (String × String)) : String :=
  String.join (parts.map fun part => escape part.1 ++ part.2)

def startsMarked (text : String) : Bool :=
  match text.toList with
  | mark :: _ => isEndMark mark
  | [] => false

theorem toList_woven_cons (text next : String) (parts : List (String × String)) :
    (woven ((text, next) :: parts)).toList =
      (escape text).toList ++ (next.toList ++ (woven parts).toList) := by
  simp [woven]

/-- A row of escaped texts and what follows it are known from the whole, when every fixed
text starts with an end mark. -/
theorem woven_append_inj {parts others : List (String × String)} {rest more : List Char}
    (equal : (woven parts).toList ++ rest = (woven others).toList ++ more)
    (shape : parts.map Prod.snd = others.map Prod.snd)
    (marked : ∀ part ∈ parts, startsMarked part.2) : parts = others ∧ rest = more := by
  induction parts generalizing others with
  | nil =>
      obtain rfl := List.map_eq_nil_iff.mp shape.symm
      exact ⟨rfl, equal⟩
  | cons part parts ih =>
      cases others with
      | nil => cases shape
      | cons other others =>
          obtain ⟨text, next⟩ := part
          obtain ⟨otherText, otherNext⟩ := other
          obtain ⟨rfl, shapes⟩ : next = otherNext ∧ parts.map Prod.snd = others.map Prod.snd :=
            List.cons.inj shape
          have nextMarked : startsMarked next := marked (text, next) List.mem_cons_self
          rw [toList_woven_cons, toList_woven_cons] at equal
          simp only [List.append_assoc] at equal
          cases nextEq : next.toList with
          | nil => simp [startsMarked, nextEq] at nextMarked
          | cons mark tail =>
              have marks : isEndMark mark := by simpa [startsMarked, nextEq] using nextMarked
              rw [nextEq] at equal
              obtain ⟨rfl, followed⟩ := escape_append_inj marks marks equal
              have othersEq : (woven parts).toList ++ rest = (woven others).toList ++ more :=
                List.append_cancel_left (List.cons.inj followed).2
              obtain ⟨rfl, restEq⟩ := ih othersEq shapes fun part member =>
                marked part (List.mem_cons_of_mem _ member)
              exact ⟨rfl, restEq⟩

end Text

end QuickFill
