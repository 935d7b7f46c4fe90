import QuickFill.Document.ClassName

/-!
# Class attributes

A class attribute that was made of tokens, with a blank between each two, reads as
these tokens again.  Every name that a selector can name is a token.
-/

namespace QuickFill

namespace ClassName

/-- Whether a name can be put on an element. -/
def IsToken (name : String) : Prop :=
  tokenFault? name = none

instance (name : String) : Decidable (IsToken name) :=
  inferInstanceAs (Decidable (tokenFault? name = none))

theorem IsToken.toList_ne_nil {name : String} (token : IsToken name) : name.toList ≠ [] := by
  intro empty
  have nameEq : name = "" := String.toList_eq_nil_iff.mp empty
  rw [IsToken, tokenFault?, if_pos nameEq] at token
  cases token

theorem IsToken.no_separator {name : String} (token : IsToken name) :
    ∀ character ∈ name.toList, Text.isClassSeparator character = false := by
  intro character member
  rw [IsToken, tokenFault?] at token
  split at token
  · cases token
  · split at token
    · cases token
    · next noSeparator =>
      rw [List.any_eq_true] at noSeparator
      rw [← Bool.not_eq_true]
      exact fun separates => noSeparator ⟨character, member, separates⟩

/-- Words with a blank between each two are found again. -/
theorem words_intercalate {names : List (List Char)} (filled : ∀ name ∈ names, name ≠ [])
    (plain : ∀ name ∈ names, ∀ character ∈ name, Text.isClassSeparator character = false) :
    Text.words Text.isClassSeparator ([' '].intercalate names) = names := by
  induction names with
  | nil => rfl
  | cons first rest ih =>
      have firstFilled := filled first List.mem_cons_self
      have firstPlain := plain first List.mem_cons_self
      have restWords := ih (fun name member => filled name (List.mem_cons_of_mem _ member))
        fun name member => plain name (List.mem_cons_of_mem _ member)
      cases rest with
      | nil =>
          rw [List.intercalate_singleton, Text.words, List.splitOnP_eq_singleton firstPlain]
          simp [firstFilled]
      | cons second others =>
          rw [Text.words] at restWords
          rw [List.intercalate_cons_cons, List.append_assoc, List.singleton_append, Text.words,
            List.splitOnP_append_cons_of_forall_mem firstPlain ' ' rfl, List.filter_cons_of_pos,
            restWords]
          simp [firstFilled]

def spelled (names : List String) : String :=
  " ".intercalate names

theorem words_spelled {names : List String} (tokens : ∀ name ∈ names, IsToken name) :
    (Text.words Text.isClassSeparator (spelled names).toList).map String.ofList = names := by
  have blankEq : " ".toList = [' '] := rfl
  rw [spelled, String.toList_intercalate, blankEq, words_intercalate]
  · rw [List.map_map]
    simp [Function.comp_def]
  · intro name member
    obtain ⟨token, tokenMember, rfl⟩ := List.mem_map.mp member
    exact (tokens token tokenMember).toList_ne_nil
  · intro name member
    obtain ⟨token, tokenMember, rfl⟩ := List.mem_map.mp member
    exact (tokens token tokenMember).no_separator

theorem not_separator_of_isInner {character : Char} (inner : isInner character = true) :
    Text.isClassSeparator character = false := by
  rw [← Bool.not_eq_true]
  intro separates
  simp only [Text.isClassSeparator, Bool.or_eq_true, beq_iff_eq] at separates
  rcases separates with (((rfl | rfl) | rfl) | rfl) | rfl <;> revert inner <;> decide

theorem not_separator_of_isStart {character : Char} (start : isStart character = true) :
    Text.isClassSeparator character = false := by
  apply not_separator_of_isInner
  rw [isInner, start]
  rfl

theorem isToken_of_isIdentifier {name : String} (identifier : isIdentifier name.toList = true) :
    IsToken name := by
  have filled : name ≠ "" := by
    rintro rfl
    cases identifier
  have plain : ∀ character ∈ name.toList, Text.isClassSeparator character = false := by
    revert identifier
    fun_cases isIdentifier name.toList with
    | case1 rest =>
        intro inner character member
        simp only [List.mem_cons] at member
        rcases member with rfl | rfl | later
        · rfl
        · rfl
        · exact not_separator_of_isInner (List.all_eq_true.mp inner character later)
    | case2 first rest =>
        intro inner character member
        rw [Bool.and_eq_true] at inner
        simp only [List.mem_cons] at member
        rcases member with rfl | rfl | later
        · rfl
        · exact not_separator_of_isStart inner.1
        · exact not_separator_of_isInner (List.all_eq_true.mp inner.2 character later)
    | case3 first rest =>
        intro inner character member
        rw [Bool.and_eq_true] at inner
        rcases List.mem_cons.mp member with rfl | later
        · exact not_separator_of_isStart inner.1
        · exact not_separator_of_isInner (List.all_eq_true.mp inner.2 character later)
    | case4 =>
        intro identifier
        cases identifier
  rw [IsToken, tokenFault?, if_neg filled, if_neg]
  rw [List.any_eq_true]
  rintro ⟨character, member, separates⟩
  rw [plain character member] at separates
  cases separates

/-- Two tokens put on one element make an attribute that has each of them once. -/
theorem joined_pair {first second : String} (firstToken : IsToken first)
    (secondToken : IsToken second) :
    joined [first, second] = .ok (spelled [first, second].eraseDups) := by
  have noFault : [first, second].findSome? tokenFault? = none := by
    rw [List.findSome?_eq_none_iff]
    intro name member
    simp only [List.mem_cons, List.not_mem_nil, or_false] at member
    rcases member with rfl | rfl
    · exact firstToken
    · exact secondToken
  have onceEq : [first, second].foldl addToken [] = [first, second].eraseDups := by
    by_cases same : first = second
    · simp [addToken, List.eraseDups_cons, same]
    · simp [addToken, List.eraseDups_cons, Ne.symm same]
  rw [joined, noFault, onceEq]
  rfl

end ClassName

theorem Element.classes_of_spelled {element : Element} {names : List String}
    (tokens : ∀ name ∈ names, ClassName.IsToken name)
    (made : element.attribute? "class" = some (ClassName.spelled names)) :
    element.classes = names.eraseDups := by
  rw [classes, made, Option.getD_some, ClassName.words_spelled tokens]

end QuickFill
