import Mathlib.Data.List.Nodup
import QuickFill.Proofs.Page.Decorated
import QuickFill.Proofs.Page.Visible

/-!
# The mark of the focused input

The line of the focused input ends with a mark.  No text of a page can imitate it, since
escaped text holds no end of a tag; so the mark stands once in the markup of a page when
an input is focused, and nowhere when none is.
-/

namespace QuickFill

namespace Text

/-- How often a mark stands in a text. -/
def occurrences (mark : List Char) : List Char → Nat
  | [] => 0
  | character :: rest =>
    (if mark.isPrefixOf (character :: rest) then 1 else 0) + occurrences mark rest

variable {mark : List Char}

/-- A mark at the start of two joined texts is one of the first text, or takes the end of the
first text into itself. -/
theorem isPrefixOf_append {character : Char} {front : List Char} (back : List Char)
    (ends : ∀ last, (character :: front).getLast? = some last → last ∉ mark.dropLast) :
    mark.isPrefixOf (character :: front ++ back) = mark.isPrefixOf (character :: front) := by
  rw [Bool.eq_iff_iff, List.isPrefixOf_iff_prefix, List.isPrefixOf_iff_prefix]
  refine ⟨fun started => ?_, fun started => started.trans (List.prefix_append _ _)⟩
  rcases Nat.lt_or_ge (character :: front).length mark.length with shorter | enough
  · obtain ⟨others, markEq⟩ :=
      List.prefix_of_prefix_length_le (List.prefix_append _ _) started (Nat.le_of_lt shorter)
    have some : others ≠ [] := by
      rintro rfl
      rw [List.append_nil] at markEq
      rw [markEq] at shorter
      exact (Nat.lt_irrefl _ shorter).elim
    have lastEq := List.getLast?_eq_some_getLast (List.cons_ne_nil character front)
    refine absurd ?_ (ends _ lastEq)
    rw [← markEq, List.dropLast_append_of_ne_nil some]
    exact List.mem_append_left _ (List.getLast_mem _)
  · exact List.prefix_of_prefix_length_le started (List.prefix_append _ _) enough

/-- The marks of joined texts are counted apart when none can reach over the seam. -/
theorem occurrences_append {front : List Char} (back : List Char)
    (ends : ∀ last, front.getLast? = some last → last ∉ mark.dropLast) :
    occurrences mark (front ++ back) = occurrences mark front + occurrences mark back := by
  induction front with
  | nil => exact (Nat.zero_add _).symm
  | cons character rest ih =>
      have restEnds : ∀ last, rest.getLast? = some last → last ∉ mark.dropLast := by
        intro last isLast
        apply ends
        rw [List.getLast?_cons, isLast]
        rfl
      have here := isPrefixOf_append back ends
      rw [List.cons_append] at here
      rw [List.cons_append, occurrences, occurrences, here, ih restEnds, Nat.add_assoc]

/-- Text without the last character of a mark is passed over up to a character that is not
in the mark. -/
theorem occurrences_skip {last separator : Char} {plain : List Char} (rest : List Char)
    (isLast : last ∈ mark) (without : last ∉ plain) (apart : separator ∉ mark) :
    occurrences mark (plain ++ separator :: rest) = occurrences mark (separator :: rest) := by
  induction plain with
  | nil => rfl
  | cons character plain ih =>
      have noMark : mark.isPrefixOf (character :: (plain ++ separator :: rest)) = false := by
        rw [Bool.eq_false_iff, Ne, List.isPrefixOf_iff_prefix]
        intro started
        have onto :
            character :: plain ++ [separator] <+: character :: (plain ++ separator :: rest) := by
          refine ⟨rest, ?_⟩
          simp
        rcases Nat.lt_or_ge mark.length (character :: plain ++ [separator]).length with
          shorter | longer
        · have inside : mark <+: character :: plain := by
            apply List.prefix_of_prefix_length_le started
            · exact ⟨separator :: rest, rfl⟩
            · rw [List.length_append, List.length_singleton] at shorter
              exact Nat.le_of_lt_succ shorter
          exact without (inside.subset isLast)
        · have whole := List.prefix_of_prefix_length_le onto started longer
          exact apart (whole.subset (List.mem_append_right _ List.mem_cons_self))
      have withoutRest : last ∉ plain := fun member => without (List.mem_cons_of_mem _ member)
      rw [List.cons_append, occurrences, noMark, ih withoutRest]
      exact Nat.zero_add _

theorem ne_close_of_mem_escapeChar (original : Char) :
    ∀ character ∈ escapeChar original, character ≠ '>' := by
  have none : (escapeChar original).all (fun character => character != '>') = true := by
    fun_cases escapeChar original with
    | case6 _ _ _ noClose _ => simpa using noClose
    | _ => rfl
  intro character member
  simpa using List.all_eq_true.mp none character member

theorem close_notMem_escape (text : String) : '>' ∉ (escape text).toList := by
  rw [toList_escape, List.mem_flatMap]
  rintro ⟨original, -, member⟩
  exact ne_close_of_mem_escapeChar original '>' member rfl

end Text

open Text

namespace Page

/-- What the line of the focused input ends with. -/
def focusMark : List Char :=
  " autofocus>".toList

def focusMarks (text : List Char) : Nat :=
  occurrences focusMark text

/-- A fixed text with no mark in it, and with an end that no mark can start with. -/
def isNeutral (text : List Char) : Bool :=
  occurrences focusMark text == 0 &&
    text.getLast?.all fun last => !focusMark.dropLast.contains last

theorem focusMarks_neutral {text : List Char} (neutral : isNeutral text) (rest : List Char) :
    focusMarks (text ++ rest) = focusMarks rest := by
  rw [isNeutral, Bool.and_eq_true, beq_iff_eq] at neutral
  obtain ⟨none, ends⟩ := neutral
  rw [focusMarks, occurrences_append, none, Nat.zero_add]
  · rfl
  · intro last isLast
    rw [isLast] at ends
    simpa using ends

/-- An escaped text before a fixed text that ends it does not count. -/
theorem focusMarks_escape (text : String) {next : String} (marked : startsMarked next)
    (rest : List Char) :
    focusMarks ((escape text).toList ++ (next.toList ++ rest)) =
      focusMarks (next.toList ++ rest) := by
  rw [startsMarked] at marked
  split at marked
  · next separator tail nextEq =>
    rw [nextEq]
    apply occurrences_skip (tail ++ rest) (by decide : '>' ∈ focusMark) (close_notMem_escape text)
    intro member
    have plain : focusMark.all (fun character => !isEndMark character) = true := by decide
    have noEnd := List.all_eq_true.mp plain separator member
    rw [marked] at noEnd
    cases noEnd
  · cases marked

/-- A fixed text that ends the escaped text before it. -/
def isSeparator (text : String) : Bool :=
  startsMarked text && isNeutral text.toList

theorem focusMarks_woven {parts : List (String × String)}
    (separated : (parts.map Prod.snd).all isSeparator) (rest : List Char) :
    focusMarks ((woven parts).toList ++ rest) = focusMarks rest := by
  induction parts with
  | nil => rfl
  | cons part parts ih =>
      obtain ⟨text, next⟩ := part
      rw [List.map_cons, List.all_cons, isSeparator, Bool.and_eq_true, Bool.and_eq_true]
        at separated
      obtain ⟨⟨nextMarked, nextNeutral⟩, restSeparated⟩ := separated
      have restEq := ih restSeparated
      rw [toList_woven_cons, List.append_assoc, List.append_assoc]
      rw [focusMarks_escape text nextMarked, focusMarks_neutral nextNeutral, restEq]

end Page

/-! ### Marks in markup -/

open Page

namespace VisibleNode

def isFocused : VisibleNode → Bool
  | .input _ _ _ _ focused => focused
  | _ => false

def isInput : VisibleNode → Bool
  | .input .. => true
  | _ => false

theorem focusMarks_closing (node : VisibleNode) (rest : List Char) :
    focusMarks (node.closing.toList ++ rest) = node.isFocused.toNat + focusMarks rest := by
  cases node with
  | input id type classes value focused =>
      cases focused with
      | false =>
          have plain : isNeutral ">\n".toList := by decide
          exact (focusMarks_neutral plain rest).trans (Nat.zero_add _).symm
      | true =>
          have once : occurrences focusMark " autofocus>\n".toList = 1 := by decide
          have ends : ∀ last, " autofocus>\n".toList.getLast? = some last →
              last ∉ focusMark.dropLast := by
            intro last isLast
            have newline : " autofocus>\n".toList.getLast? = some '\n' := by decide
            obtain rfl := Option.some.inj (newline.symm.trans isLast)
            decide
          rw [closing, focusMarks, occurrences_append rest ends, once]
          rfl
  | shortcut spanClass label =>
      have nothing : isNeutral "".toList := by decide
      exact (focusMarks_neutral nothing rest).trans (Nat.zero_add _).symm
  | note classes text =>
      have nothing : isNeutral "".toList := by decide
      exact (focusMarks_neutral nothing rest).trans (Nat.zero_add _).symm

theorem isNeutral_opening (node : VisibleNode) : isNeutral node.opening.toList := by
  cases node <;> rw [opening] <;> decide

theorem isSeparator_parts (node : VisibleNode) : (node.parts.map Prod.snd).all isSeparator := by
  cases node <;> simp only [parts, List.map_cons, List.map_nil] <;> decide

/-- The marks of a node are those of its own line, whatever its texts are. -/
theorem focusMarks_markup (node : VisibleNode) (rest : List Char) :
    focusMarks (node.markup.toList ++ rest) = node.isFocused.toNat + focusMarks rest := by
  rw [markup, String.toList_append, String.toList_append, List.append_assoc, List.append_assoc,
    focusMarks_neutral node.isNeutral_opening, focusMarks_woven node.isSeparator_parts,
    focusMarks_closing]

theorem focusMarks_flatMap (nodes : List VisibleNode) (rest : List Char) :
    focusMarks (nodes.flatMap (fun node => node.markup.toList) ++ rest) =
      nodes.countP isFocused + focusMarks rest := by
  induction nodes with
  | nil => exact (Nat.zero_add _).symm
  | cons node nodes ih =>
      rw [List.flatMap_cons, List.append_assoc, focusMarks_markup, ih, List.countP_cons]
      cases node.isFocused with
      | false => exact Nat.zero_add _
      | true =>
          rw [if_pos rfl, Bool.toNat_true]
          omega

end VisibleNode

theorem focusMarks_container (container : VisibleContainer) (rest : List Char) :
    focusMarks (container.markup.toList ++ rest) =
      container.nodes.countP VisibleNode.isFocused + focusMarks rest := by
  have named : ([(container.name, "\">\n")].map Prod.snd).all isSeparator := by
    simp only [List.map_singleton]
    decide
  rw [VisibleContainer.toList_markup, List.append_assoc, List.append_assoc, List.append_assoc,
    focusMarks_neutral (by decide), focusMarks_woven named,
    VisibleNode.focusMarks_flatMap, focusMarks_neutral (by decide)]

/-- The display of a box is fixed text between an escaped text and the next line. -/
theorem focusMarks_display (id : String) {display : List Char}
    (neutral : isNeutral ("\" style=\"display: ".toList ++ display)) (rest : List Char) :
    focusMarks ((woven [(id, "\" style=\"display: ")]).toList ++ (display ++ rest)) =
      focusMarks rest := by
  have wovenEq : (woven [(id, "\" style=\"display: ")]).toList =
      (escape id).toList ++ "\" style=\"display: ".toList := by
    simp [woven]
  have marked : startsMarked "\" style=\"display: " := by decide
  rw [wovenEq, List.append_assoc, focusMarks_escape id marked, ← List.append_assoc,
    focusMarks_neutral neutral]

theorem focusMarks_box (box : String × Bool) (rest : List Char) :
    focusMarks ((VisiblePage.boxMarkup box).toList ++ rest) = focusMarks rest := by
  have opened : isNeutral "<div id=\"".toList := by decide
  have display (isHidden : Bool) : isNeutral ("\" style=\"display: ".toList ++
      ((if isHidden then "none" else "block").toList ++ "\"></div>\n".toList)) := by
    cases isHidden <;> decide
  rw [VisiblePage.toList_boxMarkup, List.append_assoc, List.append_assoc,
    focusMarks_neutral opened]
  exact focusMarks_display box.1 (display box.2) rest

namespace VisiblePage

/-- The inputs that are shown, in the order of the page. -/
def inputs (page : VisiblePage) : List VisibleNode :=
  page.containers.flatMap fun container => container.nodes.filter VisibleNode.isInput

theorem focusMarks_containers (containers : List VisibleContainer) (rest : List Char) :
    focusMarks (containers.flatMap (fun container => container.markup.toList) ++ rest) =
      (containers.flatMap VisibleContainer.nodes).countP VisibleNode.isFocused +
        focusMarks rest := by
  induction containers with
  | nil => exact (Nat.zero_add _).symm
  | cons container containers ih =>
      rw [List.flatMap_cons, List.append_assoc, focusMarks_container, ih, List.flatMap_cons,
        List.countP_append, Nat.add_assoc]

theorem focusMarks_boxes (boxes : List (String × Bool)) :
    focusMarks (boxes.flatMap fun box => (boxMarkup box).toList) = 0 := by
  induction boxes with
  | nil => rfl
  | cons box boxes ih => rw [List.flatMap_cons, focusMarks_box, ih]

/-- A page shows one mark for each input that it shows as the focused one. -/
theorem focusMarks_markup (page : VisiblePage) :
    focusMarks page.markup.toList = page.inputs.countP VisibleNode.isFocused := by
  have focusedInputs : (page.containers.flatMap VisibleContainer.nodes).countP
      VisibleNode.isFocused = page.inputs.countP VisibleNode.isFocused := by
    rw [inputs, ← List.filter_flatMap, List.countP_filter]
    apply List.countP_congr
    intro node _
    cases node <;> simp [VisibleNode.isFocused, VisibleNode.isInput]
  rw [markup, String.toList_append, String.toList_join, String.toList_join, List.flatMap_map,
    List.flatMap_map, focusMarks_containers, focusMarks_boxes, Nat.add_zero, focusedInputs]

end VisiblePage

namespace Page

variable {page : Page}

theorem filter_isInput_visible (page : Page) (nodes : List PageNode) :
    (nodes.filterMap page.visibleNode?).filter VisibleNode.isInput =
      (nodes.filterMap PageNode.number?).filterMap fun number =>
        page.visibleNode? (.input number) := by
  induction nodes with
  | nil => rfl
  | cons node rest ih =>
      cases node with
      | input number =>
          have isInput : (PageNode.input number).number? = some number := rfl
          rw [List.filterMap_cons_some isInput, List.filterMap_cons, List.filterMap_cons, ← ih]
          cases found : page.inputs[number]? with
          | none => simp [visibleNode?, found]
          | some input =>
              simp only [visibleNode?, found, Option.map_some]
              exact List.filter_cons_of_pos rfl
      | shortcut shortcut =>
          have isNone : (PageNode.shortcut shortcut).number? = none := rfl
          rw [List.filterMap_cons_none isNone, ← ih]
          rfl
      | note note =>
          have isNone : (PageNode.note note).number? = none := rfl
          rw [List.filterMap_cons_none isNone, ← ih]
          rfl

/-- A page shows its inputs in their order. -/
theorem inputs_visible (page : Page) :
    page.visible.inputs = page.inputOrder.filterMap fun number =>
      page.visibleNode? (.input number) := by
  rw [inputOrder_eq_flatten, rows, ← List.flatMap_def, List.filterMap_flatMap, visible,
    VisiblePage.inputs, List.flatMap_map]
  simp only [visibleContainer, filter_isInput_visible, Container.numbers]

/-- The mark stands once in the markup of a page that has an input focused. -/
theorem WellFormed.focusMarks_visible (formed : page.WellFormed)
    (inPage : ∀ number, page.focused = some number → number < page.inputs.length) :
    focusMarks page.visible.markup.toList = page.focused.isSome.toNat := by
  have orderPerm := formed.inputOrder_perm
  have focusedHere (number : Nat) (member : number ∈ page.inputOrder) :
      ((page.visibleNode? (.input number)).map VisibleNode.isFocused).getD false =
        (page.focused == some number) := by
    rw [orderPerm.mem_iff, List.mem_range] at member
    rw [visibleNode?, List.getElem?_eq_getElem member]
    rfl
  have countEq : page.inputOrder.countP (fun number =>
      ((page.visibleNode? (.input number)).map VisibleNode.isFocused).getD false) =
        page.inputOrder.countP fun number => page.focused == some number :=
    List.countP_congr fun number member => by rw [focusedHere number member]
  rw [VisiblePage.focusMarks_markup, inputs_visible, List.countP_filterMap, countEq]
  cases focused : page.focused with
  | none => exact List.countP_eq_zero.mpr fun number _ => by simp
  | some target =>
      have once : page.inputOrder.count target = 1 := by
        rw [orderPerm.count_eq, List.nodup_range.count, if_pos (List.mem_range.mpr
          (inPage target focused))]
      rw [Option.isSome_some, Bool.toNat_true, ← once, List.count]
      refine List.countP_congr fun number _ => ?_
      rw [beq_iff_eq, beq_iff_eq, Option.some_inj, eq_comm]

end Page

end QuickFill
