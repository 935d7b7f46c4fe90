import QuickFill.Proofs.Page.FocusMark

/-!
# Opening tags in markup

The line of an input, of a link and of a note each starts with an opening tag of its own.
No text of a page can imitate a tag, since escaped text holds no angle bracket; so the tags
in the markup of a page count the things that stand on it.
-/

namespace QuickFill

open Text

/-- The opening tags of the things in a container. -/
inductive Tag where
  | input
  | span
  | div
  deriving DecidableEq, Repr

namespace Tag

def mark : Tag → List Char
  | .input => "<input ".toList
  | .span => "<span class=".toList
  | .div => "<div class=".toList

/-- How often a tag stands in a text. -/
def count (tag : Tag) (text : List Char) : Nat :=
  occurrences tag.mark text

/-- A text holds a tag so many times, whatever follows it. -/
def Holds (tag : Tag) (text : List Char) (times : Nat) : Prop :=
  ∀ rest, tag.count (text ++ rest) = times + tag.count rest

variable {tag : Tag} {front back : List Char} {times more : Nat}

theorem Holds.count_eq (holds : tag.Holds front times) : tag.count front = times := by
  have counted := holds []
  rw [List.append_nil] at counted
  exact counted

theorem holds_nil (tag : Tag) : tag.Holds [] 0 :=
  fun _ => (Nat.zero_add _).symm

theorem Holds.append (first : tag.Holds front times) (second : tag.Holds back more) :
    tag.Holds (front ++ back) (times + more) := by
  intro rest
  rw [List.append_assoc, first, second, Nat.add_assoc]

theorem mark_eq_cons (tag : Tag) : ∃ tail, tag.mark = '<' :: tail := by
  cases tag <;> exact ⟨_, rfl⟩

/-- A text without an angle bracket holds no tag. -/
theorem holds_of_notMem (plain : '<' ∉ front) : tag.Holds front 0 := by
  intro rest
  rw [Nat.zero_add]
  induction front with
  | nil => rfl
  | cons character front ih =>
      obtain ⟨tail, markEq⟩ := tag.mark_eq_cons
      have differs : ('<' == character) = false := by
        rw [beq_eq_false_iff_ne]
        rintro rfl
        exact plain List.mem_cons_self
      rw [List.cons_append, count, occurrences, markEq, List.isPrefixOf_cons_cons, differs,
        ← markEq]
      exact (Nat.zero_add _).trans (ih fun member => plain (List.mem_cons_of_mem _ member))

theorem holds_escape (text : String) : tag.Holds (escape text).toList 0 := by
  apply holds_of_notMem
  intro member
  have noEnd := not_isEndMark_of_mem_escape '<' member
  cases noEnd

/-- A fixed text that no tag reaches over: its last character stands in no tag but at the
end. -/
def isFixed (tag : Tag) (text : List Char) : Bool :=
  text.getLast?.all fun last => !tag.mark.dropLast.contains last

theorem holds_fixed (fixed : tag.isFixed front) : tag.Holds front (tag.count front) := by
  intro rest
  apply occurrences_append
  intro last isLast
  rw [isFixed, isLast] at fixed
  simpa using fixed

/-- A fixed text that can be seen to hold no tag. -/
def isAbsent (tag : Tag) (text : List Char) : Bool :=
  !text.contains '<' || (tag.isFixed text && tag.count text == 0)

theorem holds_absent (absent : tag.isAbsent front) : tag.Holds front 0 := by
  rw [isAbsent, Bool.or_eq_true, Bool.and_eq_true, beq_iff_eq] at absent
  rcases absent with plain | ⟨fixed, nothing⟩
  · exact holds_of_notMem (by simpa using plain)
  · rw [← nothing]
    exact holds_fixed fixed

/-- Escaped texts hold no tag, so a row of them holds those of the fixed texts between. -/
theorem holds_woven {parts : List (String × String)}
    (absent : (parts.map Prod.snd).all fun next => tag.isAbsent next.toList) :
    tag.Holds (woven parts).toList 0 := by
  induction parts with
  | nil => exact tag.holds_nil
  | cons part parts ih =>
      rw [List.map_cons, List.all_cons, Bool.and_eq_true] at absent
      obtain ⟨nextAbsent, restAbsent⟩ := absent
      rw [toList_woven_cons]
      exact (holds_escape part.1).append ((holds_absent nextAbsent).append (ih restAbsent))

end Tag

open Tag

/-! ### Tags in markup -/

/-- The tag that the line of a thing starts with. -/
def VisibleNode.tag : VisibleNode → Tag
  | .input .. => .input
  | .shortcut .. => .span
  | .note .. => .div

/-- The line of a thing holds its own tag once and no other tag. -/
theorem holds_node (tag : Tag) (node : VisibleNode) :
    tag.Holds node.markup.toList (if node.tag = tag then 1 else 0) := by
  have opening : tag.Holds node.opening.toList (if node.tag = tag then 1 else 0) := by
    have counted : tag.isFixed node.opening.toList ∧
        tag.count node.opening.toList = if node.tag = tag then 1 else 0 := by
      cases node <;> rw [VisibleNode.opening, VisibleNode.tag] <;> cases tag <;> decide
    rw [← counted.2]
    exact holds_fixed counted.1
  have parts : tag.Holds (woven node.parts).toList 0 := by
    apply holds_woven
    cases node <;> simp only [VisibleNode.parts, List.map_cons, List.map_nil] <;>
      cases tag <;> decide
  have closing : tag.Holds node.closing.toList 0 := by
    apply holds_absent
    cases node with
    | input id type classes value focused =>
        cases focused <;> rw [VisibleNode.closing] <;> cases tag <;> decide
    | shortcut spanClass label => cases tag <;> rfl
    | note classes text => cases tag <;> rfl
  rw [VisibleNode.markup, String.toList_append, String.toList_append]
  exact (opening.append parts).append closing

/-- The tags in a row of items are those of the things that the items show. -/
theorem holds_flatMap {α : Type} {tag : Tag} {code : α → List Char} {things : α → List VisibleNode}
    (items : List α)
    (each : ∀ item, tag.Holds (code item) ((things item).countP fun node => node.tag = tag)) :
    tag.Holds (items.flatMap code) ((items.flatMap things).countP fun node => node.tag = tag) := by
  induction items with
  | nil => exact tag.holds_nil
  | cons item items ih =>
      rw [List.flatMap_cons, List.flatMap_cons, List.countP_append]
      exact (each item).append ih

theorem holds_container (tag : Tag) (container : VisibleContainer) :
    tag.Holds container.markup.toList (container.nodes.countP fun node => node.tag = tag) := by
  have opening : tag.Holds "<div data-container=\"".toList 0 :=
    holds_absent (by cases tag <;> decide)
  have name : tag.Holds (woven [(container.name, "\">\n")]).toList 0 := by
    apply holds_woven
    simp only [List.map_singleton]
    cases tag <;> decide
  have nodes : tag.Holds (container.nodes.flatMap fun node => node.markup.toList)
      (container.nodes.countP fun node => node.tag = tag) := by
    have each (node : VisibleNode) :
        tag.Holds node.markup.toList ([node].countP fun node => node.tag = tag) := by
      rw [List.countP_singleton]
      simpa using holds_node tag node
    have all := holds_flatMap container.nodes each
    rw [List.flatMap_singleton'] at all
    exact all
  have closing : tag.Holds "</div>\n".toList 0 := holds_absent (by cases tag <;> decide)
  rw [VisibleContainer.toList_markup]
  have whole := opening.append (name.append (nodes.append closing))
  rw [Nat.zero_add, Nat.zero_add, Nat.add_zero] at whole
  exact whole

theorem holds_box (tag : Tag) (box : String × Bool) :
    tag.Holds (VisiblePage.boxMarkup box).toList 0 := by
  have opening : tag.Holds "<div id=\"".toList 0 := holds_absent (by cases tag <;> decide)
  have id : tag.Holds (woven [(box.1, "\" style=\"display: ")]).toList 0 := by
    apply holds_woven
    simp only [List.map_singleton]
    cases tag <;> decide
  have closing : tag.Holds
      ((if box.2 then "none" else "block").toList ++ "\"></div>\n".toList) 0 := by
    apply holds_absent
    cases tag <;> cases box.2 <;> decide
  rw [VisiblePage.toList_boxMarkup]
  exact opening.append (id.append closing)

namespace VisiblePage

/-- The things of a kind on a page. -/
def number (page : VisiblePage) (tag : Tag) : Nat :=
  (page.containers.flatMap VisibleContainer.nodes).countP fun node => node.tag = tag

/-- The markup of a page holds the tag of a kind as often as the page shows a thing of
that kind, whatever its texts are. -/
theorem holds_markup (tag : Tag) (page : VisiblePage) :
    tag.Holds page.markup.toList (page.number tag) := by
  have boxes : tag.Holds (page.boxes.flatMap fun box => (boxMarkup box).toList) 0 := by
    have each (box : String × Bool) : tag.Holds (boxMarkup box).toList
        (([] : List VisibleNode).countP fun node => node.tag = tag) := holds_box tag box
    have all := holds_flatMap page.boxes each
    rw [List.flatMap_eq_nil_iff.mpr fun _ _ => rfl] at all
    exact all
  rw [markup, String.toList_append, String.toList_join, String.toList_join, List.flatMap_map,
    List.flatMap_map]
  exact (holds_flatMap page.containers (holds_container tag)).append boxes

end VisiblePage

end QuickFill
