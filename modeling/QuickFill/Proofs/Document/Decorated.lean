import QuickFill.Document.Forest
import Mathlib.Algebra.GroupWithZero.Nat
import Mathlib.Data.List.Nodup
import Mathlib.Logic.Function.Basic

/-!
# Decorated documents

A document is decorated by rows put right after some of its elements and rows put at
the end of the content of some.  Elements are named by their keys, and the rows that
decorate have keys of their own, from a bound on.  What a document does with one key
is then done to the original or to one of the rows.
-/

namespace QuickFill

namespace Forest

def keys (forest : Forest) : List Nat :=
  forest.elements.map Element.key

/-! ### Rows one after another -/

@[simp]
theorem nil_append (forest : Forest) : .nil ++ forest = forest :=
  rfl

@[simp]
theorem text_append (content : String) (rest after : Forest) :
    .text content rest ++ after = .text content (rest ++ after) :=
  rfl

@[simp]
theorem element_append (head : Element) (children rest after : Forest) :
    .element head children rest ++ after = .element head children (rest ++ after) :=
  rfl

@[simp]
theorem append_nil (forest : Forest) : forest ++ .nil = forest := by
  induction forest with
  | nil => rfl
  | text content rest ih => rw [text_append, ih]
  | element head children rest _ ih => rw [element_append, ih]

theorem append_assoc (first second third : Forest) :
    first ++ second ++ third = first ++ (second ++ third) := by
  induction first with
  | nil => rfl
  | text content rest ih => rw [text_append, text_append, text_append, ih]
  | element head children rest _ ih =>
      rw [element_append, element_append, element_append, ih]

@[simp]
theorem keys_nil : keys .nil = [] :=
  rfl

@[simp]
theorem keys_text (content : String) (rest : Forest) : keys (.text content rest) = rest.keys :=
  rfl

@[simp]
theorem keys_element (head : Element) (children rest : Forest) :
    keys (.element head children rest) = head.key :: (children.keys ++ rest.keys) := by
  simp [keys, elements]

@[simp]
theorem keys_append (first second : Forest) :
    (first ++ second).keys = first.keys ++ second.keys := by
  rw [keys, elements_append, List.map_append]
  rfl

theorem mem_keys {forest : Forest} {element : Element} (member : element ∈ forest.elements) :
    element.key ∈ forest.keys :=
  List.mem_map_of_mem member

theorem insertAfter_of_notMem {forest : Forest} {key : Nat} (absent : key ∉ forest.keys)
    (inserted : Forest) : forest.insertAfter key inserted = forest := by
  induction forest with
  | nil => rfl
  | text content rest ih => rw [insertAfter, ih absent]
  | element head children rest inner ih =>
      rw [keys_element, List.mem_cons, List.mem_append, not_or, not_or] at absent
      rw [insertAfter, if_neg (Ne.symm absent.1), inner absent.2.1, ih absent.2.2]

theorem insertAfter_append_right {first : Forest} {key : Nat} (absent : key ∉ first.keys)
    (second inserted : Forest) :
    (first ++ second).insertAfter key inserted = first ++ second.insertAfter key inserted := by
  induction first with
  | nil => rfl
  | text content rest ih => rw [text_append, insertAfter, ih absent, text_append]
  | element head children rest _ ih =>
      rw [keys_element, List.mem_cons, List.mem_append, not_or, not_or] at absent
      rw [element_append, insertAfter, if_neg (Ne.symm absent.1), ih absent.2.2,
        insertAfter_of_notMem absent.2.1, element_append]

theorem insertAfter_append_left (first : Forest) {second : Forest} {key : Nat}
    (absent : key ∉ second.keys) (inserted : Forest) :
    (first ++ second).insertAfter key inserted = first.insertAfter key inserted ++ second := by
  induction first with
  | nil => exact insertAfter_of_notMem absent inserted
  | text content rest ih => rw [text_append, insertAfter, ih, insertAfter, text_append]
  | element head children rest _ ih =>
      rw [element_append, insertAfter, insertAfter]
      split
      · rw [element_append, append_assoc]
      · rw [element_append, ih]

theorem modifyContent_of_notMem {forest : Forest} {key : Nat} (absent : key ∉ forest.keys)
    (alter : Forest → Forest) : forest.modifyContent key alter = forest := by
  induction forest with
  | nil => rfl
  | text content rest ih => rw [modifyContent, ih absent]
  | element head children rest inner ih =>
      rw [keys_element, List.mem_cons, List.mem_append, not_or, not_or] at absent
      rw [modifyContent, if_neg (Ne.symm absent.1), inner absent.2.1, ih absent.2.2]

theorem modifyContent_append (first second : Forest) (key : Nat) (alter : Forest → Forest) :
    (first ++ second).modifyContent key alter =
      first.modifyContent key alter ++ second.modifyContent key alter := by
  induction first with
  | nil => rfl
  | text content rest ih => rw [text_append, modifyContent, ih, modifyContent, text_append]
  | element head children rest _ ih =>
      rw [element_append, modifyContent, ih, modifyContent, element_append]

theorem homeOf?_of_notMem {forest : Forest} {key : Nat} (absent : key ∉ forest.keys)
    (here : Option Nat) : forest.homeOf? key here = none := by
  induction forest generalizing here with
  | nil => rfl
  | text content rest ih => exact ih absent here
  | element head children rest inner ih =>
      rw [keys_element, List.mem_cons, List.mem_append, not_or, not_or] at absent
      rw [homeOf?, if_neg (Ne.symm absent.1), inner absent.2.1, ih absent.2.2]
      rfl

theorem homeOf?_append (first second : Forest) (key : Nat) (here : Option Nat) :
    (first ++ second).homeOf? key here =
      (first.homeOf? key here).or (second.homeOf? key here) := by
  induction first with
  | nil => rfl
  | text content rest ih => rw [text_append, homeOf?, ih, homeOf?]
  | element head children rest _ ih =>
      rw [element_append, homeOf?, homeOf?, ih]
      split
      · rfl
      · rw [Option.or_assoc]

theorem remove_append (first second : Forest) (drops : Nat → Bool) :
    (first ++ second).remove drops = first.remove drops ++ second.remove drops := by
  induction first with
  | nil => rfl
  | text content rest ih => rw [text_append, remove, ih, remove, text_append]
  | element head children rest _ ih =>
      rw [element_append, remove, remove, ih]
      split
      · rfl
      · rfl

/-- What a change of one element leaves as it is in that element, it leaves in all. -/
theorem map_elements_modify {α : Type} {look : Element → α} (forest : Forest) (key : Nat)
    {alter : Element → Element} (keeps : ∀ element, look (alter element) = look element) :
    (forest.modify key alter).elements.map look = forest.elements.map look := by
  rw [elements_modify, List.map_map]
  apply List.map_congr_left
  intro element _
  by_cases same : element.key = key
  · rw [Function.comp_apply, if_pos same, keeps]
  · rw [Function.comp_apply, if_neg same]

theorem modify_of_notMem {forest : Forest} {key : Nat} (absent : key ∉ forest.keys)
    (alter : Element → Element) : forest.modify key alter = forest := by
  induction forest with
  | nil => rfl
  | text content rest ih => rw [modify, ih absent]
  | element head children rest inner ih =>
      rw [keys_element, List.mem_cons, List.mem_append, not_or, not_or] at absent
      rw [modify, if_neg (Ne.symm absent.1), inner absent.2.1, ih absent.2.2]

theorem modify_append (first second : Forest) (key : Nat) (alter : Element → Element) :
    (first ++ second).modify key alter = first.modify key alter ++ second.modify key alter := by
  induction first with
  | nil => rfl
  | text content rest ih => rw [text_append, modify, ih, modify, text_append]
  | element head children rest _ ih => rw [element_append, modify, ih, modify, element_append]

theorem contentOf?_of_notMem {forest : Forest} {key : Nat} (absent : key ∉ forest.keys) :
    forest.contentOf? key = none := by
  induction forest with
  | nil => rfl
  | text content rest ih => exact ih absent
  | element head children rest inner ih =>
      rw [keys_element, List.mem_cons, List.mem_append, not_or, not_or] at absent
      rw [contentOf?, if_neg (Ne.symm absent.1), inner absent.2.1, ih absent.2.2]
      rfl

theorem contentOf?_append (first second : Forest) (key : Nat) :
    (first ++ second).contentOf? key = (first.contentOf? key).or (second.contentOf? key) := by
  induction first with
  | nil => rfl
  | text content rest ih => rw [text_append, contentOf?, ih, contentOf?]
  | element head children rest _ ih =>
      rw [element_append, contentOf?, contentOf?, ih]
      split
      · rfl
      · rw [Option.or_assoc]

/-- The keys that a document is numbered with follow one another. -/
theorem keys_number (forest : Forest) (next : Nat) :
    (forest.number next).1.keys = List.range' next forest.elements.length ∧
      (forest.number next).2 = next + forest.elements.length := by
  induction forest generalizing next with
  | nil => exact ⟨rfl, rfl⟩
  | text content rest ih => exact ih next
  | element head children rest inner ih =>
      obtain ⟨innerKeys, innerNext⟩ := inner (next + 1)
      obtain ⟨restKeys, restNext⟩ := ih (next + 1 + children.elements.length)
      simp only [number, keys_element, elements, List.length_cons, List.length_append, innerKeys,
        innerNext, restKeys, restNext, List.range'_succ, ← List.range'_append_1]
      exact ⟨trivial, by omega⟩

/-- What holds an element is an element of the document. -/
theorem mem_keys_of_homeOf? {forest : Forest} {key parent : Nat} {here : Option Nat}
    (home : forest.homeOf? key here = some (some parent)) (elsewhere : here ≠ some parent) :
    parent ∈ forest.keys := by
  induction forest generalizing here with
  | nil => cases home
  | text content rest ih => exact ih home elsewhere
  | element head children rest inner ih =>
      rw [homeOf?] at home
      rw [keys_element, List.mem_cons, List.mem_append]
      split at home
      · exact (elsewhere (Option.some.inj home)).elim
      · rcases Option.or_eq_some_iff.mp home with below | ⟨-, further⟩
        · by_cases same : parent = head.key
          · exact Or.inl same
          · exact Or.inr (Or.inl (inner below fun equal => same (Option.some.inj equal).symm))
        · exact Or.inr (Or.inr (ih further elsewhere))

/-! ### Decorating -/

/-- A row with other rows put after its elements and at the ends of their contents. -/
def decorate (after inside : Nat → Forest) : Forest → Forest
  | .nil => .nil
  | .text content rest => .text content (rest.decorate after inside)
  | .element head children rest =>
    .element head (children.decorate after inside ++ inside head.key)
      (after head.key ++ rest.decorate after inside)

theorem decorate_congr {after inside others insides : Nat → Forest} {forest : Forest}
    (sameAfter : ∀ key ∈ forest.keys, after key = others key)
    (sameInside : ∀ key ∈ forest.keys, inside key = insides key) :
    forest.decorate after inside = forest.decorate others insides := by
  induction forest with
  | nil => rfl
  | text content rest ih => rw [decorate, decorate, ih sameAfter sameInside]
  | element head children rest inner ih =>
      simp only [keys_element, List.mem_cons, List.mem_append] at sameAfter sameInside
      rw [decorate, decorate, sameAfter head.key (Or.inl rfl), sameInside head.key (Or.inl rfl),
        inner (fun key member => sameAfter key (by simp [member]))
          fun key member => sameInside key (by simp [member]),
        ih (fun key member => sameAfter key (by simp [member]))
          fun key member => sameInside key (by simp [member])]

theorem decorate_nil (forest : Forest) :
    forest.decorate (fun _ => .nil) (fun _ => .nil) = forest := by
  induction forest with
  | nil => rfl
  | text content rest ih => rw [decorate, ih]
  | element head children rest inner ih => rw [decorate, inner, ih, append_nil, nil_append]

structure Beyond (bound : Nat) (after inside : Nat → Forest) : Prop where
  after_le : ∀ {key fresh : Nat}, fresh ∈ (after key).keys → bound ≤ fresh
  inside_le : ∀ {key fresh : Nat}, fresh ∈ (inside key).keys → bound ≤ fresh

namespace Beyond

variable {bound : Nat} {after inside : Nat → Forest} {key : Nat}

theorem notMem_after (beyond : Beyond bound after inside) (keyLt : key < bound) (other : Nat) :
    key ∉ (after other).keys :=
  fun member => Nat.not_le_of_lt keyLt (beyond.after_le member)

theorem notMem_inside (beyond : Beyond bound after inside) (keyLt : key < bound) (other : Nat) :
    key ∉ (inside other).keys :=
  fun member => Nat.not_le_of_lt keyLt (beyond.inside_le member)

end Beyond

variable {bound : Nat} {after inside : Nat → Forest} {forest : Forest} {key : Nat}

/-- Nodes put right after an element stand before those that are there. -/
theorem insertAfter_decorate (beyond : Beyond bound after inside) (keyLt : key < bound)
    (nodup : forest.keys.Nodup) (inserted : Forest) :
    (forest.decorate after inside).insertAfter key inserted =
      forest.decorate (Function.update after key (inserted ++ after key)) inside := by
  induction forest with
  | nil => rfl
  | text content rest ih => rw [decorate, insertAfter, ih nodup, decorate]
  | element head children rest inner ih =>
      rw [keys_element, List.nodup_cons, List.mem_append, not_or] at nodup
      obtain ⟨⟨notInner, notRest⟩, both⟩ := nodup
      by_cases same : head.key = key
      · subst same
        have kept (others : Forest) (absent : head.key ∉ others.keys) :
            others.decorate (Function.update after head.key (inserted ++ after head.key)) inside =
              others.decorate after inside := by
          apply decorate_congr
          · intro other member
            apply Function.update_of_ne
            rintro rfl
            exact absent member
          · exact fun _ _ => rfl
        rw [decorate, insertAfter, if_pos rfl, decorate, kept children notInner,
          kept rest notRest, Function.update_self, append_assoc]
      · rw [decorate, insertAfter, if_neg same, insertAfter_append_left _
          (beyond.notMem_inside keyLt _), insertAfter_append_right (beyond.notMem_after keyLt _),
          inner both.of_append_left, ih both.of_append_right, decorate,
          Function.update_of_ne same]

/-- Nodes put at the end of an element stand after those that are there. -/
theorem modifyContent_decorate (beyond : Beyond bound after inside) (keyLt : key < bound)
    (nodup : forest.keys.Nodup) (added : Forest) :
    (forest.decorate after inside).modifyContent key (fun content => content ++ added) =
      forest.decorate after (Function.update inside key (inside key ++ added)) := by
  induction forest with
  | nil => rfl
  | text content rest ih => rw [decorate, modifyContent, ih nodup, decorate]
  | element head children rest inner ih =>
      rw [keys_element, List.nodup_cons, List.mem_append, not_or] at nodup
      obtain ⟨⟨notInner, notRest⟩, both⟩ := nodup
      by_cases same : head.key = key
      · subst same
        have kept : children.decorate after
            (Function.update inside head.key (inside head.key ++ added)) =
              children.decorate after inside := by
          apply decorate_congr
          · exact fun _ _ => rfl
          · intro other member
            apply Function.update_of_ne
            rintro rfl
            exact notInner member
        rw [decorate, modifyContent, if_pos rfl, modifyContent_append,
          modifyContent_of_notMem (beyond.notMem_after keyLt _), ih both.of_append_right,
          decorate, kept, Function.update_self, append_assoc]
      · rw [decorate, modifyContent, if_neg same, modifyContent_append, modifyContent_append,
          modifyContent_of_notMem (beyond.notMem_inside keyLt _),
          modifyContent_of_notMem (beyond.notMem_after keyLt _), inner both.of_append_left,
          ih both.of_append_right, decorate, Function.update_of_ne same]

/-- Decorating moves no element of the original. -/
theorem homeOf?_decorate (beyond : Beyond bound after inside) (keyLt : key < bound)
    (here : Option Nat) :
    (forest.decorate after inside).homeOf? key here = forest.homeOf? key here := by
  induction forest generalizing here with
  | nil => rfl
  | text content rest ih => exact ih here
  | element head children rest inner ih =>
      rw [decorate, homeOf?, homeOf?, homeOf?_append, homeOf?_append, inner, ih,
        homeOf?_of_notMem (beyond.notMem_inside keyLt _),
        homeOf?_of_notMem (beyond.notMem_after keyLt _), Option.or_none, Option.none_or]

/-- A change of one element of the original leaves all that decorates as it is. -/
theorem modify_decorate (beyond : Beyond bound after inside) (keyLt : key < bound)
    {alter : Element → Element} (keeps : ∀ element, (alter element).key = element.key) :
    (forest.decorate after inside).modify key alter =
      (forest.modify key alter).decorate after inside := by
  induction forest with
  | nil => rfl
  | text content rest ih => rw [decorate, modify, ih, modify, decorate]
  | element head children rest inner ih =>
      have headKey : (if head.key = key then alter head else head).key = head.key := by
        split
        · exact keeps head
        · rfl
      rw [decorate, modify, modify_append, modify_append, inner, ih,
        modify_of_notMem (beyond.notMem_inside keyLt _),
        modify_of_notMem (beyond.notMem_after keyLt _), modify, decorate, headKey]

/-- An element of the original holds what it held, decorated, and what was put in. -/
theorem contentOf?_decorate (beyond : Beyond bound after inside) (keyLt : key < bound) :
    (forest.decorate after inside).contentOf? key =
      (forest.contentOf? key).map fun content =>
        content.decorate after inside ++ inside key := by
  induction forest with
  | nil => rfl
  | text content rest ih => exact ih
  | element head children rest inner ih =>
      rw [decorate, contentOf?, contentOf?, contentOf?_append, contentOf?_append, inner, ih,
        contentOf?_of_notMem (beyond.notMem_inside keyLt _),
        contentOf?_of_notMem (beyond.notMem_after keyLt _), Option.or_none, Option.none_or]
      split
      · next same => rw [same, Option.map_some]
      · cases children.contentOf? key <;> rfl

/-- What no decorating element is like is found where it was. -/
theorem filter_decorate {picks : Element → Bool}
    (notAfter : ∀ key, ∀ element ∈ (after key).elements, picks element = false)
    (notInside : ∀ key, ∀ element ∈ (inside key).elements, picks element = false) :
    (forest.decorate after inside).elements.filter picks = forest.elements.filter picks := by
  have none {others : Forest} (plain : ∀ element ∈ others.elements, picks element = false) :
      others.elements.filter picks = [] := by
    rw [List.filter_eq_nil_iff]
    intro element member
    rw [plain element member]
    exact Bool.false_ne_true
  induction forest with
  | nil => rfl
  | text content rest ih => exact ih
  | element head children rest inner ih =>
      rw [decorate, elements, elements_append, elements_append, elements, List.filter_cons,
        List.filter_cons, List.filter_append, List.filter_append, List.filter_append,
        List.filter_append, none (notInside head.key), none (notAfter head.key), inner, ih,
        List.append_nil, List.nil_append]

/-- The elements in the order in which they end. -/
def closing : Forest → List Element
  | .nil => []
  | .text _ rest => rest.closing
  | .element head children rest => children.closing ++ head :: rest.closing

/-- What only is like elements put after others is found in the order of their hosts. -/
theorem filter_decorate_after {picks : Element → Bool}
    (notHere : ∀ element ∈ forest.elements, picks element = false)
    (notInside : ∀ key, ∀ element ∈ (inside key).elements, picks element = false) :
    (forest.decorate after inside).elements.filter picks =
      forest.closing.flatMap fun host => (after host.key).elements.filter picks := by
  induction forest with
  | nil => rfl
  | text content rest ih => exact ih notHere
  | element head children rest inner ih =>
      simp only [elements, List.mem_cons, List.mem_append] at notHere
      have notInner := inner fun element member => notHere element (by simp [member])
      have notRest := ih fun element member => notHere element (by simp [member])
      have insideNone : (inside head.key).elements.filter picks = [] := by
        rw [List.filter_eq_nil_iff]
        intro element member
        rw [notInside head.key element member]
        exact Bool.false_ne_true
      rw [decorate, elements, elements_append, elements_append, closing, List.filter_cons,
        notHere head (Or.inl rfl), List.filter_append, List.filter_append, List.filter_append,
        insideNone, notInner, notRest, List.flatMap_append, List.flatMap_cons, List.append_nil]
      rfl

/-- The original comes back when all that decorates is removed. -/
theorem remove_decorate {drops : Nat → Bool} (kept : ∀ key ∈ forest.keys, drops key = false)
    (dropsAfter : ∀ key, (after key).remove drops = .nil)
    (dropsInside : ∀ key, (inside key).remove drops = .nil) :
    (forest.decorate after inside).remove drops = forest := by
  induction forest with
  | nil => rfl
  | text content rest ih => rw [decorate, remove, ih kept]
  | element head children rest inner ih =>
      simp only [keys_element, List.mem_cons, List.mem_append] at kept
      rw [decorate, remove, kept head.key (Or.inl rfl), remove_append, remove_append, dropsAfter,
        dropsInside, append_nil, nil_append, inner fun key member => kept key (by simp [member]),
        ih fun key member => kept key (by simp [member])]
      rfl

/-- The elements of a decorated document, counted where they come from. -/
theorem countP_decorate (counts : Element → Bool) :
    (forest.decorate after inside).elements.countP counts =
      forest.elements.countP counts +
        (forest.elements.map fun element => (after element.key).elements.countP counts +
          (inside element.key).elements.countP counts).sum := by
  induction forest with
  | nil => rfl
  | text content rest ih => exact ih
  | element head children rest inner ih =>
      simp only [decorate, elements, elements_append, List.countP_cons, List.countP_append,
        List.map_cons, List.map_append, List.sum_cons, List.sum_append, inner, ih]
      omega

theorem mem_decorate {element : Element} :
    element ∈ (forest.decorate after inside).elements ↔
      element ∈ forest.elements ∨ ∃ host ∈ forest.elements,
        element ∈ (after host.key).elements ∨ element ∈ (inside host.key).elements := by
  induction forest with
  | nil => simp [decorate, elements]
  | text content rest ih => exact ih
  | element head children rest inner ih =>
      simp only [decorate, elements, elements_append, List.mem_cons, List.mem_append, inner, ih]
      constructor
      · rintro (here | ((below | ⟨host, member, hosted⟩) | held) | beside | further |
          ⟨host, member, hosted⟩)
        · exact Or.inl (Or.inl here)
        · exact Or.inl (Or.inr (Or.inl below))
        · exact Or.inr ⟨host, Or.inr (Or.inl member), hosted⟩
        · exact Or.inr ⟨head, Or.inl rfl, Or.inr held⟩
        · exact Or.inr ⟨head, Or.inl rfl, Or.inl beside⟩
        · exact Or.inl (Or.inr (Or.inr further))
        · exact Or.inr ⟨host, Or.inr (Or.inr member), hosted⟩
      · rintro ((here | below | further) | ⟨host, (rfl | member | member), hosted⟩)
        · exact Or.inl here
        · exact Or.inr (Or.inl (Or.inl (Or.inl below)))
        · exact Or.inr (Or.inr (Or.inr (Or.inl further)))
        · rcases hosted with beside | held
          · exact Or.inr (Or.inr (Or.inl beside))
          · exact Or.inr (Or.inl (Or.inr held))
        · exact Or.inr (Or.inl (Or.inl (Or.inr ⟨host, member, hosted⟩)))
        · exact Or.inr (Or.inr (Or.inr (Or.inr ⟨host, member, hosted⟩)))

/-! ### What an element holds -/

theorem siblings_append (first second : Forest) :
    (first ++ second).siblings = first.siblings ++ second.siblings := by
  induction first with
  | nil => rfl
  | text content rest ih => exact ih
  | element head children rest _ ih => rw [element_append, siblings, siblings, ih, List.cons_append]

theorem mem_elements_of_mem_siblings {element : Element} (member : element ∈ forest.siblings) :
    element ∈ forest.elements := by
  induction forest with
  | nil => cases member
  | text content rest ih => exact ih member
  | element head children rest _ ih =>
      rw [elements, List.mem_cons, List.mem_append]
      rcases List.mem_cons.mp member with rfl | later
      · exact Or.inl rfl
      · exact Or.inr (Or.inr (ih later))

theorem mem_elements_of_contentOf? {content : Forest} (found : forest.contentOf? key = some content)
    {element : Element} (member : element ∈ content.elements) : element ∈ forest.elements := by
  induction forest with
  | nil => cases found
  | text text rest ih => exact ih found
  | element head children rest inner ih =>
      rw [elements, List.mem_cons, List.mem_append]
      rw [contentOf?] at found
      split at found
      · obtain rfl := Option.some.inj found
        exact Or.inr (Or.inl member)
      · rcases Option.or_eq_some_iff.mp found with below | ⟨-, further⟩
        · exact Or.inr (Or.inl (inner below))
        · exact Or.inr (Or.inr (ih further))

/-- What nothing put after elements is like is not found among the siblings, either. -/
theorem countP_siblings_decorate {counts : Element → Bool}
    (notAfter : ∀ key, ∀ element ∈ (after key).elements, counts element = false) :
    (forest.decorate after inside).siblings.countP counts = forest.siblings.countP counts := by
  induction forest with
  | nil => rfl
  | text content rest ih => exact ih
  | element head children rest _ ih =>
      have none : (after head.key).siblings.countP counts = 0 := by
        rw [List.countP_eq_zero]
        intro element member
        rw [notAfter head.key element (mem_elements_of_mem_siblings member)]
        exact Bool.false_ne_true
      rw [decorate, siblings, siblings, siblings_append, List.countP_cons, List.countP_cons,
        List.countP_append, none, ih, Nat.zero_add]

theorem exists_contentOf? (member : key ∈ forest.keys) :
    ∃ content, forest.contentOf? key = some content := by
  induction forest with
  | nil => cases member
  | text content rest ih => exact ih member
  | element head children rest inner ih =>
      rw [contentOf?]
      by_cases same : head.key = key
      · exact ⟨children, if_pos same⟩
      · rw [if_neg same]
        rw [keys_element, List.mem_cons, List.mem_append] at member
        rcases member.resolve_left (Ne.symm same) with below | further
        · obtain ⟨content, found⟩ := inner below
          exact ⟨content, by rw [found, Option.some_or]⟩
        · obtain ⟨content, found⟩ := ih further
          cases children.contentOf? key with
          | none => exact ⟨content, by rw [found, Option.none_or]⟩
          | some other => exact ⟨other, Option.some_or⟩

/-- An element that was put in holds what it held in its row. -/
theorem contentOf?_decorate_of_notMem (absent : key ∉ forest.keys) {content : Forest}
    (found : (forest.decorate after inside).contentOf? key = some content) :
    ∃ host, (after host).contentOf? key = some content ∨
      (inside host).contentOf? key = some content := by
  induction forest with
  | nil => cases found
  | text text rest ih => exact ih absent found
  | element head children rest inner ih =>
      rw [keys_element, List.mem_cons, List.mem_append, not_or, not_or] at absent
      rw [decorate, contentOf?, if_neg (Ne.symm absent.1), contentOf?_append, contentOf?_append,
        Option.or_eq_some_iff, Option.or_eq_some_iff, Option.or_eq_some_iff] at found
      rcases found with (below | ⟨-, held⟩) | ⟨-, beside | ⟨-, further⟩⟩
      · exact inner absent.2.1 below
      · exact ⟨head.key, Or.inr held⟩
      · exact ⟨head.key, Or.inl beside⟩
      · exact ih absent.2.2 further

/-! ### What stands right after an element -/

/-- What is like an element of a decorated document is like one of the original, or like
one that was put after or into it. -/
theorem any_decorate (picks : Element → Bool) :
    (forest.decorate after inside).elements.any picks =
      (forest.elements.any picks || forest.elements.any fun host =>
        (after host.key).elements.any picks || (inside host.key).elements.any picks) := by
  rw [Bool.eq_iff_iff]
  simp only [Bool.or_eq_true, List.any_eq_true, mem_decorate]
  constructor
  · rintro ⟨element, original | ⟨host, member, beside | held⟩, picked⟩
    · exact Or.inl ⟨element, original, picked⟩
    · exact Or.inr ⟨host, member, Or.inl ⟨element, beside, picked⟩⟩
    · exact Or.inr ⟨host, member, Or.inr ⟨element, held, picked⟩⟩
  · rintro (⟨element, original, picked⟩ | ⟨host, member, ⟨element, beside, picked⟩ |
      ⟨element, held, picked⟩⟩)
    · exact ⟨element, Or.inl original, picked⟩
    · exact ⟨element, Or.inr ⟨host, member, Or.inl beside⟩, picked⟩
    · exact ⟨element, Or.inr ⟨host, member, Or.inr held⟩, picked⟩

/-- The elements in document order, each with the row of nodes that follows it. -/
def followed : Forest → List (Element × Forest)
  | .nil => []
  | .text _ rest => rest.followed
  | .element head children rest => (head, rest) :: (children.followed ++ rest.followed)

theorem mem_elements_of_followed {forest row : Forest} {element : Element}
    (member : (element, row) ∈ forest.followed) : element ∈ forest.elements := by
  induction forest with
  | nil => cases member
  | text content rest ih => exact ih member
  | element head children rest inner ih =>
      rw [followed, List.mem_cons, List.mem_append] at member
      rcases member with here | below | further
      · obtain ⟨rfl, -⟩ := Prod.mk.inj here
        exact List.mem_cons_self
      · exact List.mem_cons_of_mem _ (List.mem_append_left _ (inner below))
      · exact List.mem_cons_of_mem _ (List.mem_append_right _ (ih further))

end Forest

end QuickFill
