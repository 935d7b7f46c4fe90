import QuickFill.Proofs.Document.Decorated

/-!
# Flat forms

A flat form is a document whose body holds containers of inputs, one after another, and
then boxes that hold nothing.  Its elements are told apart by the places where they
stand, so that the form is given by its rows of numbers, the number of its boxes and an
element for every place.  What a document does with an element, it does to one place.
-/

namespace QuickFill

/-- The places of the elements of a flat form. -/
inductive Place where
  | root
  | body
  | container (home : Nat)
  | input (number : Nat)
  | box (number : Nat)
  deriving DecidableEq, Repr

/-- The places of containers and their inputs, the containers numbered from a number on. -/
def containerPlaces : Nat → List (List Nat) → List Place
  | _, [] => []
  | home, row :: rest => .container home :: (row.map .input ++ containerPlaces (home + 1) rest)

def boxPlaces (boxes : Nat) : List Place :=
  (List.range boxes).map .box

/-- The places of a form in document order. -/
def places (rows : List (List Nat)) (boxes : Nat) : List Place :=
  .root :: .body :: (containerPlaces 0 rows ++ boxPlaces boxes)

theorem mem_containerPlaces {place : Place} {home : Nat} {rows : List (List Nat)} :
    place ∈ containerPlaces home rows ↔
      (∃ offset < rows.length, place = .container (home + offset)) ∨
        ∃ number ∈ rows.flatten, place = .input number := by
  induction rows generalizing home with
  | nil => simp [containerPlaces]
  | cons row rest ih =>
      rw [containerPlaces, List.mem_cons, List.mem_append, ih, List.flatten_cons]
      constructor
      · rintro (rfl | here | ⟨offset, offsetLt, rfl⟩ | ⟨number, member, rfl⟩)
        · exact Or.inl ⟨0, Nat.succ_pos _, rfl⟩
        · obtain ⟨number, member, rfl⟩ := List.mem_map.mp here
          exact Or.inr ⟨number, List.mem_append_left _ member, rfl⟩
        · exact Or.inl ⟨offset + 1, Nat.succ_lt_succ offsetLt, by rw [Nat.add_right_comm]; rfl⟩
        · exact Or.inr ⟨number, List.mem_append_right _ member, rfl⟩
      · rintro (⟨offset, offsetLt, rfl⟩ | ⟨number, member, rfl⟩)
        · cases offset with
          | zero => exact Or.inl rfl
          | succ offset =>
              refine Or.inr (Or.inr (Or.inl ⟨offset, Nat.lt_of_succ_lt_succ offsetLt, ?_⟩))
              rw [Nat.add_right_comm]
              rfl
        · rcases List.mem_append.mp member with here | later
          · exact Or.inr (Or.inl (List.mem_map.mpr ⟨number, here, rfl⟩))
          · exact Or.inr (Or.inr (Or.inr ⟨number, later, rfl⟩))

theorem containerPlaces_nodup {rows : List (List Nat)} (nodup : rows.flatten.Nodup) (home : Nat) :
    (containerPlaces home rows).Nodup := by
  induction rows generalizing home with
  | nil => exact List.nodup_nil
  | cons row rest ih =>
      rw [List.flatten_cons, List.nodup_append] at nodup
      rw [containerPlaces, List.nodup_cons, List.nodup_append, List.mem_append,
        mem_containerPlaces]
      refine ⟨?_, ?_, ih nodup.2.1 _, ?_⟩
      · rintro (here | ⟨offset, -, same⟩ | ⟨number, -, same⟩)
        · obtain ⟨number, -, same⟩ := List.mem_map.mp here
          cases same
        · have := Place.container.inj same
          omega
        · cases same
      · exact nodup.1.map fun _ _ => Place.input.inj
      · rintro place here other later rfl
        obtain ⟨number, member, rfl⟩ := List.mem_map.mp here
        rcases mem_containerPlaces.mp later with ⟨offset, -, same⟩ | ⟨another, otherMember, same⟩
        · cases same
        · exact nodup.2.2 number member another otherMember (Place.input.inj same)

theorem places_nodup {rows : List (List Nat)} (nodup : rows.flatten.Nodup) (boxes : Nat) :
    (places rows boxes).Nodup := by
  have boxesNodup : (boxPlaces boxes).Nodup :=
    List.nodup_range.map fun _ _ => Place.box.inj
  have apart : ∀ place ∈ containerPlaces 0 rows, ∀ other ∈ boxPlaces boxes, place ≠ other := by
    rintro place here other box rfl
    obtain ⟨number, -, rfl⟩ := List.mem_map.mp box
    rcases mem_containerPlaces.mp here with ⟨offset, -, same⟩ | ⟨number, -, same⟩ <;> cases same
  have content : (containerPlaces 0 rows ++ boxPlaces boxes).Nodup :=
    List.nodup_append.mpr ⟨containerPlaces_nodup nodup 0, boxesNodup, apart⟩
  rw [places, List.nodup_cons, List.nodup_cons]
  refine ⟨?_, ?_, content⟩ <;> simp [mem_containerPlaces, boxPlaces]

def Element.withKey (key : Nat) (element : Element) : Element :=
  { element with key := key }

namespace Forest

/-- Elements that hold nothing, one after another. -/
def leaves : List Element → Forest
  | [] => .nil
  | first :: rest => .element first .nil (leaves rest)

/-- Containers of inputs, numbered from a number on, and a row after them. -/
def containers (elementAt : Place → Element) (tail : Forest) : Nat → List (List Nat) → Forest
  | _, [] => tail
  | home, row :: rest =>
    .element (elementAt (.container home)) (leaves (row.map fun number => elementAt (.input number)))
      (containers elementAt tail (home + 1) rest)

/-- The form with some rows of inputs, a number of boxes, and an element for each place. -/
def layout (rows : List (List Nat)) (boxes : Nat) (elementAt : Place → Element) : Forest :=
  .element (elementAt .root)
    (.element (elementAt .body)
      (containers elementAt (leaves ((boxPlaces boxes).map elementAt)) 0 rows) .nil) .nil

variable {rows : List (List Nat)} {boxes : Nat} {elementAt : Place → Element}

@[simp]
theorem elements_leaves (elements : List Element) : (leaves elements).elements = elements := by
  induction elements with
  | nil => rfl
  | cons first rest ih => simp [leaves, Forest.elements, ih]

theorem elements_containers (tail : Forest) (home : Nat) :
    (containers elementAt tail home rows).elements =
      (containerPlaces home rows).map elementAt ++ tail.elements := by
  induction rows generalizing home with
  | nil => rfl
  | cons row rest ih =>
      rw [containers, elements, elements_leaves, ih, containerPlaces, List.map_cons,
        List.map_append, List.map_map, List.cons_append, List.append_assoc]
      rfl

theorem elements_layout : (layout rows boxes elementAt).elements = (places rows boxes).map elementAt := by
  simp [layout, elements, elements_containers, places]

theorem keys_layout :
    (layout rows boxes elementAt).keys = (places rows boxes).map fun place => (elementAt place).key := by
  rw [keys, elements_layout, List.map_map]
  rfl

/-! ### Changing the elements of all places -/

def mapElements (change : Element → Element) : Forest → Forest
  | .nil => .nil
  | .text content rest => .text content (rest.mapElements change)
  | .element head children rest =>
    .element (change head) (children.mapElements change) (rest.mapElements change)

theorem mapElements_leaves (change : Element → Element) (elements : List Element) :
    (leaves elements).mapElements change = leaves (elements.map change) := by
  induction elements with
  | nil => rfl
  | cons first rest ih => rw [leaves, mapElements, ih, List.map_cons, leaves]; rfl

theorem mapElements_containers (change : Element → Element) (tail : Forest) (home : Nat) :
    (containers elementAt tail home rows).mapElements change =
      containers (fun place => change (elementAt place)) (tail.mapElements change) home rows := by
  induction rows generalizing home with
  | nil => rfl
  | cons row rest ih =>
      rw [containers, mapElements, mapElements_leaves, ih, containers, List.map_map]
      rfl

theorem mapElements_layout (change : Element → Element) :
    (layout rows boxes elementAt).mapElements change =
      layout rows boxes fun place => change (elementAt place) := by
  simp only [layout, mapElements, mapElements_containers, mapElements_leaves, List.map_map]
  rfl

theorem modify_eq_mapElements (forest : Forest) (key : Nat) (alter : Element → Element) :
    forest.modify key alter =
      forest.mapElements fun element => if element.key = key then alter element else element := by
  induction forest with
  | nil => rfl
  | text content rest ih => rw [modify, mapElements, ih]
  | element head children rest inner ih => rw [modify, mapElements, inner, ih]

/-- A change of one element changes the element of one place. -/
theorem modify_layout (key : Nat) (alter : Element → Element) :
    (layout rows boxes elementAt).modify key alter =
      layout rows boxes fun place =>
        if (elementAt place).key = key then alter (elementAt place) else elementAt place := by
  rw [modify_eq_mapElements, mapElements_layout]

/-! ### Numbering the elements -/

theorem number_eq {forest numbered : Forest} {next : Nat}
    (same : forest.mapElements (Element.withKey 0) = numbered.mapElements (Element.withKey 0))
    (keysEq : numbered.keys = List.range' next numbered.elements.length) :
    (forest.number next).1 = numbered := by
  induction forest generalizing numbered next with
  | nil =>
      cases numbered with
      | nil => rfl
      | text content rest => cases same
      | element head children rest => cases same
  | text content rest ih =>
      cases numbered with
      | nil => cases same
      | text other others =>
          obtain ⟨rfl, sameRest⟩ := Forest.text.inj same
          exact congrArg (Forest.text content) (ih sameRest keysEq)
      | element head children others => cases same
  | element head children rest inner ih =>
      cases numbered with
      | nil => cases same
      | text content others => cases same
      | element other below others =>
          obtain ⟨sameHead, sameChildren, sameRest⟩ := Forest.element.inj same
          have lengthEq : (elements (.element other below others)).length =
              below.elements.length + others.elements.length + 1 := by
            rw [elements, List.length_cons, List.length_append]
          rw [keys_element, lengthEq, List.range'_succ, ← List.range'_append_1] at keysEq
          obtain ⟨headKey, keysRest⟩ := List.cons.inj keysEq
          have belowLength : below.keys.length =
              (List.range' (next + 1) below.elements.length).length := by
            rw [keys, List.length_map, List.length_range']
          obtain ⟨belowKeys, othersKeys⟩ := List.append_inj keysRest belowLength
          have belowEq := inner sameChildren belowKeys
          have nextEq : (children.number (next + 1)).2 = next + 1 + below.elements.length := by
            have counted := (children.keys_number (next + 1)).1
            rw [belowEq, belowKeys] at counted
            rw [(children.keys_number (next + 1)).2, List.range'_inj.mp counted |>.1]
          have headEq : { head with key := next } = other := by
            rw [← headKey]
            obtain ⟨-, tagEq⟩ := Element.mk.inj sameHead
            cases head
            cases other
            simp only [Element.mk.injEq, true_and] at tagEq ⊢
            exact tagEq
          have restEq := ih sameRest othersKeys
          rw [← nextEq] at restEq
          simp only [number, headEq, belowEq, restEq]

/-! ### Where inputs stand -/

@[simp]
theorem keys_leaves (elements : List Element) :
    (leaves elements).keys = elements.map Element.key := by
  rw [keys, elements_leaves]

theorem homeOf?_leaves {elements : List Element} {key : Nat}
    (member : key ∈ elements.map Element.key) (here : Option Nat) :
    (leaves elements).homeOf? key here = some here := by
  induction elements with
  | nil => cases member
  | cons first rest ih =>
      rw [leaves, homeOf?]
      by_cases same : first.key = key
      · rw [if_pos same]
      · rcases List.mem_cons.mp member with equal | later
        · exact (same equal.symm).elim
        · rw [if_neg same, ih later]
          rfl

section Apart

variable (apart : Function.Injective fun place => (elementAt place).key)
include apart

theorem key_ne {place other : Place} (differs : place ≠ other) :
    (elementAt place).key ≠ (elementAt other).key :=
  fun same => differs (apart same)

theorem notMem_row {number : Nat} {row : List Nat} (absent : number ∉ row) :
    (elementAt (.input number)).key ∉
      (leaves (row.map fun number => elementAt (.input number))).keys := by
  rw [keys_leaves, List.map_map, List.mem_map]
  rintro ⟨other, member, same⟩
  obtain rfl := Place.input.inj (apart same)
  exact absent member

theorem homeOf?_containers (nodup : rows.flatten.Nodup) {offset number : Nat} {row : List Nat}
    (placed : rows[offset]? = some row) (member : number ∈ row) (tail : Forest) (home : Nat)
    (here : Option Nat) :
    (containers elementAt tail home rows).homeOf? (elementAt (.input number)).key here =
      some (some (elementAt (.container (home + offset))).key) := by
  induction rows generalizing home offset with
  | nil => cases placed
  | cons first rest ih =>
      rw [List.flatten_cons, List.nodup_append] at nodup
      rw [containers, homeOf?, if_neg (key_ne apart (by simp))]
      cases offset with
      | zero =>
          obtain rfl := Option.some.inj placed
          rw [homeOf?_leaves]
          · rfl
          · rw [List.map_map]
            exact List.mem_map_of_mem member
      | succ offset =>
          have absent : number ∉ first := by
            intro here
            have later : number ∈ rest.flatten :=
              List.mem_flatten.mpr ⟨row, List.mem_of_getElem? placed, member⟩
            exact nodup.2.2 number here number later rfl
          rw [homeOf?_of_notMem (notMem_row apart absent), ih nodup.2.1 placed,
            Nat.add_right_comm]
          rfl

/-- An input stands in the container of its row. -/
theorem homeOf?_layout (nodup : rows.flatten.Nodup) {home number : Nat} {row : List Nat}
    (placed : rows[home]? = some row) (member : number ∈ row) :
    (layout rows boxes elementAt).homeOf? (elementAt (.input number)).key none =
      some (some (elementAt (.container home)).key) := by
  rw [layout, homeOf?, if_neg (key_ne apart (by simp)), homeOf?, homeOf?,
    if_neg (key_ne apart (by simp)), homeOf?_containers apart nodup placed member, Nat.zero_add]
  rfl

theorem contentOf?_containers {offset : Nat} {row : List Nat}
    (placed : rows[offset]? = some row) (tail : Forest) (home : Nat) :
    (containers elementAt tail home rows).contentOf? (elementAt (.container (home + offset))).key =
      some (leaves (row.map fun number => elementAt (.input number))) := by
  induction rows generalizing home offset with
  | nil => cases placed
  | cons first rest ih =>
      rw [containers, contentOf?]
      cases offset with
      | zero =>
          obtain rfl := Option.some.inj placed
          exact if_pos rfl
      | succ offset =>
          have absent : (elementAt (.container (home + (offset + 1)))).key ∉
              (leaves (first.map fun number => elementAt (.input number))).keys := by
            rw [keys_leaves, List.map_map, List.mem_map]
            rintro ⟨number, -, same⟩
            cases apart same
          rw [if_neg (key_ne apart (by simp)), contentOf?_of_notMem absent, Option.none_or,
            ← ih placed (home + 1), Nat.add_right_comm]
          rfl

theorem contentOf?_layout {home : Nat} {row : List Nat} (placed : rows[home]? = some row) :
    (layout rows boxes elementAt).contentOf? (elementAt (.container home)).key =
      some (leaves (row.map fun number => elementAt (.input number))) := by
  have held := contentOf?_containers apart placed
    (leaves ((boxPlaces boxes).map elementAt)) 0
  rw [Nat.zero_add] at held
  rw [layout, contentOf?, if_neg (key_ne apart (by simp)), contentOf?, contentOf?,
    if_neg (key_ne apart (by simp)), held]
  rfl

end Apart

/-! ### Closing order -/

theorem closing_leaves (elements : List Element) : (leaves elements).closing = elements := by
  induction elements with
  | nil => rfl
  | cons first rest ih => rw [leaves, closing, ih]; rfl

theorem flatMap_closing_containers {α : Type} {found : Element → List α}
    (noContainer : ∀ home, found (elementAt (.container home)) = []) (tail : Forest)
    (home : Nat) (rows : List (List Nat)) :
    (containers elementAt tail home rows).closing.flatMap found =
      (rows.flatten.flatMap fun number => found (elementAt (.input number))) ++
        tail.closing.flatMap found := by
  induction rows generalizing home with
  | nil => rfl
  | cons row rest ih =>
      rw [containers, closing, closing_leaves, List.flatMap_append, List.flatMap_cons,
        noContainer, ih, List.flatten_cons, List.flatMap_append, List.flatMap_map,
        List.nil_append, List.append_assoc]

theorem flatMap_closing_layout {α : Type} {found : Element → List α}
    (onlyInputs : ∀ place, (∀ number, place ≠ .input number) → found (elementAt place) = []) :
    (layout rows boxes elementAt).closing.flatMap found =
      rows.flatten.flatMap fun number => found (elementAt (.input number)) := by
  have noBoxes : ((boxPlaces boxes).map elementAt).flatMap found = [] := by
    rw [List.flatMap_map, List.flatMap_eq_nil_iff]
    intro place member
    obtain ⟨number, -, rfl⟩ := List.mem_map.mp member
    exact onlyInputs _ (by simp)
  have containersEq := flatMap_closing_containers
    (fun home => onlyInputs (.container home) (by simp)) (leaves ((boxPlaces boxes).map elementAt)) 0
    rows
  rw [closing_leaves, noBoxes, List.append_nil] at containersEq
  rw [← containersEq]
  simp [layout, closing, onlyInputs]

/-! ### Picking elements -/

/-- What only inputs are like is found row by row. -/
theorem filter_layout {picks : Element → Bool}
    (inputs : ∀ number ∈ rows.flatten, picks (elementAt (.input number)) = true)
    (others : ∀ place, (∀ number, place ≠ .input number) → picks (elementAt place) = false) :
    (layout rows boxes elementAt).elements.filter picks =
      rows.flatten.map fun number => elementAt (.input number) := by
  have noBoxes : ((boxPlaces boxes).map elementAt).filter picks = [] := by
    rw [List.filter_eq_nil_iff]
    intro element member
    obtain ⟨place, isBox, rfl⟩ := List.mem_map.mp member
    obtain ⟨number, -, rfl⟩ := List.mem_map.mp isBox
    rw [others _ (by simp)]
    exact Bool.false_ne_true
  have rowsEq (home : Nat) : ((containerPlaces home rows).map elementAt).filter picks =
      rows.flatten.map fun number => elementAt (.input number) := by
    induction rows generalizing home with
    | nil => rfl
    | cons row rest ih =>
        rw [List.flatten_cons] at inputs
        have rowEq : ((row.map .input).map elementAt).filter picks =
            row.map fun number => elementAt (.input number) := by
          rw [List.map_map, List.filter_eq_self.mpr]
          · rfl
          · intro element member
            obtain ⟨number, inRow, rfl⟩ := List.mem_map.mp member
            exact inputs number (List.mem_append_left _ inRow)
        rw [containerPlaces, List.map_cons, List.map_append,
          List.filter_cons_of_neg (by simp [others]), List.filter_append, rowEq,
          ih fun number member => inputs number (List.mem_append_right _ member),
          List.flatten_cons, List.map_append]
  rw [elements_layout, places, List.map_cons, List.map_cons, List.map_append,
    List.filter_cons_of_neg (by simp [others]), List.filter_cons_of_neg (by simp [others]),
    List.filter_append, rowsEq, noBoxes, List.append_nil]

end Forest

/-! ### Keys of a numbered form -/

/-- A number for each place, of all forms. -/
def Place.code : Place → Nat
  | .root => 0
  | .body => 1
  | .container home => 3 * home + 2
  | .input number => 3 * number + 3
  | .box number => 3 * number + 4

theorem Place.code_injective : Function.Injective Place.code := by
  intro place other same
  cases place <;> cases other <;> simp only [code] at same <;>
    first | rfl | (congr 1; omega)

/-- The key that a place gets when a form is numbered; places outside the form get keys,
too, so that all places have keys of their own. -/
def placeKey (rows : List (List Nat)) (boxes : Nat) (place : Place) : Nat :=
  if place ∈ places rows boxes then (places rows boxes).idxOf place
  else (places rows boxes).length + place.code

theorem placeKey_lt {rows : List (List Nat)} {boxes : Nat} {place : Place}
    (member : place ∈ places rows boxes) :
    placeKey rows boxes place < (places rows boxes).length := by
  rw [placeKey, if_pos member]
  exact List.idxOf_lt_length_iff.mpr member

theorem placeKey_injective (rows : List (List Nat)) (boxes : Nat) :
    Function.Injective (placeKey rows boxes) := by
  intro place other same
  by_cases here : place ∈ places rows boxes
  · have placeLt := placeKey_lt here
    by_cases otherHere : other ∈ places rows boxes
    · rw [placeKey, placeKey, if_pos here, if_pos otherHere] at same
      exact (List.idxOf_inj here).mp same
    · rw [same, placeKey, if_neg otherHere] at placeLt
      omega
  · by_cases otherHere : other ∈ places rows boxes
    · have otherLt := placeKey_lt otherHere
      rw [← same, placeKey, if_neg here] at otherLt
      omega
    · rw [placeKey, placeKey, if_neg here, if_neg otherHere] at same
      exact Place.code_injective (Nat.add_left_cancel same)

/-- Numbering a form gives each place its key. -/
theorem Forest.number_layout {rows : List (List Nat)} {boxes : Nat}
    {elementAt numbered : Place → Element} (nodup : rows.flatten.Nodup)
    (same : ∀ place, (elementAt place).withKey 0 = (numbered place).withKey 0)
    (keysEq : ∀ place, (numbered place).key = placeKey rows boxes place) :
    (layout rows boxes elementAt).number 0 =
      (layout rows boxes numbered, (places rows boxes).length) := by
  have placesNodup := places_nodup nodup boxes
  apply Prod.ext
  · apply number_eq
    · rw [mapElements_layout, mapElements_layout]
      exact congrArg (layout rows boxes) (funext same)
    · rw [keys_layout, elements_layout, List.length_map]
      apply List.ext_getElem
      · rw [List.length_map, List.length_range']
      · intro index inPlaces _
        rw [List.length_map] at inPlaces
        rw [List.getElem_map, keysEq, placeKey, if_pos (List.getElem_mem inPlaces),
          placesNodup.idxOf_getElem, List.getElem_range', Nat.zero_add, Nat.one_mul]
  · rw [(keys_number _ 0).2, elements_layout, List.length_map, Nat.zero_add]

end QuickFill
