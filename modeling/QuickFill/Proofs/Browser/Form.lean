import QuickFill.Browser.Surface
import QuickFill.Proofs.Document.ClassName
import QuickFill.Proofs.Document.Layout
import QuickFill.Proofs.Page.WellFormed

/-!
# Forms of pages

A page in memory without links and notes can be written as a flat form: a container of
the page becomes an element that holds the inputs of the container, and every calendar
box becomes an element that holds nothing.
-/

namespace QuickFill

def Place.tag : Place → String
  | .root => "html"
  | .body => "body"
  | .container _ => "p"
  | .input _ => "input"
  | .box _ => "div"

def Input.element (key : Nat) (input : Input) : Element :=
  { key := key
    tag := "input"
    attributes := [("id", input.id), ("type", input.type),
      ("class", ClassName.spelled input.classes)] ++
        (input.step.map fun step => ("step", step)).toList
    value := input.value }

namespace Page

/-- The element in a place of the form of a page, with the offset that the page gives for
its server, and its boxes with whether they are hidden. -/
def formElement (page : Page) (keys : Place → Nat) (serverOffset : Option String)
    (boxes : List (String × Bool)) : Place → Element
  | .root => { key := keys .root, tag := "html" }
  | .body =>
    { key := keys .body
      tag := "body"
      attributes := (serverOffset.map fun offset => ("data-admin-utc-offset", offset)).toList }
  | .container home => { key := keys (.container home), tag := "p" }
  | .input number =>
    match page.inputs[number]? with
    | some input => input.element (keys (.input number))
    | none => { key := keys (.input number), tag := "input" }
  | .box number =>
    match boxes[number]? with
    | some (id, hidden) =>
      { key := keys (.box number), tag := "div", attributes := [("id", id)], hidden := hidden }
    | none => { key := keys (.box number), tag := "div" }

def form (page : Page) (keys : Place → Nat) (serverOffset : Option String)
    (boxes : List (String × Bool)) : Forest :=
  Forest.layout page.rows boxes.length (page.formElement keys serverOffset boxes)

end Page

/-- What is asked of an input that is put in a document: a type that a browser knows,
classes that can be put on an element, and an id that no calendar box has. -/
structure Input.Suits (settings : Settings) (input : Input) : Prop where
  type_mem : input.type ∈ Element.inputTypes
  classes_tokens : ∀ name ∈ input.classes, ClassName.IsToken name
  id_ne : ∀ handle, input.id ≠ settings.boxId handle

variable {settings : Settings} {input : Input}

theorem Settings.ne_boxId {id : String}
    (apart : id.toList.take settings.boxStem.toList.length ≠ settings.boxStem.toList)
    (handle : Nat) : id ≠ settings.boxId handle := by
  rintro rfl
  apply apart
  rw [boxId, String.toList_append, List.take_left]

theorem Input.inputType_element (suits : input.Suits settings) (key : Nat) :
    (input.element key).inputType = input.type := by
  have known : ∀ type ∈ Element.inputTypes,
      String.ofList (type.toList.map Char.toLower) = type := by
    decide
  have typeEq : (input.element key).attribute? "type" = some input.type := rfl
  rw [Element.inputType, typeEq]
  simp only [Option.getD_some, known input.type suits.type_mem]
  rw [if_pos (List.contains_iff_mem.mpr suits.type_mem)]

theorem Input.contains_classes_element (suits : input.Suits settings) (key : Nat)
    (name : String) :
    (input.element key).classes.contains name = input.classes.contains name := by
  rw [Element.classes_of_spelled suits.classes_tokens rfl, Bool.eq_iff_iff,
    List.contains_iff_mem, List.contains_iff_mem, List.mem_eraseDups]

theorem Input.step_element (input : Input) (key : Nat) :
    (input.element key).attribute? "step" = input.step := by
  obtain ⟨id, type, classes, step, value, home⟩ := input
  cases step <;> rfl

namespace Page

variable {page : Page} {keys : Place → Nat} {serverOffset : Option String}
  {boxes : List (String × Bool)}

@[simp]
theorem key_formElement (place : Place) :
    (page.formElement keys serverOffset boxes place).key = keys place := by
  cases place with
  | root => rfl
  | body => rfl
  | container home => rfl
  | input number =>
      rw [formElement]
      cases page.inputs[number]? <;> rfl
  | box number =>
      rw [formElement]
      cases boxes[number]? <;> rfl

theorem tag_formElement (place : Place) :
    (page.formElement keys serverOffset boxes place).tag = place.tag := by
  cases place with
  | root => rfl
  | body => rfl
  | container home => rfl
  | input number =>
      rw [formElement]
      cases page.inputs[number]? <;> rfl
  | box number =>
      rw [formElement]
      cases boxes[number]? <;> rfl

theorem isInput_formElement_input (number : Nat) :
    (page.formElement keys serverOffset boxes (.input number)).isInput = true := by
  rw [formElement]
  cases page.inputs[number]? <;> rfl

theorem isInput_formElement_of_ne {place : Place} (noInput : ∀ number, place ≠ .input number) :
    (page.formElement keys serverOffset boxes place).isInput = false := by
  cases place with
  | root => rfl
  | body => rfl
  | container home => rfl
  | input number => exact (noInput number rfl).elim
  | box number =>
      rw [formElement]
      cases boxes[number]? <;> rfl

theorem formElement_input {number : Nat} {input : Input}
    (found : page.inputs[number]? = some input) :
    page.formElement keys serverOffset boxes (.input number) =
      input.element (keys (.input number)) := by
  rw [formElement, found]

theorem inputs_form :
    (page.form keys serverOffset boxes).elements.filter Element.isInput =
      page.rows.flatten.map fun number =>
        page.formElement keys serverOffset boxes (.input number) :=
  Forest.filter_layout (fun number _ => isInput_formElement_input number)
    fun _ noInput => isInput_formElement_of_ne noInput

/-- Writing into an element of the form writes into the input. -/
theorem modify_form_input (apart : Function.Injective keys) {number : Nat} {text : String}
    (inPage : number < page.inputs.length) :
    (page.form keys serverOffset boxes).modify (keys (.input number))
        (fun element => { element with value := text }) =
      (page.modifyInput number fun input => { input with value := text }).form keys serverOffset
        boxes := by
  have rowsEq : (page.modifyInput number fun input => { input with value := text }).rows =
      page.rows := rows_modifyInput page number _
  rw [form, Forest.modify_layout, form, rowsEq]
  congr 1
  funext place
  rw [key_formElement]
  by_cases same : place = .input number
  · subst same
    have found := List.getElem?_eq_getElem inPage
    have written : (page.modifyInput number fun input => { input with value := text }).inputs[
        number]? = some { page.inputs[number] with value := text } := by
      simp [modifyInput, inPage]
    rw [if_pos rfl, formElement_input found, formElement_input written]
    rfl
  · rw [if_neg fun equal => same (apart equal)]
    cases place with
    | root => rfl
    | body => rfl
    | container home => rfl
    | input other =>
        have differs : number ≠ other := by
          rintro rfl
          exact same rfl
        have kept : (page.modifyInput number fun input => { input with value := text }).inputs[
            other]? = page.inputs[other]? := by
          simp [modifyInput, differs]
        rw [formElement, formElement, kept]
    | box other => rfl

/-- Hiding a box of the form marks it as hidden. -/
theorem modify_form_box (apart : Function.Injective keys) {number : Nat}
    (inside : number < boxes.length) :
    (page.form keys serverOffset boxes).modify (keys (.box number))
        (fun element => { element with hidden := true }) =
      page.form keys serverOffset (boxes.modify number fun box => (box.1, true)) := by
  rw [form, Forest.modify_layout, form, List.length_modify]
  congr 1
  funext place
  rw [key_formElement]
  by_cases same : place = .box number
  · subst same
    rw [if_pos rfl, formElement, formElement, List.getElem?_eq_getElem inside,
      List.getElem?_modify_eq, List.getElem?_eq_getElem inside]
    rfl
  · rw [if_neg fun equal => same (apart equal)]
    cases place with
    | root => rfl
    | body => rfl
    | container home => rfl
    | input other => rfl
    | box other =>
        have differs : number ≠ other := by
          rintro rfl
          exact same rfl
        rw [formElement, formElement, List.getElem?_modify_ne _ _ differs]

/-! ### Boxes of a form -/

theorem mem_elements_form {element : Element}
    (member : element ∈ (page.form keys serverOffset boxes).elements) :
    ∃ place ∈ places page.rows boxes.length,
      page.formElement keys serverOffset boxes place = element := by
  rw [form, Forest.elements_layout] at member
  exact List.mem_map.mp member

theorem formElement_box {number : Nat} {id : String} {hidden : Bool}
    (found : boxes[number]? = some (id, hidden)) :
    page.formElement keys serverOffset boxes (.box number) =
      { key := keys (.box number), tag := "div", attributes := [("id", id)], hidden := hidden } := by
  rw [formElement, found]

theorem box_mem_elements_form {number : Nat} (inside : number < boxes.length) :
    page.formElement keys serverOffset boxes (.box number) ∈
      (page.form keys serverOffset boxes).elements := by
  have isPlace : Place.box number ∈ places page.rows boxes.length := by
    simp [places, boxPlaces, inside]
  rw [form, Forest.elements_layout]
  exact List.mem_map_of_mem isPlace

theorem exists_box {element : Element} {id : String}
    (member : element ∈ (page.form keys serverOffset boxes).elements)
    (named : element.id? = some id) (noInput : ∀ input ∈ page.inputs, input.id ≠ id) :
    ∃ number hidden, boxes[number]? = some (id, hidden) ∧
      page.formElement keys serverOffset boxes (.box number) = element := by
  obtain ⟨place, isPlace, rfl⟩ := mem_elements_form member
  cases place with
  | root => cases named
  | body =>
      cases serverOffset with
      | none => cases named
      | some offset => simp [formElement, Element.id?, Element.attribute?] at named
  | container home => cases named
  | input number =>
      cases found : page.inputs[number]? with
      | none =>
          rw [formElement, found] at named
          cases named
      | some input =>
          rw [formElement_input found] at named
          exact (noInput input (List.mem_of_getElem? found) (Option.some.inj named)).elim
  | box number =>
      have inside : number < boxes.length := by
        simpa [places, boxPlaces, mem_containerPlaces] using isPlace
      obtain ⟨⟨other, hidden⟩, found⟩ : ∃ box, boxes[number]? = some box :=
        ⟨_, List.getElem?_eq_getElem inside⟩
      rw [formElement_box found] at named
      obtain rfl : other = id := Option.some.inj named
      exact ⟨number, hidden, found, rfl⟩

theorem any_hidden_form (id : String) :
    ((page.form keys serverOffset boxes).elements.any fun element =>
        element.id? == some id && element.hidden) = boxes.contains (id, true) := by
  rw [Bool.eq_iff_iff, List.any_eq_true, List.contains_iff_mem]
  constructor
  · rintro ⟨element, member, shown⟩
    rw [Bool.and_eq_true, beq_iff_eq] at shown
    obtain ⟨place, isPlace, rfl⟩ := mem_elements_form member
    cases place with
    | root => cases shown.2
    | body => cases shown.2
    | container home => cases shown.2
    | input number =>
        rw [formElement] at shown
        cases found : page.inputs[number]? with
        | none => simp [found] at shown
        | some input => simp [found, Input.element] at shown
    | box number =>
        cases found : boxes[number]? with
        | none =>
            rw [formElement, found] at shown
            cases shown.1
        | some box =>
            obtain ⟨other, hidden⟩ := box
            rw [formElement_box found] at shown
            obtain rfl : other = id := Option.some.inj shown.1
            obtain rfl : hidden = true := shown.2
            exact List.mem_of_getElem? found
  · intro member
    obtain ⟨number, found⟩ := List.getElem?_of_mem member
    refine ⟨_, box_mem_elements_form (List.getElem?_eq_some_iff.mp found).1, ?_⟩
    rw [formElement_box found, Bool.and_true, beq_iff_eq]
    rfl

end Page

end QuickFill
