import QuickFill.Proofs.Page.Places
import QuickFill.Proofs.Registry.History
import QuickFill.Proofs.Text.Bytes

/-!
# Described fields in their containers

A description names a container for each field, and containers come into being while the
fields are put on the page one after another.  The page that comes of it groups the fields by
these names: containers stand in the order in which their names first come up, and fields of
one name in the order of the description.
-/

namespace QuickFill

namespace FieldFixture

variable (fields : List FieldFixture)

/-- The names that fields give their containers, each once, in the order in which they first
come up. -/
def placeNames : List String :=
  (fields.map place).eraseDups

/-- The fields that give their container a name, in their order, with their numbers. -/
def named (name : String) : List (FieldFixture × Nat) :=
  fields.zipIdx.filter fun entry => entry.1.place = name

/-- The container with a name that holds the fields that give it. -/
def containerNamed (name : String) : Container :=
  ⟨name, (named fields name).map fun entry => .input entry.2⟩

theorem mem_placeNames {name : String} :
    name ∈ placeNames fields ↔ ∃ described ∈ fields, described.place = name := by
  rw [placeNames, List.mem_eraseDups, List.mem_map]

theorem place_mem_placeNames {fields : List FieldFixture} {described : FieldFixture}
    (member : described ∈ fields) : described.place ∈ placeNames fields :=
  (mem_placeNames fields).mpr ⟨described, member, rfl⟩

theorem placeNames_append_singleton (described : FieldFixture) :
    placeNames (fields ++ [described]) =
      if described.place ∈ placeNames fields then placeNames fields
      else placeNames fields ++ [described.place] := by
  simp only [placeNames, List.map_append, List.map_singleton,
    Registry.eraseDups_append_singleton, List.mem_eraseDups]

theorem nodup_placeNames : (placeNames fields).Nodup := by
  induction fields using List.reverseRecOn with
  | nil => exact List.nodup_nil
  | append_singleton fields described ih =>
      rw [placeNames_append_singleton]
      split
      · exact ih
      · next isNew =>
        rw [← List.concat_eq_append]
        exact ih.concat isNew

theorem idxOf_placeNames_append {name : String} (known : name ∈ placeNames fields)
    (described : FieldFixture) :
    (placeNames (fields ++ [described])).idxOf name = (placeNames fields).idxOf name := by
  rw [placeNames_append_singleton]
  split
  · rfl
  · exact List.idxOf_append_of_mem known

/-- A new field comes last among those that give its name. -/
theorem containerNamed_append_singleton (described : FieldFixture) (name : String) :
    containerNamed (fields ++ [described]) name =
      if described.place = name then
        { containerNamed fields name with
          nodes := (containerNamed fields name).nodes ++ [.input fields.length] }
      else containerNamed fields name := by
  have appended : named (fields ++ [described]) name =
      named fields name ++
        if described.place = name then [(described, fields.length)] else [] := by
    rw [named, List.zipIdx_append, List.filter_append, Nat.zero_add]
    by_cases same : described.place = name <;> simp [named, same]
  rw [containerNamed, appended]
  split
  · rw [List.map_append]
    rfl
  · rw [List.append_nil]
    rfl

end FieldFixture

open FieldFixture

namespace Page

/-- The page that holds described fields, grouped by the names of their containers. -/
def grouped (fields : List FieldFixture) : Page where
  inputs := fields.map fun described =>
    { described.input with home := (placeNames fields).idxOf described.place }
  containers := (placeNames fields).map (containerNamed fields)

theorem length_inputs_grouped (fields : List FieldFixture) :
    (grouped fields).inputs.length = fields.length :=
  List.length_map _

theorem containerNumber?_grouped (fields : List FieldFixture) (name : String) :
    (grouped fields).containerNumber? name =
      if name ∈ placeNames fields then some ((placeNames fields).idxOf name) else none := by
  have searched : (grouped fields).containerNumber? name =
      Option.guard (· < (placeNames fields).length) ((placeNames fields).idxOf name) := by
    rw [containerNumber?, grouped, List.findIdx?_map, List.findIdx?_eq_guard_findIdx_lt]
    rfl
  rw [searched, Option.guard]
  simp only [decide_eq_true_eq, List.idxOf_lt_length_iff]

/-- Looking for a container by its name finds it where the name first came up, or puts it
behind all others. -/
theorem ensureContainer_grouped (fields : List FieldFixture) (described : FieldFixture) :
    (grouped fields).ensureContainer described.place =
      ({ grouped fields with
          containers := (placeNames (fields ++ [described])).map (containerNamed fields) },
        (placeNames (fields ++ [described])).idxOf described.place) := by
  rw [ensureContainer, containerNumber?_grouped, placeNames_append_singleton]
  by_cases known : described.place ∈ placeNames fields
  · rw [if_pos known, if_pos known]
    rfl
  · have nobody : named fields described.place = [] := by
      rw [named, List.filter_eq_nil_iff]
      intro entry member same
      have isField : entry.1 ∈ fields := (List.mem_zipIdx' member).2 ▸ List.getElem_mem _
      rw [← of_decide_eq_true same] at known
      exact known (place_mem_placeNames isField)
    have empty : containerNamed fields described.place = ⟨described.place, []⟩ := by
      rw [containerNamed, nobody]
      rfl
    rw [if_neg known, if_neg known, List.map_append, List.map_singleton, empty,
      List.idxOf_append_of_notMem known, List.idxOf_cons_self, Nat.add_zero]
    simp only [grouped, List.length_map]

theorem inputs_grouped_append (fields : List FieldFixture) (described : FieldFixture) :
    (grouped (fields ++ [described])).inputs =
      (grouped fields).inputs ++ [{ described.input with
        home := (placeNames (fields ++ [described])).idxOf described.place }] := by
  simp only [grouped, List.map_append, List.map_singleton]
  refine congrArg (· ++ _) (List.map_congr_left ?_)
  intro other member
  rw [idxOf_placeNames_append fields (place_mem_placeNames member)]

/-- Of the containers, the one that a new field names grows by it. -/
theorem containers_grouped_append (fields : List FieldFixture) (described : FieldFixture) :
    (grouped (fields ++ [described])).containers =
      ((placeNames (fields ++ [described])).map (containerNamed fields)).modify
        ((placeNames (fields ++ [described])).idxOf described.place) fun container =>
          { container with nodes := container.nodes ++ [.input fields.length] } := by
  apply List.ext_getElem?
  intro home
  rw [grouped, List.getElem?_modify, List.getElem?_map, List.getElem?_map]
  cases isName : (placeNames (fields ++ [described]))[home]? with
  | none => rfl
  | some name =>
      -- The names are all different, so only the container with this name grows.
      have atHome : (placeNames (fields ++ [described])).idxOf described.place = home ↔
          described.place = name := by
        have mentioned : described.place ∈ placeNames (fields ++ [described]) :=
          place_mem_placeNames (List.mem_append_right _ (List.mem_singleton_self _))
        have isFirst := List.getElem?_idxOf mentioned
        have inNames := (List.getElem?_eq_some_iff.mp isFirst).1
        rw [← List.getElem?_inj inNames (nodup_placeNames _), isFirst, isName, Option.some_inj]
      simp only [Option.map_some, containerNamed_append_singleton, atHome]
      split <;> rfl

/-- A field added to grouped fields is grouped with them. -/
theorem addField_grouped (fields : List FieldFixture) (described : FieldFixture) :
    (grouped fields).addField described = grouped (fields ++ [described]) := by
  have placed := ensureContainer_grouped fields described
  rw [place] at placed
  rw [addField, addInputIn, placed]
  simp only [appendNode, length_inputs_grouped]
  exact congrArg₂ (fun inputs containers => ({ inputs := inputs, containers := containers } : Page))
    (inputs_grouped_append fields described).symm (containers_grouped_append fields described).symm

theorem ofFixture_eq_grouped (fixture : PageFixture) :
    ofFixture fixture = { grouped fixture.fields with boxes := sortedNames fixture.boxes } := by
  have folded (fields : List FieldFixture) : fields.foldl addField empty = grouped fields := by
    induction fields using List.reverseRecOn with
    | nil => rfl
    | append_singleton fields described ih =>
        rw [List.foldl_append, ih]
        exact addField_grouped fields described
  rw [ofFixture, folded]

/-- The page groups the fields of a description by the names of their containers. -/
structure Grouped (fixture : PageFixture) (page : Page) : Prop where
  /-- Each field becomes the input with its number, in the container that it names. -/
  inputs_eq : page.inputs = fixture.fields.map fun described =>
    { described.input with home := (placeNames fixture.fields).idxOf described.place }
  /-- Containers stand in the order of their first fields, and hold the fields that name them
  in the order of the description. -/
  containers_eq : page.containers =
    (placeNames fixture.fields).map (containerNamed fixture.fields)
  /-- Inputs share a container when their fields give one name, as a container or as an id. -/
  shared : ∀ first second : Nat, page.homes[first]? = page.homes[second]? ↔
    fixture.fields[first]?.map place = fixture.fields[second]?.map place
  /-- The inputs are told name by name, and for one name in the order of the description. -/
  fields_eq : Workbench.fields page = (placeNames fixture.fields).flatMap fun name =>
    (named fixture.fields name).map fun entry => ⟨entry.2, entry.1.type, entry.1.classes⟩
  /-- Each input is told once. -/
  fields_perm : ((Workbench.fields page).map Field.input).Perm (List.range fixture.fields.length)
  /-- An id leads to the first field that has it. -/
  found : ∀ id, page.find? id = fixture.fields.findIdx? fun described => described.id == id
  boxes_mem : ∀ id, id ∈ page.boxes ↔ id ∈ fixture.boxes
  /-- The calendar boxes stand in the order of their bytes, each once. -/
  boxes_sorted : page.boxes.Pairwise fun first second => Text.bytes first < Text.bytes second
  shown : ∀ id, page.isHidden id = false
  unfocused : page.focused = none

theorem homes_grouped (fields : List FieldFixture) :
    (grouped fields).homes = (fields.map place).map (placeNames fields).idxOf := by
  rw [homes, grouped, List.map_map, List.map_map]
  rfl

theorem shared_grouped (fields : List FieldFixture) (first second : Nat) :
    (grouped fields).homes[first]? = (grouped fields).homes[second]? ↔
      fields[first]?.map place = fields[second]?.map place := by
  rw [homes_grouped]
  simp only [List.getElem?_map]
  cases isFirst : fields[first]? with
  | none => cases fields[second]? <;> simp
  | some described =>
      have known := place_mem_placeNames (List.mem_of_getElem? isFirst)
      cases fields[second]? with
      | none => simp
      | some other => simp [List.idxOf_inj known]

theorem inputOrder_grouped (fields : List FieldFixture) :
    (grouped fields).inputOrder =
      (placeNames fields).flatMap fun name => (named fields name).map Prod.snd := by
  rw [inputOrder, grouped, List.flatMap_map]
  congr 1
  funext name
  rw [containerNamed, List.filterMap_map]
  exact congrFun List.filterMap_eq_map' _

theorem fields_ofFixture (fixture : PageFixture) :
    Workbench.fields (ofFixture fixture) =
      (placeNames fixture.fields).flatMap fun name =>
        (named fixture.fields name).map fun entry => ⟨entry.2, entry.1.type, entry.1.classes⟩ := by
  have orderEq : (ofFixture fixture).inputOrder = (grouped fixture.fields).inputOrder := by
    rw [ofFixture_eq_grouped]
    rfl
  rw [Workbench.fields, orderEq, inputOrder_grouped, List.filterMap_flatMap]
  congr 1
  funext name
  rw [List.filterMap_map, ← List.filterMap_eq_map]
  apply List.filterMap_congr
  intro entry member
  have isField : fixture.fields[entry.2]? = some entry.1 :=
    List.mk_mem_zipIdx_iff_getElem?.mp (List.mem_filter.mp member).1
  rw [Function.comp_apply, field?_ofFixture, isField]
  rfl

/-- A described page groups the fields of its description. -/
theorem fixture_grouped (fixture : PageFixture) : Grouped fixture (ofFixture fixture) where
  inputs_eq := by
    rw [ofFixture_eq_grouped]
    rfl
  containers_eq := by
    rw [ofFixture_eq_grouped]
    rfl
  shared first second := by
    rw [ofFixture_eq_grouped]
    exact shared_grouped fixture.fields first second
  fields_eq := fields_ofFixture fixture
  fields_perm := by
    have perm := (wellFormed_ofFixture fixture).fields_perm
    rw [ofFixture_eq_grouped] at perm ⊢
    rw [← length_inputs_grouped]
    exact perm
  found id := by
    rw [ofFixture_eq_grouped, find?]
    exact List.findIdx?_map
  boxes_mem id := mem_sortedNames
  boxes_sorted := (sortedNames_sorted fixture.boxes).imp Text.bytes_lt_of_lt
  shown id := by
    rw [isHidden, (untouched_ofFixture fixture).1]
    rfl
  unfocused := (untouched_ofFixture fixture).2

/-- A field without a container joins the container of its id, whoever named it first. -/
example :
    (ofFixture { fields := [⟨"start", "time", [], none, "", some "when"⟩,
      ⟨"day", "date", [], none, "", none⟩, ⟨"when", "time", [], none, "", none⟩] }).containers =
        [⟨"when", [.input 0, .input 2]⟩, ⟨"day", [.input 1]⟩] := by
  decide

end Page

end QuickFill
