import QuickFill.Proofs.Browser.Numbers
import QuickFill.Proofs.Document.ClassName

/-!
# How many notes an element gets

Before a note is put into an element, a selector looks there for one of its class.  If the
class is an identifier, an element gets one note at most, however many inputs it holds.  The
tokens of an element take other classes all the same: if the selector made of such a class is
not valid, it finds nothing, and there is a note for every input.  Whatever other selectors
find, there are no more notes than inputs.
-/

namespace QuickFill

namespace ClassName

/-- An element whose class attribute was joined from two names has the second one. -/
theorem contains_of_joined {first second classAttribute : String} {element : Element}
    (joined : ClassName.joined [first, second] = .ok classAttribute)
    (made : element.attribute? "class" = some classAttribute) :
    element.classes.contains second = true := by
  have tokens : ∀ name ∈ [first, second], IsToken name := by
    rw [ClassName.joined] at joined
    split at joined
    · cases joined
    · next noFault => exact List.findSome?_eq_none_iff.mp noFault
  have spelledEq := Except.ok.inj
    (joined.symm.trans (joined_pair (tokens first (by simp)) (tokens second (by simp))))
  have onceTokens : ∀ name ∈ [first, second].eraseDups, IsToken name :=
    fun name member => tokens name (List.mem_eraseDups.mp member)
  rw [Element.classes_of_spelled onceTokens (spelledEq ▸ made), List.contains_iff_mem,
    List.mem_eraseDups, List.mem_eraseDups]
  simp

end ClassName

namespace Browser

/-- The number of notes in some content that were put there since it was a page. -/
def newNotes (first : Browser) (content : Forest) : Nat :=
  content.siblings.countP fun element => first.nextKey ≤ element.key && element.isNote

/-- How far the clock of a page is from that of its server. -/
def gap (page : Browser) : ZoneGap :=
  .between page.reading.instant.offset page.serverOffset?

/-- The number of inputs of a known kind that stand in an element. -/
def fieldsIn (page : Browser) (settings : Settings) (inputs : List Element) (parent : Nat) : Nat :=
  inputs.countP fun element => (element.fieldKind? settings).isSome &&
    page.document.homeOf? element.key none == some (some parent)

variable {page : Browser} {settings : Settings} {links : Nat → List (Nat × Shortcut)}
  {notes : Nat → List (Nat × String × String)} {element : Element} {dealt : List Element}
  {parent key : Nat} {name : String}

/-! ### Looking for a note -/

/-- A note with the class is found in the home of an input. -/
theorem hasMarker_decorated (keyed : page.Keyed) (fresh : Fresh page.nextKey links notes)
    (member : key ∈ page.document.keys)
    (home : page.document.homeOf? key none = some (some parent))
    (named : ClassName.isIdentifier name.toList = true) {note : Nat × String × String}
    (noted : note ∈ notes parent)
    (marked : (noteOf note.1 note.2.1).classes.contains name = true) (next : Nat) :
    (page.decorated links notes next).hasMarker key name = true := by
  have inside : parent ∈ page.document.keys := Forest.mem_keys_of_homeOf? home (by simp)
  obtain ⟨content, held⟩ := Forest.exists_contentOf? inside
  have homeEq : (page.decorated links notes next).document.homeOf? key none =
      some (some parent) :=
    (Forest.homeOf?_decorate fresh.beyond (keyed.lt member) none).trans home
  have heldEq : (page.decorated links notes next).document.contentOf? parent =
      some (content.decorate (fun key => linkRow (links key)) (fun key => noteRow (notes key)) ++
        noteRow (notes parent)) := by
    rw [decorated, Forest.contentOf?_decorate fresh.beyond (keyed.lt inside), held]
    rfl
  have shown : (noteRow (notes parent)).elements.any
      (fun element => element.classes.contains name) = true := by
    rw [elements_noteRow, List.any_map, List.any_eq_true]
    exact ⟨note, noted, marked⟩
  rw [hasMarker_of_identifier named homeEq]
  simp only [heldEq, Option.any_some, Forest.hasClass, Forest.elements_append, List.any_append,
    shown, Bool.or_true]

/-! ### Notes during the search -/

/-- The notes of a search that has dealt with some inputs, by the elements that they are in. -/
structure Noticed (page : Browser) (settings : Settings) (dealt : List Element)
    (notes : Nat → List (Nat × String × String)) : Prop where
  marked : ∀ {parent : Nat} {note : Nat × String × String}, note ∈ notes parent →
    (noteOf note.1 note.2.1).classes.contains settings.noteClass = true
  le_fields : ∀ parent, (notes parent).length ≤ page.fieldsIn settings dealt parent
  le_one : ClassName.isIdentifier settings.noteClass.toList = true →
    ∀ parent, (notes parent).length ≤ 1
  /-- No note is missed where the class cannot be looked for. -/
  invalid_eq : page.selectors.read? (ClassName.selector settings.noteClass) = none → ∀ parent,
    (notes parent).length =
      if page.gap.wholeHours = 0 then 0 else page.fieldsIn settings dealt parent

theorem fieldsIn_append (dealt : List Element) (element : Element) (parent : Nat) :
    page.fieldsIn settings (dealt ++ [element]) parent =
      page.fieldsIn settings dealt parent + page.fieldsIn settings [element] parent :=
  List.countP_append

theorem fieldsIn_home (known : (element.fieldKind? settings).isSome)
    (home : page.document.homeOf? element.key none = some (some parent)) (other : Nat) :
    page.fieldsIn settings [element] other = if other = parent then 1 else 0 := by
  by_cases same : other = parent
  · subst same
    simp [fieldsIn, known, home]
  · simp [fieldsIn, home, same, Ne.symm same]

theorem noticed_nothing (page : Browser) (settings : Settings) :
    Noticed page settings [] fun _ => [] where
  marked member := (List.not_mem_nil member).elim
  le_fields _ := Nat.zero_le _
  le_one _ _ := Nat.zero_le _
  invalid_eq _ _ := (ite_self 0).symm

/-- An input gets no note if it is of no known kind, if none is due, or if its home has one. -/
theorem Noticed.pass (noticed : Noticed page settings dealt notes)
    (cause : element.fieldKind? settings = none ∨ page.gap.wholeHours = 0 ∨
      page.selectors.read? (ClassName.selector settings.noteClass) ≠ none) :
    Noticed page settings (dealt ++ [element]) notes where
  marked := noticed.marked
  le_fields parent := by
    rw [fieldsIn_append]
    exact Nat.le_add_right_of_le (noticed.le_fields parent)
  le_one := noticed.le_one
  invalid_eq invalid parent := by
    rw [noticed.invalid_eq invalid, fieldsIn_append]
    rcases cause with unknown | near | valid
    · have none : page.fieldsIn settings [element] parent = 0 := by simp [fieldsIn, unknown]
      rw [none, Nat.add_zero]
    · rw [if_pos near, if_pos near]
    · exact absurd invalid valid

theorem length_update_append (notes : Nat → List (Nat × String × String)) (parent : Nat)
    (note : Nat × String × String) (other : Nat) :
    (Function.update notes parent (notes parent ++ [note]) other).length =
      (notes other).length + if other = parent then 1 else 0 := by
  by_cases same : other = parent
  · subst same
    rw [Function.update_self, List.length_append, List.length_singleton, if_pos rfl]
  · rw [Function.update_of_ne same, if_neg same, Nat.add_zero]

/-- An input gets a note where none was found. -/
theorem Noticed.add (noticed : Noticed page settings dealt notes)
    (known : (element.fieldKind? settings).isSome)
    (home : page.document.homeOf? element.key none = some (some parent))
    (far : page.gap.wholeHours ≠ 0)
    (unmarked : ClassName.isIdentifier settings.noteClass.toList = true → notes parent = [])
    {note : Nat × String × String}
    (marked : (noteOf note.1 note.2.1).classes.contains settings.noteClass = true) :
    Noticed page settings (dealt ++ [element])
      (Function.update notes parent (notes parent ++ [note])) where
  marked {other found} member := by
    by_cases same : other = parent
    · subst same
      rw [Function.update_self] at member
      rcases List.mem_append.mp member with old | new
      · exact noticed.marked old
      · rw [List.mem_singleton.mp new]
        exact marked
    · rw [Function.update_of_ne same] at member
      exact noticed.marked member
  le_fields other := by
    rw [length_update_append, fieldsIn_append, fieldsIn_home known home]
    exact Nat.add_le_add_right (noticed.le_fields other) _
  le_one named other := by
    by_cases same : other = parent
    · rw [length_update_append, if_pos same, same, unmarked named]
      exact Nat.le_refl 1
    · rw [length_update_append, if_neg same]
      exact noticed.le_one named other
  invalid_eq invalid other := by
    rw [length_update_append, noticed.invalid_eq invalid, if_neg far, if_neg far,
      fieldsIn_append, fieldsIn_home known home]

/-- A search that has dealt with some inputs, with the notes that it has put in. -/
structure Noting (page : Browser) (settings : Settings) (dealt : List Element)
    (links : Nat → List (Nat × Shortcut)) (notes : Nat → List (Nat × String × String))
    (running : Running Browser Nat) : Prop where
  searched : Searched page settings dealt links notes running
  gap_eq : running.session.gap = page.gap
  noticed : Noticed page settings dealt notes

section Search

variable {running after : Running Browser Nat}

theorem Noting.logged (noting : Noting page settings dealt links notes running)
    (event : LogEvent) : Noting page settings dealt links notes (running.logged event) :=
  ⟨noting.searched.logged event, noting.gap_eq, noting.noticed⟩

/-- An input that was just linked is given a note, or passed over. -/
theorem Noticed.notify (noticed : Noticed page settings dealt notes)
    (searched : Searched page settings (dealt ++ [element]) links notes running)
    (gapEq : running.session.gap = page.gap) (keyed : page.Keyed)
    (member : element.key ∈ page.document.keys) (known : (element.fieldKind? settings).isSome)
    {added : Bool} (notified : (Session.notify element.key).run running = .ok added after) :
    ∃ others, Noting page settings (dealt ++ [element]) links others after := by
  have far {text : String} (due : page.gap.noteText? (Environment.translator running.page) =
      some text) : page.gap.wholeHours ≠ 0 := by
    intro near
    rw [ZoneGap.noteText?, if_pos near] at due
    cases due
  rw [Session.run_notify, gapEq, searched.settings_eq] at notified
  split at notified
  · next noneDue =>
    obtain ⟨-, rfl⟩ := EStateM.Result.ok.inj notified
    have near : page.gap.wholeHours = 0 := by
      by_contra far
      rw [ZoneGap.noteText?, if_neg far] at noneDue
      cases noneDue
    exact ⟨notes, searched, gapEq, noticed.pass (Or.inr (Or.inl near))⟩
  · next text due =>
    simp only at notified
    split at notified
    · next found =>
      obtain ⟨-, rfl⟩ := EStateM.Result.ok.inj notified
      have valid : page.selectors.read? (ClassName.selector settings.noteClass) ≠ none := by
        intro invalid
        obtain ⟨next, console, -, pageEq⟩ := searched.page_eq
        have sameReader : running.page.selectors = page.selectors := by rw [pageEq]; rfl
        rw [← sameReader] at invalid
        exact Bool.false_ne_true ((hasMarker_of_invalid invalid element.key).symm.trans found)
      exact ⟨notes, Noting.logged ⟨searched, gapEq, noticed.pass (Or.inr (Or.inr valid))⟩ _⟩
    · next notFound =>
      split at notified
      · cases notified
      · next changed appended =>
        obtain ⟨-, rfl⟩ := EStateM.Result.ok.inj notified
        obtain ⟨parent, next, classAttribute, home, joined, noted⟩ :=
          searched.append keyed member appended
        have unmarked (named : ClassName.isIdentifier settings.noteClass.toList = true) :
            notes parent = [] := by
          refine List.eq_nil_iff_forall_not_mem.mpr fun note noted => notFound ?_
          obtain ⟨next, console, -, pageEq⟩ := searched.page_eq
          have shown : (page.withConsole console).Keyed := ⟨keyed.nodup, keyed.lt⟩
          have marked := hasMarker_decorated shown searched.fresh member home named noted
            (noticed.marked noted) next
          rw [← pageEq] at marked
          exact marked
        refine ⟨_, Noting.logged ⟨noted, gapEq, noticed.add known home (far due) unmarked ?_⟩ _⟩
        exact ClassName.contains_of_joined joined rfl

theorem Noting.field (noting : Noting page settings dealt links notes running)
    (keyed : page.Keyed) (member : element.key ∈ page.document.keys)
    (apart : ∀ other ∈ dealt, other.key ≠ element.key) {report counted : StartReport}
    (dealtWith : (Session.startField report element.field).run running = .ok counted after) :
    ∃ links notes, Noting page settings (dealt ++ [element]) links notes after := by
  rw [Session.run_startField] at dealtWith
  have kindEq : element.field.kind? running.session.settings = element.fieldKind? settings := by
    rw [noting.searched.settings_eq, Element.fieldKind?]
  rw [kindEq, noting.searched.settings_eq] at dealtWith
  cases known : element.fieldKind? settings with
  | none =>
      rw [known] at dealtWith
      obtain ⟨-, rfl⟩ := EStateM.Result.ok.inj dealtWith
      exact ⟨links, notes, noting.searched.skip known, noting.gap_eq,
        noting.noticed.pass (Or.inl known)⟩
  | some kind =>
      rw [known] at dealtWith
      simp only at dealtWith
      split at dealtWith
      · cases dealtWith
      · next handle attachedTo attached =>
        split at dealtWith
        · cases dealtWith
        · next added noted notified =>
          obtain ⟨-, rfl⟩ := EStateM.Result.ok.inj dealtWith
          obtain ⟨link, searched⟩ := noting.searched.attach keyed member apart known attached
          have gapEq : attachedTo.session.gap = page.gap := by
            obtain ⟨-, -, changed, -, rfl⟩ := Session.attach_eq_ok attached
            exact noting.gap_eq
          have isKnown : (element.fieldKind? settings).isSome := by rw [known]; rfl
          obtain ⟨others, notedNoting⟩ :=
            noting.noticed.notify searched gapEq keyed member isKnown notified
          exact ⟨_, others, notedNoting⟩

theorem Noting.fields (noting : Noting page settings dealt links notes running)
    (keyed : page.Keyed) {rest : List Element}
    (members : ∀ element ∈ rest, element.key ∈ page.document.keys)
    (nodup : ((dealt ++ rest).map Element.key).Nodup) {report counted : StartReport}
    (dealtWith : ((rest.map Element.field).foldlM Session.startField report).run running =
      .ok counted after) :
    ∃ links notes, Noting page settings (dealt ++ rest) links notes after := by
  refine holds_fields
    (fun dealt running => ∃ links notes, Noting page settings dealt links notes running)
    ?_ ⟨links, notes, noting⟩ members nodup dealtWith
  rintro dealt element running after report counted ⟨links, notes, noting⟩ member apart dealtWith
  exact noting.field keyed member apart dealtWith

end Search

/-! ### What elements hold after a boot -/

theorem isNote_of_mem_linkRow {row : List (Nat × Shortcut)}
    (member : element ∈ (linkRow row).elements) : element.isNote = false := by
  rw [elements_linkRow, List.mem_flatMap] at member
  obtain ⟨link, -, isPart⟩ := member
  simp only [List.mem_cons, List.not_mem_nil, or_false] at isPart
  rcases isPart with rfl | rfl <;> rfl

theorem siblings_noteRow (row : List (Nat × String × String)) :
    (noteRow row).siblings = row.map fun note => noteOf note.1 note.2.1 := by
  induction row with
  | nil => rfl
  | cons note rest ih =>
      have consEq : noteRow (note :: rest) =
          noteNodes note.1 note.2.1 note.2.2 ++ noteRow rest := rfl
      rw [consEq, Forest.siblings_append, ih, noteNodes_eq]
      rfl

theorem contentOf?_ofText (text : String) (key : Nat) :
    (Forest.ofText text).contentOf? key = none :=
  Forest.contentOf?_of_notMem (by rw [Forest.keys, elements_ofText]; exact List.not_mem_nil)

/-- A note holds nothing but its text. -/
theorem elements_contentOf?_noteRow {row : List (Nat × String × String)} {content : Forest}
    (found : (noteRow row).contentOf? key = some content) : content.elements = [] := by
  induction row with
  | nil => cases found
  | cons note rest ih =>
      have consEq : noteRow (note :: rest) =
          noteNodes note.1 note.2.1 note.2.2 ++ noteRow rest := rfl
      rw [consEq, Forest.contentOf?_append, noteNodes_eq, Forest.contentOf?, contentOf?_ofText,
        Option.or_eq_some_iff] at found
      rcases found with here | ⟨-, later⟩
      · split at here
        · obtain rfl := Option.some.inj here
          exact elements_ofText note.2.2
        · cases here
      · exact ih later

/-- No note is put beside the links, or in one another. -/
theorem newNotes_of_row {content : Forest} {host : Nat}
    (found : (linkRow (links host)).contentOf? key = some content ∨
      (noteRow (notes host)).contentOf? key = some content) (first : Browser) :
    first.newNotes content = 0 := by
  rw [newNotes, List.countP_eq_zero]
  intro other member
  have inContent := Forest.mem_elements_of_mem_siblings member
  rcases found with inLinks | inNotes
  · have inRow := Forest.mem_elements_of_contentOf? inLinks inContent
    simp [isNote_of_mem_linkRow inRow]
  · rw [elements_contentOf?_noteRow inNotes] at inContent
    cases inContent

theorem newNotes_append (page : Browser) (content more : Forest) :
    page.newNotes (content ++ more) = page.newNotes content + page.newNotes more := by
  rw [newNotes, Forest.siblings_append, List.countP_append]
  rfl

/-- There is none before the boot. -/
theorem newNotes_given (keyed : page.Keyed) {content : Forest}
    (held : page.document.contentOf? key = some content) : page.newNotes content = 0 := by
  rw [newNotes, List.countP_eq_zero]
  intro other member
  have inDocument := Forest.mem_elements_of_contentOf? held
    (Forest.mem_elements_of_mem_siblings member)
  have old := keyed.lt (Forest.mem_keys inDocument)
  simp [Nat.not_le_of_lt old]

/-- Links and what is done deeper inside add none. -/
theorem newNotes_decorate (page : Browser) (inside : Nat → Forest) (content : Forest) :
    page.newNotes (content.decorate (fun key => linkRow (links key)) inside) =
      page.newNotes content := by
  apply Forest.countP_siblings_decorate
  intro other element member
  rw [isNote_of_mem_linkRow member, Bool.and_false]

theorem newNotes_noteRow (fresh : Fresh page.nextKey links notes) (key : Nat) :
    page.newNotes (noteRow (notes key)) = (notes key).length := by
  rw [newNotes, siblings_noteRow, List.countP_map, List.countP_eq_length]
  intro note noted
  have new := fresh.notes_le noted
  simpa [noteOf, Element.isNote] using new

/-- An element that was there holds the notes that were put into it, and no other element holds
any. -/
theorem newNotes_decorated (keyed : page.Keyed) (fresh : Fresh page.nextKey links notes)
    {content : Forest}
    (found : (page.document.decorate (fun key => linkRow (links key))
      fun key => noteRow (notes key)).contentOf? key = some content) :
    page.newNotes content = if key ∈ page.document.keys then (notes key).length else 0 := by
  by_cases given : key ∈ page.document.keys
  · obtain ⟨before, held⟩ := Forest.exists_contentOf? given
    rw [Forest.contentOf?_decorate fresh.beyond (keyed.lt given), held] at found
    obtain rfl := Option.some.inj found
    rw [if_pos given, newNotes_append, newNotes_decorate, newNotes_given keyed held,
      newNotes_noteRow fresh, Nat.zero_add]
  · obtain ⟨host, inRow⟩ := Forest.contentOf?_decorate_of_notMem given found
    rw [if_neg given, newNotes_of_row inRow]

theorem fieldsIn_of_notMem (absent : key ∉ page.document.keys) (inputs : List Element) :
    page.fieldsIn settings inputs key = 0 := by
  rw [fieldsIn, List.countP_eq_zero]
  intro input _ counted
  simp only [Bool.and_eq_true, beq_iff_eq] at counted
  exact absent (Forest.mem_keys_of_homeOf? counted.2 (by simp))

/-- The notes that a boot has put into the elements of a document. -/
structure NotesCounted (first booted : Browser) (settings : Settings) : Prop where
  /-- A class that is an identifier is put into each element once at most. -/
  le_one : ClassName.isIdentifier settings.noteClass.toList = true →
    ∀ key content, booted.document.contentOf? key = some content → first.newNotes content ≤ 1
  le_fields : ∀ key content, booted.document.contentOf? key = some content →
    first.newNotes content ≤ first.fieldsIn settings first.inputs key
  /-- A class whose selector is not valid comes with each of the inputs, if a note is due at
  all. -/
  invalid_eq : first.selectors.read? (ClassName.selector settings.noteClass) = none →
    ∀ key content, booted.document.contentOf? key = some content →
      first.newNotes content =
        if first.gap.wholeHours = 0 then 0 else first.fieldsIn settings first.inputs key

theorem Noticed.counted {first booted : Browser}
    (noticed : Noticed first settings first.inputs notes) (keyed : first.Keyed)
    (fresh : Fresh first.nextKey links notes)
    (documentEq : booted.document = first.document.decorate (fun key => linkRow (links key))
      fun key => noteRow (notes key)) : NotesCounted first booted settings := by
  have counted {key : Nat} {content : Forest}
      (found : booted.document.contentOf? key = some content) :
      first.newNotes content = if key ∈ first.document.keys then (notes key).length else 0 := by
    rw [documentEq] at found
    exact newNotes_decorated keyed fresh found
  refine ⟨?_, ?_, ?_⟩
  · intro named key content found
    rw [counted found]
    split
    · exact noticed.le_one named key
    · exact Nat.zero_le 1
  · intro key content found
    rw [counted found]
    split
    · exact noticed.le_fields key
    · exact Nat.zero_le _
  · intro invalid key content found
    rw [counted found]
    by_cases given : key ∈ first.document.keys
    · rw [if_pos given, noticed.invalid_eq invalid]
    · rw [if_neg given, fieldsIn_of_notMem given, ite_self]

/-- A boot that succeeds puts one note at most into each element, whatever else stands there,
if its class is an identifier.  If its class makes no valid selector, as if it begins with a
digit, each input of a known kind brings a note along.  It never puts more notes into an element
than the element holds inputs of a known kind. -/
theorem notes_counted {first booted : Browser} (keyed : first.Keyed) {start : StartSettings}
    {holder : Holder} {found : BootReport}
    (boots : first.boot start holder = (.ok found, booted)) :
    NotesCounted first booted start.settings := by
  obtain ⟨total, after, outcome, -, rfl⟩ := exists_search first boots
  have bound : (first.claimed start.verbosity).bindLinks.Keyed := ⟨keyed.nodup, keyed.lt⟩
  have nothing : Noting (first.claimed start.verbosity).bindLinks start.settings []
      (fun _ => []) (fun _ => []) ((first.claimed start.verbosity).opened start.settings) :=
    ⟨searched_opened (first.claimed start.verbosity) start.settings, rfl, noticed_nothing _ _⟩
  obtain ⟨links, notes, noting⟩ := nothing.fields bound (fun _ member => inputs_mem_keys member)
    (inputs_keys_nodup bound) outcome
  obtain ⟨next, console, -, pageEq⟩ := (noting.searched.logged (.startDone total)).page_eq
  have noticed := noting.noticed
  exact Noticed.counted ⟨noticed.marked, noticed.le_fields, noticed.le_one, noticed.invalid_eq⟩
    keyed noting.searched.fresh (congrArg Browser.document pageEq)

/-- A document with a day and an hour in one place, of a server two hours behind universal
time. -/
def rosterForm : Forest :=
  let day : Element :=
    { key := 0, tag := "input", attributes := [("type", "date"), ("class", "vDateField")] }
  let hour : Element :=
    { key := 0, tag := "input", attributes := [("type", "time"), ("class", "vTimeField")] }
  let body : Element :=
    { key := 0, tag := "body", attributes := [("data-admin-utc-offset", "-7200")] }
  .element { key := 0, tag := "html" } (.element body
    (.element { key := 0, tag := "p" } (.element day .nil (.element hour .nil .nil)) .nil)
      .nil) .nil

/-- A page that was opened with that document, by a browser without a clock. -/
def roster : Browser :=
  ofDocument rosterForm ⟨none, none⟩

/-- The choice of a class that elements take and that makes no selector. -/
def ordinalClass : StartSettings where
  settings := { noteClass := "1st" }

theorem notes_counted_roster :
    (roster.boot {} .script).1 = .ok ⟨7200, ⟨2, 1, 1, 1⟩⟩ ∧
      NotesCounted roster (roster.boot {} .script).2 .standard ∧
        roster.selectors.read? (ClassName.selector ordinalClass.settings.noteClass) = none ∧
          NotesCounted roster (roster.boot ordinalClass .script).2 ordinalClass.settings := by
  have keyed : roster.Keyed := keyed_ofDocument rosterForm ⟨none, none⟩
  have succeeds : (roster.boot {} .script).1 = .ok ⟨7200, ⟨2, 1, 1, 1⟩⟩ := by decide +kernel
  have repeats : (roster.boot ordinalClass .script).1 = .ok ⟨7200, ⟨2, 1, 1, 2⟩⟩ := by
    decide +kernel
  have boots := (Prod.eta (roster.boot {} .script)).symm
  have otherBoots := (Prod.eta (roster.boot ordinalClass .script)).symm
  rw [succeeds] at boots
  rw [repeats] at otherBoots
  have refused : roster.selectors.read? (ClassName.selector ordinalClass.settings.noteClass) =
      none := roster.selectors.read?_digit _ (by decide)
  exact ⟨succeeds, notes_counted keyed boots, refused, notes_counted keyed otherBoots⟩

/-- With a class that makes no selector, the place of the day and the hour gets two notes. -/
theorem place_noted_twice :
    (roster.boot ordinalClass .script).1 = .ok ⟨7200, ⟨2, 1, 1, 2⟩⟩ ∧
      ((roster.boot ordinalClass .script).2.document.contentOf? 2).map roster.newNotes =
        some 2 := by
  decide +kernel

end Browser

end QuickFill
