import QuickFill.Browser.Surface
import QuickFill.Proofs.Document.Decorated

/-!
# Decorated pages in a browser

What a session puts into a document are spans with links right after inputs and notes
at the ends of the elements that hold inputs.  A decorated page says which: both are
listed with their keys, by the element that they stand after or in.
-/

namespace QuickFill

namespace Browser

/-- The elements of a page have keys of their own, below that of the next new one. -/
structure Keyed (page : Browser) : Prop where
  nodup : page.document.keys.Nodup
  lt : ∀ {key : Nat}, key ∈ page.document.keys → key < page.nextKey

theorem keyed_ofDocument (document : Forest) (reading : BrowserReading)
    {selectors : SelectorReader} : (ofDocument document reading selectors).Keyed := by
  obtain ⟨keysEq, nextEq⟩ := document.keys_number 0
  constructor
  · rw [ofDocument, keysEq]
    exact List.nodup_range'
  · intro key member
    have nextKeyEq : (ofDocument document reading selectors).nextKey = (document.number 0).2 := rfl
    rw [ofDocument, keysEq, List.mem_range'_1] at member
    rw [nextKeyEq, nextEq]
    exact member.2

theorem Keyed.claimed {page : Browser} (keyed : page.Keyed) (verbosity : Verbosity)
    (guard : BootGuard) : { page with verbosity := verbosity, guard := guard }.Keyed :=
  ⟨keyed.nodup, keyed.lt⟩

/-! ### Rows of spans and notes -/

def spanOf (key : Nat) (shortcut : Shortcut) : Element :=
  { key := key, tag := "span", attributes := [("class", shortcut.spanClass)] }

def anchorOf (key : Nat) (shortcut : Shortcut) : Element :=
  { key := key + 1, tag := "a", attributes := [("href", "#")], action := some shortcut.action }

def noteOf (key : Nat) (classAttribute : String) : Element :=
  { key := key, tag := "div", attributes := [("class", classAttribute)] }

theorem shortcutNodes_eq (key : Nat) (shortcut : Shortcut) :
    shortcutNodes key shortcut = .element (spanOf key shortcut)
      (.text linkSpace (.element (anchorOf key shortcut) (.ofText shortcut.label) .nil)) .nil :=
  rfl

theorem noteNodes_eq (key : Nat) (classAttribute text : String) :
    noteNodes key classAttribute text = .element (noteOf key classAttribute) (.ofText text) .nil :=
  rfl

/-- The spans of links, one after another. -/
def linkRow (links : List (Nat × Shortcut)) : Forest :=
  links.foldr (fun link rest => shortcutNodes link.1 link.2 ++ rest) .nil

/-- Notes with their class attributes and texts, one after another. -/
def noteRow (notes : List (Nat × String × String)) : Forest :=
  notes.foldr (fun note rest => noteNodes note.1 note.2.1 note.2.2 ++ rest) .nil

theorem linkRow_cons (link : Nat × Shortcut) (links : List (Nat × Shortcut)) :
    linkRow (link :: links) = shortcutNodes link.1 link.2 ++ linkRow links :=
  rfl

theorem noteRow_append (notes : List (Nat × String × String)) (note : Nat × String × String) :
    noteRow (notes ++ [note]) = noteRow notes ++ noteNodes note.1 note.2.1 note.2.2 := by
  induction notes with
  | nil => rw [List.nil_append, noteRow, List.foldr_cons, List.foldr_nil, Forest.append_nil]; rfl
  | cons first rest ih =>
      have consEq (others : List (Nat × String × String)) : noteRow (first :: others) =
          noteNodes first.1 first.2.1 first.2.2 ++ noteRow others := rfl
      rw [List.cons_append, consEq, consEq, ih, Forest.append_assoc]

theorem elements_ofText (content : String) : (Forest.ofText content).elements = [] := by
  rw [Forest.ofText]
  split <;> rfl

theorem elements_shortcutNodes (key : Nat) (shortcut : Shortcut) :
    (shortcutNodes key shortcut).elements = [spanOf key shortcut, anchorOf key shortcut] := by
  simp [shortcutNodes_eq, Forest.elements, elements_ofText]

theorem elements_noteNodes (key : Nat) (classAttribute text : String) :
    (noteNodes key classAttribute text).elements = [noteOf key classAttribute] := by
  simp [noteNodes_eq, Forest.elements, elements_ofText]

theorem elements_linkRow (links : List (Nat × Shortcut)) :
    (linkRow links).elements =
      links.flatMap fun link => [spanOf link.1 link.2, anchorOf link.1 link.2] := by
  induction links with
  | nil => rfl
  | cons link rest ih =>
      rw [linkRow_cons, Forest.elements_append, ih, elements_shortcutNodes, List.flatMap_cons]

theorem elements_noteRow (notes : List (Nat × String × String)) :
    (noteRow notes).elements = notes.map fun note => noteOf note.1 note.2.1 := by
  induction notes with
  | nil => rfl
  | cons note rest ih =>
      have consEq : noteRow (note :: rest) =
          noteNodes note.1 note.2.1 note.2.2 ++ noteRow rest := rfl
      rw [consEq, Forest.elements_append, ih, elements_noteNodes, List.map_cons,
        List.singleton_append]

theorem mem_keys_linkRow {links : List (Nat × Shortcut)} {key : Nat} :
    key ∈ (linkRow links).keys ↔ ∃ link ∈ links, key = link.1 ∨ key = link.1 + 1 := by
  rw [Forest.keys, elements_linkRow, List.map_flatMap, List.mem_flatMap]
  simp only [List.map_cons, List.map_nil, List.mem_cons, List.not_mem_nil, or_false]
  rfl

theorem mem_keys_noteRow {notes : List (Nat × String × String)} {key : Nat} :
    key ∈ (noteRow notes).keys ↔ ∃ note ∈ notes, key = note.1 := by
  rw [Forest.keys, elements_noteRow]
  simp [noteOf, eq_comm]

/-! ### Decorated pages -/

structure Fresh (bound : Nat) (links : Nat → List (Nat × Shortcut))
    (notes : Nat → List (Nat × String × String)) : Prop where
  links_le : ∀ {key : Nat} {link : Nat × Shortcut}, link ∈ links key → bound ≤ link.1
  notes_le : ∀ {key : Nat} {note : Nat × String × String}, note ∈ notes key → bound ≤ note.1

def decorated (page : Browser) (links : Nat → List (Nat × Shortcut))
    (notes : Nat → List (Nat × String × String)) (nextKey : Nat) : Browser :=
  { page with
    document := page.document.decorate (fun key => linkRow (links key))
      fun key => noteRow (notes key)
    nextKey := nextKey }

variable {page : Browser} {links : Nat → List (Nat × Shortcut)}
  {notes : Nat → List (Nat × String × String)} {bound key : Nat}

theorem Fresh.beyond (fresh : Fresh bound links notes) :
    Forest.Beyond bound (fun key => linkRow (links key)) fun key => noteRow (notes key) where
  after_le member := by
    obtain ⟨link, linked, rfl | rfl⟩ := mem_keys_linkRow.mp member
    · exact fresh.links_le linked
    · exact Nat.le_succ_of_le (fresh.links_le linked)
  inside_le member := by
    obtain ⟨note, noted, rfl⟩ := mem_keys_noteRow.mp member
    exact fresh.notes_le noted

theorem Fresh.nothing (bound : Nat) : Fresh bound (fun _ => []) fun _ => [] where
  links_le member := by cases member
  notes_le member := by cases member

theorem Fresh.link (fresh : Fresh bound links notes) (link : Nat × Shortcut)
    (linkLe : bound ≤ link.1) :
    Fresh bound (Function.update links key (link :: links key)) notes where
  links_le {other found} member := by
    by_cases same : other = key
    · subst same
      rw [Function.update_self] at member
      rcases List.mem_cons.mp member with rfl | old
      · exact linkLe
      · exact fresh.links_le old
    · rw [Function.update_of_ne same] at member
      exact fresh.links_le member
  notes_le := fresh.notes_le

theorem Fresh.note (fresh : Fresh bound links notes) (note : Nat × String × String)
    (noteLe : bound ≤ note.1) :
    Fresh bound links (Function.update notes key (notes key ++ [note])) where
  links_le := fresh.links_le
  notes_le {other found} member := by
    by_cases same : other = key
    · subst same
      rw [Function.update_self] at member
      rcases List.mem_append.mp member with old | new
      · exact fresh.notes_le old
      · rw [List.mem_singleton.mp new]
        exact noteLe
    · rw [Function.update_of_ne same] at member
      exact fresh.notes_le member

/-- Without its spans and notes, a decorated document is as it was. -/
theorem Fresh.restored (fresh : Fresh page.nextKey links notes) (keyed : page.Keyed) :
    (page.document.decorate (fun key => linkRow (links key)) fun key => noteRow (notes key)).remove
      (fun key => page.nextKey ≤ key) = page.document := by
  apply Forest.remove_decorate
  · intro key member
    have keyLt := keyed.lt member
    simp only [decide_eq_false_iff_not]
    omega
  · intro key
    have linksLe : ∀ link ∈ links key, page.nextKey ≤ link.1 := fun _ => fresh.links_le
    generalize links key = spans at linksLe
    induction spans with
    | nil => rfl
    | cons link rest ih =>
        rw [linkRow_cons, Forest.remove_append,
          ih fun other member => linksLe other (by simp [member]), shortcutNodes_eq, Forest.remove,
          if_pos]
        · rfl
        · exact decide_eq_true (linksLe link List.mem_cons_self)
  · intro key
    have notesLe : ∀ note ∈ notes key, page.nextKey ≤ note.1 := fun _ => fresh.notes_le
    generalize notes key = added at notesLe
    induction added with
    | nil => rfl
    | cons note rest ih =>
        have consEq : noteRow (note :: rest) =
            noteNodes note.1 note.2.1 note.2.2 ++ noteRow rest := rfl
        rw [consEq, Forest.remove_append, ih fun other member => notesLe other (by simp [member]),
          noteNodes_eq, Forest.remove, if_pos]
        · rfl
        · exact decide_eq_true (notesLe note List.mem_cons_self)

theorem decorated_nothing (page : Browser) :
    page.decorated (fun _ => []) (fun _ => []) page.nextKey = page := by
  have documentEq : page.document.decorate (fun _ => linkRow []) (fun _ => noteRow []) =
      page.document :=
    page.document.decorate_nil
  rw [decorated, documentEq]

theorem insertShortcut_decorated (keyed : page.Keyed) (fresh : Fresh page.nextKey links notes)
    (member : key ∈ page.document.keys) (shortcut : Shortcut) (next : Nat) :
    (page.decorated links notes next).insertShortcut key shortcut =
      match page.document.homeOf? key none with
      | none => .error .noParent
      | some none => .error (.exception "HierarchyRequestError")
      | some (some _) => .ok (page.decorated
          (Function.update links key ((next, shortcut) :: links key)) notes (next + 2)) := by
  have homeEq : (page.decorated links notes next).document.homeOf? key none =
      page.document.homeOf? key none :=
    Forest.homeOf?_decorate fresh.beyond (keyed.lt member) none
  have inserted := Forest.insertAfter_decorate fresh.beyond (keyed.lt member) keyed.nodup
    (shortcutNodes next shortcut)
  have rowsEq : Function.update (fun key => linkRow (links key)) key
      (shortcutNodes next shortcut ++ linkRow (links key)) =
        fun other => linkRow (Function.update links key ((next, shortcut) :: links key) other) := by
    funext other
    by_cases same : other = key
    · subst same
      rw [Function.update_self, Function.update_self, linkRow_cons]
    · rw [Function.update_of_ne same, Function.update_of_ne same]
  rw [rowsEq] at inserted
  rw [insertShortcut, homeOf, homeEq]
  cases page.document.homeOf? key none with
  | none => rfl
  | some home =>
      cases home with
      | none => rfl
      | some parent =>
          rw [decorated, decorated, ← inserted]
          rfl

theorem appendNote_decorated (keyed : page.Keyed) (fresh : Fresh page.nextKey links notes)
    (member : key ∈ page.document.keys) (note : Note) (next : Nat) :
    (page.decorated links notes next).appendNote key note =
      match page.document.homeOf? key none, ClassName.joined note.classes with
      | none, _ => .error .noParent
      | some _, .error cause => .error cause
      | some none, .ok _ => .error (.exception "HierarchyRequestError")
      | some (some parent), .ok classAttribute => .ok (page.decorated links
          (Function.update notes parent (notes parent ++ [(next, classAttribute, note.text)]))
          (next + 1)) := by
  have homeEq : (page.decorated links notes next).document.homeOf? key none =
      page.document.homeOf? key none :=
    Forest.homeOf?_decorate fresh.beyond (keyed.lt member) none
  rw [appendNote, homeOf, homeEq]
  cases home : page.document.homeOf? key none with
  | none => rfl
  | some place =>
      cases joined : ClassName.joined note.classes with
      | error cause => rfl
      | ok classAttribute =>
          cases place with
          | none => rfl
          | some parent =>
              have inDocument : parent ∈ page.document.keys :=
                Forest.mem_keys_of_homeOf? home (by simp)
              have added := Forest.modifyContent_decorate fresh.beyond (keyed.lt inDocument)
                keyed.nodup (noteNodes next classAttribute note.text)
              have rowsEq : Function.update (fun key => noteRow (notes key)) parent
                  (noteRow (notes parent) ++ noteNodes next classAttribute note.text) =
                    fun other => noteRow (Function.update notes parent
                      (notes parent ++ [(next, classAttribute, note.text)]) other) := by
                funext other
                by_cases same : other = parent
                · subst same
                  rw [Function.update_self, Function.update_self, noteRow_append]
                · rw [Function.update_of_ne same, Function.update_of_ne same]
              rw [rowsEq] at added
              simp only [decorated, ← added]
              rfl

theorem insertShortcut_eq_ok (keyed : page.Keyed) (fresh : Fresh page.nextKey links notes)
    (member : key ∈ page.document.keys) {shortcut : Shortcut} {next : Nat} {changed : Browser}
    (inserted : (page.decorated links notes next).insertShortcut key shortcut = .ok changed) :
    changed = page.decorated (Function.update links key ((next, shortcut) :: links key)) notes
      (next + 2) := by
  rw [insertShortcut_decorated keyed fresh member] at inserted
  split at inserted
  · cases inserted
  · cases inserted
  · exact (Except.ok.inj inserted).symm

theorem appendNote_eq_ok (keyed : page.Keyed) (fresh : Fresh page.nextKey links notes)
    (member : key ∈ page.document.keys) {note : Note} {next : Nat} {changed : Browser}
    (appended : (page.decorated links notes next).appendNote key note = .ok changed) :
    ∃ parent classAttribute, page.document.homeOf? key none = some (some parent) ∧
      ClassName.joined note.classes = .ok classAttribute ∧
        changed = page.decorated links
          (Function.update notes parent (notes parent ++ [(next, classAttribute, note.text)]))
            (next + 1) := by
  rw [appendNote_decorated keyed fresh member] at appended
  split at appended
  · cases appended
  · cases appended
  · cases appended
  · next parent classAttribute home joined =>
    exact ⟨parent, classAttribute, home, joined, (Except.ok.inj appended).symm⟩

end Browser

end QuickFill
