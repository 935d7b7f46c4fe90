import QuickFill.Proofs.Browser.Later

/-!
# Links in a document

A boot that succeeds only adds to the document: one span right after each input of a
known kind, and notes.  The link in a span stays bound to the input before it: a
click fills that input and no other, whatever readers and scripts have done since.
-/

namespace QuickFill

namespace Browser

/-- Whether a row begins with the span of a link that was put into the document. -/
def StartsWithLink (bound : Nat) (row : Forest) : Prop :=
  ∃ key shortcut rest, bound ≤ key ∧ row = shortcutNodes key shortcut ++ rest

variable {bound : Nat} {links : Nat → List (Nat × Shortcut)}
  {notes : Nat → List (Nat × String × String)}

/-! ### What stands right after an element -/

theorem followed_ofText (content : String) : (Forest.ofText content).followed = [] := by
  rw [Forest.ofText]
  split <;> rfl

theorem followed_shortcutNodes (key : Nat) (shortcut : Shortcut) (after : Forest) :
    (shortcutNodes key shortcut ++ after).followed =
      (spanOf key shortcut, after) :: (anchorOf key shortcut, .nil) :: after.followed := by
  rw [shortcutNodes_eq, Forest.element_append, Forest.nil_append, Forest.followed,
    Forest.followed, Forest.followed, followed_ofText]
  rfl

theorem not_startsWithLink_nil : ¬ StartsWithLink bound .nil := by
  rintro ⟨key, shortcut, rest, -, equal⟩
  cases equal

/-- No row begins with the span of a link where original nodes or notes stand. -/
theorem not_startsWithLink_decorate {forest tail : Forest}
    (keysLt : ∀ key ∈ forest.keys, key < bound) (tailEnd : ¬ StartsWithLink bound tail)
    (after inside : Nat → Forest) :
    ¬ StartsWithLink bound (forest.decorate after inside ++ tail) := by
  cases forest with
  | nil => exact tailEnd
  | text content rest =>
      rintro ⟨key, shortcut, others, -, equal⟩
      cases equal
  | element head children rest =>
      rintro ⟨key, shortcut, others, keyLe, equal⟩
      have headEq : head = spanOf key shortcut := (Forest.element.inj equal).1
      have headLt := keysLt head.key (by simp)
      rw [headEq] at headLt
      exact Nat.not_le_of_lt headLt keyLe

theorem not_startsWithLink_noteRow (notes : List (Nat × String × String)) :
    ¬ StartsWithLink bound (noteRow notes) := by
  cases notes with
  | nil => exact not_startsWithLink_nil
  | cons note rest =>
      rintro ⟨key, shortcut, others, -, equal⟩
      have headEq := congrArg Element.tag (Forest.element.inj equal).1
      simp at headEq

theorem followed_noteRow {notes : List (Nat × String × String)} {element : Element}
    {row : Forest} (member : (element, row) ∈ (noteRow notes).followed) :
    ¬ StartsWithLink bound row := by
  induction notes with
  | nil => cases member
  | cons note rest ih =>
      have consEq : (noteRow (note :: rest)).followed = (noteOf note.1 note.2.1, noteRow rest) ::
          ((Forest.ofText note.2.2).followed ++ (noteRow rest).followed) := rfl
      rw [consEq, followed_ofText, List.nil_append, List.mem_cons] at member
      rcases member with first | later
      · obtain ⟨-, rfl⟩ := Prod.mk.inj first
        exact not_startsWithLink_noteRow rest
      · exact ih later

/-- What stands in a decorated row with a key below the bound stood there before. -/
theorem mem_of_lt {forest tail : Forest} (fresh : Fresh bound links notes)
    (tailFresh : ∀ key ∈ tail.keys, bound ≤ key) {element : Element}
    (member : element ∈ (forest.decorate (fun key => linkRow (links key))
      (fun key => noteRow (notes key)) ++ tail).elements)
    (keyLt : element.key < bound) : element ∈ forest.elements := by
  rw [Forest.elements_append, List.mem_append, Forest.mem_decorate] at member
  rcases member with (original | ⟨host, -, beside | held⟩) | inTail
  · exact original
  · exact (fresh.beyond.notMem_after keyLt host.key (Forest.mem_keys beside)).elim
  · exact (fresh.beyond.notMem_inside keyLt host.key (Forest.mem_keys held)).elim
  · exact (Nat.not_le_of_lt keyLt (tailFresh _ (Forest.mem_keys inTail))).elim

/-- What follows an element of a row of at most one span is the row after that span, or
nothing; what follows any other element is found after the row. -/
theorem mem_followed_linkRow {key : Nat} {next row : Forest} {element : Element}
    (fresh : Fresh bound links notes) (single : (links key).length ≤ 1)
    (member : (element, row) ∈ (linkRow (links key) ++ next).followed) :
    bound ≤ element.key ∧ (row = next ∨ row = .nil) ∨ (element, row) ∈ next.followed := by
  cases linksEq : links key with
  | nil =>
      rw [linksEq] at member
      exact Or.inr member
  | cons link others =>
      have alone : others = [] := by
        rw [linksEq, List.length_cons] at single
        exact List.length_eq_zero_iff.mp (by omega)
      have linkLe := fresh.links_le (linksEq ▸ List.mem_cons_self)
      have rowEq : linkRow [link] = shortcutNodes link.1 link.2 := Forest.append_nil _
      rw [linksEq, alone, rowEq, followed_shortcutNodes, List.mem_cons, List.mem_cons] at member
      rcases member with isSpan | isAnchor | later
      · obtain ⟨rfl, rfl⟩ := Prod.mk.inj isSpan
        exact Or.inl ⟨linkLe, Or.inl rfl⟩
      · obtain ⟨rfl, rfl⟩ := Prod.mk.inj isAnchor
        exact Or.inl ⟨Nat.le_succ_of_le linkLe, Or.inr rfl⟩
      · exact Or.inr later

/-- The span of a link stands right after an element exactly if it was put there. -/
theorem startsWithLink_iff {forest tail : Forest} (fresh : Fresh bound links notes)
    (keysLt : ∀ key ∈ forest.keys, key < bound) (single : ∀ key, (links key).length ≤ 1)
    (tailFresh : ∀ key ∈ tail.keys, bound ≤ key) (tailEnd : ¬ StartsWithLink bound tail)
    (tailPlain : ∀ element row, (element, row) ∈ tail.followed → ¬ StartsWithLink bound row)
    {element : Element} {row : Forest}
    (member : (element, row) ∈ (forest.decorate (fun key => linkRow (links key))
      (fun key => noteRow (notes key)) ++ tail).followed) :
    StartsWithLink bound row ↔ element ∈ forest.elements ∧ links element.key ≠ [] := by
  induction forest generalizing tail with
  | nil =>
      have plain := tailPlain element row member
      simp [plain, Forest.elements]
  | text content rest ih => exact ih keysLt tailFresh tailEnd tailPlain member
  | element head children rest inner ih =>
      have childrenLt : ∀ key ∈ children.keys, key < bound :=
        fun key member => keysLt key (by simp [member])
      have restLt : ∀ key ∈ rest.keys, key < bound :=
        fun key member => keysLt key (by simp [member])
      -- An element that occurs in a part of the decorated row is original there, or nowhere.
      have partIff {part others : Forest} (othersFresh : ∀ key ∈ others.keys, bound ≤ key)
          (occurs : (element, row) ∈ (part.decorate (fun key => linkRow (links key))
            (fun key => noteRow (notes key)) ++ others).followed)
          (partOf : element ∈ part.elements →
            element ∈ (Forest.element head children rest).elements) :
          element ∈ part.elements ↔ element ∈ (Forest.element head children rest).elements := by
        refine ⟨partOf, fun original => ?_⟩
        exact mem_of_lt fresh othersFresh (Forest.mem_elements_of_followed occurs)
          (keysLt element.key (Forest.mem_keys original))
      have furtherIff (further : (element, row) ∈ (rest.decorate
          (fun key => linkRow (links key)) (fun key => noteRow (notes key)) ++ tail).followed) :
          StartsWithLink bound row ↔ element ∈ (Forest.element head children rest).elements ∧
            links element.key ≠ [] := by
        rw [ih restLt tailFresh tailEnd tailPlain further]
        exact and_congr_left' (partIff tailFresh further fun inRest =>
          List.mem_cons_of_mem _ (List.mem_append_right _ inRest))
      have notNext := not_startsWithLink_decorate restLt tailEnd
        (fun key => linkRow (links key)) fun key => noteRow (notes key)
      rw [Forest.decorate, Forest.element_append, Forest.append_assoc, Forest.followed,
        List.mem_cons, List.mem_append] at member
      rcases member with here | below | further
      · obtain ⟨rfl, rfl⟩ := Prod.mk.inj here
        have original : element ∈ (Forest.element element children rest).elements :=
          List.mem_cons_self
        cases linksEq : links element.key with
        | nil => simpa [linkRow] using notNext
        | cons link others =>
            have linkLe := fresh.links_le (linksEq ▸ List.mem_cons_self)
            rw [linkRow_cons, Forest.append_assoc]
            refine iff_of_true ⟨link.1, link.2, _, linkLe, rfl⟩ ⟨original, by simp⟩
      · rw [inner childrenLt (fun key => fresh.beyond.inside_le)
          (not_startsWithLink_noteRow (notes head.key)) (fun _ _ => followed_noteRow) below]
        exact and_congr_left' (partIff (fun key => fresh.beyond.inside_le) below fun inChildren =>
          List.mem_cons_of_mem _ (List.mem_append_left _ inChildren))
      · rcases mem_followed_linkRow fresh (single head.key) further with ⟨newLe, rowEq⟩ | later
        · have notSpan : ¬ StartsWithLink bound row := by
            rcases rowEq with rfl | rfl
            · exact notNext
            · exact not_startsWithLink_nil
          refine iff_of_false notSpan fun both => ?_
          exact Nat.not_le_of_lt (keysLt element.key (Forest.mem_keys both.1)) newLe
        · exact furtherIff later

/-- What is put after an element stands right after it. -/
theorem exists_followed_decorate {forest : Forest} {element : Element}
    (member : element ∈ forest.elements) (after inside : Nat → Forest) (tail : Forest) :
    ∃ row, (element, after element.key ++ row) ∈
      (forest.decorate after inside ++ tail).followed := by
  induction forest generalizing tail with
  | nil => cases member
  | text content rest ih => exact ih member tail
  | element head children rest inner ih =>
      rw [Forest.decorate, Forest.element_append, Forest.followed, Forest.append_assoc]
      have later (row others : Forest) (found : (element, row) ∈ others.followed)
          (front : Forest) : (element, row) ∈ (front ++ others).followed := by
        induction front with
        | nil => exact found
        | text content rest ih => exact ih
        | element head children rest _ ih =>
            exact List.mem_cons_of_mem _ (List.mem_append_right _ ih)
      rw [Forest.elements, List.mem_cons, List.mem_append] at member
      rcases member with rfl | below | further
      · exact ⟨_, List.mem_cons_self⟩
      · obtain ⟨row, found⟩ := inner below (inside head.key)
        exact ⟨row, List.mem_cons_of_mem _ (List.mem_append_left _ found)⟩
      · obtain ⟨row, found⟩ := ih further tail
        exact ⟨row, List.mem_cons_of_mem _ (List.mem_append_right _ (later _ _ found _))⟩

/-! ### What a boot adds -/

/-- What a boot with some settings adds to a page, and what becomes of it. -/
structure BootAdds (page booted : Browser) (settings : Settings) : Prop where
  /-- Without the elements that were put in, the document is as it was. -/
  restored : booted.document.remove (fun key => page.nextKey ≤ key) = page.document
  /-- The span of a link stands right after each input of a known kind and nowhere else. -/
  follows : ∀ element row, (element, row) ∈ booted.document.followed →
    (StartsWithLink page.nextKey row ↔
      element ∈ page.inputs ∧ (element.fieldKind? settings).isSome)
  /-- There are as many spans as inputs of a known kind. -/
  spans : (booted.document.elements.countP fun element =>
      page.nextKey ≤ element.key && element.tag == "span") =
    page.inputs.countP fun element => (element.fieldKind? settings).isSome
  /-- The link after the input of a handle carries the handle; a click on it, whenever it
  comes, fills that input and moves the focus there, or leaves the document alone. -/
  bound : ∀ kind handle element, (linked settings page.inputs kind)[handle]? = some element →
    ∃ key shortcut row place,
      (element, shortcutNodes key shortcut ++ row) ∈ booted.document.followed ∧
      booted.links[place]? = some (anchorOf key shortcut) ∧
      shortcut.action.kind = kind ∧ shortcut.action.handle = handle ∧
      ∀ later, Later booted later →
        (∃ link, later.links[place]? = some link ∧ link.key = key + 1 ∧
          link.action = some shortcut.action) ∧
        ∃ session, later.slot = .resting session ∧
          match (Session.follow shortcut.action).run ⟨session, later⟩ with
          | .ok text _ =>
            (later.step (.click place)).2.document =
                later.document.modify element.key (Element.filled text) ∧
              (later.step (.click place)).2.active = some element.key
          | .error _ _ =>
            (later.step (.click place)).2.document = later.document ∧
              (later.step (.click place)).2.active = later.active

variable {page booted : Browser} {settings : Settings} {session : Session Nat}

theorem Booted.restored (boots : Booted page booted settings links notes session)
    (keyed : page.Keyed) :
    booted.document.remove (fun key => page.nextKey ≤ key) = page.document := by
  rw [boots.document_eq]
  exact boots.fresh.restored keyed

theorem Keyed.eq_of_key (keyed : page.Keyed) {first second : Element}
    (firstMember : first ∈ page.document.elements) (secondMember : second ∈ page.document.elements)
    (same : first.key = second.key) : first = second :=
  List.inj_on_of_nodup_map keyed.nodup firstMember secondMember same

/-- Exactly the inputs of known kinds have a link. -/
theorem Booted.length_links (boots : Booted page booted settings links notes session)
    (keyed : page.Keyed) {element : Element} (member : element ∈ page.document.elements) :
    (links element.key).length =
      if element.isInput ∧ (element.fieldKind? settings).isSome then 1 else 0 := by
  rw [boots.length_eq]
  apply if_congr _ rfl rfl
  constructor
  · rintro ⟨other, otherMember, same, known⟩
    obtain ⟨inDocument, isInput⟩ := List.mem_filter.mp otherMember
    obtain rfl := keyed.eq_of_key inDocument member same
    exact ⟨isInput, known⟩
  · rintro ⟨isInput, known⟩
    exact ⟨element, List.mem_filter.mpr ⟨member, isInput⟩, rfl, known⟩

theorem Booted.follows (boots : Booted page booted settings links notes session)
    (keyed : page.Keyed) {element : Element} {row : Forest}
    (member : (element, row) ∈ booted.document.followed) :
    StartsWithLink page.nextKey row ↔
      element ∈ page.inputs ∧ (element.fieldKind? settings).isSome := by
  have single (key : Nat) : (links key).length ≤ 1 := by
    rw [boots.length_eq]
    split <;> omega
  rw [boots.document_eq, ← Forest.append_nil (Forest.decorate _ _ _)] at member
  rw [startsWithLink_iff boots.fresh (fun key => keyed.lt) single (fun _ absent => by cases absent)
    not_startsWithLink_nil (fun _ _ absent => by cases absent) member]
  constructor
  · rintro ⟨original, hasLink⟩
    have lengthEq := boots.length_links keyed original
    split at lengthEq
    · next both => exact ⟨List.mem_filter.mpr ⟨original, both.1⟩, both.2⟩
    · exact (hasLink (List.length_eq_zero_iff.mp lengthEq)).elim
  · rintro ⟨isInput, known⟩
    obtain ⟨original, input⟩ := List.mem_filter.mp isInput
    refine ⟨original, fun noLink => ?_⟩
    have lengthEq := boots.length_links keyed original
    rw [noLink, if_pos ⟨input, known⟩] at lengthEq
    cases lengthEq

theorem Booted.spans (boots : Booted page booted settings links notes session)
    (keyed : page.Keyed) :
    (booted.document.elements.countP fun element =>
        page.nextKey ≤ element.key && element.tag == "span") =
      page.inputs.countP fun element => (element.fieldKind? settings).isSome := by
  have noOld : (page.document.elements.countP fun element =>
      page.nextKey ≤ element.key && element.tag == "span") = 0 := by
    rw [List.countP_eq_zero]
    intro element member
    have keyLt := keyed.lt (Forest.mem_keys member)
    simp only [Bool.and_eq_true, decide_eq_true_eq, not_and]
    omega
  have added : ∀ element ∈ page.document.elements,
      ((linkRow (links element.key)).elements.countP fun new =>
          page.nextKey ≤ new.key && new.tag == "span") +
        ((noteRow (notes element.key)).elements.countP fun new =>
          page.nextKey ≤ new.key && new.tag == "span") =
        if element.isInput ∧ (element.fieldKind? settings).isSome then 1 else 0 := by
    intro element member
    have noNotes : ((noteRow (notes element.key)).elements.countP fun new =>
        page.nextKey ≤ new.key && new.tag == "span") = 0 := by
      rw [List.countP_eq_zero, elements_noteRow]
      intro new newMember
      obtain ⟨note, -, rfl⟩ := List.mem_map.mp newMember
      simp [noteOf]
    have oneEach : ((linkRow (links element.key)).elements.countP fun new =>
        page.nextKey ≤ new.key && new.tag == "span") = (links element.key).length := by
      have fresh : ∀ link ∈ links element.key, page.nextKey ≤ link.1 :=
        fun _ => boots.fresh.links_le
      rw [elements_linkRow]
      generalize links element.key = spans at fresh
      induction spans with
      | nil => rfl
      | cons link rest ih =>
          have linkLe := fresh link List.mem_cons_self
          rw [List.flatMap_cons, List.countP_append,
            ih fun other otherMember => fresh other (by simp [otherMember])]
          simp [spanOf, anchorOf, linkLe, Nat.add_comm]
    rw [oneEach, noNotes, Nat.add_zero, boots.length_links keyed member]
  rw [boots.document_eq, Forest.countP_decorate, noOld, Nat.zero_add,
    List.map_congr_left added, inputs, List.countP_filter]
  induction page.document.elements with
  | nil => rfl
  | cons element rest ih =>
      rw [List.map_cons, List.sum_cons, ih, List.countP_cons]
      simp only [Bool.and_eq_true, and_comm]
      omega

theorem mem_linked {inputs : List Element} {kind : LinkKind} {element : Element} :
    element ∈ linked settings inputs kind ↔
      element ∈ inputs ∧ ∃ found, element.fieldKind? settings = some found ∧
        found.linkKind = kind := by
  rw [linked, List.mem_filter, Option.any_eq_true]
  simp only [beq_iff_eq]

theorem Booted.link_of_handle (boots : Booted page booted settings links notes session)
    (keyed : page.Keyed) {kind : LinkKind} {handle : Nat} {element : Element}
    (numbered : (linked settings page.inputs kind)[handle]? = some element) :
    ∃ link, links element.key = [link] ∧ link.2.action.kind = kind ∧
      link.2.action.handle = handle := by
  obtain ⟨isInput, found, known, kindEq⟩ := mem_linked.mp (List.mem_of_getElem? numbered)
  obtain ⟨original, input⟩ := List.mem_filter.mp isInput
  have lengthEq := boots.length_links keyed original
  rw [known, if_pos ⟨input, rfl⟩] at lengthEq
  obtain ⟨link, linksEq⟩ := List.length_eq_one_iff.mp lengthEq
  have linkMember : link ∈ links element.key := by simp [linksEq]
  have resolved := boots.resolves linkMember
  rw [boots.inputs_eq, List.getElem?_map] at resolved
  obtain ⟨other, otherFound, sameKey⟩ := Option.map_eq_some_iff.mp resolved
  obtain ⟨otherInput, otherKind, otherKnown, otherKindEq⟩ :=
    mem_linked.mp (List.mem_of_getElem? otherFound)
  obtain rfl := keyed.eq_of_key (List.mem_of_mem_filter otherInput) original sameKey
  have kindNamed : link.2.action.kind = kind := by
    rw [← otherKindEq, ← kindEq, Option.some.inj (otherKnown.symm.trans known)]
  refine ⟨link, linksEq, kindNamed, ?_⟩
  rw [kindNamed] at otherFound
  have nodup : (linked settings page.inputs kind).Nodup :=
    (List.Nodup.of_map _ (inputs_keys_nodup keyed)).filter _
  exact (List.getElem?_inj (List.getElem?_eq_some_iff.mp otherFound).1 nodup).mp
    (otherFound.trans numbered.symm)

/-- After plain events the links of a page stand where they stood. -/
theorem exists_link_later {later : Browser} {place : Nat} {link : Element}
    (elementsEq : later.document.elements.map Element.blank =
      booted.document.elements.map Element.blank)
    (found : booted.links[place]? = some link) :
    ∃ other, later.links[place]? = some other ∧ other.key = link.key ∧
      other.action = link.action := by
  have blanks (page : Browser) : page.links.map Element.blank =
      (page.document.elements.map Element.blank).filter fun element => element.tag == "a" := by
    rw [List.filter_map]
    rfl
  have linksEq : later.links.map Element.blank = booted.links.map Element.blank := by
    rw [blanks, blanks, elementsEq]
  have placed : (later.links.map Element.blank)[place]? = some link.blank := by
    rw [linksEq, List.getElem?_map, found, Option.map_some]
  rw [List.getElem?_map] at placed
  obtain ⟨other, otherFound, same⟩ := Option.map_eq_some_iff.mp placed
  exact ⟨other, otherFound, (Element.mk.inj same).1, (Element.mk.inj same).2.2.2.2.2.2⟩

/-- A boot that succeeds on a page without focus listeners only adds links and notes to
the document, and each link stays bound to the input before it.  Any page that was opened
with a document is keyed, whatever the document. -/
theorem boot_adds (keyed : page.Keyed) (quiet : page.listeners = []) (idle : page.clicked = none)
    {start : StartSettings} {holder : Holder} {found : BootReport}
    (boots : page.boot start holder = (.ok found, booted)) :
    BootAdds page booted start.settings := by
  obtain ⟨links, notes, session, done⟩ := boot_eq_ok keyed boots
  refine ⟨done.restored keyed, fun _ _ => done.follows keyed, done.spans keyed, ?_⟩
  intro kind handle element numbered
  obtain ⟨⟨key, shortcut⟩, linksEq, kindEq, handleEq⟩ := done.link_of_handle keyed numbered
  have isInput := (mem_linked.mp (List.mem_of_getElem? numbered)).1
  have original := List.mem_of_mem_filter isInput
  have inDocument : anchorOf key shortcut ∈ booted.document.elements := by
    rw [done.document_eq, Forest.mem_decorate]
    refine Or.inr ⟨element, original, Or.inl ?_⟩
    rw [linksEq, elements_linkRow]
    simp
  have inLinks : anchorOf key shortcut ∈ booted.links :=
    List.mem_filter.mpr ⟨inDocument, by simp [anchorOf]⟩
  obtain ⟨place, placed⟩ := List.getElem?_of_mem inLinks
  obtain ⟨row, follows⟩ := exists_followed_decorate original (fun key => linkRow (links key))
    (fun key => noteRow (notes key)) .nil
  rw [Forest.append_nil, ← done.document_eq, linksEq, linkRow_cons, Forest.append_assoc] at follows
  have resolved : session.registry.resolve shortcut.action.kind shortcut.action.handle =
      .ok element.key := by
    rw [Registry.resolve_eq_ok, kindEq, handleEq, done.inputs_eq, List.getElem?_map, numbered,
      Option.map_some]
  have settledNow : Settled (booted.document.elements.map Element.blank) session.registry none
      booted :=
    ⟨rfl, ⟨session, done.slot_eq, rfl⟩, done.object_isSome, done.listeners_eq.trans quiet,
      done.clicked_eq.trans idle⟩
  refine ⟨key, shortcut, _, place, follows, placed, kindEq, handleEq, ?_⟩
  intro later reached
  have settled := settledNow.later reached
  obtain ⟨link, linkPlaced, linkKey, linkAction⟩ := exists_link_later settled.elements_eq placed
  have inside : later.document.contains element.key = true := by
    have inBooted : element ∈ booted.document.elements := by
      rw [done.document_eq, Forest.mem_decorate]
      exact Or.inl original
    rw [contains_eq_keys, keys_eq_map_blank, settled.elements_eq, ← keys_eq_map_blank,
      List.contains_iff_mem]
    exact Forest.mem_keys inBooted
  exact ⟨⟨link, linkPlaced, linkKey, linkAction⟩,
    click_settled settled linkPlaced linkAction resolved inside⟩

/-- A form with a day and an hour, the hour inside a label. -/
def diaryForm : Forest :=
  let day : Element :=
    { key := 0, tag := "input", attributes := [("type", "date"), ("class", "vDateField")] }
  let hour : Element :=
    { key := 0, tag := "input", attributes := [("type", "time"), ("class", "big vTimeField")] }
  .element { key := 0, tag := "form" } (.element day .nil (.text " at "
    (.element { key := 0, tag := "label" } (.element hour .nil .nil) .nil))) .nil

/-- A page that was opened with that form, by a browser without a clock. -/
def diary : Browser :=
  ofDocument diaryForm ⟨none, none⟩

theorem boot_adds_diary :
    (diary.boot {} .script).1 = .ok ⟨0, ⟨2, 1, 1, 0⟩⟩ ∧
      BootAdds diary (diary.boot {} .script).2 .standard := by
  have succeeds : (diary.boot {} .script).1 = .ok ⟨0, ⟨2, 1, 1, 0⟩⟩ := rfl
  have keyed : diary.Keyed := keyed_ofDocument diaryForm ⟨none, none⟩
  exact ⟨succeeds, boot_adds keyed rfl rfl (Prod.ext succeeds rfl)⟩

end Browser

end QuickFill
