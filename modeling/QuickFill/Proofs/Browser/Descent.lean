import QuickFill.Proofs.Browser.AtRest

/-!
# What becomes of elements

Readers and scripts fill in, hide, describe and remove the elements of a page, and add new
ones.  Through all of it an element keeps its key, its tag and what a click on it does, and
no key is given to two elements.  So whatever is found in a document later can be traced
back to what stood there before, or is new.
-/

namespace QuickFill

/-- An element without what readers and scripts can change. -/
def Element.bare (element : Element) : Element :=
  { element with attributes := [], value := "", hidden := false }

namespace Forest

theorem keys_eq_map_bare (forest : Forest) :
    forest.keys = (forest.elements.map Element.bare).map Element.key := by
  rw [List.map_map]
  rfl

theorem perm_before {first changed added : List Element} (perm : changed.Perm (first ++ added))
    (rest : List Element) : (changed ++ rest).Perm (first ++ rest ++ added) := by
  refine (perm.append_right rest).trans ?_
  rw [List.append_assoc, List.append_assoc]
  exact List.perm_append_comm.append_left first

/-- What is put after an element is added to the elements. -/
theorem perm_insertAfter {forest : Forest} {key : Nat} (nodup : forest.keys.Nodup)
    (member : key ∈ forest.keys) (inserted : Forest) :
    (forest.insertAfter key inserted).elements.Perm (forest.elements ++ inserted.elements) := by
  induction forest with
  | nil => cases member
  | text content rest ih => exact ih nodup member
  | element head children rest inner ih =>
      rw [keys_element, List.nodup_cons, List.nodup_append] at nodup
      obtain ⟨-, innerNodup, restNodup, apart⟩ := nodup
      rw [keys_element, List.mem_cons, List.mem_append] at member
      rw [insertAfter]
      split
      · rw [elements, elements, elements_append, List.cons_append, List.append_assoc]
        exact (List.perm_append_comm.append_left _).cons head
      · next other =>
        rcases member with same | below | further
        · exact absurd same.symm other
        · have absent : key ∉ rest.keys := fun inRest => apart key below key inRest rfl
          rw [insertAfter_of_notMem absent, elements, elements, List.cons_append]
          exact (perm_before (inner innerNodup below) rest.elements).cons head
        · have absent : key ∉ children.keys := fun inside => apart key inside key further rfl
          rw [insertAfter_of_notMem absent, elements, elements, List.cons_append,
            List.append_assoc]
          exact ((ih restNodup further).append_left _).cons head

/-- So is what is put at the end of the content of an element. -/
theorem perm_modifyContent {forest : Forest} {key : Nat} (nodup : forest.keys.Nodup)
    (member : key ∈ forest.keys) (added : Forest) :
    (forest.modifyContent key fun content => content ++ added).elements.Perm
      (forest.elements ++ added.elements) := by
  induction forest with
  | nil => cases member
  | text content rest ih => exact ih nodup member
  | element head children rest inner ih =>
      rw [keys_element, List.nodup_cons, List.nodup_append] at nodup
      obtain ⟨headApart, innerNodup, restNodup, apart⟩ := nodup
      rw [keys_element, List.mem_cons, List.mem_append] at member
      rw [modifyContent]
      split
      · next same =>
        have absent : key ∉ rest.keys := fun inRest =>
          headApart (List.mem_append_right _ (same ▸ inRest))
        rw [modifyContent_of_notMem absent, elements, elements, List.cons_append]
        exact (perm_before (by rw [elements_append]) rest.elements).cons head
      · next other =>
        rcases member with same | below | further
        · exact absurd same.symm other
        · have absent : key ∉ rest.keys := fun inRest => apart key below key inRest rfl
          rw [modifyContent_of_notMem absent, elements, elements, List.cons_append]
          exact (perm_before (inner innerNodup below) rest.elements).cons head
        · have absent : key ∉ children.keys := fun inside => apart key inside key further rfl
          rw [modifyContent_of_notMem absent, elements, elements, List.cons_append,
            List.append_assoc]
          exact ((ih restNodup further).append_left _).cons head

theorem sublist_remove (forest : Forest) (drops : Nat → Bool) :
    (forest.remove drops).elements.Sublist forest.elements := by
  induction forest with
  | nil => exact List.Sublist.refl []
  | text content rest ih => exact ih
  | element head children rest inner ih =>
      rw [remove]
      split
      · exact (ih.trans (List.sublist_append_right _ _)).cons head
      · exact (inner.append ih).cons_cons head

end Forest

namespace Browser

/-- A page that has come about from a page with keys of their own: it has such keys, too,
and what stands in its document under a key that was given before stood there before. -/
structure Descends (page after : Browser) : Prop where
  keyed : after.Keyed
  nextKey_le : page.nextKey ≤ after.nextKey
  origin : ∀ element ∈ after.document.elements, element.key < page.nextKey →
    element.bare ∈ page.document.elements.map Element.bare
  clicked_eq : after.clicked = page.clicked

variable {page after : Browser}

theorem Descends.trans {middle : Browser} (first : Descends page middle)
    (second : Descends middle after) : Descends page after where
  keyed := second.keyed
  nextKey_le := Nat.le_trans first.nextKey_le second.nextKey_le
  origin element member given := by
    obtain ⟨found, foundMember, same⟩ := List.mem_map.mp
      (second.origin element member (Nat.lt_of_lt_of_le given first.nextKey_le))
    have sameKey : found.key = element.key := (congrArg Element.key same :)
    rw [← same]
    exact first.origin found foundMember (sameKey ▸ given)
  clicked_eq := second.clicked_eq.trans first.clicked_eq

/-! ### Changes of a document -/

/-- What changes neither the elements nor their number. -/
theorem descends_of_bare (keyed : page.Keyed)
    (bareEq : after.document.elements.map Element.bare = page.document.elements.map Element.bare)
    (nextKeyEq : after.nextKey = page.nextKey) (clickedEq : after.clicked = page.clicked) :
    Descends page after where
  keyed := by
    have keysEq : after.document.keys = page.document.keys := by
      rw [Forest.keys_eq_map_bare, bareEq, ← Forest.keys_eq_map_bare]
    refine ⟨?_, fun {key} member => ?_⟩
    · rw [keysEq]
      exact keyed.nodup
    · rw [keysEq] at member
      rw [nextKeyEq]
      exact keyed.lt member
  nextKey_le := Nat.le_of_eq nextKeyEq.symm
  origin element member _ := by
    rw [← bareEq]
    exact List.mem_map_of_mem member
  clicked_eq := clickedEq

theorem Keyed.descends_self (keyed : page.Keyed) : Descends page page :=
  descends_of_bare keyed rfl rfl rfl

/-- Elements with new keys are added. -/
theorem descends_of_perm (keyed : page.Keyed) {added : Forest}
    (perm : after.document.elements.Perm (page.document.elements ++ added.elements))
    (nodup : added.keys.Nodup)
    (new : ∀ key ∈ added.keys, page.nextKey ≤ key ∧ key < after.nextKey)
    (nextKeyLe : page.nextKey ≤ after.nextKey) (clickedEq : after.clicked = page.clicked) :
    Descends page after := by
  have keysPerm : after.document.keys.Perm (page.document.keys ++ added.keys) := by
    have mapped := perm.map Element.key
    rwa [List.map_append] at mapped
  refine ⟨⟨?_, fun {key} member => ?_⟩, nextKeyLe, fun element member given => ?_, clickedEq⟩
  · rw [keysPerm.nodup_iff, List.nodup_append]
    refine ⟨keyed.nodup, nodup, ?_⟩
    rintro key old other fresh rfl
    exact Nat.not_le_of_lt (keyed.lt old) (new key fresh).1
  · rcases List.mem_append.mp (keysPerm.mem_iff.mp member) with old | fresh
    · exact Nat.lt_of_lt_of_le (keyed.lt old) nextKeyLe
    · exact (new key fresh).2
  · rcases List.mem_append.mp (perm.mem_iff.mp member) with old | fresh
    · exact List.mem_map_of_mem old
    · exact absurd given (Nat.not_lt_of_le (new _ (Forest.mem_keys fresh)).1)

/-- Keys may be left out. -/
theorem descends_skip (keyed : page.Keyed) {next : Nat} (nextLe : page.nextKey ≤ next) :
    Descends page { page with nextKey := next } :=
  ⟨⟨keyed.nodup, fun member => Nat.lt_of_lt_of_le (keyed.lt member) nextLe⟩, nextLe,
    fun _ member _ => List.mem_map_of_mem member, rfl⟩

section Added

variable {nodes : Forest} {next : Nat} (keyed : page.Keyed) (nodup : nodes.keys.Nodup)
  (new : ∀ key ∈ nodes.keys, page.nextKey ≤ key ∧ key < next) (nextLe : page.nextKey ≤ next)

include keyed nodup new nextLe

theorem descends_insertAfter (key : Nat) :
    Descends page
      { page with document := page.document.insertAfter key nodes, nextKey := next } := by
  by_cases member : key ∈ page.document.keys
  · exact descends_of_perm keyed (Forest.perm_insertAfter keyed.nodup member nodes) nodup new
      nextLe rfl
  · rw [Forest.insertAfter_of_notMem member]
    exact descends_skip keyed nextLe

theorem descends_modifyContent (key : Nat) :
    Descends page
      { page with
        document := page.document.modifyContent key fun content => content ++ nodes
        nextKey := next } := by
  by_cases member : key ∈ page.document.keys
  · exact descends_of_perm keyed (Forest.perm_modifyContent keyed.nodup member nodes) nodup new
      nextLe rfl
  · rw [Forest.modifyContent_of_notMem member]
    exact descends_skip keyed nextLe

end Added

theorem descends_modify (keyed : page.Keyed) (key : Nat) {alter : Element → Element}
    (keeps : ∀ element, (alter element).bare = element.bare) :
    Descends page { page with document := page.document.modify key alter } :=
  descends_of_bare keyed (page.document.map_elements_modify key keeps) rfl rfl

theorem descends_remove (keyed : page.Keyed) (drops : Nat → Bool) :
    Descends page { page with document := page.document.remove drops } := by
  have kept := page.document.sublist_remove drops
  have keysKept : (page.document.remove drops).keys.Sublist page.document.keys :=
    kept.map Element.key
  exact ⟨⟨keyed.nodup.sublist keysKept, fun member => keyed.lt (keysKept.subset member)⟩,
    Nat.le_refl _, fun element member _ => List.mem_map_of_mem (kept.subset member), rfl⟩

theorem descends_log (keyed : page.Keyed) (event : LogEvent) : Descends page (page.log event) := by
  obtain ⟨console, loggedEq⟩ := log_eq page event
  rw [loggedEq]
  exact descends_of_bare keyed rfl rfl rfl

theorem descends_logFailure (keyed : page.Keyed) (fault : Fault) :
    Descends page (page.logFailure fault) := by
  obtain ⟨console, loggedEq⟩ := logFailure_eq page fault
  rw [loggedEq]
  exact descends_of_bare keyed rfl rfl rfl

/-! ### Boots -/

theorem keys_shortcutNodes (key : Nat) (shortcut : Shortcut) :
    (shortcutNodes key shortcut).keys = [key, key + 1] := by
  rw [Forest.keys, elements_shortcutNodes]
  rfl

theorem keys_noteNodes (key : Nat) (classAttribute text : String) :
    (noteNodes key classAttribute text).keys = [key] := by
  rw [Forest.keys, elements_noteNodes]
  rfl

theorem descends_insertShortcut (keyed : page.Keyed) {key : Nat} {shortcut : Shortcut}
    (inserted : page.insertShortcut key shortcut = .ok after) : Descends page after := by
  simp only [insertShortcut, bind, Except.bind, pure, Except.pure] at inserted
  split at inserted
  · cases inserted
  · split at inserted
    · cases inserted
    · obtain rfl := Except.ok.inj inserted
      refine descends_insertAfter keyed ?_ ?_ (Nat.le_add_right _ _) key
      · simp [keys_shortcutNodes]
      · simp [keys_shortcutNodes]

theorem descends_appendNote (keyed : page.Keyed) {key : Nat} {note : Note}
    (appended : page.appendNote key note = .ok after) : Descends page after := by
  simp only [appendNote, bind, Except.bind, pure, Except.pure] at appended
  split at appended
  · cases appended
  · split at appended
    · cases appended
    · split at appended
      · cases appended
      · obtain rfl := Except.ok.inj appended
        refine descends_modifyContent keyed ?_ ?_ (Nat.le_add_right _ _) _
        · simp [keys_noteNodes]
        · simp [keys_noteNodes]

theorem attachClosed_descends (page : Browser) :
    Session.AttachClosed fun running : Running Browser Nat => Descends page running.page where
  logged event before := before.trans (descends_log before.keyed event)
  begun before := before
  registered _ _ before := before
  linked before inserted := before.trans (descends_insertShortcut before.keyed inserted)
  noted before appended := before.trans (descends_appendNote before.keyed appended)

theorem descends_startSession (keyed : page.Keyed) (settings : Settings) (holder : Holder) :
    Descends page (page.startSession settings holder).2 := by
  have closed := attachClosed_descends page
  let session : Session Nat :=
    { settings := settings
      gap := ZoneGap.between page.reading.instant.offset page.serverOffset? }
  have fresh : Descends page (Running.mk session page.bindLinks).page :=
    descends_of_bare keyed rfl rfl rfl
  have created : Descends page
      (Session.create page.bindLinks settings page.serverOffset? : Running Browser Nat).page :=
    closed.logged _ fresh
  have started := closed.start _ created
  rw [Session.final] at started
  rw [startSession]
  cases outcome : Session.start.run
      (Session.create page.bindLinks settings page.serverOffset?) with
  | ok report running =>
      rw [outcome] at started
      exact started.trans (descends_of_bare started.keyed rfl rfl rfl)
  | error fault running =>
      rw [outcome] at started
      exact started.trans (descends_of_bare started.keyed rfl rfl rfl)

theorem descends_boot (keyed : page.Keyed) (start : StartSettings) (holder : Holder) :
    Descends page (page.boot start holder).2 := by
  rw [boot_eq]
  split
  · exact descends_of_bare keyed rfl rfl rfl
  · have claimed : Descends page { page with verbosity := start.verbosity, guard := ⟨true⟩ } :=
      descends_of_bare keyed rfl rfl rfl
    exact claimed.trans (descends_startSession claimed.keyed start.settings holder)

theorem descends_bootPending (keyed : page.Keyed) (start : StartSettings) :
    Descends page (page.bootPending start) := by
  have booted := descends_boot keyed start .window
  obtain ⟨console, waited⟩ := bootPending_eq page start
  rw [waited]
  exact booted.trans (descends_of_bare booted.keyed rfl rfl rfl)

theorem descends_load (keyed : page.Keyed) : Descends page page.load := by
  have each (starts : List StartSettings) {middle : Browser} (before : Descends page middle) :
      Descends page (starts.foldl bootPending middle) := by
    induction starts generalizing middle with
    | nil => exact before
    | cons start rest ih => exact ih (before.trans (descends_bootPending before.keyed start))
  exact each page.pending (descends_of_bare keyed rfl rfl rfl)

theorem descends_install (keyed : page.Keyed) (choices : Option Json) :
    Descends page (page.install choices).2 := by
  rw [install_eq]
  cases page.installing choices with
  | onLoad start => exact descends_of_bare keyed rfl rfl rfl
  | now start => exact descends_boot keyed start .window
  | refused fault => exact keyed.descends_self

/-! ### Events -/

section Respond

variable {service : Service}
  (served : ∀ request {page : Browser}, page.Keyed → Descends page (service request page).2)

include served

theorem descends_followLink (keyed : page.Keyed) (link : QuickLink) :
    Descends page (followLink service page link) := by
  have after := served (.follow link) keyed
  rw [followLink]
  split
  · exact descends_log keyed _
  · exact keyed.descends_self
  · split
    · next equal =>
      rw [equal] at after
      exact after
    · next equal =>
      rw [equal] at after
      exact after.trans (descends_log after.keyed _)
    · next equal =>
      rw [equal] at after
      exact after.trans (descends_logFailure after.keyed _)
    · next equal =>
      rw [equal] at after
      exact after

/-- Whatever event it is, what stands in the document afterwards is old or new. -/
theorem descends_respond (keyed : page.Keyed) (event : PageEvent) :
    Descends page (page.respond service event).2 := by
  cases event with
  | boot choices =>
      rw [respond, bootScript]
      cases StartSettings.ofChoices choices with
      | error fault => exact keyed.descends_self
      | ok start => exact descends_boot keyed start .script
  | install choices => exact descends_install keyed choices
  | load => exact descends_load keyed
  | release =>
      rw [respond]
      split <;> exact descends_of_bare keyed rfl rfl rfl
  | describe holder =>
      rw [respond]
      split <;> exact keyed.descends_self
  | call holder call =>
      rcases respond_call_cases service page holder call with same | ⟨request, -, answered⟩
      · rw [same]
        exact keyed.descends_self
      · rw [answered]
        exact served request keyed
  | click place =>
      rcases respond_click_cases service page place with same | ⟨key, link, -, followed⟩
      · rw [same]
        exact keyed.descends_self
      · rw [followed]
        have clicked : Keyed { page with clicked := some key } := ⟨keyed.nodup, keyed.lt⟩
        have descends := descends_followLink served clicked link
        exact ⟨⟨descends.keyed.nodup, descends.keyed.lt⟩, descends.nextKey_le, descends.origin, rfl⟩
  | listen id events =>
      rw [respond, listen]
      split <;> exact descends_of_bare keyed rfl rfl rfl
  | blur => exact descends_of_bare keyed rfl rfl rfl
  | setReading reading => exact descends_of_bare keyed rfl rfl rfl
  | setReadyState state => exact descends_of_bare keyed rfl rfl rfl
  | setGlobal name function =>
      rw [respond, setGlobal]
      split
      · split <;> exact descends_of_bare keyed rfl rfl rfl
      · exact descends_of_bare keyed rfl rfl rfl
  | setAttribute id name value =>
      rw [respond, setAttribute]
      split
      · exact keyed.descends_self
      · refine descends_modify keyed _ fun element => ?_
        cases value <;> rfl
  | append id nodes =>
      rw [respond, appendTo]
      split
      · exact keyed.descends_self
      · obtain ⟨keysEq, nextEq⟩ := nodes.keys_number page.nextKey
        refine descends_modifyContent keyed ?_ ?_ ?_ _
        · rw [keysEq]
          exact List.nodup_range'
        · intro key member
          rw [keysEq, List.mem_range'_1] at member
          rw [nextEq]
          exact member
        · rw [nextEq]
          exact Nat.le_add_right _ _
  | remove id =>
      rw [respond, removeElement]
      split
      · exact keyed.descends_self
      · next element _ =>
        have removed := descends_remove keyed fun key => key == element.key
        exact removed.trans (descends_of_bare removed.keyed rfl rfl rfl)

end Respond

theorem descends_respondBusy (keyed : page.Keyed) (event : PageEvent) :
    Descends page (page.respondBusy event) := by
  have turnedAway (request : SessionRequest) {page : Browser} (keyed : page.Keyed) :
      Descends page (Service.busy request page).2 := keyed.descends_self
  have responded := descends_respond turnedAway keyed event
  exact responded.trans (descends_of_bare responded.keyed rfl rfl rfl)

theorem descends_moveFocus (keyed : page.Keyed) (key : Nat) :
    Descends page (page.moveFocus key) := by
  have each (events : List PageEvent) {middle : Browser} (before : Descends page middle) :
      Descends page (events.foldl respondBusy middle) := by
    induction events generalizing middle with
    | nil => exact before
    | cons event rest ih => exact ih (before.trans (descends_respondBusy before.keyed event))
  rw [moveFocus]
  split
  · exact each _ (descends_of_bare keyed rfl rfl rfl)
  · exact keyed.descends_self

theorem fillClosed_descends (page : Browser) :
    Session.FillClosed fun running : Running Browser Nat => Descends page running.page where
  logged event before := before.trans (descends_log before.keyed event)
  written before written := by
    obtain rfl := Except.ok.inj written
    exact before.trans (descends_modify before.keyed _ fun _ => rfl)
  focused before focused := by
    obtain rfl := Except.ok.inj focused
    exact before.trans (descends_moveFocus before.keyed _)
  hidden before hidden := by
    obtain ⟨key, rfl⟩ := hide_eq_ok hidden
    exact before.trans (descends_modify before.keyed _ fun _ => rfl)

theorem descends_serve (request : SessionRequest) {page : Browser} (keyed : page.Keyed) :
    Descends page (page.serve request).2 := by
  cases slot : page.slot with
  | resting session =>
      have working : Descends page { page with slot := .working } :=
        descends_of_bare keyed rfl rfl rfl
      have served := (fillClosed_descends page).serve request ⟨session, _⟩ working
      rcases serve_eq_final slot request with rested | breaks
      · rw [rested]
        exact served.trans (descends_of_bare served.keyed rfl rfl rfl)
      · rw [breaks]
        exact served.trans (descends_of_bare served.keyed rfl rfl rfl)
  | _ =>
      rw [serve, slot]
      exact keyed.descends_self

theorem descends_step (keyed : page.Keyed) (event : PageEvent) :
    Descends page (page.step event).2 := by
  have cleared : Descends page { page with console := [], nested := [] } :=
    descends_of_bare keyed rfl rfl rfl
  exact cleared.trans (descends_respond descends_serve cleared.keyed event)

/-- Whatever happens to a page, its document descends from what it was. -/
theorem After.descends {booted : Browser} (keyed : booted.Keyed) (reached : After booted page) :
    Descends booted page := by
  induction reached with
  | now => exact keyed.descends_self
  | step event _ _ ih => exact ih.trans (descends_step ih.keyed event)
  | waited start _ ih => exact ih.trans (descends_bootPending ih.keyed start)

/-- A page that was opened with a document stays keyed, and deals with no click between two
events. -/
theorem After.ready {document : Forest} {reading : BrowserReading} {selectors : SelectorReader}
    (reached : After (ofDocument document reading selectors) page) :
    page.Keyed ∧ page.clicked = none := by
  have descends := reached.descends (keyed_ofDocument document reading)
  exact ⟨descends.keyed, descends.clicked_eq⟩

end Browser

end QuickFill
