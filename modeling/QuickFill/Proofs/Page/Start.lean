import QuickFill.Proofs.Page.Calls
import Mathlib.Data.Finset.Card

/-!
# Starting a session on a page in memory

What a start puts on a page can be read off the page as it was before: a link after
every input of a known kind, and a note in every container that holds such an input
and nothing with the class of notes.  This file says so for the inputs that have been
dealt with at some moment of the search, and proves by induction on the others
that the search ends with all of them.
-/

namespace QuickFill

namespace Page

def fieldKind? (page : Page) (settings : Settings) (number : Nat) : Option FieldKind :=
  (Workbench.field? page number).bind fun found => found.kind? settings

/-- Whether something in a container carries a class. -/
def isMarked (page : Page) (home : Nat) (name : String) : Bool :=
  page.containers[home]?.any fun container => container.nodes.any (page.nodeHasClass name)

end Page

namespace PageSession

variable (before : PageSession)

/-- The kind of fields that an input is of, by the settings of the session. -/
def fieldKind? (number : Nat) : Option FieldKind :=
  before.page.page.fieldKind? before.session.settings number

def linked (dealt : List Nat) (kind : LinkKind) : List Nat :=
  dealt.filter fun number => (fieldKind? before number).any fun found => found.linkKind == kind

/-- The span put after an input; its handle counts the inputs registered before it,
those of earlier times and those of this search. -/
def startLink (dealt : List Nat) (number : Nat) (kind : FieldKind) : Shortcut :=
  let handle := (before.session.registry.inputs kind.linkKind).length +
    (linked before dealt kind.linkKind).idxOf number
  Session.shortcutOf before kind.label (kind.action before.session.settings handle)

/-- The spans put after an input. -/
def startLinks (dealt : List Nat) (number : Nat) : List Shortcut :=
  match fieldKind? before number with
  | some kind => if number ∈ dealt then [startLink before dealt number kind] else []
  | none => []

/-- The note that the gap to the clock of the server calls for.  It never gets on the
page when spans of links carry the class of notes: the span put first passes for
a note. -/
def startNote? : Option Note :=
  let settings := before.session.settings
  if settings.shortcutsClass = settings.noteClass then none
  else (before.session.gap.noteText? before.page.translator).map fun text =>
    ⟨[settings.helpClass, settings.noteClass], text⟩

/-- The containers that get the note: they hold an input of a known kind and nothing
that carries the class of notes. -/
def notedHomes (dealt : List Nat) : Finset Nat :=
  (Finset.range before.page.page.containers.length).filter fun home =>
    (startNote? before).isSome ∧
      ¬ before.page.page.isMarked home before.session.settings.noteClass ∧
        ∃ number ∈ dealt, (fieldKind? before number).isSome ∧
          before.page.page.homes[number]? = some home

def startNotes (dealt : List Nat) (home : Nat) : List Note :=
  if home ∈ notedHomes before dealt then (startNote? before).toList else []

/-- What a search reports when it has dealt with some inputs. -/
def startReport (dealt : List Nat) : StartReport where
  scanned := dealt.length
  clockInputs := (linked before dealt .clock).length
  calendarInputs := (linked before dealt .calendar).length
  notes := (notedHomes before dealt).card

/-- A session whose search has put links after some inputs and notes beside some. -/
def searched (dealt noted : List Nat) (log : List LogEvent) : PageSession where
  session := { before.session with
    registry := before.session.registry.extend (linked before dealt)
    started := true }
  page := { before.page with
    page := before.page.page.decorated (startLinks before dealt) (startNotes before noted)
    log := log }

variable {before : PageSession} {dealt : List Nat} {number home : Nat} {kind : FieldKind}

/-! ### One more input -/

theorem linked_append (other : LinkKind) :
    linked before (dealt ++ [number]) other =
      linked before dealt other ++
        if (fieldKind? before number).any fun found => found.linkKind == other then [number]
        else [] := by
  rw [linked, List.filter_append, List.filter_singleton, cond_eq_ite]
  rfl

theorem linked_append_of_none (dealt : List Nat) (unknown : fieldKind? before number = none) :
    linked before (dealt ++ [number]) = linked before dealt := by
  funext other
  rw [linked_append, unknown]
  simp

theorem linked_append_of_some (known : fieldKind? before number = some kind) (other : LinkKind) :
    linked before (dealt ++ [number]) other =
      if other = kind.linkKind then linked before dealt other ++ [number]
      else linked before dealt other := by
  rw [linked_append, known]
  by_cases same : other = kind.linkKind
  · simp [same]
  · simp [same, Ne.symm same]

theorem startLink_append (member : number ∈ dealt) (known : fieldKind? before number = some kind)
    (others : List Nat) :
    startLink before (dealt ++ others) number kind = startLink before dealt number kind := by
  have inLinked : number ∈ linked before dealt kind.linkKind := by
    rw [linked, List.mem_filter, known]
    exact ⟨member, by simp⟩
  have placeEq : (linked before (dealt ++ others) kind.linkKind).idxOf number =
      (linked before dealt kind.linkKind).idxOf number := by
    rw [linked, List.filter_append]
    exact List.idxOf_append_of_mem inLinked
  rw [startLink, startLink, placeEq]

theorem startLinks_append_of_ne {other : Nat} (differs : other ≠ number) :
    startLinks before (dealt ++ [number]) other = startLinks before dealt other := by
  rw [startLinks, startLinks]
  cases known : fieldKind? before other with
  | none => rfl
  | some kind =>
      by_cases member : other ∈ dealt
      · simp [member, startLink_append member known]
      · simp [member, differs]

theorem startLinks_of_notMem (absent : number ∉ dealt) : startLinks before dealt number = [] := by
  rw [startLinks]
  cases fieldKind? before number <;> simp [absent]

theorem startLinks_append_of_none (unknown : fieldKind? before number = none) :
    startLinks before (dealt ++ [number]) = startLinks before dealt := by
  funext other
  by_cases same : other = number
  · rw [startLinks, startLinks, same, unknown]
  · exact startLinks_append_of_ne same

/-- The next input of a kind gets the next handle. -/
theorem startLinks_append_of_some (absent : number ∉ dealt)
    (known : fieldKind? before number = some kind) :
    startLinks before (dealt ++ [number]) =
      Function.update (startLinks before dealt) number
        (Session.shortcutOf before kind.label (kind.action before.session.settings
          ((before.session.registry.inputs kind.linkKind).length +
            (linked before dealt kind.linkKind).length)) :: startLinks before dealt number) := by
  have notLinked : number ∉ linked before dealt kind.linkKind := by
    intro member
    exact absent (List.mem_filter.mp member).1
  have placeEq : (linked before (dealt ++ [number]) kind.linkKind).idxOf number =
      (linked before dealt kind.linkKind).length := by
    rw [linked_append_of_some known, if_pos rfl, List.idxOf_append_of_notMem notLinked,
      List.idxOf_cons_self, Nat.add_zero]
  funext other
  by_cases same : other = number
  · subst same
    rw [Function.update_self, startLinks_of_notMem absent, startLinks, known]
    simp [startLink, placeEq]
  · rw [Function.update_of_ne same, startLinks_append_of_ne same]

theorem mem_notedHomes :
    home ∈ notedHomes before dealt ↔
      home < before.page.page.containers.length ∧ (startNote? before).isSome ∧
        ¬ before.page.page.isMarked home before.session.settings.noteClass ∧
          ∃ number ∈ dealt, (fieldKind? before number).isSome ∧
            before.page.page.homes[number]? = some home := by
  rw [notedHomes, Finset.mem_filter, Finset.mem_range]

theorem notedHomes_append_of_none (dealt : List Nat) (unknown : fieldKind? before number = none) :
    notedHomes before (dealt ++ [number]) = notedHomes before dealt := by
  ext home
  rw [mem_notedHomes, mem_notedHomes]
  simp [unknown]

/-- A container gets its note with the first of its inputs that has a known kind. -/
theorem notedHomes_append_of_some (dealt : List Nat)
    (known : fieldKind? before number = some kind)
    (named : before.page.page.homes[number]? = some home)
    (homeLt : home < before.page.page.containers.length) :
    notedHomes before (dealt ++ [number]) =
      if (startNote? before).isSome ∧
          ¬ before.page.page.isMarked home before.session.settings.noteClass then
        insert home (notedHomes before dealt)
      else notedHomes before dealt := by
  ext other
  split
  · next due =>
    rw [Finset.mem_insert, mem_notedHomes, mem_notedHomes]
    constructor
    · rintro ⟨otherLt, noted, unmarked, found, member, foundKnown, foundNamed⟩
      rcases List.mem_append.mp member with earlier | now
      · exact Or.inr ⟨otherLt, noted, unmarked, found, earlier, foundKnown, foundNamed⟩
      · obtain rfl := List.mem_singleton.mp now
        exact Or.inl (Option.some.inj (foundNamed.symm.trans named))
    · rintro (rfl | ⟨otherLt, noted, unmarked, found, member, rest⟩)
      · exact ⟨homeLt, due.1, due.2, number, by simp, by simp [known], named⟩
      · exact ⟨otherLt, noted, unmarked, found, List.mem_append_left _ member, rest⟩
  · next undue =>
    rw [mem_notedHomes, mem_notedHomes]
    constructor
    · rintro ⟨otherLt, noted, unmarked, found, member, foundKnown, foundNamed⟩
      rcases List.mem_append.mp member with earlier | now
      · exact ⟨otherLt, noted, unmarked, found, earlier, foundKnown, foundNamed⟩
      · obtain rfl := List.mem_singleton.mp now
        obtain rfl := Option.some.inj (foundNamed.symm.trans named)
        exact (undue ⟨noted, unmarked⟩).elim
    · rintro ⟨otherLt, noted, unmarked, found, member, rest⟩
      exact ⟨otherLt, noted, unmarked, found, List.mem_append_left _ member, rest⟩

/-- The class of notes is found where it stood before, where the note was put, and on
the span that was just put after the input. -/
theorem hasMarker_searched (formed : before.page.page.WellFormed)
    (known : fieldKind? before number = some kind)
    (named : before.page.page.homes[number]? = some home) (member : number ∈ dealt)
    (noted : List Nat) :
    (before.page.page.decorated (startLinks before dealt) (startNotes before noted)).hasMarker
        number before.session.settings.noteClass =
      (before.page.page.isMarked home before.session.settings.noteClass ||
        before.session.settings.shortcutsClass == before.session.settings.noteClass ||
          decide (home ∈ notedHomes before noted)) := by
  have inPage : number < before.page.page.inputs.length := by
    simpa [Page.homes] using (List.getElem?_eq_some_iff.mp named).1
  obtain ⟨input, container, found, placed, inContainer⟩ := formed.exists_container inPage
  have homeEq : input.home = home := by
    rw [Page.homes, List.getElem?_map, found] at named
    exact Option.some.inj named
  have linkSpans (other : Nat) : ((startLinks before dealt other).any fun shortcut =>
      shortcut.spanClass == before.session.settings.noteClass) =
        ((startLinks before dealt other).length != 0 &&
          before.session.settings.shortcutsClass == before.session.settings.noteClass) := by
    rw [startLinks]
    split
    · split <;> simp [startLink, Session.shortcutOf]
    · rfl
  have ownSpan : (startLinks before dealt number).length = 1 := by
    rw [startLinks, known]
    simp [member]
  have anySpan : (container.numbers.any fun other => (startLinks before dealt other).any
      fun shortcut => shortcut.spanClass == before.session.settings.noteClass) =
        (before.session.settings.shortcutsClass == before.session.settings.noteClass) := by
    rw [Bool.eq_iff_iff, List.any_eq_true]
    simp only [linkSpans, Bool.and_eq_true]
    constructor
    · rintro ⟨other, _, _, same⟩
      exact same
    · intro same
      exact ⟨number, mem_numbers.mpr inContainer, by simp [ownSpan], same⟩
  have anyNote : ((startNotes before noted input.home).any fun note =>
      note.classes.contains before.session.settings.noteClass) =
        decide (home ∈ notedHomes before noted) := by
    rw [startNotes, homeEq]
    by_cases isNoted : home ∈ notedHomes before noted
    · obtain ⟨note, due⟩ := Option.isSome_iff_exists.mp (mem_notedHomes.mp isNoted).2.1
      have marks : note.classes.contains before.session.settings.noteClass = true := by
        rw [startNote?] at due
        split at due
        · cases due
        · obtain ⟨text, -, rfl⟩ := Option.map_eq_some_iff.mp due
          simp
      simpa [isNoted, due] using marks
    · simp [isNoted]
  rw [Page.hasMarker_decorated found placed, anySpan, anyNote, Page.isMarked, ← homeEq, placed]
  rfl

theorem startNotes_congr {noted others : List Nat}
    (same : notedHomes before noted = notedHomes before others) :
    startNotes before noted = startNotes before others := by
  funext home
  rw [startNotes, startNotes, same]

theorem startNotes_insert {noted others : List Nat} {note : Note}
    (due : startNote? before = some note)
    (inserted : notedHomes before others = insert home (notedHomes before noted))
    (absent : home ∉ notedHomes before noted) :
    startNotes before others =
      Function.update (startNotes before noted) home (startNotes before noted home ++ [note]) := by
  funext other
  rw [startNotes, inserted]
  by_cases same : other = home
  · subst same
    rw [Function.update_self, startNotes]
    simp [absent, due]
  · rw [Function.update_of_ne same, startNotes]
    simp [same]

/-! ### The search -/

/-- An input that is not registered yet gets its link. -/
theorem run_attach_searched (formed : before.page.page.WellFormed)
    (inPage : number < before.page.page.inputs.length) (absent : number ∉ dealt)
    (known : fieldKind? before number = some kind)
    (fresh : number ∉ before.session.registry.inputs kind.linkKind)
    (noted : List Nat) (log : List LogEvent) :
    ∃ handle, (Session.attach kind.linkKind kind.label
        (kind.action before.session.settings) number).run (searched before dealt noted log) =
      .ok handle (searched before (dealt ++ [number]) noted
        (log ++ [.linkAttached kind.linkKind handle])) := by
  have unregistered : number ∉
      (searched before dealt noted log).session.registry.inputs kind.linkKind := by
    rw [searched, Registry.inputs_extend, List.mem_append, not_or]
    exact ⟨fresh, fun member => absent (List.mem_filter.mp member).1⟩
  have handleEq : ((searched before dealt noted log).session.registry.inputs kind.linkKind).length =
      (before.session.registry.inputs kind.linkKind).length +
        (linked before dealt kind.linkKind).length := by
    rw [searched, Registry.inputs_extend, List.length_append]
  have registryEq : (before.session.registry.extend (linked before dealt)).push number
      kind.linkKind = before.session.registry.extend (linked before (dealt ++ [number])) :=
    Registry.push_extend (linked_append_of_some known)
  let shortcut := Session.shortcutOf before kind.label (kind.action before.session.settings
    ((before.session.registry.inputs kind.linkKind).length +
      (linked before dealt kind.linkKind).length))
  have inserted : (before.page.page.decorated (startLinks before dealt)
      (startNotes before noted)).insertShortcut number shortcut = _ :=
    Page.insertShortcut_decorated formed inPage shortcut
  rw [← startLinks_append_of_some absent known] at inserted
  have attached : Attachable.insertShortcut (searched before dealt noted log).page number
      (Session.shortcutOf (searched before dealt noted log) kind.label
        (kind.action before.session.settings
          ((before.session.registry.inputs kind.linkKind).length +
            (linked before dealt kind.linkKind).length))) =
        .ok (searched before (dealt ++ [number]) noted log).page :=
    congrArg (Workbench.changePage (searched before dealt noted log).page) inserted
  rw [Session.run_attach, if_neg unregistered, handleEq]
  simp only [attached]
  refine ⟨_, congrArg _ ?_⟩
  simp only [Running.push, Running.logged, Running.withPage, searched, registryEq]
  rfl

/-- Where the class of notes is found, no container gets a note any more. -/
theorem notedHomes_append_of_marked (noted : List Nat)
    (known : fieldKind? before number = some kind)
    (named : before.page.page.homes[number]? = some home)
    (homeLt : home < before.page.page.containers.length)
    (marked : (before.page.page.isMarked home before.session.settings.noteClass ||
      before.session.settings.shortcutsClass == before.session.settings.noteClass ||
        decide (home ∈ notedHomes before noted)) = true) :
    notedHomes before (noted ++ [number]) = notedHomes before noted := by
  rw [notedHomes_append_of_some noted known named homeLt]
  split
  · next due =>
    have differs : before.session.settings.shortcutsClass ≠ before.session.settings.noteClass := by
      intro equal
      simp [startNote?, equal] at due
    have already : home ∈ notedHomes before noted := by simpa [due, differs] using marked
    exact Finset.insert_eq_of_mem already
  · rfl

/-- Where it is not found, a note that is due is put in the container. -/
theorem appendNote_searched (known : fieldKind? before number = some kind)
    (named : before.page.page.homes[number]? = some home)
    (homeLt : home < before.page.page.containers.length) (dealt noted : List Nat)
    (log : List LogEvent) {text : String}
    (text? : before.session.gap.noteText? before.page.translator = some text)
    (unmarked : (before.page.page.isMarked home before.session.settings.noteClass ||
      before.session.settings.shortcutsClass == before.session.settings.noteClass ||
        decide (home ∈ notedHomes before noted)) = false) :
    (notedHomes before (noted ++ [number])).card = (notedHomes before noted).card + 1 ∧
      Attachable.appendNote (searched before dealt noted log).page number
        ⟨[(searched before dealt noted log).session.settings.helpClass,
          (searched before dealt noted log).session.settings.noteClass], text⟩ =
            .ok (searched before dealt (noted ++ [number]) log).page := by
  rw [Bool.or_eq_false_iff, Bool.or_eq_false_iff] at unmarked
  obtain ⟨⟨noMark, noSpan⟩, noNote⟩ := unmarked
  have absent : home ∉ notedHomes before noted := by simpa using noNote
  have due : startNote? before = some
      ⟨[before.session.settings.helpClass, before.session.settings.noteClass], text⟩ := by
    rw [startNote?, if_neg (by simpa using noSpan), text?]
    rfl
  have inserted : notedHomes before (noted ++ [number]) =
      insert home (notedHomes before noted) := by
    rw [notedHomes_append_of_some noted known named homeLt, due, noMark]
    rfl
  have onPage : (before.page.page.decorated (startLinks before dealt)
      (startNotes before noted)).appendNote number
        ⟨[before.session.settings.helpClass, before.session.settings.noteClass], text⟩ = _ :=
    Page.appendNote_decorated named _
  rw [← startNotes_insert due inserted absent] at onPage
  constructor
  · rw [inserted, Finset.card_insert_of_notMem absent]
  · exact congrArg (Workbench.changePage (searched before dealt noted log).page) onPage

/-- The note is put beside an input that is the first in its container to need it. -/
theorem run_notify_searched (formed : before.page.page.WellFormed)
    (known : fieldKind? before number = some kind)
    (named : before.page.page.homes[number]? = some home)
    (homeLt : home < before.page.page.containers.length) (member : number ∈ dealt)
    (noted : List Nat) (log : List LogEvent) :
    ∃ added more, (Session.notify number).run (searched before dealt noted log) =
      .ok added (searched before dealt (noted ++ [number]) more) ∧
        (notedHomes before (noted ++ [number])).card =
          (notedHomes before noted).card + if added then 1 else 0 := by
  have marker : Attachable.hasMarker (searched before dealt noted log).page number
      (searched before dealt noted log).session.settings.noteClass = _ :=
    hasMarker_searched formed known named member noted
  have gapText : (searched before dealt noted log).session.gap.noteText?
      (Environment.translator (searched before dealt noted log).page) =
        before.session.gap.noteText? before.page.translator := rfl
  have kept (same : notedHomes before (noted ++ [number]) = notedHomes before noted)
      (more : List LogEvent) :
      searched before dealt noted more = searched before dealt (noted ++ [number]) more := by
    rw [searched, searched, startNotes_congr same]
  rw [Session.run_notify, gapText]
  cases text? : before.session.gap.noteText? before.page.translator with
  | none =>
      have undue : startNote? before = none := by
        rw [startNote?, text?]
        split <;> rfl
      have same : notedHomes before (noted ++ [number]) = notedHomes before noted := by
        rw [notedHomes_append_of_some noted known named homeLt, undue]
        rfl
      exact ⟨false, log, congrArg _ (kept same log), by rw [same]; rfl⟩
  | some text =>
      simp only
      by_cases marked : Attachable.hasMarker (searched before dealt noted log).page number
          (searched before dealt noted log).session.settings.noteClass = true
      · rw [if_pos marked]
        have same := notedHomes_append_of_marked noted known named homeLt (marker.symm.trans marked)
        refine ⟨false, log ++ [LogEvent.noteSkipped], ?_, by rw [same]; rfl⟩
        exact congrArg (EStateM.Result.ok false) (kept same (log ++ [LogEvent.noteSkipped]))
      · rw [if_neg marked]
        rw [marker, Bool.not_eq_true] at marked
        obtain ⟨cardEq, appended⟩ :=
          appendNote_searched known named homeLt dealt noted log text? marked
        simp only [appended]
        exact ⟨true, log ++ [.noteAppended before.session.gap.wholeHours], rfl, cardEq⟩

theorem run_startField_searched (formed : before.page.page.WellFormed)
    {found : Field Nat} (field : Workbench.field? before.page.page number = some found)
    (absent : number ∉ dealt)
    (fresh : ∀ kind, fieldKind? before number = some kind →
      number ∉ before.session.registry.inputs kind.linkKind) (log : List LogEvent) :
    ∃ more, (Session.startField (startReport before dealt) found).run
        (searched before dealt dealt log) =
      .ok (startReport before (dealt ++ [number]))
        (searched before (dealt ++ [number]) (dealt ++ [number]) more) := by
  obtain ⟨input, inputFound, rfl⟩ := Option.map_eq_some_iff.mp field
  have kindEq : (Field.mk number input.type input.classes).kind? before.session.settings =
      fieldKind? before number := by
    rw [fieldKind?, Page.fieldKind?, field]
    rfl
  rw [Session.run_startField]
  have settingsEq : (searched before dealt dealt log).session.settings =
      before.session.settings := rfl
  rw [settingsEq, kindEq]
  cases known : fieldKind? before number with
  | none =>
      have linkedEq := linked_append_of_none dealt known
      have notedEq := notedHomes_append_of_none dealt known
      refine ⟨log, ?_⟩
      rw [searched, searched, startReport, startReport, linkedEq, notedEq,
        startLinks_append_of_none known, startNotes_congr notedEq, List.length_append]
      rfl
  | some kind =>
      have inPage : number < before.page.page.inputs.length :=
        (List.getElem?_eq_some_iff.mp inputFound).1
      obtain ⟨_, container, alsoFound, placed, -⟩ := formed.exists_container inPage
      obtain rfl := Option.some.inj (inputFound.symm.trans alsoFound)
      have homeLt := (List.getElem?_eq_some_iff.mp placed).1
      have named : before.page.page.homes[number]? = some input.home := by
        rw [Page.homes, List.getElem?_map, inputFound, Option.map_some]
      obtain ⟨handle, attached⟩ := run_attach_searched formed inPage absent known
        (fresh kind known) dealt log
      have member : number ∈ dealt ++ [number] := List.mem_append_right _ List.mem_cons_self
      obtain ⟨added, more, noted, cardEq⟩ := run_notify_searched formed known named homeLt member
        dealt (log ++ [.linkAttached kind.linkKind handle])
      refine ⟨more, ?_⟩
      simp only [attached, noted]
      congr 1
      rw [Session.tally, startReport, startReport, cardEq, linked_append_of_some known,
        linked_append_of_some known, List.length_append]
      cases kind <;> cases added <;> simp [Session.count, FieldKind.linkKind]

theorem run_startFields_searched (formed : before.page.page.WellFormed) (dealt rest : List Nat)
    (nodup : (dealt ++ rest).Nodup)
    (inPage : ∀ number ∈ rest, number < before.page.page.inputs.length)
    (fresh : ∀ number ∈ rest, ∀ kind, fieldKind? before number = some kind →
      number ∉ before.session.registry.inputs kind.linkKind) (log : List LogEvent) :
    ∃ more, ((rest.filterMap (Workbench.field? before.page.page)).foldlM Session.startField
        (startReport before dealt)).run (searched before dealt dealt log) =
      .ok (startReport before (dealt ++ rest))
        (searched before (dealt ++ rest) (dealt ++ rest) more) := by
  induction rest generalizing dealt log with
  | nil =>
      rw [List.append_nil]
      exact ⟨log, rfl⟩
  | cons number rest ih =>
      have absent : number ∉ dealt := by
        intro member
        exact (List.nodup_append.mp nodup).2.2 number member number (by simp) rfl
      obtain ⟨found, field⟩ : ∃ found, Workbench.field? before.page.page number = some found := by
        rw [Workbench.field?, List.getElem?_eq_getElem (inPage number (by simp))]
        exact ⟨_, rfl⟩
      obtain ⟨between, first⟩ := run_startField_searched formed field absent
        (fresh number (by simp)) log
      have appendEq : dealt ++ number :: rest = dealt ++ [number] ++ rest := by simp
      rw [appendEq] at nodup
      obtain ⟨more, others⟩ := ih _ nodup (fun other member => inPage other (by simp [member]))
        (fun other member => fresh other (by simp [member])) between
      refine ⟨more, ?_⟩
      rw [List.filterMap_cons_some field, List.foldlM_cons, EStateM.run_bind, first, appendEq]
      exact others

/-- A search begins with nothing dealt with. -/
theorem begun_eq_searched (before : PageSession) :
    Session.begun before = searched before [] [] (before.page.log ++ [.startBegun]) := by
  have nothingNoted : startNotes before [] = fun _ => [] := by
    funext home
    simp [startNotes, notedHomes]
  have nothingLinked : startLinks before [] = fun _ => [] := by
    funext number
    exact startLinks_of_notMem (by simp)
  rw [searched, nothingNoted, nothingLinked, Page.decorated_nothing]
  simp [Session.begun, Running.logged, Running.withPage, Registry.extend, linked,
    Environment.record]

theorem startReport_nil (before : PageSession) : startReport before [] = {} := by
  simp [startReport, linked, notedHomes]

/-- A search deals with the inputs at the front of the page as if there were no others. -/
theorem run_startFields_begun (formed : before.page.page.WellFormed) {front back : List Nat}
    (order : before.page.page.inputOrder = front ++ back)
    (fresh : ∀ number ∈ front, ∀ kind, fieldKind? before number = some kind →
      number ∉ before.session.registry.inputs kind.linkKind) :
    ∃ log, ((front.filterMap (Workbench.field? before.page.page)).foldlM Session.startField
        {}).run (Session.begun before) =
      .ok (startReport before front) (searched before front front log) := by
  have nodup := formed.inputOrder_nodup
  rw [order] at nodup
  have inPage : ∀ number ∈ front, number < before.page.page.inputs.length := by
    intro number member
    rw [← formed.mem_inputOrder, order]
    exact List.mem_append_left back member
  have dealt := run_startFields_searched formed [] front (List.nodup_append.mp nodup).1 inPage
    fresh (before.page.log ++ [.startBegun])
  rw [List.nil_append, startReport_nil, ← begun_eq_searched] at dealt
  exact dealt

/-- A start deals with all inputs in the order of the page. -/
theorem run_start_searched (formed : before.page.page.WellFormed)
    (unstarted : before.session.started = false)
    (fresh : ∀ kind, ∀ number ∈ linked before before.page.page.inputOrder kind,
      number ∉ before.session.registry.inputs kind) :
    ∃ log, Session.start.run before =
      .ok (startReport before before.page.page.inputOrder)
        (searched before before.page.page.inputOrder before.page.page.inputOrder log) := by
  obtain ⟨between, searchedAll⟩ := run_startFields_begun formed (List.append_nil _).symm
    fun number member kind known => fresh kind.linkKind number
      (List.mem_filter.mpr ⟨member, by rw [known]; simp⟩)
  have fieldsEq : Attachable.fields (Session.begun before).page =
      before.page.page.inputOrder.filterMap (Workbench.field? before.page.page) := rfl
  refine ⟨between ++ [.startDone (startReport before before.page.page.inputOrder)], ?_⟩
  rw [Session.run_start, unstarted, fieldsEq, searchedAll]
  rfl

/-- A session that was not started before, and that has registered no input in the kind
of links it would get now, starts without a fault.  It registers the inputs of known
kinds in the order of the page, puts a link right after each and a note in each
container that calls for one, and changes nothing else on the page. -/
theorem start_eq_reference (before : PageSession) (reachable : before.page.page.Reachable)
    (unstarted : before.session.started = false)
    (fresh : ∀ kind, ∀ number ∈ linked before before.page.page.inputOrder kind,
      number ∉ before.session.registry.inputs kind) :
    let page := before.page.page
    let registry := before.session.registry
    let found := linked before page.inputOrder
    ∃ log, Session.start.run before =
      .ok
        { scanned := page.inputs.length
          clockInputs := (found .clock).length
          calendarInputs := (found .calendar).length
          notes := (notedHomes before page.inputOrder).card }
        { session := { before.session with
            registry := ⟨registry.clock ++ found .clock, registry.calendar ++ found .calendar⟩
            started := true }
          page := { before.page with
            page := page.decorated (startLinks before page.inputOrder)
              (startNotes before page.inputOrder)
            log := log } } := by
  have formed := reachable.wellFormed
  have lengthEq : before.page.page.inputOrder.length = before.page.page.inputs.length := by
    rw [formed.inputOrder_perm.length_eq, List.length_range]
  obtain ⟨log, started⟩ := run_start_searched formed unstarted fresh
  intro page registry found
  refine ⟨log, ?_⟩
  rw [started, startReport, lengthEq]
  rfl

/-- The page of the meeting with a link after the day, another after the hour, and one
note. -/
def meetingStarted : Page :=
  { meeting.page.page with
    containers := [
      ⟨"when", [.input 0, .shortcut ⟨"datetimeshortcuts", "Today", .calendarDay 0 0⟩,
        .input 1, .shortcut ⟨"datetimeshortcuts", "Now", .clockNow 0 "%H:%M"⟩,
        .note ⟨["help", "timezonewarning"], "Note: You are 2 hours ahead of server time."⟩]⟩,
      ⟨"name", [.input 2]⟩] }

theorem start_meeting :
    ∃ log, Session.start.run meeting =
      .ok { scanned := 3, clockInputs := 1, calendarInputs := 1, notes := 1 }
        { session := { meeting.session with registry := ⟨[1], [0]⟩, started := true }
          page := { meeting.page with page := meetingStarted, log := log } } := by
  have fresh : ∀ kind, ∀ number ∈ linked meeting meeting.page.page.inputOrder kind,
      number ∉ meeting.session.registry.inputs kind := by
    intro kind number _
    cases kind <;> exact List.not_mem_nil
  obtain ⟨log, started⟩ := start_eq_reference meeting (.described meetingFixture) rfl fresh
  have clockEq : linked meeting meeting.page.page.inputOrder .clock = [1] := by decide +kernel
  have calendarEq : linked meeting meeting.page.page.inputOrder .calendar = [0] := by
    decide +kernel
  have notesEq : (notedHomes meeting meeting.page.page.inputOrder).card = 1 := by decide +kernel
  have pageEq : meeting.page.page.decorated (startLinks meeting meeting.page.page.inputOrder)
      (startNotes meeting meeting.page.page.inputOrder) = meetingStarted := by decide +kernel
  refine ⟨log, started.trans ?_⟩
  rw [pageEq, clockEq, calendarEq, notesEq]
  rfl

end PageSession

end QuickFill
