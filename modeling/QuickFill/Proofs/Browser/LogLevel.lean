import QuickFill.Proofs.Browser.Lockstep
import QuickFill.Proofs.Browser.Reentry

/-!
# How much is logged

The level that a script names among the choices of a boot decides which lines the console
shows, and nothing else.  Two runs of a page that are the same but for such levels have the
same answers, the same values and the same document at the end; and each line that is told
in a step of them is shown by those of the two whose level in force then admits it.
-/

namespace QuickFill

namespace Browser

/-- All levels that can be in force in the course of an event: that of the page, and those
that are chosen by boots that wait, by the event itself and by events that listen. -/
def levels (page : Browser) (event : PageEvent) : List Verbosity :=
  page.verbosity :: (page.pending.map StartSettings.verbosity ++
    (event :: page.listeners.flatMap Prod.snd).filterMap PageEvent.level?)

/-- Pages that are the same but for what they show and for levels. -/
structure SamePage (page other : Browser) : Prop where
  page_eq : other = page.tuned other.tuning
  pending : List.Forall₂ (fun start another => another.settings = start.settings)
    page.pending other.pending
  listeners : SameListeners page.listeners other.listeners

/-- What is told in the course of an event, line by line, each line with the place of the level
that is in force then.  It is the same on all pages that are the same but for levels. -/
structure IsCourse (page : Browser) (event : PageEvent) (course : List (Nat × ConsoleLine)) :
    Prop where
  places : ∀ entry ∈ course, entry.1 < (page.levels event).length
  console_eq : ∀ other otherEvent, SamePage page other → SameButLevel event otherEvent →
    (other.step otherEvent).1.console = told (other.levels otherEvent) course

end Browser

/-- Whenever a line is logged, the one level in force is at most as verbose as the other. -/
def AtMost (course : List (Nat × ConsoleLine)) (levels others : List Verbosity) : Prop :=
  ∀ place event, (place, .logged event) ∈ course → ∀ level other,
    levels[place]? = some level → others[place]? = some other → level.detail ≤ other.detail

namespace Browser

end Browser

/-! ### Consoles -/

theorem Verbosity.shows_of_detail_le {level other : Verbosity} {line : ConsoleLine}
    (le : ∀ event, line = .logged event → level.detail ≤ other.detail)
    (shows : level.shows line) : other.shows line := by
  cases line with
  | logged event =>
      have admits : event.level.detail ≤ level.detail := of_decide_eq_true shows
      exact decide_eq_true (Nat.le_trans admits (le event rfl))
  | uncaught fault => rfl

/-- What passes the smaller level is among what passes the greater one. -/
theorem told_filter {course : List (Nat × ConsoleLine)} {levels others : List Verbosity}
    (lengthEq : others.length = levels.length) (atMost : AtMost course levels others) :
    told levels (course.filter fun entry => others[entry.1]?.any fun other => other.shows entry.2) =
      told levels course := by
  rw [told, told, List.filter_filter]
  congr 1
  refine List.filter_congr fun entry member => ?_
  cases found : levels[entry.1]? with
  | none => simp
  | some level =>
      have inside : entry.1 < others.length :=
        lengthEq ▸ (List.getElem?_eq_some_iff.mp found).1
      have otherFound := List.getElem?_eq_getElem inside
      rw [otherFound, Option.any_some, Option.any_some]
      cases shows : level.shows entry.2 with
      | false => rfl
      | true =>
          have le (event : LogEvent) (isLogged : entry.2 = .logged event) :=
            atMost entry.1 event (isLogged ▸ member) level _ found otherFound
          rw [Verbosity.shows_of_detail_le le shows]
          rfl

theorem told_of_forall {course : List (Nat × ConsoleLine)} {levels : List Verbosity}
    {level : Verbosity} (places : ∀ entry ∈ course, entry.1 < levels.length)
    (inForce : ∀ place event, (place, .logged event) ∈ course → levels[place]? = some level) :
    told levels course = (course.map Prod.snd).filter level.shows := by
  rw [told, List.filter_map]
  congr 1
  refine List.filter_congr fun entry member => ?_
  obtain ⟨place, line⟩ := entry
  cases line with
  | logged event =>
      rw [inForce place event member]
      rfl
  | uncaught fault =>
      have inside := places _ member
      rw [List.getElem?_eq_getElem inside]
      rfl

section Families

variable {ι : Type} {base : ι}

/-- Lists that are alike place by place are one list of families. -/
theorem exists_families {α : Type} {alike : α → α → Prop} {lists : ι → List α}
    (same : ∀ member, List.Forall₂ alike (lists base) (lists member)) :
    ∃ families : List (ι → α), (∀ member, lists member = families.map fun each => each member) ∧
      ∀ each ∈ families, ∀ member, alike (each base) (each member) := by
  generalize items : lists base = first at same
  induction first generalizing lists with
  | nil =>
      refine ⟨[], fun member => ?_, fun each none => nomatch none⟩
      exact List.forall₂_nil_left_iff.mp (same member)
  | cons head rest ih =>
      have parts (member : ι) := List.forall₂_cons_left_iff.mp (same member)
      choose heads tails headAlike tailAlike listEq using parts
      have atBase := items.symm.trans (listEq base)
      obtain ⟨headEq, tailEq⟩ := List.cons.inj atBase
      obtain ⟨families, familiesEq, alikeAll⟩ := ih tailEq.symm tailAlike
      refine ⟨heads :: families, fun member => ?_, fun each listed member => ?_⟩
      · rw [listEq, familiesEq, List.map_cons]
      · rcases List.mem_cons.mp listed with rfl | later
        · rw [← headEq]
          exact headAlike member
        · exact alikeAll each later member

theorem SameButLevel.of_boot {choices : Option Json} {other : PageEvent}
    (same : SameButLevel (.boot choices) other) :
    ∃ others, other = .boot others ∧ SameChoices choices others := by
  cases same with
  | same => exact ⟨choices, rfl, .same choices⟩
  | boot same => exact ⟨_, rfl, same⟩

theorem SameButLevel.of_install {choices : Option Json} {other : PageEvent}
    (same : SameButLevel (.install choices) other) :
    ∃ others, other = .install others ∧ SameChoices choices others := by
  cases same with
  | same => exact ⟨choices, rfl, .same choices⟩
  | install same => exact ⟨_, rfl, same⟩

theorem forall₂_same (events : List PageEvent) : List.Forall₂ SameButLevel events events :=
  List.forall₂_same.mpr fun event _ => .same event

theorem SameButLevel.of_listen {id : String} {events : List PageEvent} {other : PageEvent}
    (same : SameButLevel (.listen id events) other) :
    ∃ others, other = .listen id others ∧ List.Forall₂ SameButLevel events others := by
  cases same with
  | same => exact ⟨events, rfl, forall₂_same events⟩
  | listen _ same => exact ⟨_, rfl, same⟩

theorem SameButLevel.of_plain {event other : PageEvent} (same : SameButLevel event other)
    (plain : event.hasLevels = false) : other = event := by
  cases same with
  | same => rfl
  | boot same => cases plain
  | install same => cases plain
  | listen id same => cases plain

/-- Events that are the same but for levels all choose a level, or none of them does. -/
theorem SameButLevel.level? {event other : PageEvent} (same : SameButLevel event other) :
    other.level?.isSome = event.level?.isSome := by
  have chosen {choices others : Option Json} (same : SameChoices choices others) :
      ((StartSettings.ofChoices others).toOption.map StartSettings.verbosity).isSome =
        ((StartSettings.ofChoices choices).toOption.map StartSettings.verbosity).isSome := by
    rcases same.ofChoices with ⟨fault, refused, otherRefused⟩ | ⟨start, other, read, otherRead, -⟩
    · rw [refused, otherRefused]
    · rw [read, otherRead]
      rfl
  cases same with
  | same => rfl
  | boot same => exact chosen same
  | install same => exact chosen same
  | listen id same => rfl

/-- The levels that the events of families choose are families of levels. -/
theorem exists_levels {events : List (ι → PageEvent)}
    (same : ∀ event ∈ events, ∀ member, SameButLevel (event base) (event member)) :
    ∃ families : List (ι → Verbosity),
      (∀ member, (events.map fun event => event member).filterMap PageEvent.level? =
        families.map fun level => level member) ∧
      ∀ event ∈ events, ∀ level : ι → Verbosity,
        (∀ member, (event member).level? = some (level member)) → level ∈ families := by
  induction events with
  | nil => exact ⟨[], fun _ => rfl, fun event none => nomatch none⟩
  | cons head rest ih =>
      obtain ⟨families, familiesEq, found⟩ :=
        ih fun event listed => same event (List.mem_cons_of_mem _ listed)
      have isSomeEq (member : ι) := (same head List.mem_cons_self member).level?
      cases chosen : (head base).level? with
      | none =>
          have unchosen (member : ι) : (head member).level? = none := by
            simpa [chosen] using isSomeEq member
          refine ⟨families, fun member => ?_, fun event listed level levelEq => ?_⟩
          · rw [List.map_cons, List.filterMap_cons, unchosen, familiesEq]
          · rcases List.mem_cons.mp listed with rfl | later
            · cases (unchosen base).symm.trans (levelEq base)
            · exact found event later level levelEq
      | some level =>
          have some (member : ι) : ∃ level, (head member).level? = some level :=
            Option.isSome_iff_exists.mp (by rw [isSomeEq, chosen]; rfl)
          choose levels levelsEq using some
          refine ⟨levels :: families, fun member => ?_, fun event listed level levelEq => ?_⟩
          · rw [List.map_cons, List.filterMap_cons, levelsEq, familiesEq, List.map_cons]
          · rcases List.mem_cons.mp listed with rfl | later
            · have levelsAre : level = levels := funext fun member =>
                Option.some.inj ((levelEq member).symm.trans (levelsEq member))
              rw [levelsAre]
              exact List.mem_cons_self
            · exact List.mem_cons_of_mem _ (found event later level levelEq)

/-- A level is placed where it is in a list of families of levels. -/
theorem placed_of_mem {levels : ι → List Verbosity} {families : List (ι → Verbosity)}
    (levelsEq : ∀ member, levels member = families.map fun level => level member)
    {level : ι → Verbosity} (listed : level ∈ families) : Placed levels level := by
  obtain ⟨place, found⟩ := List.getElem?_of_mem listed
  refine ⟨place, fun member => ?_⟩
  rw [levelsEq, List.getElem?_map, found]
  rfl

namespace Browser

/-- Choices that are the same but for placed levels are a family. -/
theorem choicesFamily_of_same {levels : ι → List Verbosity} {choices : ι → Option Json}
    (same : ∀ member, SameChoices (choices base) (choices member))
    (placed : ∀ level : ι → Verbosity, (∀ member,
      (StartSettings.ofChoices (choices member)).toOption.map StartSettings.verbosity =
        some (level member)) → Placed levels level) : ChoicesFamily levels choices := by
  cases read : StartSettings.ofChoices (choices base) with
  | error fault =>
      refine .refused fault fun member => ?_
      rcases (same member).ofChoices with ⟨other, refused, refusedToo⟩ | ⟨start, other, chosen, -⟩
      · rw [refusedToo, ← refused, read]
      · cases read.symm.trans chosen
  | ok start =>
      have each (member : ι) : ∃ other, StartSettings.ofChoices (choices member) = .ok other ∧
          other.settings = start.settings := by
        rcases (same member).ofChoices with ⟨fault, refused, -⟩ | ⟨found, other, chosen, also, eq⟩
        · cases read.symm.trans refused
        · obtain rfl := Except.ok.inj (chosen.symm.trans read)
          exact ⟨other, also, eq⟩
      choose starts chosen settingsEq using each
      refine .chosen starts ⟨⟨start.settings, settingsEq⟩, placed _ fun member => ?_⟩ chosen
      rw [chosen]
      rfl

/-- Events that are the same but for placed levels are a family. -/
theorem eventFamily_of_same {levels : ι → List Verbosity} {events : ι → PageEvent}
    (same : ∀ member, SameButLevel (events base) (events member))
    (placed : ∀ level : ι → Verbosity, (∀ member, (events member).level? = some (level member)) →
      Placed levels level) : EventFamily base levels events := by
  cases first : events base with
  | boot choices =>
      have each (member : ι) := (first ▸ same member).of_boot
      choose others eventEq sameChoices using each
      obtain rfl : events = fun member => .boot (others member) := funext eventEq
      obtain rfl := PageEvent.boot.inj first
      exact .boot (choicesFamily_of_same sameChoices placed)
  | install choices =>
      have each (member : ι) := (first ▸ same member).of_install
      choose others eventEq sameChoices using each
      obtain rfl : events = fun member => .install (others member) := funext eventEq
      obtain rfl := PageEvent.install.inj first
      exact .install (choicesFamily_of_same sameChoices placed)
  | listen id listed =>
      have each (member : ι) := (first ▸ same member).of_listen
      choose others eventEq sameEvents using each
      obtain rfl : events = fun member => .listen id (others member) := funext eventEq
      obtain ⟨-, rfl⟩ := PageEvent.listen.inj first
      exact .listen id sameEvents
  | _ =>
      have each (member : ι) := (first ▸ same member).of_plain rfl
      obtain rfl : events = fun _ => _ := funext each
      exact .other rfl

end Browser

/-- What listens on all members is one list of families of events, and so is what listens to
one element. -/
theorem exists_listeners {lists : ι → List (Nat × List PageEvent)}
    (same : ∀ member, SameListeners (lists base) (lists member)) :
    ∃ events : List (ι → PageEvent),
      (∀ member, (lists member).flatMap Prod.snd = events.map fun event => event member) ∧
      (∀ event ∈ events, ∀ member, SameButLevel (event base) (event member)) ∧
      ∀ key, ∃ heard : List (ι → PageEvent), (∀ event ∈ heard, event ∈ events) ∧
        ∀ member, ((lists member).filter fun listener => listener.1 == key).flatMap Prod.snd =
          heard.map fun event => event member := by
  obtain ⟨listeners, listsEq, alike⟩ := exists_families same
  simp only [listsEq]
  clear listsEq same
  induction listeners with
  | nil =>
      refine ⟨[], fun _ => rfl, List.forall_mem_nil _, fun key => ?_⟩
      exact ⟨[], List.forall_mem_nil _, fun _ => rfl⟩
  | cons head rest ih =>
      obtain ⟨events, eventsEq, sameEvents, heardOf⟩ :=
        ih fun each listed => alike each (List.mem_cons_of_mem _ listed)
      have headAlike := alike head List.mem_cons_self
      let heads (member : ι) : List PageEvent := (head member).2
      have sameHeads (member : ι) : List.Forall₂ SameButLevel (heads base) (heads member) :=
        (headAlike member).2
      obtain ⟨first, firstEq, sameFirst⟩ := exists_families sameHeads
      simp only [heads] at firstEq
      refine ⟨first ++ events, fun member => ?_, fun event listed => ?_, fun key => ?_⟩
      · rw [List.map_cons, List.flatMap_cons, eventsEq, firstEq, List.map_append]
      · rcases List.mem_append.mp listed with here | later
        · exact sameFirst event here
        · exact sameEvents event later
      · obtain ⟨heard, listed, heardEq⟩ := heardOf key
        by_cases hears : (head base).1 = key
        · refine ⟨first ++ heard, fun event member => ?_, fun member => ?_⟩
          · rcases List.mem_append.mp member with here | later
            · exact List.mem_append_left _ here
            · exact List.mem_append_right _ (listed event later)
          · have hearsNow : ((head member).1 == key) = true :=
              beq_iff_eq.mpr ((headAlike member).1.trans hears)
            rw [List.map_cons, List.filter_cons, if_pos hearsNow, List.flatMap_cons, heardEq,
              firstEq, List.map_append]
        · refine ⟨heard, fun event member => List.mem_append_right _ (listed event member),
            fun member => ?_⟩
          have deafNow : ¬((head member).1 == key) = true := fun equal =>
            hears ((headAlike member).1.symm.trans (beq_iff_eq.mp equal))
          rw [List.map_cons, List.filter_cons, if_neg deafNow, heardEq]

end Families

namespace Browser

/-! ### One step -/

/-- A page and an event that are the same as some page and event but for levels. -/
structure Variant (page : Browser) (event : PageEvent) where
  other : Browser
  otherEvent : PageEvent
  same_page : SamePage page other
  same_event : SameButLevel event otherEvent

theorem SamePage.refl (page : Browser) : SamePage page page where
  page_eq := rfl
  pending := List.forall₂_same.mpr fun _ _ => rfl
  listeners := List.forall₂_same.mpr fun listener _ => ⟨rfl, forall₂_same listener.2⟩

namespace Variant

variable {page : Browser} {event : PageEvent}

def itself (page : Browser) (event : PageEvent) : Variant page event :=
  ⟨page, event, .refl page, .same event⟩

def tuning (variant : Variant page event) : Tuning :=
  variant.other.tuning

def levels (variant : Variant page event) : List Verbosity :=
  variant.other.levels variant.otherEvent

/-- The variants of a page and an event are a family, whose levels are in one order. -/
theorem kin (page : Browser) (event : PageEvent) :
    (∀ variant : Variant page event, variant.levels.length = (page.levels event).length) ∧
      Kin (itself page event) levels tuning ∧
      EventFamily (itself page event) levels otherEvent ∧
      Hears (itself page event) levels tuning := by
  let base := itself page event
  let pending (variant : Variant page event) : List StartSettings := variant.other.pending
  have samePending (variant : Variant page event) :
      List.Forall₂ (fun start another => another.settings = start.settings)
        (pending base) (pending variant) := variant.same_page.pending
  let listeners (variant : Variant page event) : List (Nat × List PageEvent) :=
    variant.other.listeners
  have sameListeners (variant : Variant page event) :
      SameListeners (listeners base) (listeners variant) := variant.same_page.listeners
  obtain ⟨starts, startsEq, settingsEq⟩ := exists_families samePending
  obtain ⟨listening, listeningEq, sameEvents, heardOf⟩ := exists_listeners sameListeners
  have sameAll : ∀ each ∈ otherEvent :: listening, ∀ variant : Variant page event,
      SameButLevel (each base) (each variant) := by
    intro each listed variant
    rcases List.mem_cons.mp listed with rfl | later
    · exact variant.same_event
    · exact sameEvents each later variant
  obtain ⟨chosen, chosenEq, found⟩ := exists_levels sameAll
  let families : List (Variant page event → Verbosity) :=
    (fun variant => variant.other.verbosity) ::
      (starts.map (fun start variant => (start variant).verbosity) ++ chosen)
  have levelsEq (variant : Variant page event) :
      variant.levels = families.map fun level => level variant := by
    have pendingNow : variant.other.pending = starts.map fun start => start variant :=
      startsEq variant
    have listeningNow : variant.other.listeners.flatMap Prod.snd =
        listening.map fun event => event variant := listeningEq variant
    have chosenNow := chosenEq variant
    rw [List.map_cons] at chosenNow
    rw [levels, Browser.levels, pendingNow, listeningNow, chosenNow]
    simp only [families, List.map_cons, List.map_append, List.map_map, Function.comp_def]
  have happen : ∀ each ∈ otherEvent :: listening, EventFamily base levels each := by
    intro each listed
    refine eventFamily_of_same (sameAll each listed) fun level levelEq => ?_
    refine placed_of_mem levelsEq (List.mem_cons_of_mem _ (List.mem_append_right _ ?_))
    exact found each listed level levelEq
  refine ⟨fun variant => ?_, ⟨placed_of_mem levelsEq List.mem_cons_self, ⟨starts, startsEq, ?_⟩,
    sameListeners⟩, happen _ List.mem_cons_self, fun key => ?_⟩
  · have lengthEq := congrArg List.length (levelsEq base)
    have lengthNow := congrArg List.length (levelsEq variant)
    rw [List.length_map] at lengthEq lengthNow
    exact lengthNow.trans lengthEq.symm
  · intro start listed
    refine ⟨⟨_, settingsEq start listed⟩, placed_of_mem levelsEq (List.mem_cons_of_mem _ ?_)⟩
    exact List.mem_append_left _ (List.mem_map_of_mem listed)
  · obtain ⟨heard, listed, heardEq⟩ := heardOf key
    exact ⟨heard, fun each member => happen each (List.mem_cons_of_mem _ (listed each member)),
      heardEq⟩

end Variant

/-- With a level that is at most as verbose whenever a line is logged, a page shows what passes
its level of that which the other page shows. -/
theorem IsCourse.filtered {page other : Browser} {event otherEvent : PageEvent}
    {course : List (Nat × ConsoleLine)} (isCourse : IsCourse page event course)
    (samePage : SamePage page other) (sameEvent : SameButLevel event otherEvent)
    (atMost : AtMost course (page.levels event) (other.levels otherEvent)) :
    ∃ shown, shown.Sublist course ∧ shown.map Prod.snd = (other.step otherEvent).1.console ∧
      (page.step event).1.console = told (page.levels event) shown ∧
      ∀ level, (∀ place line, (place, .logged line) ∈ course →
        (page.levels event)[place]? = some level) →
          (page.step event).1.console = (other.step otherEvent).1.console.filter level.shows := by
  have lengthEq : (other.levels otherEvent).length = (page.levels event).length :=
    (Variant.kin page event).1 ⟨other, otherEvent, samePage, sameEvent⟩
  have firstShown := isCourse.console_eq page event (.refl page) (.same event)
  have otherShown := isCourse.console_eq other otherEvent samePage sameEvent
  have filtered := told_filter lengthEq atMost
  let shown := course.filter fun entry =>
    (other.levels otherEvent)[entry.1]?.any fun level => level.shows entry.2
  have places : ∀ entry ∈ shown, entry.1 < (page.levels event).length := fun entry listed =>
    isCourse.places entry (List.mem_of_mem_filter listed)
  refine ⟨shown, List.filter_sublist, otherShown.symm, firstShown.trans filtered.symm, ?_⟩
  intro level inForce
  have inForceShown (place : Nat) (line : LogEvent) (listed : (place, .logged line) ∈ shown) :=
    inForce place line (List.mem_of_mem_filter listed)
  rw [firstShown, ← filtered, otherShown]
  exact told_of_forall places inForceShown

end Browser

end QuickFill
