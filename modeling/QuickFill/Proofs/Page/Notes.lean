import QuickFill.Proofs.Page.Start

/-!
# The notes of a session

A session puts one note at most in a container, whatever it is asked for and in
whatever order.  The note is the one that was due when the session was made: a clock
that is set later says nothing about it.
-/

namespace QuickFill

/-- An input without its value. -/
def Input.emptied (input : Input) : Input :=
  { input with value := "" }

namespace Page

theorem getElem?_emptied {page other : Page}
    (inputsEq : other.inputs.map Input.emptied = page.inputs.map Input.emptied) (number : Nat) :
    other.inputs[number]?.map Input.emptied = page.inputs[number]?.map Input.emptied := by
  rw [← List.getElem?_map, inputsEq, List.getElem?_map]

theorem emptied_write (page : Page) (number : Nat) (value : String) :
    (page.modifyInput number fun input => { input with value := value }).inputs.map
      Input.emptied = page.inputs.map Input.emptied := by
  apply List.ext_getElem?
  intro place
  simp only [modifyInput, List.getElem?_map, List.getElem?_modify]
  cases page.inputs[place]? with
  | none => rfl
  | some input => by_cases here : number = place <;> simp [here, Input.emptied]

/-- The notes in the container with a number. -/
def notesIn (page : Page) (home : Nat) : List Note :=
  match page.containers[home]? with
  | some container => container.nodes.filterMap PageNode.note?
  | none => []

variable {page : Page} {links : Nat → List Shortcut} {notes : Nat → List Note}

theorem filterMap_note?_withLinks (links : Nat → List Shortcut) (node : PageNode) :
    (node.withLinks links).filterMap PageNode.note? = (PageNode.note? node).toList := by
  cases node with
  | input number => simp [PageNode.withLinks, PageNode.note?]
  | shortcut shortcut => rfl
  | note note => rfl

theorem filterMap_note?_decorated (links : Nat → List Shortcut) (notes : List Note)
    (container : Container) :
    (container.decorated links notes).nodes.filterMap PageNode.note? =
      container.nodes.filterMap PageNode.note? ++ notes := by
  have added : (notes.map PageNode.note).filterMap PageNode.note? = notes := by
    simp [List.filterMap_map, Function.comp_def, PageNode.note?]
  rw [Container.decorated, List.filterMap_append, added]
  congr 1
  induction container.nodes with
  | nil => rfl
  | cons node rest ih =>
      rw [List.flatMap_cons, List.filterMap_append, ih, filterMap_note?_withLinks]
      cases node <;> rfl

/-- Links do not count among the notes of a page. -/
theorem notesIn_decorated {home : Nat} (placed : notes home ≠ [] → home < page.containers.length) :
    (page.decorated links notes).notesIn home = page.notesIn home ++ notes home := by
  cases found : page.containers[home]? with
  | some container =>
      rw [notesIn, getElem?_decorated found, notesIn, found]
      exact filterMap_note?_decorated links (notes home) container
  | none =>
      have nothing : notes home = [] := by
        by_contra some
        exact Nat.not_le_of_lt (placed some) (List.getElem?_eq_none_iff.mp found)
      have outside : (page.decorated links notes).containers[home]? = none := by
        rw [decorated, List.getElem?_mapIdx, found, Option.map_none]
      rw [notesIn, notesIn, outside, found, nothing]
      rfl

/-- Values play no part in whether a container is marked. -/
theorem isMarked_congr {other : Page} (containersEq : other.containers = page.containers)
    (inputsEq : other.inputs.map Input.emptied = page.inputs.map Input.emptied)
    (home : Nat) (name : String) : other.isMarked home name = page.isMarked home name := by
  have classed : other.nodeHasClass name = page.nodeHasClass name := by
    funext node
    cases node with
    | shortcut shortcut => rfl
    | note note => rfl
    | input number =>
        have same := getElem?_emptied inputsEq number
        simp only [nodeHasClass]
        cases found : page.inputs[number]? with
        | none =>
            rw [found, Option.map_none, Option.map_eq_none_iff] at same
            rw [same]
        | some input =>
            rw [found, Option.map_some] at same
            obtain ⟨otherInput, otherFound, emptiedEq⟩ := Option.map_eq_some_iff.mp same
            rw [otherFound]
            exact congrArg (fun emptied => emptied.classes.contains name) emptiedEq
  rw [isMarked, isMarked, containersEq, classed]

end Page

/-- There is no note about less than an hour. -/
theorem ZoneGap.noteText?_of_near {gap : ZoneGap} (near : gap.wholeHours = 0)
    (translator : Translator) : gap.noteText? translator = none := by
  rw [noteText?, if_pos near]

namespace PageSession

open Session

/-- The note that a session puts in containers; none when the gap to the clock of the
server is less than an hour. -/
def dueNote? (running : PageSession) : Option Note :=
  (running.session.gap.noteText? running.page.translator).map fun text =>
    ⟨[running.session.settings.helpClass, running.session.settings.noteClass], text⟩

/-- A session that came from an earlier one: its page has more links, and the note
that was due stands once in some containers that had no mark before. -/
structure Noted (first running : PageSession) (base : Page) (links : Nat → List Shortcut)
    (notes : Nat → List Note) : Prop where
  page_eq : running.page.page = base.decorated links notes
  formed : base.WellFormed
  containers_eq : base.containers = first.page.page.containers
  inputs_eq : base.inputs.map Input.emptied = first.page.page.inputs.map Input.emptied
  settings_eq : running.session.settings = first.session.settings
  gap_eq : running.session.gap = first.session.gap
  translator_eq : running.page.translator = first.page.translator
  once : ∀ home, notes home ≠ [] → home < base.containers.length ∧
    first.page.page.isMarked home first.session.settings.noteClass = false ∧
      ∃ note, dueNote? first = some note ∧ notes home = [note]

variable {first running : PageSession} {base : Page} {links : Nat → List Shortcut}
  {notes : Nat → List Note}

theorem Noted.dueNote?_eq (noted : Noted first running base links notes) :
    dueNote? running = dueNote? first := by
  rw [dueNote?, dueNote?, noted.gap_eq, noted.translator_eq, noted.settings_eq]

theorem Noted.wellFormed (noted : Noted first running base links notes) :
    running.page.page.WellFormed := by
  rw [noted.page_eq]
  exact noted.formed.congr Page.rows_decorated Page.homes_decorated

/-- What the page has no part in leaves the notes as they are. -/
theorem Noted.congr (noted : Noted first running base links notes) {other : PageSession}
    (pageEq : other.page.page = running.page.page)
    (settingsEq : other.session.settings = running.session.settings)
    (gapEq : other.session.gap = running.session.gap)
    (translatorEq : other.page.translator = running.page.translator) :
    Noted first other base links notes where
  page_eq := pageEq.trans noted.page_eq
  formed := noted.formed
  containers_eq := noted.containers_eq
  inputs_eq := noted.inputs_eq
  settings_eq := settingsEq.trans noted.settings_eq
  gap_eq := gapEq.trans noted.gap_eq
  translator_eq := translatorEq.trans noted.translator_eq
  once := noted.once

theorem noted_self (formed : running.page.page.WellFormed) :
    Noted running running running.page.page (fun _ => []) (fun _ => []) where
  page_eq := (Page.decorated_nothing running.page.page).symm
  formed := formed
  containers_eq := rfl
  inputs_eq := rfl
  settings_eq := rfl
  gap_eq := rfl
  translator_eq := rfl
  once _ some := (some rfl).elim

/-! ### One call -/

theorem Noted.attach (noted : Noted first running base links notes) (kind : LinkKind)
    (label : String) (action : Nat → QuickLink) (input : Nat) :
    ∃ others, Noted first (final (attach kind label action input) running) base others notes := by
  rcases final_attach noted.formed noted.page_eq kind label action input with
    ⟨_, outcome⟩ | ⟨_, _, outcome⟩ | ⟨_, _, outcome⟩
  · rw [outcome]
    exact ⟨links, noted⟩
  · rw [outcome]
    exact ⟨links, noted.congr rfl rfl rfl rfl⟩
  · rw [outcome]
    exact ⟨_, { noted with page_eq := rfl }⟩

theorem fillClosed_emptied (running : PageSession) :
    FillClosed fun after : PageSession =>
      after.page.page.inputs.map Input.emptied = running.page.page.inputs.map Input.emptied ∧
        after.page.translator = running.page.translator :=
  fillClosed_onPage (fun _ same => same)
    (fun number text same => ⟨(Page.emptied_write _ number text).trans same.1, same.2⟩)
    (fun _ same => same) (fun _ same => same)

theorem Noted.serve (noted : Noted first running base links notes) (request : SessionRequest) :
    ∃ other, Noted first (final (Session.serve request) running) other links notes := by
  have same := sameNodes_serve running request
  obtain ⟨emptiedEq, translatorEq⟩ :=
    (fillClosed_emptied running).serve request running ⟨rfl, rfl⟩
  obtain ⟨other, pageEq, formed, containersEq, -⟩ :=
    exists_base noted.formed (same.containers_eq.trans (congrArg Page.containers noted.page_eq))
      (same.homes_eq.trans (by rw [noted.page_eq, Page.homes_decorated]))
  have inputsEq : other.inputs = (final (Session.serve request) running).page.page.inputs := by
    rw [pageEq]
    rfl
  refine ⟨other, pageEq, formed, containersEq.trans noted.containers_eq, ?_, ?_, ?_,
    translatorEq.trans noted.translator_eq, ?_⟩
  · rw [inputsEq, emptiedEq, noted.page_eq]
    exact noted.inputs_eq
  · rw [same.session_eq, noted.settings_eq]
  · rw [same.session_eq, noted.gap_eq]
  · rw [containersEq]
    exact noted.once

/-- A note is put where the container has no mark, or else the page stays as it is. -/
theorem run_notify_decorated (pageEq : running.page.page = base.decorated links notes)
    (input : Nat) :
    ((∀ after, (Session.notify input).run running ≠ .ok true after) ∧
        ∃ log, final (Session.notify input) running =
          running.withPage { running.page with log := log }) ∨
      ∃ note home log, dueNote? running = some note ∧ base.homes[input]? = some home ∧
        (base.decorated links notes).hasMarker input running.session.settings.noteClass = false ∧
          (Session.notify input).run running = .ok true (running.withPage { running.page with
            page := base.decorated links (Function.update notes home (notes home ++ [note]))
            log := log }) := by
  rw [final, run_notify, dueNote?]
  have translatorEq : Environment.translator running.page = running.page.translator := rfl
  rw [translatorEq]
  cases due : running.session.gap.noteText? running.page.translator with
  | none =>
      refine Or.inl ⟨?_, running.page.log, rfl⟩
      intro after answered
      cases answered
  | some text =>
      let note : Note :=
        ⟨[running.session.settings.helpClass, running.session.settings.noteClass], text⟩
      have marker : Attachable.hasMarker running.page input running.session.settings.noteClass =
          (base.decorated links notes).hasMarker input running.session.settings.noteClass := by
        rw [← pageEq]
        rfl
      simp only [marker]
      cases marked : (base.decorated links notes).hasMarker input
          running.session.settings.noteClass with
      | true =>
          refine Or.inl ⟨?_, _, rfl⟩
          intro after answered
          cases answered
      | false =>
          have appended : Attachable.appendNote running.page input note =
              running.page.changePage (running.page.page.appendNote input note) := rfl
          cases named : base.homes[input]? with
          | none =>
              rw [pageEq, Page.appendNote_eq, Page.homes_decorated, named] at appended
              simp only [note] at appended
              simp only [appended]
              refine Or.inl ⟨?_, running.page.log, rfl⟩
              intro after answered
              cases answered
          | some home =>
              rw [pageEq, Page.appendNote_decorated named] at appended
              simp only [note] at appended
              simp only [appended]
              exact Or.inr ⟨note, home, _, rfl, rfl, trivial, rfl⟩

/-- A container without a mark has not got its note yet. -/
theorem Noted.unmarked (noted : Noted first running base links notes) {input home : Nat}
    (named : base.homes[input]? = some home)
    (unmarked : (base.decorated links notes).hasMarker input
      first.session.settings.noteClass = false) :
    home < base.containers.length ∧ notes home = [] ∧
      first.page.page.isMarked home first.session.settings.noteClass = false := by
  have inPage : input < base.inputs.length := by
    simpa [Page.homes] using (List.getElem?_eq_some_iff.mp named).1
  obtain ⟨field, container, found, placed, -⟩ := noted.formed.exists_container inPage
  obtain rfl : field.home = home := by
    rw [Page.homes, List.getElem?_map, found] at named
    exact Option.some.inj named
  rw [Page.hasMarker_decorated found placed, Bool.or_eq_false_iff, Bool.or_eq_false_iff] at unmarked
  obtain ⟨⟨unmarkedNodes, -⟩, unmarkedNotes⟩ := unmarked
  refine ⟨(List.getElem?_eq_some_iff.mp placed).1, ?_, ?_⟩
  · by_contra gained
    obtain ⟨-, -, note, due, notesEq⟩ := noted.once field.home gained
    obtain ⟨text, -, rfl⟩ := Option.map_eq_some_iff.mp due
    rw [notesEq] at unmarkedNotes
    simp at unmarkedNotes
  · rw [← Page.isMarked_congr noted.containers_eq noted.inputs_eq, Page.isMarked, placed]
    exact unmarkedNodes

/-- Being asked for a note, a session puts the one that is due in a container that has
not got it yet, or else leaves its page as it is. -/
theorem Noted.run_notify (noted : Noted first running base links notes) (input : Nat) :
    ((∀ after, (Session.notify input).run running ≠ .ok true after) ∧
        Noted first (final (Session.notify input) running) base links notes ∧
          (final (Session.notify input) running).page.page = running.page.page) ∨
      ∃ home note after, home < base.containers.length ∧ notes home = [] ∧
        (Session.notify input).run running = .ok true after ∧
          Noted first after base links (Function.update notes home [note]) := by
  rcases run_notify_decorated noted.page_eq input with
    ⟨refused, log, outcome⟩ | ⟨note, home, log, due, named, unmarked, outcome⟩
  · rw [outcome]
    exact Or.inl ⟨refused, noted.congr rfl rfl rfl rfl, rfl⟩
  · rw [noted.settings_eq] at unmarked
    obtain ⟨inPage, nothing, firstUnmarked⟩ := noted.unmarked named unmarked
    rw [nothing, List.nil_append] at outcome
    refine Or.inr ⟨home, note, _, inPage, nothing, outcome,
      { noted with page_eq := rfl, once := ?_ }⟩
    intro other gained
    by_cases same : other = home
    · subst same
      exact ⟨inPage, firstUnmarked, note, noted.dueNote?_eq.symm.trans due, Function.update_self ..⟩
    · rw [Function.update_of_ne same] at gained ⊢
      exact noted.once other gained

theorem final_eq_of_ok {α : Type} {action : Action Workbench Nat α} {value : α}
    {after : PageSession} (outcome : action.run running = .ok value after) :
    final action running = after := by
  rw [final, outcome]

theorem Noted.notify (noted : Noted first running base links notes) (input : Nat) :
    ∃ others, Noted first (final (Session.notify input) running) base links others := by
  rcases noted.run_notify input with ⟨-, kept, -⟩ | ⟨home, note, after, -, -, outcome, gained⟩
  · exact ⟨notes, kept⟩
  · rw [final_eq_of_ok outcome]
    exact ⟨_, gained⟩

/-- The notes that a container has gained can be read off the page. -/
theorem Noted.notesIn_eq (noted : Noted first running base links notes) (home : Nat) :
    running.page.page.notesIn home = first.page.page.notesIn home ++ notes home := by
  rw [noted.page_eq, Page.notesIn_decorated fun gained => (noted.once home gained).1,
    Page.notesIn, Page.notesIn, noted.containers_eq]

/-- The answer to a question for a note is yes when one was put. -/
theorem Noted.notify_true_iff (noted : Noted first running base links notes) (input : Nat) :
    (∃ after, (Session.notify input).run running = .ok true after) ↔
      ∃ home, (running.after (.notify input)).page.page.notesIn home ≠
        running.page.page.notesIn home := by
  rw [after]
  rcases noted.run_notify input with
    ⟨refused, -, pageEq⟩ | ⟨home, note, after, -, nothing, outcome, gained⟩
  · rw [pageEq]
    constructor
    · rintro ⟨after, answered⟩
      exact (refused after answered).elim
    · rintro ⟨home, differs⟩
      exact (differs rfl).elim
  · rw [final_eq_of_ok outcome]
    refine iff_of_true ⟨after, outcome⟩ ⟨home, ?_⟩
    rw [gained.notesIn_eq, noted.notesIn_eq, Function.update_self, nothing]
    simp

/-! ### What a start counts -/

/-- The containers that have gained a note. -/
def gainedHomes (base : Page) (notes : Nat → List Note) : Finset Nat :=
  (Finset.range base.containers.length).filter fun home => notes home ≠ []

theorem card_gainedHomes_update {home : Nat} (inPage : home < base.containers.length)
    (nothing : notes home = []) (note : Note) :
    (gainedHomes base (Function.update notes home [note])).card =
      (gainedHomes base notes).card + 1 := by
  have inserted : gainedHomes base (Function.update notes home [note]) =
      insert home (gainedHomes base notes) := by
    ext other
    rw [Finset.mem_insert, gainedHomes, gainedHomes, Finset.mem_filter, Finset.mem_filter,
      Finset.mem_range]
    by_cases same : other = home
    · simp [same, inPage]
    · simp [same]
  have absent : home ∉ gainedHomes base notes := by simp [gainedHomes, nothing]
  rw [inserted, Finset.card_insert_of_notMem absent]

theorem Noted.startField (noted : Noted first running base links notes)
    {report counted : StartReport} {found : Field Nat} {after : PageSession}
    (outcome : (Session.startField report found).run running = .ok counted after)
    (count : report.notes = (gainedHomes base notes).card) :
    ∃ others gained, Noted first after base others gained ∧
      counted.notes = (gainedHomes base gained).card := by
  rw [run_startField] at outcome
  split at outcome
  · obtain ⟨rfl, rfl⟩ := EStateM.Result.ok.inj outcome
    exact ⟨links, notes, noted, count⟩
  · next kind _ =>
    simp only at outcome
    split at outcome
    · cases outcome
    · next attached attachedEq =>
      have linked := noted.attach kind.linkKind kind.label (kind.action running.session.settings)
        found.input
      rw [final_eq_of_ok attachedEq] at linked
      obtain ⟨others, linked⟩ := linked
      split at outcome
      · cases outcome
      · next added ended notifiedEq =>
        obtain ⟨rfl, rfl⟩ := EStateM.Result.ok.inj outcome
        rcases linked.run_notify found.input with
          ⟨refused, kept, -⟩ | ⟨home, note, noticed, inPage, nothing, answered, gained⟩
        · rw [final_eq_of_ok notifiedEq] at kept
          refine ⟨others, notes, kept, ?_⟩
          cases added with
          | true => exact (refused _ notifiedEq).elim
          | false => cases kind <;> exact count
        · obtain ⟨rfl, rfl⟩ := EStateM.Result.ok.inj (answered.symm.trans notifiedEq)
          refine ⟨others, _, gained, ?_⟩
          rw [card_gainedHomes_update inPage nothing, ← count]
          cases kind <;> rfl

theorem Noted.startFields (noted : Noted first running base links notes)
    {report counted : StartReport} {fields : List (Field Nat)} {after : PageSession}
    (outcome : (fields.foldlM Session.startField report).run running = .ok counted after)
    (count : report.notes = (gainedHomes base notes).card) :
    ∃ others gained, Noted first after base others gained ∧
      counted.notes = (gainedHomes base gained).card := by
  induction fields generalizing running report links notes with
  | nil =>
      obtain ⟨rfl, rfl⟩ := EStateM.Result.ok.inj outcome
      exact ⟨links, notes, noted, count⟩
  | cons found rest ih =>
      rw [List.foldlM_cons, EStateM.run_bind] at outcome
      split at outcome
      · next second middle first =>
        obtain ⟨_, _, middleNoted, middleCount⟩ := noted.startField first count
        exact ih middleNoted outcome middleCount
      · cases outcome

/-- A start reports as many notes as containers have gained one. -/
theorem start_notes (formed : running.page.page.WellFormed) {report : StartReport}
    {after : PageSession} (outcome : Session.start.run running = .ok report after) :
    report.notes = ((Finset.range running.page.page.containers.length).filter fun home =>
      after.page.page.notesIn home ≠ running.page.page.notesIn home).card := by
  rw [run_start] at outcome
  split at outcome
  · cases outcome
  · split at outcome
    · cases outcome
    · next counted searched found =>
      obtain ⟨rfl, rfl⟩ := EStateM.Result.ok.inj outcome
      have begins : Noted running (begun running) running.page.page (fun _ => []) (fun _ => []) :=
        (noted_self formed).congr rfl rfl rfl rfl
      obtain ⟨others, gained, noted, count⟩ := begins.startFields found (by simp [gainedHomes])
      rw [count, gainedHomes]
      congr 1
      apply Finset.filter_congr
      intro home _
      have pageEq : (searched.logged (.startDone counted)).page.page = searched.page.page := rfl
      rw [pageEq, noted.notesIn_eq]
      simp

/-! ### A run of calls -/

theorem Noted.after (noted : Noted first running base links notes) (call : PageCall) :
    ∃ base links notes, Noted first (running.after call) base links notes := by
  let holds (running : PageSession) : Prop :=
    ∃ base links notes, Noted first running base links notes
  have kept (running other : PageSession) (before : holds running)
      (pageEq : other.page.page = running.page.page)
      (settingsEq : other.session.settings = running.session.settings)
      (gapEq : other.session.gap = running.session.gap)
      (translatorEq : other.page.translator = running.page.translator) : holds other := by
    obtain ⟨base, links, notes, noted⟩ := before
    exact ⟨base, links, notes, noted.congr pageEq settingsEq gapEq translatorEq⟩
  have before : holds running := ⟨base, links, notes, noted⟩
  apply holds_after before
  · exact fun _ _ before => kept _ _ before rfl rfl rfl rfl
  · exact fun _ before => kept _ _ before rfl rfl rfl rfl
  · rintro kind action label input - running ⟨base, links, notes, noted⟩
    obtain ⟨others, attached⟩ := noted.attach kind label action input
    exact ⟨base, others, notes, attached⟩
  · rintro input running ⟨base, links, notes, noted⟩
    obtain ⟨others, notified⟩ := noted.notify input
    exact ⟨base, links, others, notified⟩
  · rintro request running ⟨base, links, notes, noted⟩
    obtain ⟨other, served⟩ := noted.serve request
    exact ⟨other, links, notes, served⟩
  · exact fun _ _ before => kept _ _ before rfl rfl rfl rfl

theorem Noted.run (noted : Noted first running base links notes) (calls : List PageCall) :
    ∃ base links notes, Noted first (calls.foldl PageSession.after running) base links notes := by
  induction calls generalizing running base links notes with
  | nil => exact ⟨base, links, notes, noted⟩
  | cons call rest ih =>
      obtain ⟨_, _, _, called⟩ := noted.after call
      exact ih called

/-- What a session that was made on a workbench has done to the notes of its page: each
container has gained one note at most, the one that was due when the session was made;
a question for a note is answered with yes just when a container gains one; and a start
counts the containers that gain one. -/
structure NotedOnce (bench : Workbench) (settings : Settings) (serverOffset : Option Int)
    (running : PageSession) : Prop where
  gained : ∀ home, ∃ gained,
    running.page.page.notesIn home = bench.page.notesIn home ++ gained ∧ gained.length ≤ 1 ∧
      ((ZoneGap.between bench.clock.offset serverOffset).wholeHours = 0 ∨
        bench.page.isMarked home settings.noteClass = true → gained = []) ∧
      ∀ note ∈ gained, note.classes = [settings.helpClass, settings.noteClass] ∧
        (ZoneGap.between bench.clock.offset serverOffset).noteText? bench.translator =
          some note.text
  answered : ∀ input,
    (∃ after, (Session.notify input).run running = .ok true after) ↔
      ∃ home, (running.after (.notify input)).page.page.notesIn home ≠
        running.page.page.notesIn home
  counted : ∀ report after, Session.start.run running = .ok report after →
    report.notes = ((Finset.range running.page.page.containers.length).filter fun home =>
      after.page.page.notesIn home ≠ running.page.page.notesIn home).card

/-- However a session on a page is called, it puts one note at most in a container. -/
theorem noted_once (bench : Workbench) (reachable : bench.page.Reachable) (settings : Settings)
    (serverOffset : Option Int) (calls : List PageCall) :
    NotedOnce bench settings serverOffset
      (calls.foldl PageSession.after (Session.create bench settings serverOffset)) := by
  let created : PageSession := Session.create bench settings serverOffset
  have noted : Noted created created bench.page (fun _ => []) (fun _ => []) :=
    noted_self reachable.wellFormed
  obtain ⟨base, links, notes, noted⟩ := noted.run calls
  refine ⟨?_, noted.notify_true_iff, fun _ _ => start_notes noted.wellFormed⟩
  intro home
  refine ⟨notes home, noted.notesIn_eq home, ?_⟩
  by_cases gained : notes home = []
  · rw [gained]
    exact ⟨Nat.zero_le 1, fun _ => rfl, by simp⟩
  · obtain ⟨-, unmarked, note, due, notesEq⟩ := noted.once home gained
    obtain ⟨text, textEq, rfl⟩ := Option.map_eq_some_iff.mp due
    rw [notesEq]
    refine ⟨Nat.le_refl 1, ?_, ?_⟩
    · rintro (near | marked)
      · have silent := ZoneGap.noteText?_of_near near bench.translator
        exact (Option.some_ne_none text (textEq.symm.trans silent)).elim
      · exact (Bool.false_ne_true (unmarked.symm.trans marked)).elim
    · intro other member
      obtain rfl := List.mem_singleton.mp member
      exact ⟨rfl, textEq⟩

/-- The meeting, whose clock is set to the time of the server after its start. -/
theorem noted_once_meeting :
    (([.notify 2, .start, .setClock ⟨0, 0, 0⟩, .notify 0, .notify 9] : List PageCall).foldl
        PageSession.after meeting).page.page.notesIn 0 =
          [⟨["help", "timezonewarning"], "Note: You are 2 hours ahead of server time."⟩] ∧
      NotedOnce { page := .ofFixture meetingFixture, clock := ⟨0, 0, 7200⟩, translator := .english }
        .standard (some 0)
        (([.notify 2, .start, .setClock ⟨0, 0, 0⟩, .notify 0, .notify 9] : List PageCall).foldl
          PageSession.after meeting) :=
  ⟨by decide +kernel, noted_once _ (.described meetingFixture) .standard (some 0) _⟩

end PageSession

end QuickFill
