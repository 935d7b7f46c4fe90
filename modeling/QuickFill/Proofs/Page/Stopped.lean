import QuickFill.Proofs.Page.Start

/-!
# A start that stops

A start takes the inputs of the page one by one and stops at the first that is registered
for its kind already.  What it did for the inputs before that one stays, as a search that
never came to that one would have left it, and neither that input nor any after it is
touched.  The session counts as started all the same.
-/

namespace QuickFill

theorem PageNode.sublist_withLinks (links : Nat → List Shortcut) (nodes : List PageNode) :
    nodes.Sublist (nodes.flatMap (PageNode.withLinks links)) := by
  induction nodes with
  | nil => exact List.Sublist.slnil
  | cons node rest ih =>
      rw [List.flatMap_cons]
      cases node with
      | input number => exact (ih.trans (List.sublist_append_right _ _)).cons_cons _
      | shortcut shortcut => exact ih.cons_cons _
      | note note => exact ih.cons_cons _

theorem Container.sublist_decorated (links : Nat → List Shortcut) (notes : List Note)
    (container : Container) : container.nodes.Sublist (container.decorated links notes).nodes :=
  (PageNode.sublist_withLinks links container.nodes).trans (List.sublist_append_left _ _)

namespace Page

variable {page : Page} {links : Nat → List Shortcut} {notes : Nat → List Note}

/-- An input that got no link is followed by the link that followed it before. -/
theorem shortcutAfter?_withLinks_nil {number : Nat} (unlinked : links number = [])
    (nodes : List PageNode) (notes : List Note) :
    shortcutAfter? number (nodes.flatMap (PageNode.withLinks links) ++ notes.map .note) =
      shortcutAfter? number nodes := by
  induction nodes with
  | nil =>
      induction notes with
      | nil => rfl
      | cons note rest ih => exact ih
  | cons node rest ih =>
      rw [List.flatMap_cons, List.append_assoc]
      by_cases same : node = .input number
      · subst same
        rw [PageNode.withLinks, unlinked]
        cases rest with
        | nil => cases notes <;> simp [shortcutAfter?]
        | cons next others => cases next <;> simp [shortcutAfter?, PageNode.withLinks]
      · have absent : .input number ∉ [node] := by simpa using Ne.symm same
        rw [shortcutAfter?_append (notMem_withLinks same), ih, ← shortcutAfter?_append absent]
        rfl

theorem shortcut?_decorated_of_nil {number : Nat} (unlinked : links number = []) :
    (page.decorated links notes).shortcut? number = page.shortcut? number := by
  have inputsEq : (page.decorated links notes).inputs = page.inputs := rfl
  rw [shortcut?, shortcut?, siblings, siblings, inputsEq]
  cases page.inputs[number]? with
  | none => rfl
  | some input =>
      simp only [decorated, List.getElem?_mapIdx]
      cases page.containers[input.home]? with
      | none => rfl
      | some container => exact shortcutAfter?_withLinks_nil unlinked container.nodes _

/-- A container whose inputs got no link, and which got no note, is as it was. -/
theorem getElem?_decorated_of_nil {home : Nat} (unnoted : notes home = [])
    (unlinked : ∀ container, page.containers[home]? = some container →
      ∀ number, .input number ∈ container.nodes → links number = []) :
    (page.decorated links notes).containers[home]? = page.containers[home]? := by
  cases placed : page.containers[home]? with
  | none => rw [decorated, List.getElem?_mapIdx, placed, Option.map_none]
  | some container =>
      have plain := decorated_nothing { page with containers := [container] }
      have kept : container.decorated (fun _ => []) [] = container := by
        simpa [decorated] using congrArg Page.containers plain
      rw [getElem?_decorated placed, unnoted, Container.decorated,
        flatMap_withLinks_congr (unlinked container placed), ← Container.decorated, kept]

end Page

namespace PageSession

variable {before : PageSession} {front back : List Nat} {number : Nat} {kind : LinkKind}

/-- The kind of links that an input would get from a start, if it is registered for that
kind already. -/
def takenKind? (before : PageSession) (number : Nat) : Option LinkKind :=
  ((fieldKind? before number).map FieldKind.linkKind).filter fun kind =>
    before.session.registry.inputs kind |>.contains number

theorem takenKind?_eq_some : takenKind? before number = some kind ↔
    ∃ found, fieldKind? before number = some found ∧ found.linkKind = kind ∧
      number ∈ before.session.registry.inputs kind := by
  simp only [takenKind?, Option.filter_eq_some_iff, Option.map_eq_some_iff, List.contains_iff_mem]
  constructor
  · rintro ⟨⟨found, known, rfl⟩, registered⟩
    exact ⟨found, known, rfl, registered⟩
  · rintro ⟨found, known, rfl, registered⟩
    exact ⟨⟨found, known, rfl⟩, registered⟩

theorem notMem_of_takenKind?_eq_none (free : takenKind? before number = none) {found : FieldKind}
    (known : fieldKind? before number = some found) :
    number ∉ before.session.registry.inputs found.linkKind := by
  intro registered
  have taken := takenKind?_eq_some.mpr ⟨found, known, rfl, registered⟩
  rw [free] at taken
  cases taken

/-! ### Stopping -/

/-- What a start leaves behind when it stops at an input: `front` holds the inputs of the page
before that one, and `back` those after it. -/
structure StoppedAt (before : PageSession) (front : List Nat) (number : Nat) (back : List Nat)
    (after : PageSession) : Prop where
  /-- A search of the inputs in front, and of no others, succeeds in the same state. -/
  front_searched : ((front.filterMap (Workbench.field? before.page.page)).foldlM
      Session.startField {}).run (Session.begun before) =
    .ok (startReport before front) after
  /-- Links, notes and handles are those that a start gives when it finds nothing else. -/
  after_eq : ∃ log, after = searched before front front log
  registry_eq : ∀ kind, after.session.registry.inputs kind =
    before.session.registry.inputs kind ++ linked before front kind
  inputs_eq : after.page.page.inputs = before.page.page.inputs
  boxes_eq : after.page.page.boxes = before.page.page.boxes
  hidden_eq : after.page.page.hidden = before.page.page.hidden
  focused_eq : after.page.page.focused = before.page.page.focused
  /-- Only containers of inputs in front are touched. -/
  containers_eq : ∀ home, (∀ earlier ∈ front, (fieldKind? before earlier).isSome →
      before.page.page.homes[earlier]? ≠ some home) →
    after.page.page.containers[home]? = before.page.page.containers[home]?
  /-- What was there is still there, in its order. -/
  nodes_sublist : ∀ (home : Nat) (container : Container),
    before.page.page.containers[home]? = some container →
      ∃ grown : Container, after.page.page.containers[home]? = some grown ∧
        container.nodes.Sublist grown.nodes
  /-- The input and those after it have the links that they had. -/
  shortcut?_eq : ∀ later ∈ number :: back,
    after.page.page.shortcut? later = before.page.page.shortcut? later

theorem stoppedAt (formed : before.page.page.WellFormed)
    (order : before.page.page.inputOrder = front ++ number :: back)
    (free : ∀ earlier ∈ front, takenKind? before earlier = none) :
    ∃ after, StoppedAt before front number back after := by
  obtain ⟨log, front_searched⟩ := run_startFields_begun formed order
    fun earlier member _ known => notMem_of_takenKind?_eq_none (free earlier member) known
  refine ⟨_, front_searched, ⟨log, rfl⟩, Registry.inputs_extend _ _, rfl, rfl, rfl, rfl,
    ?_, ?_, ?_⟩
  · intro home elsewhere
    apply Page.getElem?_decorated_of_nil
    · have unnoted : home ∉ notedHomes before front := by
        rw [mem_notedHomes]
        rintro ⟨-, -, -, earlier, member, known, named⟩
        exact elsewhere earlier member known named
      rw [startNotes, if_neg unnoted]
    · intro container placed other isNode
      by_cases member : other ∈ front
      · have rowFound : before.page.page.rows[home]? = some container.numbers := by
          rw [Page.rows, List.getElem?_map, placed, Option.map_some]
        have named := formed.home_of_mem rowFound (mem_numbers.mpr isNode)
        have unknown : fieldKind? before other = none := by
          rw [← Option.not_isSome_iff_eq_none]
          exact fun known => elsewhere other member known named
        rw [startLinks, unknown]
      · exact startLinks_of_notMem member
  · intro home container placed
    exact ⟨_, Page.getElem?_decorated placed, Container.sublist_decorated _ _ container⟩
  · intro later member
    have nodup := formed.inputOrder_nodup
    rw [order] at nodup
    have absent : later ∉ front :=
      fun earlier => (List.nodup_append.mp nodup).2.2 later earlier later member rfl
    exact Page.shortcut?_decorated_of_nil (startLinks_of_notMem absent)

/-- A start stops at the first input that is taken, and nowhere else. -/
theorem run_start_stopped (unstarted : before.session.started = false)
    (order : before.page.page.inputOrder = front ++ number :: back)
    (taken : takenKind? before number = some kind) {after : PageSession}
    (stopped : StoppedAt before front number back after) :
    Session.start.run before = .error (.alreadyRegistered kind) after := by
  obtain ⟨found, known, rfl, registered⟩ := takenKind?_eq_some.mp taken
  obtain ⟨field, fieldFound, isKind⟩ := Option.bind_eq_some_iff.mp known
  obtain ⟨input, -, rfl⟩ := Option.map_eq_some_iff.mp fieldFound
  have fieldsEq : Attachable.fields (Session.begun before).page =
      before.page.page.inputOrder.filterMap (Workbench.field? before.page.page) := rfl
  have settingsEq : after.session.settings = before.session.settings := by
    obtain ⟨log, rfl⟩ := stopped.after_eq
    rfl
  have stillRegistered : number ∈ after.session.registry.inputs found.linkKind := by
    rw [stopped.registry_eq]
    exact List.mem_append_left _ registered
  rw [Session.run_start, unstarted, fieldsEq, order, List.filterMap_append,
    List.filterMap_cons_some fieldFound, List.foldlM_append, EStateM.run_bind,
    stopped.front_searched]
  simp only [List.foldlM_cons, EStateM.run_bind, Session.run_startField, settingsEq, isKind,
    Session.run_attach, if_pos stillRegistered]
  rfl

/-- When no input is taken, a start deals with all of them. -/
theorem run_start_free (formed : before.page.page.WellFormed)
    (unstarted : before.session.started = false)
    (free : ∀ number ∈ before.page.page.inputOrder, takenKind? before number = none) :
    ∃ log, Session.start.run before =
      .ok (startReport before before.page.page.inputOrder)
        (searched before before.page.page.inputOrder before.page.page.inputOrder log) := by
  apply run_start_searched formed unstarted
  intro kind number member
  obtain ⟨inOrder, isKind⟩ := List.mem_filter.mp member
  obtain ⟨found, known, same⟩ := (Option.any_eq_true _ _).mp isKind
  rw [← beq_iff_eq.mp same]
  exact notMem_of_takenKind?_eq_none (free number inOrder) known

/-- A session is started, if it was not yet, whether or not the start is refused. -/
theorem started_start {running : PageSession} (formed : running.page.page.WellFormed) :
    (running.after .start).session.started = true := by
  rw [after, Session.final]
  cases started : running.session.started with
  | true =>
      rw [Session.run_start, if_pos started]
      exact started
  | false =>
      cases first : running.page.page.inputOrder.findSome? (takenKind? running) with
      | none =>
          obtain ⟨log, outcome⟩ :=
            run_start_free formed started (List.findSome?_eq_none_iff.mp first)
          rw [outcome]
          rfl
      | some kind =>
          obtain ⟨front, number, back, order, taken, free⟩ := List.findSome?_eq_some_iff.mp first
          obtain ⟨stop, stopped⟩ := stoppedAt formed order free
          rw [run_start_stopped started order taken stopped]
          obtain ⟨log, rfl⟩ := stopped.after_eq
          rfl

/-! ### Starting again -/

theorem attachClosed_started :
    Session.AttachClosed fun running : PageSession => running.session.started = true where
  logged _ started := started
  begun _ := rfl
  registered _ _ started := started
  linked started _ := started
  noted started _ := started

theorem fillClosed_started :
    Session.FillClosed fun running : PageSession => running.session.started = true where
  logged _ started := started
  written started _ := started
  focused started _ := started
  hidden started _ := started

theorem started_after {running : PageSession} (started : running.session.started = true)
    (call : PageCall) : (running.after call).session.started = true :=
  @holds_after (fun running => running.session.started = true) _ started
    (fun _ _ started => started) (fun _ _ => rfl)
    (fun label input _ => attachClosed_started.attach _ label _ input)
    attachClosed_started.notify fillClosed_started.serve (fun _ _ started => started) call

theorem started_foldl {running : PageSession} (started : running.session.started = true)
    (calls : List PageCall) : (calls.foldl PageSession.after running).session.started = true := by
  induction calls generalizing running with
  | nil => exact started
  | cons call rest ih => exact ih (started_after started call)

/-- A start that is refused only writes to the log. -/
theorem run_start_again {running : PageSession} (started : running.session.started = true) :
    Session.start.run running = .error .alreadyStarted (running.logged .startRefused) := by
  rw [Session.run_start, if_pos started]

/-- How the starts of a session that was not started before end. -/
structure StartsOnce (before : PageSession) : Prop where
  refused_iff : (∃ fault after, Session.start.run before = .error fault after) ↔
    ∃ number ∈ before.page.page.inputOrder, (takenKind? before number).isSome
  stopped : ∀ front number back kind, before.page.page.inputOrder = front ++ number :: back →
    (∀ earlier ∈ front, takenKind? before earlier = none) →
      takenKind? before number = some kind →
        ∃ after, Session.start.run before = .error (.alreadyRegistered kind) after ∧
          StoppedAt before front number back after
  /-- However the first start ended and whatever was called since, no start does anything. -/
  again : ∀ calls : List PageCall,
    let later := calls.foldl PageSession.after (before.after .start)
    Session.start.run later = .error .alreadyStarted (later.logged .startRefused)

/-- A session that was not started before starts unless an input of the page is registered
for its own kind already; it then stops at the first such input.  No session starts twice. -/
theorem starts_once (live : Live before) (unstarted : before.session.started = false) :
    StartsOnce before := by
  have formed := live.reachable.wellFormed
  have stopped {front number back kind}
      (order : before.page.page.inputOrder = front ++ number :: back)
      (free : ∀ earlier ∈ front, takenKind? before earlier = none)
      (taken : takenKind? before number = some kind) :
      ∃ after, Session.start.run before = .error (.alreadyRegistered kind) after ∧
        StoppedAt before front number back after := by
    obtain ⟨after, stoppedAt⟩ := stoppedAt formed order free
    exact ⟨after, run_start_stopped unstarted order taken stoppedAt, stoppedAt⟩
  refine ⟨⟨?_, ?_⟩, fun _ _ _ _ => stopped, ?_⟩
  · rintro ⟨fault, after, failed⟩
    by_contra noneTaken
    have free : ∀ number ∈ before.page.page.inputOrder, takenKind? before number = none := by
      simpa using noneTaken
    obtain ⟨log, outcome⟩ := run_start_free formed unstarted free
    rw [outcome] at failed
    cases failed
  · rintro ⟨taken, inOrder, isTaken⟩
    cases first : before.page.page.inputOrder.findSome? (takenKind? before) with
    | none =>
        rw [List.findSome?_eq_none_iff.mp first taken inOrder] at isTaken
        cases isTaken
    | some kind =>
        obtain ⟨front, number, back, order, isFirst, free⟩ := List.findSome?_eq_some_iff.mp first
        obtain ⟨after, failed, -⟩ := stopped order free isFirst
        exact ⟨_, after, failed⟩
  · intro calls
    exact run_start_again (started_foldl (started_start formed) calls)

/-- The meeting when its hour was registered before the start: the day before it gets its
link and its note, and is registered. -/
theorem starts_once_meeting :
    takenKind? (meeting.after (.attachClock 1 "%H")) 0 = none ∧
      takenKind? (meeting.after (.attachClock 1 "%H")) 1 = some .clock ∧
        (meeting.after (.attachClock 1 "%H")).page.page.inputOrder = [0, 1, 2] ∧
          ((meeting.after (.attachClock 1 "%H")).after .start).session.registry = ⟨[1], [0]⟩ ∧
            StartsOnce (meeting.after (.attachClock 1 "%H")) :=
  ⟨by decide +kernel, by decide +kernel, by decide +kernel, by decide +kernel,
    starts_once (live_meeting.called (.attachClock 1 "%H")) rfl⟩

end PageSession

end QuickFill
