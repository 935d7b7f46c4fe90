import QuickFill.Proofs.CommandLine.NowClick
import QuickFill.Proofs.Page.Consistent
import QuickFill.Proofs.Page.Filled
import QuickFill.Proofs.Page.FocusMark

/-!
# The last click wins

A run performs its clicks one after another, on one page.  What a click writes does not
depend on the clicks before it, so the page that is shown in the end can be told from the
page that was started: an input holds the text of the last click on it, the focus is
where the last click of all was, and the boxes are hidden that dates were picked from.
-/

namespace QuickFill

open Session

namespace Click

/-- The kind of inputs among which the handle of a click is looked up. -/
def kind : Click → LinkKind
  | .now _ => .clock
  | .hour _ _ => .clock
  | .today _ _ => .calendar
  | .pick _ _ => .calendar

def handle : Click → Nat
  | .now handle => handle
  | .hour handle _ => handle
  | .today handle _ => handle
  | .pick handle _ => handle

/-- What a click asks of a session. -/
def request : Click → Except Fault SessionRequest
  | .now handle => .ok (.clock handle .now none)
  | .hour handle number =>
    (ClockValue.ofSentinel number).map fun value => .clock handle value none
  | .today handle days => .ok (.today handle days)
  | .pick handle date => .ok (.pick handle date.year date.month date.day)

variable (started : PageSession)

/-- The input that the handle of a click resolves to. -/
def input? (click : Click) : Option Nat :=
  (started.session.registry.resolve click.kind click.handle).toOption

/-- The text that a click writes on a page that was started. -/
def text (click : Click) : Except Fault String := do
  let request ← click.request
  let number ← started.session.registry.resolve click.kind click.handle
  requestText started number request

/-- The text of the last click whose handle resolves to an input. -/
def lastText? (clicks : List Click) (number : Nat) : Option String :=
  (clicks.filter fun click => click.input? started = some number).getLast?.bind fun click =>
    (click.text started).toOption

/-- The input of the last click. -/
def lastInput? (clicks : List Click) : Option Nat :=
  clicks.getLast?.bind (input? started)

/-- The box that a click hides. -/
def box? : Click → Option String
  | .pick handle _ => some ("calendarbox" ++ toString handle)
  | _ => none

theorem run_perform (click : Click) (running : PageSession) :
    click.perform.run running =
      match click.request with
      | .error fault => .error fault running
      | .ok request => (fillInput click.kind click.handle request).run running := by
  cases click with
  | now handle =>
      have target : (SessionRequest.clock handle .now none).target? = some (.clock, handle) := rfl
      exact run_serve target running
  | hour handle number =>
      simp only [perform, request, EStateM.run_bind, run_yields]
      cases ClockValue.ofSentinel number with
      | error fault => rfl
      | ok value =>
          have target : (SessionRequest.clock handle value none).target? = some (.clock, handle) :=
            rfl
          exact run_serve target running
  | today handle days =>
      have target : (SessionRequest.today handle days).target? = some (.calendar, handle) := rfl
      exact run_serve target running
  | pick handle date => exact run_pickDate handle date.year date.month date.day running

end Click

namespace PageSession

variable {running after : PageSession} {kind : LinkKind} {handle : Nat}
  {request : SessionRequest} {text : String}

/-- The box that a request hides. -/
def boxOf? (running : PageSession) : SessionRequest → Option String
  | .pick handle _ _ _ => some (running.session.settings.boxId handle)
  | _ => none

def withHidden (page : Page) (id? : Option String) : Page :=
  { page with
    hidden :=
      match id? with
      | some id => insertName id page.hidden
      | none => page.hidden }

/-- The page after a text was written into an input and the focus moved there. -/
def filling (page : Page) (number : Nat) (text : String) : Page :=
  { page.modifyInput number (fun input => { input with value := text }) with
    focused := some number }

theorem requestEnd_eq_ok {found : PageSession} {number : Nat}
    (ended : (requestEnd found number request).run running = .ok () after) :
    (∀ id, boxOf? found request = some id → id ∈ running.page.page.boxes) ∧
      ∃ log, after = running.withPage { running.page with
        page := withHidden running.page.page (boxOf? found request)
        log := log } := by
  have quiet (log : List LogEvent) (noBox : boxOf? found request = none)
      (same : after = running.withPage { running.page with log := log }) :
      (∀ id, boxOf? found request = some id → id ∈ running.page.page.boxes) ∧
        ∃ log, after = running.withPage { running.page with
          page := withHidden running.page.page (boxOf? found request)
          log := log } := by
    rw [noBox]
    exact ⟨fun id isBox => absurd isBox (Option.some_ne_none id).symm, log, same⟩
  cases request with
  | clock handle value template => exact quiet _ rfl (EStateM.Result.ok.inj ended).2.symm
  | today handle days => exact quiet _ rfl (EStateM.Result.ok.inj ended).2.symm
  | pick handle year month day =>
      rw [requestEnd, run_change_bind, Workbench.hide_eq] at ended
      by_cases known : running.page.page.boxes.contains (found.session.settings.boxId handle) = true
      · rw [if_pos known] at ended
        obtain ⟨-, rfl⟩ := EStateM.Result.ok.inj ended
        refine ⟨fun id isBox => ?_, _, rfl⟩
        obtain rfl := Option.some.inj isBox
        exact List.contains_iff_mem.mp known
      · rw [if_neg known] at ended
        cases ended
  | boxId handle => exact quiet running.page.log rfl (EStateM.Result.ok.inj ended).2.symm
  | follow link => cases link <;> exact quiet _ rfl (EStateM.Result.ok.inj ended).2.symm

/-- What a request that is answered found, and what it left. -/
theorem fillInput_eq_ok
    (filled : (fillInput kind handle request).run running = .ok text after) :
    ∃ number log, running.session.registry.resolve kind handle = .ok number ∧
      requestText running number request = .ok text ∧
      number < running.page.page.inputs.length ∧
      (∀ id, boxOf? running request = some id → id ∈ running.page.page.boxes) ∧
      after = running.withPage { running.page with
        page := withHidden (filling running.page.page number text) (boxOf? running request)
        log := log } := by
  rw [run_fillInput_page] at filled
  cases resolved : running.session.registry.resolve kind handle with
  | error fault => simp [resolved] at filled
  | ok number =>
      cases texted : requestText running number request with
      | error fault => simp [resolved, texted] at filled
      | ok written =>
          simp only [resolved, texted] at filled
          split at filled
          · next onPage =>
            split at filled
            · cases filled
            · next ended done =>
              obtain ⟨rfl, rfl⟩ := EStateM.Result.ok.inj filled
              obtain ⟨inPage, log, endedEq⟩ := requestEnd_eq_ok done
              exact ⟨number, log, rfl, texted, onPage, inPage, endedEq⟩
          · cases filled

end PageSession

namespace Click

open PageSession

variable {started : PageSession}

theorem lastText?_append (clicks : List Click) (click : Click) (number : Nat) :
    lastText? started (clicks ++ [click]) number =
      if click.input? started = some number then (click.text started).toOption
      else lastText? started clicks number := by
  rw [lastText?, List.filter_append]
  by_cases here : click.input? started = some number
  · simp [here]
  · simp [here, lastText?]

theorem boxOf?_request {click : Click} {request : SessionRequest}
    (standard : started.session.settings = .standard)
    (requested : click.request = .ok request) : boxOf? started request = click.box? := by
  cases click with
  | now handle =>
      obtain rfl := Except.ok.inj requested
      rfl
  | hour handle number =>
      rw [Click.request] at requested
      cases asked : ClockValue.ofSentinel number with
      | error fault => simp [asked, Except.map] at requested
      | ok value =>
          rw [asked] at requested
          obtain rfl := Except.ok.inj requested
          rfl
  | today handle days =>
      obtain rfl := Except.ok.inj requested
      rfl
  | pick handle date =>
      obtain rfl := Except.ok.inj requested
      rw [boxOf?, standard]
      rfl

/-! ### Many clicks -/

/-- A session on a page that was started, after some clicks. -/
structure Clicked (started : PageSession) (clicks : List Click) (current : PageSession) :
    Prop where
  session_eq : current.session = started.session
  clock_eq : current.page.clock = started.page.clock
  translator_eq : current.page.translator = started.page.translator
  containers_eq : current.page.page.containers = started.page.page.containers
  boxes_eq : current.page.page.boxes = started.page.page.boxes
  input_eq : ∀ number : Nat, current.page.page.inputs[number]? =
    started.page.page.inputs[number]?.map fun input =>
      { input with value := (lastText? started clicks number).getD input.value }
  focused_eq : current.page.page.focused =
    (lastInput? started clicks).or started.page.page.focused
  hidden_iff : ∀ id, id ∈ current.page.page.hidden ↔
    id ∈ clicks.filterMap box? ∨ id ∈ started.page.page.hidden
  boxes_mem : ∀ id ∈ clicks.filterMap box?, id ∈ started.page.page.boxes
  inPage : ∀ click ∈ clicks, ∃ number, click.input? started = some number ∧
    number < started.page.page.inputs.length

theorem Clicked.nothing (started : PageSession) : Clicked started [] started where
  session_eq := rfl
  clock_eq := rfl
  translator_eq := rfl
  containers_eq := rfl
  boxes_eq := rfl
  input_eq _ := Option.map_id'.symm
  focused_eq := rfl
  hidden_iff _ := by simp
  boxes_mem _ member := nomatch member
  inPage _ member := nomatch member

theorem mem_boxes_append {clicks : List Click} {click : Click} {id : String} :
    id ∈ (clicks ++ [click]).filterMap box? ↔
      id ∈ clicks.filterMap box? ∨ click.box? = some id := by
  rw [List.filterMap_append, List.mem_append]
  cases isBox : click.box? with
  | none => simp [isBox]
  | some picked => simp [isBox, eq_comm]

/-- The inputs of the page are those that it was started with, as many as they were. -/
theorem Clicked.lt_of_lt {clicks : List Click} {current : PageSession}
    (clicked : Clicked started clicks current) {number : Nat}
    (onPage : number < current.page.page.inputs.length) :
    number < started.page.page.inputs.length := by
  have found := clicked.input_eq number
  rw [List.getElem?_eq_getElem onPage] at found
  obtain ⟨input, startedFound, -⟩ := Option.map_eq_some_iff.mp found.symm
  exact (List.getElem?_eq_some_iff.mp startedFound).1

/-- What a click writes does not depend on the clicks before it. -/
theorem Clicked.perform {clicks : List Click} {current next : PageSession} {click : Click}
    {written : String} (clicked : Clicked started clicks current)
    (standard : started.session.settings = .standard)
    (performed : click.perform.run current = .ok written next) :
    click.text started = .ok written ∧ Clicked started (clicks ++ [click]) next := by
  rw [run_perform] at performed
  cases requested : click.request with
  | error fault => simp [requested] at performed
  | ok request =>
      rw [requested] at performed
      obtain ⟨number, log, resolved, texted, onPage, boxHere, rfl⟩ := fillInput_eq_ok performed
      have boxEq : boxOf? current request = click.box? := by
        apply boxOf?_request _ requested
        rw [clicked.session_eq, standard]
      rw [boxEq] at boxHere ⊢
      have stepEq : current.page.page.step? number = started.page.page.step? number := by
        rw [Page.step?, Page.step?, clicked.input_eq, Option.bind_map]
        rfl
      rw [clicked.session_eq] at resolved
      have textEq : click.text started = .ok written := by
        have same := requestText_congr (congrArg Session.settings clicked.session_eq)
          (congrArg Session.gap clicked.session_eq) clicked.clock_eq clicked.translator_eq stepEq
          request
        rw [text, requested, resolved]
        exact same.symm.trans texted
      have inputEq : click.input? started = some number := by
        rw [input?, resolved]
        rfl
      refine ⟨textEq, clicked.session_eq, clicked.clock_eq, clicked.translator_eq,
        clicked.containers_eq, clicked.boxes_eq, ?_, ?_, ?_, ?_, ?_⟩
      · intro other
        have alone := Page.filledAlone onPage written
        rw [lastText?_append, inputEq]
        by_cases same : other = number
        · subst same
          rw [if_pos rfl, textEq]
          refine alone.input_eq.trans ?_
          rw [clicked.input_eq, Option.map_map]
          rfl
        · rw [if_neg fun here => same (Option.some.inj here).symm]
          exact (alone.others_eq other same).trans (clicked.input_eq other)
      · rw [lastInput?, List.getLast?_concat, Option.bind_some, inputEq]
        rfl
      · intro id
        have before := clicked.hidden_iff id
        rw [mem_boxes_append]
        cases isBox : click.box? with
        | none =>
            rw [iff_false_intro (Option.some_ne_none id).symm, or_false]
            exact before
        | some picked =>
            rw [Option.some_inj, eq_comm, or_assoc, or_left_comm]
            exact mem_insertName.trans (or_congr_right before)
      · intro id member
        rcases mem_boxes_append.mp member with earlier | isBox
        · exact clicked.boxes_mem id earlier
        · rw [← clicked.boxes_eq]
          exact boxHere id isBox
      · intro other member
        rcases List.mem_append.mp member with earlier | isNew
        · exact clicked.inPage other earlier
        · obtain rfl := List.mem_singleton.mp isNew
          exact ⟨number, inputEq, clicked.lt_of_lt onPage⟩

end Click

/-- An input without its container. -/
def Input.apart (input : Input) : Input :=
  { input with home := 0 }

/-- An input as a field describes it, without a container. -/
def FieldFixture.input (described : FieldFixture) : Input :=
  ⟨described.id, described.type, described.classes, described.step, described.value, 0⟩

/-- The inputs of a described page are as its fields, in their order. -/
theorem Page.inputs_ofFixture (fixture : PageFixture) :
    (ofFixture fixture).inputs.map Input.apart = fixture.fields.map FieldFixture.input := by
  have addedOne (page : Page) (described : FieldFixture) :
      (page.addField described).inputs.map Input.apart =
        page.inputs.map Input.apart ++ [described.input] := by
    rw [addField, addInputIn, ensureContainer]
    cases page.containerNumber? (described.container.getD described.id) <;>
      exact List.map_append
  have added (rest : List FieldFixture) (page : Page) :
      (rest.foldl addField page).inputs.map Input.apart =
        page.inputs.map Input.apart ++ rest.map FieldFixture.input := by
    induction rest generalizing page with
    | nil => exact (List.append_nil _).symm
    | cons first rest ih =>
        rw [List.foldl_cons, ih, addedOne, List.append_assoc, List.map_cons]
        rfl
  exact added fixture.fields empty

namespace CommandLine

theorem run_performAll_append (first second : List Click) (running : PageSession) :
    (performAll (first ++ second)).run running =
      match (performAll first).run running with
      | .error fault after => .error fault after
      | .ok () next => (performAll second).run next := by
  induction first generalizing running with
  | nil => rfl
  | cons click rest ih =>
      rw [List.cons_append, run_performAll_cons, run_performAll_cons]
      cases click.perform.run running with
      | error fault after => rfl
      | ok text next => exact ih next

theorem clicked_performAll {started current after : PageSession} {before clicks : List Click}
    (clicked : Click.Clicked started before current)
    (standard : started.session.settings = .standard)
    (performed : (performAll clicks).run current = .ok () after) :
    Click.Clicked started (before ++ clicks) after := by
  induction clicks generalizing before current with
  | nil =>
      obtain ⟨-, rfl⟩ := EStateM.Result.ok.inj performed
      rw [List.append_nil]
      exact clicked
  | cons click rest ih =>
      rw [run_performAll_cons] at performed
      split at performed
      · cases performed
      · next text next clickedOnce =>
        have more := ih (clicked.perform standard clickedOnce).2 performed
        rw [List.append_assoc] at more
        exact more

/-! ### What a run shows -/

/-- What a page shows after clicks, told from its description and from where the handles
resolve to on the page that was started. -/
structure ShowsLast (fixture : PageFixture) (started : PageSession) (clicks : List Click)
    (view : VisiblePage) : Prop where
  inputs_eq : view.inputs = (Page.ofFixture fixture).inputOrder.filterMap fun number =>
    fixture.fields[number]?.map fun described =>
      .input described.id described.type (" ".intercalate described.classes)
        ((Click.lastText? started clicks number).getD described.value)
        (Click.lastInput? started clicks == some number)
  /-- Every field of the description is shown, and once. -/
  order_perm : (Page.ofFixture fixture).inputOrder.Perm (List.range fixture.fields.length)
  inPage : ∀ click ∈ clicks, ∃ number, click.input? started = some number ∧
    number < fixture.fields.length
  /-- The boxes are hidden that dates were picked from, and no others. -/
  boxes_eq : view.boxes = (sortedNames fixture.boxes).map fun id =>
    (id, decide (id ∈ clicks.filterMap Click.box?))
  boxes_mem : ∀ id ∈ clicks.filterMap Click.box?, id ∈ fixture.boxes

/-- A run that shows its page: each click writes the text that it would write alone, and the
page shows the last texts, with one mark for the last click. -/
def ShownLast (fixture : PageFixture) (now : Instant) (clicks : List Click) (shown : String) :
    Prop :=
  ∃ report started after view,
    Session.start.run (openSession fixture now) = .ok report started ∧
      (simulate clicks).run (openSession fixture now) = .ok report after ∧
        shown = summary after report ∧ after.page.page.render = view.markup ∧
          (∀ before click later, clicks = before ++ click :: later →
            ∃ current next text, (performAll before).run started = .ok () current ∧
              click.perform.run current = .ok text next ∧ click.text started = .ok text) ∧
            ShowsLast fixture started clicks view ∧
              Page.focusMarks shown.toList = if clicks.isEmpty then 0 else 1

theorem notMem_toString {character : Char} (noDigit : character.isDigit = false) (number : Nat) :
    character ∉ (toString number).toList := by
  rw [Nat.toString_eq_repr, Nat.repr_eq_ofList_toDigits, String.toList_ofList]
  intro member
  have isDigit := Nat.isDigit_of_mem_toDigits (by decide) (by decide) member
  exact Bool.false_ne_true (noDigit.symm.trans isDigit)

theorem notMem_toString_int {character : Char} (noDigit : character.isDigit = false)
    (noSign : character ≠ '-') (number : Int) : character ∉ (toString number).toList := by
  cases number with
  | ofNat natural => exact notMem_toString noDigit natural
  | negSucc natural =>
      have shown : toString (Int.negSucc natural) = "-" ++ toString (natural + 1) := rfl
      rw [shown, String.toList_append, List.mem_append, not_or]
      exact ⟨by simpa using noSign, notMem_toString noDigit (natural + 1)⟩

/-- The lines before the page hold no mark. -/
theorem focusMarks_summary (session : PageSession) (report : StartReport) :
    Page.focusMarks (summary session report).toList =
      Page.focusMarks session.page.page.render.toList := by
  let heading := "Timezone offset: " ++ toString session.session.gap.seconds ++
    "s\nClock inputs: " ++ toString report.clockInputs ++ "\nCalendar inputs: " ++
    toString report.calendarInputs ++ "\nWarnings: " ++ toString report.notes
  have plain : '>' ∉ heading.toList := by
    have noDigit : '>'.isDigit = false := by decide
    have noSign : '>' ≠ '-' := by decide
    simp only [heading, String.toList_append, List.mem_append, not_or, notMem_toString noDigit,
      notMem_toString_int noDigit noSign, not_false_eq_true, and_true]
    decide
  have neutral : Page.isNeutral ['\n', '\n'] := by decide
  have shownEq : (summary session report).toList =
      heading.toList ++ '\n' :: '\n' :: session.page.page.render.toList := by
    have whole : summary session report = heading ++ "\n\n" ++ session.page.page.render := rfl
    rw [whole, String.toList_append, String.toList_append, List.append_assoc]
    congr 1
  rw [shownEq, Page.focusMarks,
    Text.occurrences_skip _ (by decide : '>' ∈ Page.focusMark) plain (by decide)]
  exact Page.focusMarks_neutral neutral _

variable {fixture : PageFixture} {now : Instant} {clicks : List Click}

/-- A page that a run starts, as it was described, with links and notes. -/
structure Opened (fixture : PageFixture) (started : PageSession) : Prop where
  standard : started.session.settings = .standard
  wellFormed : started.page.page.WellFormed
  rows_eq : started.page.page.rows = (Page.ofFixture fixture).rows
  inputs_eq : started.page.page.inputs = (Page.ofFixture fixture).inputs
  boxes_eq : started.page.page.boxes = sortedNames fixture.boxes
  hidden_eq : started.page.page.hidden = []
  focused_eq : started.page.page.focused = none

theorem opened_searched (fixture : PageFixture) (now : Instant) (dealt : List Nat)
    (log : List LogEvent) :
    Opened fixture ((openSession fixture now).searched dealt dealt log) where
  standard := rfl
  wellFormed := (Page.wellFormed_ofFixture fixture).congr Page.rows_decorated Page.homes_decorated
  rows_eq := Page.rows_decorated
  inputs_eq := rfl
  boxes_eq := rfl
  hidden_eq := (Page.untouched_ofFixture fixture).1
  focused_eq := (Page.untouched_ofFixture fixture).2

variable {started after : PageSession}

theorem Opened.length_fields (opened : Opened fixture started) :
    started.page.page.inputs.length = fixture.fields.length := by
  have lengths := congrArg List.length (Page.inputs_ofFixture fixture)
  rw [List.length_map, List.length_map] at lengths
  rw [opened.inputs_eq, lengths]

theorem Opened.rows_after (opened : Opened fixture started)
    (clicked : Click.Clicked started clicks after) :
    after.page.page.rows = (Page.ofFixture fixture).rows := by
  rw [Page.rows, clicked.containers_eq]
  exact opened.rows_eq

/-- An input shows what its field describes, but the text and the focus of the clicks. -/
theorem Opened.visibleNode?_input (opened : Opened fixture started)
    (clicked : Click.Clicked started clicks after) (number : Nat) :
    after.page.page.visibleNode? (.input number) =
      fixture.fields[number]?.map fun described =>
        .input described.id described.type (" ".intercalate described.classes)
          ((Click.lastText? started clicks number).getD described.value)
          (Click.lastInput? started clicks == some number) := by
  let shown (input : Input) : VisibleNode :=
    .input input.id input.type (" ".intercalate input.classes)
      ((Click.lastText? started clicks number).getD input.value)
      (Click.lastInput? started clicks == some number)
  have focusedEq : after.page.page.focused = Click.lastInput? started clicks := by
    rw [clicked.focused_eq, opened.focused_eq, Option.or_none]
  have described : (Page.ofFixture fixture).inputs[number]?.map shown =
      (fixture.fields.map FieldFixture.input)[number]?.map shown := by
    rw [← Page.inputs_ofFixture, List.getElem?_map, Option.map_map]
    rfl
  rw [Page.visibleNode?, clicked.input_eq, opened.inputs_eq, focusedEq, Option.map_map]
  refine described.trans ?_
  rw [List.getElem?_map, Option.map_map]
  rfl

/-- The inputs, boxes and focus of a page that a run starts are those of its description. -/
theorem Opened.showsLast (opened : Opened fixture started)
    (clicked : Click.Clicked started clicks after) :
    ShowsLast fixture started clicks after.page.page.visible where
  inputs_eq := by
    rw [Page.inputs_visible, Page.inputOrder_eq_flatten, Page.inputOrder_eq_flatten,
      opened.rows_after clicked]
    simp only [opened.visibleNode?_input clicked]
  order_perm := by
    have perm := (Page.wellFormed_ofFixture fixture).order_perm
    rw [← Page.inputOrder_eq_flatten, Page.homes, List.length_map, ← opened.inputs_eq,
      opened.length_fields] at perm
    exact perm
  inPage := by
    rw [← opened.length_fields]
    exact clicked.inPage
  boxes_eq := by
    have isHidden (id : String) : after.page.page.isHidden id =
        decide (id ∈ clicks.filterMap Click.box?) := by
      have hiddenIff := clicked.hidden_iff id
      rw [opened.hidden_eq, iff_false_intro List.not_mem_nil, or_false] at hiddenIff
      rw [Page.isHidden, ← decide_eq_decide.mpr hiddenIff, List.contains_eq_mem]
    rw [Page.visible, clicked.boxes_eq, opened.boxes_eq,
      sortedNames_eq_self (sortedNames_sorted fixture.boxes)]
    simp only [isHidden]
  boxes_mem id picked := by
    have inBoxes := clicked.boxes_mem id picked
    rw [opened.boxes_eq] at inBoxes
    exact mem_sortedNames.mp inBoxes

theorem Opened.homes_after (opened : Opened fixture started)
    (clicked : Click.Clicked started clicks after) :
    after.page.page.homes = (Page.ofFixture fixture).homes := by
  apply List.ext_getElem?
  intro number
  rw [Page.homes, Page.homes, List.getElem?_map, List.getElem?_map, clicked.input_eq,
    Option.map_map, opened.inputs_eq]
  rfl

/-- The last click leaves one mark on the page. -/
theorem Opened.focusMarks_eq (opened : Opened fixture started)
    (clicked : Click.Clicked started clicks after) :
    Page.focusMarks after.page.page.visible.markup.toList = if clicks.isEmpty then 0 else 1 := by
  have homesEq := opened.homes_after clicked
  have formed : after.page.page.WellFormed :=
    (Page.wellFormed_ofFixture fixture).congr (opened.rows_after clicked) homesEq
  have focusedEq : after.page.page.focused = Click.lastInput? started clicks := by
    rw [clicked.focused_eq, opened.focused_eq, Option.or_none]
  have lengthEq : after.page.page.inputs.length = started.page.page.inputs.length := by
    have lengths := congrArg List.length homesEq
    rw [Page.homes, Page.homes, List.length_map, List.length_map, ← opened.inputs_eq] at lengths
    exact lengths
  rw [formed.focusMarks_visible, focusedEq]
  · rcases clicks.eq_nil_or_concat' with rfl | ⟨front, last, rfl⟩
    · rfl
    · obtain ⟨number, isInput, -⟩ :=
        clicked.inPage last (List.mem_append_right _ List.mem_cons_self)
      rw [Click.lastInput?, List.getLast?_concat, Option.bind_some, isInput]
      simp
  · intro number isFocused
    rw [focusedEq] at isFocused
    obtain ⟨last, isLast, isInput⟩ := Option.bind_eq_some_iff.mp isFocused
    obtain ⟨other, otherInput, inPage⟩ := clicked.inPage last (List.mem_of_getLast? isLast)
    obtain rfl := Option.some.inj (isInput.symm.trans otherInput)
    rw [lengthEq]
    exact inPage

/-- Each click of a run writes the text that it would write on the page as it was started. -/
theorem exists_performed (standard : started.session.settings = .standard)
    (performed : (performAll clicks).run started = .ok () after) {before later : List Click}
    {click : Click} (split : clicks = before ++ click :: later) :
    ∃ current next text, (performAll before).run started = .ok () current ∧
      click.perform.run current = .ok text next ∧ click.text started = .ok text := by
  rw [split, run_performAll_append] at performed
  cases early : (performAll before).run started with
  | error fault current => simp [early] at performed
  | ok done current =>
      rw [early] at performed
      simp only [run_performAll_cons] at performed
      have clicked := clicked_performAll (.nothing started) standard early
      cases clickedOnce : click.perform.run current with
      | error fault next => simp [clickedOnce] at performed
      | ok text next =>
          exact ⟨current, next, text, rfl, clickedOnce, (clicked.perform standard clickedOnce).1⟩

/-- A run shows what the last clicks wrote. -/
theorem shownLast_of_runOn {shown : String} (outcome : runOn fixture now clicks = .ok shown) :
    ShownLast fixture now clicks shown := by
  rw [runOn, run_simulate] at outcome
  obtain ⟨log, started?⟩ := start_openSession fixture now
  have opened := opened_searched fixture now (openSession fixture now).page.page.inputOrder log
  generalize PageSession.searched (openSession fixture now)
    (openSession fixture now).page.page.inputOrder
    (openSession fixture now).page.page.inputOrder log = started at started? opened
  have simulated := run_simulate clicks (openSession fixture now)
  rw [started?] at outcome simulated
  simp only at outcome simulated
  cases performed : (performAll clicks).run started with
  | error fault after => simp [performed] at outcome
  | ok done after =>
      rw [performed] at outcome simulated
      have clicked := clicked_performAll (.nothing started) opened.standard performed
      rw [List.nil_append] at clicked
      have sorted : after.page.page.boxes.Pairwise (· < ·) := by
        rw [clicked.boxes_eq, opened.boxes_eq]
        exact sortedNames_sorted fixture.boxes
      have rendered := Page.render_eq_of_sorted sorted
      refine ⟨_, started, after, after.page.page.visible, started?, simulated,
        (Except.ok.inj outcome).symm, rendered, ?_, opened.showsLast clicked, ?_⟩
      · intro before click later split
        exact exists_performed opened.standard performed split
      · rw [← Except.ok.inj outcome, focusMarks_summary, rendered]
        exact opened.focusMarks_eq clicked

/-- A run looks at the log level first, then at the page file, and at the time last. -/
theorem run_eq (invocation : Invocation) (source : Option String) (systemTime : Instant) :
    invocation.run source systemTime =
      if isLevelText invocation.logLevel then
        match source with
        | none => .error (.unreadableFile invocation.page)
        | some text =>
          match Json.decodeText PageFixture.ofJson text with
          | .error _ => .error .badPage
          | .ok fixture =>
            match runTime invocation systemTime with
            | .error fault => .error fault
            | .ok now => runOn fixture now invocation.clicks
      else .error (.badLogLevel invocation.logLevel) := by
  unfold Invocation.run
  cases isLevelText invocation.logLevel with
  | false => rfl
  | true =>
      cases source with
      | none => rfl
      | some text =>
          cases decoded : Json.decodeText PageFixture.ofJson text with
          | error cause => simp [decoded]
          | ok fixture =>
              simp only [decoded]
              cases runTime invocation systemTime <;> rfl

/-- A run that ends well shows, for each input, the text of the last click whose handle
resolves to it; the focus is where the last click was, and the boxes are hidden that dates
were picked from. -/
theorem last_click_wins {invocation : Invocation} {source : Option String} {systemTime : Instant}
    {shown : String} (outcome : invocation.run source systemTime = .ok shown) :
    ∃ text fixture now, source = some text ∧
      Json.decodeText PageFixture.ofJson text = .ok fixture ∧
        runTime invocation systemTime = .ok now ∧
          ShownLast fixture now invocation.clicks shown := by
  rw [run_eq] at outcome
  split at outcome
  · split at outcome
    · cases outcome
    · next text =>
      split at outcome
      · cases outcome
      · next fixture decoded =>
        split at outcome
        · cases outcome
        · next now timed =>
          exact ⟨text, fixture, now, rfl, decoded, timed, shownLast_of_runOn outcome⟩
  · cases outcome

/-- A day and an hour, each with the handle 0 among those of its kind, and two boxes. -/
def appointmentText : String :=
  "\x7b\"fields\": [\x7b\"id\": \"day\", \"type\": \"date\", \"classes\": [\"vDateField\"]\x7d, " ++
    "\x7b\"id\": \"hour\", \"type\": \"time\", \"classes\": [\"vTimeField\"]\x7d], " ++
    "\"popups\": [\"calendarbox0\", \"calendarbox1\"]\x7d"

/-- The hour is filled three times, and the day twice in between. -/
def appointment : Invocation where
  page := "appointment.json"
  time := some "2024-03-01T00:30:05+01:00"
  clicks := [.hour 0 6, .pick 0 ⟨2024, 2, 29, by decide⟩, .now 0, .today 0 1, .hour 0 12]
  logLevel := "warn"

def appointmentShown : String :=
  "Timezone offset: 0s\nClock inputs: 1\nCalendar inputs: 1\nWarnings: 0\n\n" ++
    "<div data-container=\"day\">\n" ++
    "  <input id=\"day\" type=\"date\" class=\"vDateField\" value=\"2024-03-02\">\n" ++
    "  <span class=\"datetimeshortcuts\">&nbsp;<a href=\"#\">Today</a></span>\n</div>\n" ++
    "<div data-container=\"hour\">\n" ++
    "  <input id=\"hour\" type=\"time\" class=\"vTimeField\" value=\"12:00\" autofocus>\n" ++
    "  <span class=\"datetimeshortcuts\">&nbsp;<a href=\"#\">Now</a></span>\n</div>\n" ++
    "<div id=\"calendarbox0\" style=\"display: none\"></div>\n" ++
    "<div id=\"calendarbox1\" style=\"display: block\"></div>\n"

theorem last_click_wins_appointment :
    appointment.run (some appointmentText) earlyMarch = .ok appointmentShown ∧
      ∃ text fixture now, some appointmentText = some text ∧
        Json.decodeText PageFixture.ofJson text = .ok fixture ∧
          runTime appointment earlyMarch = .ok now ∧
            ShownLast fixture now appointment.clicks appointmentShown := by
  have outcome : appointment.run (some appointmentText) earlyMarch = .ok appointmentShown := by
    decide +kernel
  exact ⟨outcome, last_click_wins outcome⟩

end CommandLine

end QuickFill
