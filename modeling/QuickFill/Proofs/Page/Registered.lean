import QuickFill.Proofs.Page.Notes

/-!
# What calls make of a session

A call may register inputs, and a start registers one field of the page after the other.
What becomes of a session can be told from the fields of the page alone: neither the gap
to the clock of the server nor anything that was written or noted plays a part in it.
-/

namespace QuickFill

namespace Session

/-- A session that has registered an input, unless the input is known already. -/
def enter (session : Session Nat) (kind : LinkKind) (input : Nat) : Session Nat :=
  if input ∈ session.registry.inputs kind then session
  else { session with registry := session.registry.push input kind }

/-- A session that has registered the fields of a page in their order, up to the first
that is known already. -/
def search (session : Session Nat) : List (Field Nat) → Session Nat
  | [] => session
  | found :: rest =>
    match found.kind? session.settings with
    | none => session.search rest
    | some kind =>
      if found.input ∈ session.registry.inputs kind.linkKind then session
      else (session.enter kind.linkKind found.input).search rest

/-- A session after a call on a page with some fields. -/
def called (fields : List (Field Nat)) (session : Session Nat) : PageCall → Session Nat
  | .start =>
    if session.started then session else { session with started := true }.search fields
  | .attachClock input _ => session.enter .clock input
  | .attachCalendar input => session.enter .calendar input
  | .notify _ | .serve _ | .setClock _ => session

def withGap (session : Session Nat) (gap : ZoneGap) : Session Nat :=
  { session with gap := gap }

variable (session : Session Nat) (gap : ZoneGap)

theorem enter_withGap (kind : LinkKind) (input : Nat) :
    (session.withGap gap).enter kind input = (session.enter kind input).withGap gap := by
  by_cases known : input ∈ session.registry.inputs kind
  · rw [enter, enter, if_pos known]
    exact if_pos known
  · rw [enter, enter, if_neg known]
    exact if_neg known

theorem search_withGap (fields : List (Field Nat)) :
    (session.withGap gap).search fields = (session.search fields).withGap gap := by
  induction fields generalizing session with
  | nil => rfl
  | cons found rest ih =>
      rw [search, search]
      have settingsEq : (session.withGap gap).settings = session.settings := rfl
      have registryEq : (session.withGap gap).registry = session.registry := rfl
      rw [settingsEq, registryEq]
      cases found.kind? session.settings with
      | none => exact ih session
      | some kind =>
          simp only [enter_withGap, ih]
          split <;> rfl

/-- The gap of a session plays no part in what calls make of it. -/
theorem called_withGap (fields : List (Field Nat)) (call : PageCall) :
    (session.withGap gap).called fields call = (session.called fields call).withGap gap := by
  cases call with
  | start =>
      have begun : { session.withGap gap with started := true } =
          ({ session with started := true } : Session Nat).withGap gap := rfl
      have startedEq : (session.withGap gap).started = session.started := rfl
      rw [called, called, begun, startedEq, search_withGap]
      split <;> rfl
  | attachClock input template => exact enter_withGap session gap .clock input
  | attachCalendar input => exact enter_withGap session gap .calendar input
  | notify input => rfl
  | serve request => rfl
  | setClock clock => rfl

end Session

namespace Page

variable {page other : Page}

theorem fields_congr (containersEq : other.containers = page.containers)
    (inputsEq : other.inputs.map Input.emptied = page.inputs.map Input.emptied) :
    Workbench.fields other = Workbench.fields page := by
  have orderEq : other.inputOrder = page.inputOrder := by
    rw [inputOrder, inputOrder, containersEq]
  have fieldEq : Workbench.field? other = Workbench.field? page := by
    funext number
    have emptied (page : Page) : Workbench.field? page number =
        (page.inputs[number]?.map Input.emptied).map fun input =>
          ⟨number, input.type, input.classes⟩ := by
      rw [Option.map_map]
      rfl
    rw [emptied, emptied, getElem?_emptied inputsEq]
  rw [Workbench.fields, Workbench.fields, orderEq, fieldEq]

theorem fields_decorated (links : Nat → List Shortcut) (notes : Nat → List Note) :
    Workbench.fields (page.decorated links notes) = Workbench.fields page := by
  rw [Workbench.fields, Workbench.fields, inputOrder_eq_flatten, inputOrder_eq_flatten,
    rows_decorated]
  rfl

theorem step?_congr (inputsEq : other.inputs.map Input.emptied = page.inputs.map Input.emptied)
    (number : Nat) : other.step? number = page.step? number := by
  have emptied (page : Page) :
      page.step? number = (page.inputs[number]?.map Input.emptied).bind Input.step := by
    rw [Option.bind_map]
    rfl
  rw [emptied, emptied, getElem?_emptied inputsEq]

/-- A field that is found on a page stands for an input of it. -/
theorem lt_of_mem_fields {found : Field Nat} (member : found ∈ Workbench.fields page) :
    found.input < page.inputs.length := by
  obtain ⟨number, -, fieldEq⟩ := List.mem_filterMap.mp member
  obtain ⟨input, placed, rfl⟩ := Option.map_eq_some_iff.mp fieldEq
  exact (List.getElem?_eq_some_iff.mp placed).1

end Page

namespace PageSession

open Session

variable {first running : PageSession} {base : Page} {links : Nat → List Shortcut}
  {notes : Nat → List Note}

theorem Noted.fields_eq (noted : Noted first running base links notes) :
    Workbench.fields running.page.page = Workbench.fields first.page.page := by
  rw [noted.page_eq, Page.fields_decorated,
    Page.fields_congr noted.containers_eq noted.inputs_eq]

theorem Noted.emptied_eq (noted : Noted first running base links notes) :
    running.page.page.inputs.map Input.emptied = first.page.page.inputs.map Input.emptied := by
  rw [noted.page_eq]
  exact noted.inputs_eq

theorem Noted.length_inputs (noted : Noted first running base links notes) :
    running.page.page.inputs.length = first.page.page.inputs.length := by
  simpa using congrArg List.length noted.emptied_eq

theorem session_attach (kind : LinkKind) (label : String) (action : Nat → QuickLink)
    (input : Nat) (running : PageSession) :
    (final (attach kind label action input) running).session =
      running.session.enter kind input := by
  rw [final, run_attach, enter]
  by_cases known : input ∈ running.session.registry.inputs kind
  · rw [if_pos known, if_pos known]
  · rw [if_neg known, if_neg known]
    simp only
    cases Attachable.insertShortcut running.page input _ <;> rfl

theorem session_notify (input : Nat) (running : PageSession) :
    (final (Session.notify input) running).session = running.session := by
  rw [final, run_notify]
  cases running.session.gap.noteText? (Environment.translator running.page) with
  | none => rfl
  | some text =>
      simp only
      by_cases marked :
          Attachable.hasMarker running.page input running.session.settings.noteClass = true
      · rw [if_pos marked]
        rfl
      · rw [if_neg marked]
        cases Attachable.appendNote running.page input _ <;> rfl

/-- An input of the page is never refused a note. -/
theorem exists_notify (pageEq : running.page.page = base.decorated links notes) {input : Nat}
    (onPage : input < base.inputs.length) :
    ∃ added after, (Session.notify input).run running = .ok added after := by
  rw [run_notify]
  cases running.session.gap.noteText? (Environment.translator running.page) with
  | none => exact ⟨false, running, rfl⟩
  | some text =>
      simp only
      split
      · exact ⟨false, _, rfl⟩
      · have named : base.homes[input]? = some base.inputs[input].home := by
          rw [Page.homes, List.getElem?_map, List.getElem?_eq_getElem onPage, Option.map_some]
        let note : Note :=
          ⟨[running.session.settings.helpClass, running.session.settings.noteClass], text⟩
        have appended : Attachable.appendNote running.page input note =
            running.page.changePage (running.page.page.appendNote input note) := rfl
        rw [pageEq, Page.appendNote_decorated named] at appended
        simp only [note] at appended
        simp only [appended]
        exact ⟨true, _, rfl⟩

/-- An input of the page that is not registered yet gets its link. -/
theorem exists_attach (formed : base.WellFormed)
    (pageEq : running.page.page = base.decorated links notes) {kind : LinkKind} {input : Nat}
    (fresh : input ∉ running.session.registry.inputs kind) (onPage : input < base.inputs.length)
    (label : String) (action : Nat → QuickLink) :
    ∃ handle after, (attach kind label action input).run running = .ok handle after := by
  rw [run_attach, if_neg fresh]
  let shortcut := shortcutOf running label (action (running.session.registry.inputs kind).length)
  have inserted : Attachable.insertShortcut running.page input shortcut =
      running.page.changePage (running.page.page.insertShortcut input shortcut) := rfl
  rw [pageEq, Page.insertShortcut_decorated formed onPage] at inserted
  simp only [shortcut] at inserted
  simp only [inserted]
  exact ⟨_, _, rfl⟩

/-- A search stops at the first input that is known already, and nowhere else. -/
theorem Noted.session_startFields (noted : Noted first running base links notes)
    {fields : List (Field Nat)} (onPage : ∀ found ∈ fields, found.input < base.inputs.length)
    (report : StartReport) :
    (final (fields.foldlM Session.startField report) running).session =
      running.session.search fields := by
  induction fields generalizing running links notes report with
  | nil => rfl
  | cons found rest ih =>
      have restOnPage : ∀ found ∈ rest, found.input < base.inputs.length :=
        fun other member => onPage other (List.mem_cons_of_mem _ member)
      rw [List.foldlM_cons, final, EStateM.run_bind, run_startField, search]
      cases known : found.kind? running.session.settings with
      | none => exact ih noted restOnPage _
      | some kind =>
          simp only
          by_cases registered : found.input ∈ running.session.registry.inputs kind.linkKind
          · rw [if_pos registered, run_attach, if_pos registered]
          · rw [if_neg registered]
            have inPage := onPage found List.mem_cons_self
            obtain ⟨handle, attached, attachedEq⟩ :=
              exists_attach noted.formed noted.page_eq registered inPage kind.label
                (kind.action running.session.settings)
            obtain ⟨others, linked⟩ := noted.attach kind.linkKind kind.label
              (kind.action running.session.settings) found.input
            have entered := session_attach kind.linkKind kind.label
              (kind.action running.session.settings) found.input running
            rw [final_eq_of_ok attachedEq] at linked entered
            obtain ⟨added, ended, notifiedEq⟩ := exists_notify linked.page_eq inPage
            obtain ⟨gained, notified⟩ := linked.notify found.input
            have kept := session_notify found.input attached
            rw [final_eq_of_ok notifiedEq] at notified kept
            rw [attachedEq]
            simp only [notifiedEq]
            rw [← entered, ← kept]
            exact ih notified restOnPage _

theorem Noted.session_after (noted : Noted first running base links notes) (call : PageCall) :
    (running.after call).session =
      running.session.called (Workbench.fields first.page.page) call := by
  cases call with
  | attachClock input template => exact session_attach .clock "Now" _ input running
  | attachCalendar input => exact session_attach .calendar "Today" _ input running
  | notify input => exact session_notify input running
  | serve request => exact (sameNodes_serve running request).session_eq
  | setClock clock => rfl
  | start =>
      rw [PageSession.after, final, run_start, Session.called]
      by_cases started : running.session.started = true
      · rw [if_pos started, if_pos started]
        rfl
      · rw [if_neg started, if_neg started]
        have begins : Noted first (begun running) base links notes := noted.congr rfl rfl rfl rfl
        have fieldsEq : Attachable.fields (begun running).page =
            Workbench.fields first.page.page := begins.fields_eq
        have onPage : ∀ found ∈ Workbench.fields first.page.page,
            found.input < base.inputs.length := by
          intro found member
          have lengthEq := congrArg List.length noted.inputs_eq
          rw [List.length_map, List.length_map] at lengthEq
          rw [lengthEq]
          exact Page.lt_of_mem_fields member
        have searched := begins.session_startFields onPage {}
        rw [fieldsEq]
        rw [final] at searched
        cases outcome : ((Workbench.fields first.page.page).foldlM Session.startField {}).run
            (begun running) with
        | error fault ended =>
            rw [outcome] at searched
            exact searched
        | ok report ended =>
            rw [outcome] at searched
            exact searched

theorem Noted.session_run (noted : Noted first running base links notes) (calls : List PageCall) :
    (calls.foldl PageSession.after running).session =
      calls.foldl (Session.called (Workbench.fields first.page.page)) running.session := by
  induction calls generalizing running base links notes with
  | nil => rfl
  | cons call rest ih =>
      obtain ⟨_, _, _, called⟩ := noted.after call
      rw [List.foldl_cons, List.foldl_cons, ih called, noted.session_after]

end PageSession

end QuickFill
