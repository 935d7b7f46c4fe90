import QuickFill.Proofs.Page.Links

/-!
# One input is filled, or nothing

A clock input is filled with a time, and a calendar input with a day counted from
today, as a whole or not at all: a refusal leaves the session and its page as they
were, and an answer is what the input of the handle then holds.  The handle is looked
up before anything else is looked at.
-/

namespace QuickFill

/-- Not the fault of a handle that nothing is registered for. -/
def Fault.Informed : Fault → Prop
  | .unknownHandle _ _ => False
  | _ => True

namespace Session

variable {σ ι α β : Type} [Environment σ] [Fillable σ ι]

/-- Computed without looking up a handle. -/
def Informed (outcome : Except Fault α) : Prop :=
  ∀ fault, outcome = .error fault → fault.Informed

theorem Informed.bind {outcome : Except Fault α} {next : α → Except Fault β}
    (first : Informed outcome) (second : ∀ value, Informed (next value)) :
    Informed (outcome >>= next) := by
  intro fault refused
  cases outcome with
  | error early =>
      obtain rfl := Except.error.inj refused
      exact first early rfl
  | ok value => exact second value fault refused

theorem Informed.ok (value : α) : Informed (.ok value) := by
  rintro fault ⟨⟩

theorem informed_error {fault : Fault} (informed : fault.Informed) :
    Informed (.error fault : Except Fault α) := by
  rintro other ⟨⟩
  exact informed

theorem informed_fill (template : String) (moment : Moment) : Informed (fill template moment) := by
  rw [fill]
  split
  · exact Informed.ok _
  · exact informed_error trivial

omit [Fillable σ ι] in
theorem informed_serverNow (running : Running σ ι) : Informed (serverNow running) := by
  rw [serverNow]
  split
  · exact Informed.ok _
  · exact informed_error trivial

omit [Fillable σ ι] in
theorem informed_serverDay (running : Running σ ι) (days : Int) :
    Informed (serverDay running days) := by
  rw [serverDay]
  split
  · exact informed_error trivial
  · refine Informed.bind (Informed.bind (informed_serverNow running) fun instant => ?_)
      fun date => ?_
    · by_cases inRange : instant.date.InRange
      · rw [if_pos inRange]
        exact Informed.ok _
      · rw [if_neg inRange]
        exact informed_error trivial
    · split
      · exact Informed.ok _
      · exact informed_error trivial

omit [Fillable σ ι] in
theorem informed_clockMoment (running : Running σ ι) (value : ClockValue) :
    Informed (clockMoment running value) := by
  cases value with
  | now => exact Informed.bind (informed_serverNow running) fun instant => Informed.ok _
  | hour hour =>
      rw [clockMoment]
      split
      · exact Informed.ok _
      · exact informed_error trivial

theorem informed_clockText (running : Running σ ι) (input : ι) (value : ClockValue)
    (template : String) : Informed (clockText running input value template) :=
  Informed.bind (informed_clockMoment running value) fun _ => informed_fill _ _

/-- A text that is refused is refused for its own sake. -/
theorem informed_requestText (running : Running σ ι) (input : ι) (request : SessionRequest) :
    Informed (requestText running input request) := by
  have day (days : Int) : Informed (dayText running days) :=
    Informed.bind (informed_serverDay running days) fun _ => informed_fill _ _
  cases request with
  | clock handle value template => exact informed_clockText running input value _
  | today handle days => exact day days
  | pick handle year month date =>
      rw [requestText, pickText]
      split
      · exact informed_error trivial
      · exact informed_fill _ _
  | boxId handle => exact Informed.ok _
  | follow link =>
      cases link with
      | clockNow handle template => exact informed_clockText running input .now template
      | calendarDay handle days => exact day days

end Session

namespace Page

/-- A page before and after one input was filled, and what did not change. -/
structure FilledAlone (number : Nat) (text : String) (before after : Page) : Prop where
  value_eq : after.value? number = some text
  focused_eq : after.focused = some number
  /-- The input keeps its step and all else but its value. -/
  input_eq : after.inputs[number]? =
    before.inputs[number]?.map fun input => { input with value := text }
  others_eq : ∀ other, other ≠ number → after.inputs[other]? = before.inputs[other]?
  containers_eq : after.containers = before.containers
  boxes_eq : after.boxes = before.boxes
  hidden_eq : after.hidden = before.hidden

theorem filledAlone {page : Page} {number : Nat} (onPage : number < page.inputs.length)
    (text : String) :
    FilledAlone number text page { page.modifyInput number
      (fun input => { input with value := text }) with focused := some number } where
  value_eq := value?_modifyInput_self onPage text
  focused_eq := rfl
  input_eq := List.getElem?_modify_eq _ _ _
  others_eq _ differs := List.getElem?_modify_ne _ _ differs.symm
  containers_eq := rfl
  boxes_eq := rfl
  hidden_eq := rfl

end Page

namespace PageSession

open Session

variable {running after : PageSession} {kind : LinkKind} {handle : Nat}
  {action : Action Workbench Nat String}

/-- An operation that fills the input of one handle, or nothing. -/
structure FillsAlone (running : PageSession) (kind : LinkKind) (handle : Nat)
    (action : Action Workbench Nat String) : Prop where
  /-- The session holds the registries and the mark that it was started. -/
  refused : ∀ fault after, action.run running = .error fault after →
    after.session = running.session ∧ after.page.page = running.page.page
  answered : ∀ text after, action.run running = .ok text after →
    after.session = running.session ∧
      ∃ number, running.session.registry.resolve kind handle = .ok number ∧
        Page.FilledAlone number text running.page.page after.page.page
  unknown_iff : (∃ after, action.run running = .error (.unknownHandle kind handle) after) ↔
    (running.session.registry.inputs kind).length ≤ handle
  /-- No other handle is blamed. -/
  unknown_eq : ∀ blamed number after,
    action.run running = .error (.unknownHandle blamed number) after →
      blamed = kind ∧ number = handle

/-- A handle that nothing is registered for is blamed, and nothing is done. -/
theorem fillsAlone_of_unknown (beyond : (running.session.registry.inputs kind).length ≤ handle)
    (outcome : action.run running = .error (.unknownHandle kind handle) after)
    (sessionEq : after.session = running.session)
    (pageEq : after.page.page = running.page.page) : FillsAlone running kind handle action := by
  refine ⟨?_, ?_, ⟨fun _ => beyond, fun _ => ⟨after, outcome⟩⟩, ?_⟩
  · intro fault stopped refused
    obtain ⟨-, rfl⟩ := EStateM.Result.error.inj (outcome.symm.trans refused)
    exact ⟨sessionEq, pageEq⟩
  · intro text filled answered
    cases outcome.symm.trans answered
  · intro blamed number stopped refused
    obtain ⟨same, -⟩ := EStateM.Result.error.inj (outcome.symm.trans refused)
    obtain ⟨rfl, rfl⟩ := Fault.unknownHandle.inj same
    exact ⟨rfl, rfl⟩

/-- Past the handle every refusal comes before the page is touched, and no handle is blamed. -/
theorem fillsAlone_of_known {number : Nat}
    (resolved : running.session.registry.resolve kind handle = .ok number)
    (refused : ∀ fault after, action.run running = .error fault after →
      fault.Informed ∧ after = running)
    (answered : ∀ text after, action.run running = .ok text after →
      after.session = running.session ∧
        Page.FilledAlone number text running.page.page after.page.page) :
    FillsAlone running kind handle action := by
  have known : ¬(running.session.registry.inputs kind).length ≤ handle := by
    intro beyond
    rw [Registry.resolve_of_length_le beyond] at resolved
    cases resolved
  refine ⟨?_, ?_, ⟨?_, fun beyond => absurd beyond known⟩, ?_⟩
  · intro fault after failed
    obtain ⟨-, rfl⟩ := refused fault after failed
    exact ⟨rfl, rfl⟩
  · intro text after filled
    obtain ⟨sessionEq, alone⟩ := answered text after filled
    exact ⟨sessionEq, number, resolved, alone⟩
  · rintro ⟨after, failed⟩
    exact (refused _ after failed).1.elim
  · intro blamed number after failed
    exact (refused _ after failed).1.elim

/-- What ends with a line of the log is done alone. -/
theorem fillsAlone_of_logged {request : SessionRequest} {event : Nat → LogEvent}
    (runEq : action.run running = (fillInput kind handle request).run running)
    (ends : ∀ input, requestEnd running input request = log (event input)) :
    FillsAlone running kind handle action := by
  have outcome := runEq.trans (run_fillInput_logged ends)
  by_cases beyond : (running.session.registry.inputs kind).length ≤ handle
  · rw [Registry.resolve_of_length_le beyond] at outcome
    exact fillsAlone_of_unknown beyond outcome rfl rfl
  · obtain ⟨number, resolved⟩ := Registry.resolve_of_lt (Nat.lt_of_not_le beyond)
    rw [resolved] at outcome
    simp only at outcome
    apply fillsAlone_of_known resolved
    · intro fault after failed
      rw [outcome] at failed
      cases texted : requestText running number request with
      | error early =>
          rw [texted] at failed
          obtain ⟨rfl, rfl⟩ := EStateM.Result.error.inj failed
          exact ⟨informed_requestText running number request _ texted, rfl⟩
      | ok text =>
          rw [texted] at failed
          simp only at failed
          split at failed
          · cases failed
          · obtain ⟨rfl, rfl⟩ := EStateM.Result.error.inj failed
            exact ⟨trivial, rfl⟩
    · intro text after filled
      rw [outcome] at filled
      cases texted : requestText running number request with
      | error early => simp [texted] at filled
      | ok written =>
          rw [texted] at filled
          simp only at filled
          split at filled
          · next onPage =>
            obtain ⟨rfl, rfl⟩ := EStateM.Result.ok.inj filled
            exact ⟨rfl, Page.filledAlone onPage written⟩
          · cases filled

/-- An operation that is answered with a text that one input then holds, and that does
nothing else. -/
def FillsWith (running : PageSession) (action : Action Workbench Nat String) (input : Nat)
    (text : String) : Prop :=
  ∃ after, action.run running = .ok text after ∧ after.session = running.session ∧
    Page.FilledAlone input text running.page.page after.page.page

/-- Where the handle is known and its input on the page, the text that is computed for it, or
why there is none, is all that counts. -/
theorem fillsWith_of_logged {request : SessionRequest} {event : Nat → LogEvent} {input : Nat}
    (runEq : action.run running = (fillInput kind handle request).run running)
    (ends : ∀ input, requestEnd running input request = log (event input))
    (resolved : running.session.registry.resolve kind handle = .ok input)
    (onPage : input < running.page.page.inputs.length) :
    match requestText running input request with
    | .ok text => FillsWith running action input text
    | .error fault => action.run running = .error fault running := by
  have outcome := runEq.trans (run_fillInput_logged ends)
  rw [resolved] at outcome
  cases texted : requestText running input request with
  | error fault =>
      simp only [texted] at outcome
      exact outcome
  | ok text =>
      simp only [texted, if_pos onPage] at outcome
      exact ⟨_, outcome, rfl, Page.filledAlone onPage text⟩

/-- In every state of a session on a page in memory, a clock link, a calendar link and
what scripts call in their place fill the input of their handle alone, or nothing. -/
theorem filled_alone (running : PageSession) :
    (∀ handle value template,
      FillsAlone running .clock handle (fillClock handle value template)) ∧
    (∀ handle days, FillsAlone running .calendar handle (fillCalendar handle days)) ∧
    ∀ link : QuickLink, FillsAlone running link.kind link.handle (Session.follow link) := by
  refine ⟨?_, ?_, ?_⟩
  · intro handle value template
    exact fillsAlone_of_logged
      (run_fillClock handle value template (.clock handle value (some template))
        (fun _ => rfl) fun _ => rfl)
      fun _ => rfl
  · intro handle days
    exact fillsAlone_of_logged
      (run_fillCalendar handle days (.today handle days) (fun _ => rfl) fun _ => rfl) fun _ => rfl
  · intro link
    have target : (SessionRequest.follow link).target? = some (link.kind, link.handle) := rfl
    exact fillsAlone_of_logged (run_serve target running) fun input =>
      requestEnd_follow running input link

end PageSession

end QuickFill
