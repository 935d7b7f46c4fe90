import QuickFill.Proofs.Page.Filled

/-!
# A picked date

A date that is picked fills its input and then closes the box that it was picked from.
What is refused before the input is filled leaves the session and its page as they were.
That there is no such box is found out last, when the input is filled already, and
nothing is taken back then.
-/

namespace QuickFill

/-- The boxes of two handles have two ids. -/
theorem Settings.boxId_injective (settings : Settings) : Function.Injective settings.boxId := by
  intro handle other same
  have numerals : Text.decimal handle = Text.decimal other := by
    have texts := congrArg String.toList same
    rw [boxId, boxId, String.toList_append, String.toList_append] at texts
    have shown (number : Nat) : (toString number).toList = Text.decimal number :=
      String.toList_ofList
    rw [← shown, ← shown]
    exact List.append_cancel_left texts
  rw [← Text.digitsValue_decimal handle, numerals, Text.digitsValue_decimal]

namespace Page

/-- A page before and after a date was picked for one input from one box. -/
structure PickedAlone (number : Nat) (text box : String) (before after : Page) : Prop where
  box_mem : box ∈ before.boxes
  /-- The box apart, one input was filled and nothing else. -/
  filled : FilledAlone number text before { after with hidden := before.hidden }
  hidden_iff : ∀ id, after.isHidden id = true ↔ id = box ∨ before.isHidden id = true

theorem isHidden_insertName {page : Page} {box id : String} :
    { page with hidden := insertName box page.hidden }.isHidden id = true ↔
      id = box ∨ page.isHidden id = true := by
  rw [isHidden, isHidden, List.contains_iff_mem, List.contains_iff_mem, mem_insertName]

end Page

namespace PageSession

open Session

variable {running after : PageSession} {handle : Nat} {year : Int} {month day : Nat}

/-- A date that does not exist and a template that cannot be rendered are all that keeps
a text from being picked. -/
theorem pickText_eq_error {fault : Fault}
    (refused : pickText running year month day = .error fault) :
    fault = .invalidDate year month day ∨
      fault = .invalidTemplate running.page.translator.dateTemplate := by
  rw [pickText] at refused
  split at refused
  · exact Or.inl (Except.error.inj refused).symm
  · rw [fill] at refused
    split at refused
    · cases refused
    · exact Or.inr (Except.error.inj refused).symm

/-- What a pick does once its input is filled. -/
theorem run_requestEnd_pick (found : PageSession) (number handle : Nat) (year : Int)
    (month day : Nat) (current : PageSession) :
    (requestEnd found number (.pick handle year month day)).run current =
      if current.page.page.boxes.contains (found.session.settings.boxId handle) then
        .ok () ((current.onPage { current.page.page with
          hidden := insertName (found.session.settings.boxId handle)
            current.page.page.hidden }).logged (.datePicked handle))
      else .error (.page (.noBox (found.session.settings.boxId handle))) current := by
  rw [requestEnd, run_change_bind, Workbench.hide_eq]
  by_cases known : current.page.page.boxes.contains (found.session.settings.boxId handle) = true
  · simp only [if_pos known]
    rfl
  · simp only [if_neg known]

/-- A pick can fill its input: there is a text for it, and the handle resolves to an input
of the page. -/
def CanPick (running : PageSession) (handle : Nat) (year : Int) (month day : Nat) : Prop :=
  (∃ text, pickText running year month day = .ok text) ∧
    ∃ number, running.session.registry.resolve .calendar handle = .ok number ∧
      number < running.page.page.inputs.length

/-- The ways in which a pick ends. -/
inductive PickEnds (running : PageSession) (handle : Nat) (year : Int) (month day : Nat) :
    EStateM.Result Fault PageSession String → Prop
  | untouched {fault : Fault} {after : PageSession} :
    ¬CanPick running handle year month day →
      fault ≠ .page (.noBox (running.session.settings.boxId handle)) →
        after.session = running.session → after.page.page = running.page.page →
          PickEnds running handle year month day (.error fault after)
  /-- The input is filled, and there is no box. -/
  | boxless {number : Nat} {text : String} {filled : Page} :
    running.session.registry.resolve .calendar handle = .ok number →
      pickText running year month day = .ok text →
        running.session.settings.boxId handle ∉ running.page.page.boxes →
          Page.FilledAlone number text running.page.page filled →
            PickEnds running handle year month day
              (.error (.page (.noBox (running.session.settings.boxId handle)))
                (running.onPage filled))
  | picked {number : Nat} {text : String} {after : PageSession} :
    CanPick running handle year month day →
      running.session.registry.resolve .calendar handle = .ok number →
        pickText running year month day = .ok text → after.session = running.session →
          Page.PickedAlone number text (running.session.settings.boxId handle)
            running.page.page after.page.page →
              PickEnds running handle year month day (.ok text after)

theorem pickDate_ends (running : PageSession) (handle : Nat) (year : Int) (month day : Nat) :
    PickEnds running handle year month day ((pickDate handle year month day).run running) := by
  rw [run_pickDate, run_fillInput_page]
  cases resolved : running.session.registry.resolve .calendar handle with
  | error fault =>
      refine .untouched ?_ ?_ rfl rfl
      · rintro ⟨-, number, isInput, -⟩
        cases resolved.symm.trans isInput
      · rintro rfl
        rw [Registry.resolve] at resolved
        split at resolved <;> cases resolved
  | ok number =>
      simp only [requestText]
      cases texted : pickText running year month day with
      | error fault =>
          refine .untouched ?_ ?_ rfl rfl
          · rintro ⟨⟨text, isText⟩, -⟩
            cases texted.symm.trans isText
          · rintro rfl
            rcases pickText_eq_error texted with noDate | noTemplate
            · cases noDate
            · cases noTemplate
      | ok text =>
          by_cases onPage : number < running.page.page.inputs.length
          · have filled := Page.filledAlone onPage text
            have pageEq (page : Page) : (running.onPage page).page.page = page := rfl
            simp only [if_pos onPage, run_requestEnd_pick, pageEq, filled.boxes_eq,
              List.contains_iff_mem]
            by_cases known : running.session.settings.boxId handle ∈ running.page.page.boxes
            · simp only [if_pos known]
              exact .picked ⟨⟨text, texted⟩, number, resolved, onPage⟩ resolved texted rfl
                ⟨known, { filled with hidden_eq := rfl }, fun _ => Page.isHidden_insertName⟩
            · simp only [if_neg known]
              exact .boxless resolved texted known filled
          · simp only [if_neg onPage]
            refine .untouched ?_ (by simp) rfl rfl
            rintro ⟨-, other, isInput, otherOnPage⟩
            obtain rfl := Except.ok.inj (resolved.symm.trans isInput)
            exact onPage otherOnPage

/-- A date that is picked for a handle fills the input of that handle and closes the box of
that handle, and does nothing else. -/
structure PicksAlone (running : PageSession) (handle : Nat) (year : Int) (month day : Nat) :
    Prop where
  /-- The session holds the registries. -/
  refused : ∀ fault after, (pickDate handle year month day).run running = .error fault after →
    after.session = running.session ∧
      (fault ≠ .page (.noBox (running.session.settings.boxId handle)) →
        after.page.page = running.page.page)
  /-- A box that is missing is missed when the input is filled. -/
  boxless : ∀ after, (pickDate handle year month day).run running =
      .error (.page (.noBox (running.session.settings.boxId handle))) after →
    running.session.settings.boxId handle ∉ running.page.page.boxes ∧
      ∃ number text, running.session.registry.resolve .calendar handle = .ok number ∧
        pickText running year month day = .ok text ∧
          Page.FilledAlone number text running.page.page after.page.page
  answered : ∀ text after, (pickDate handle year month day).run running = .ok text after →
    after.session = running.session ∧ pickText running year month day = .ok text ∧
      ∃ number, running.session.registry.resolve .calendar handle = .ok number ∧
        Page.PickedAlone number text (running.session.settings.boxId handle)
          running.page.page after.page.page
  answered_iff : (∃ text after, (pickDate handle year month day).run running = .ok text after) ↔
    CanPick running handle year month day ∧
      running.session.settings.boxId handle ∈ running.page.page.boxes
  /-- No other handle has the box that was closed. -/
  others : ∀ other, other ≠ handle → ∀ text after,
    (pickDate handle year month day).run running = .ok text after →
      after.page.page.isHidden (running.session.settings.boxId other) =
        running.page.page.isHidden (running.session.settings.boxId other)

/-- In every state of a session on a page in memory, a pick fills the input of its handle
and closes the box of its handle, or leaves the page as it was; only for want of a box is it
refused with the input filled. -/
theorem picks_alone (running : PageSession) (handle : Nat) (year : Int) (month day : Nat) :
    PicksAlone running handle year month day := by
  have ends := pickDate_ends running handle year month day
  refine ⟨?_, ?_, ?_, ⟨?_, ?_⟩, ?_⟩
  · intro fault after refused
    rw [refused] at ends
    cases ends with
    | untouched _ _ sessionEq pageEq => exact ⟨sessionEq, fun _ => pageEq⟩
    | boxless _ _ _ _ => exact ⟨rfl, fun noMiss => (noMiss rfl).elim⟩
  · intro after refused
    rw [refused] at ends
    cases ends with
    | untouched _ noMiss _ _ => exact (noMiss rfl).elim
    | boxless resolved texted missing filled =>
        exact ⟨missing, _, _, resolved, texted, filled⟩
  · intro text after answered
    rw [answered] at ends
    cases ends with
    | picked _ resolved texted sessionEq picked => exact ⟨sessionEq, texted, _, resolved, picked⟩
  · rintro ⟨text, after, answered⟩
    rw [answered] at ends
    cases ends with
    | picked able _ _ _ picked => exact ⟨able, picked.box_mem⟩
  · rintro ⟨able, here⟩
    cases outcome : (pickDate handle year month day).run running with
    | ok text after => exact ⟨text, after, rfl⟩
    | error fault after =>
        rw [outcome] at ends
        cases ends with
        | untouched unable _ _ _ => exact (unable able).elim
        | boxless _ _ missing _ => exact (missing here).elim
  · intro other differs text after answered
    rw [answered] at ends
    cases ends with
    | picked _ _ _ _ picked =>
        rw [Bool.eq_iff_iff]
        refine (picked.hidden_iff _).trans (or_iff_right fun same => ?_)
        exact differs (running.session.settings.boxId_injective same)

/-- The meeting has no boxes: a day that is picked is refused, and stays in its input. -/
theorem boxless_meeting :
    Live (meeting.after .start) ∧ (meeting.after .start).page.page.value? 0 = some "" ∧
      (meeting.after .start).page.page.focused = none ∧
        ∃ after, (pickDate 0 2024 1 1).run (meeting.after .start) =
            .error (.page (.noBox "calendarbox0")) after ∧
          after.page.page.value? 0 = some "2024-01-01" ∧ after.page.page.focused = some 0 := by
  refine ⟨live_meeting.called .start, by decide +kernel, by decide +kernel,
    final (pickDate 0 2024 1 1) (meeting.after .start), ?_, by decide +kernel, by decide +kernel⟩
  rfl

end PageSession

end QuickFill
