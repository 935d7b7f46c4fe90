import QuickFill.Proofs.Browser.BootOnce

/-!
# Boots that fail

A boot that fails before it has claimed the page leaves nothing behind but its
verbosity, and can be repeated.  One that fails later was stopped by the document in
the middle of its search: what it has put there stays, with links that do nothing, and
so does its claim, so that no other boot is ever searched for.
-/

namespace QuickFill

/-- Whether an event is a script that asks for the page to be booted. -/
def BootEvent.isScript : BootEvent → Bool
  | .boot _ | .install _ => true
  | _ => false

namespace Browser

variable {page : Browser} {settings : Settings} {dealt : List Element} {element : Element}
  {links : Nat → List (Nat × Shortcut)} {notes : Nat → List (Nat × String × String)}
  {running after : Running Browser Nat} {fault : Fault}

/-! ### A search that is stopped -/

/-- A search that the document has stopped, with what it had put there by then. -/
structure Stopped (page : Browser) (fault : Fault) (after : Running Browser Nat) : Prop where
  fault_eq : ∃ cause, fault = .page cause
  page_eq : ∃ links notes next console, Fresh page.nextKey links notes ∧
    after.page = (page.withConsole console).decorated links notes next

theorem Searched.stopped (searched : Searched page settings dealt links notes running)
    (isPage : ∃ cause, fault = .page cause) (same : after.page = running.page) :
    Stopped page fault after := by
  obtain ⟨next, console, -, pageEq⟩ := searched.page_eq
  exact ⟨isPage, links, notes, next, console, searched.fresh, same.trans pageEq⟩

/-- An input that was not dealt with before is stopped at by the document only. -/
theorem Searched.field_stopped (searched : Searched page settings dealt links notes running)
    (keyed : page.Keyed) (member : element.key ∈ page.document.keys)
    (apart : ∀ other ∈ dealt, other.key ≠ element.key) {report : StartReport}
    (failed : (Session.startField report element.field).run running = .error fault after) :
    Stopped page fault after := by
  rw [Session.run_startField] at failed
  have kindEq : element.field.kind? running.session.settings = element.fieldKind? settings := by
    rw [searched.settings_eq, Element.fieldKind?]
  rw [kindEq, searched.settings_eq] at failed
  cases known : element.fieldKind? settings with
  | none =>
      rw [known] at failed
      cases failed
  | some kind =>
      rw [known] at failed
      simp only at failed
      split at failed
      · next other stuck refused =>
        obtain ⟨rfl, rfl⟩ := EStateM.Result.error.inj failed
        have unregistered : element.key ∉ running.session.registry.inputs kind.linkKind := by
          rw [searched.inputs_eq, List.mem_map]
          rintro ⟨other, otherMember, same⟩
          exact apart other (List.mem_of_mem_filter otherMember) same
        obtain ⟨isPage, rfl⟩ := (Session.attach_eq_error refused).resolve_left unregistered
        exact searched.stopped isPage rfl
      · next handle attachedTo attached =>
        split at failed
        · next other stuck refused =>
          obtain ⟨rfl, rfl⟩ := EStateM.Result.error.inj failed
          obtain ⟨link, attachedSearched⟩ := searched.attach keyed member apart known attached
          obtain ⟨isPage, rfl⟩ := Session.notify_eq_error refused
          exact attachedSearched.stopped isPage rfl
        · cases failed

theorem Searched.fields_stopped (searched : Searched page settings dealt links notes running)
    (keyed : page.Keyed) {rest : List Element}
    (members : ∀ element ∈ rest, element.key ∈ page.document.keys)
    (nodup : ((dealt ++ rest).map Element.key).Nodup) {report : StartReport}
    (failed : ((rest.map Element.field).foldlM Session.startField report).run running =
      .error fault after) : Stopped page fault after := by
  induction rest generalizing dealt links notes running report with
  | nil => cases failed
  | cons element rest ih =>
      have apart : ∀ other ∈ dealt, other.key ≠ element.key := by
        intro other otherMember
        rw [List.map_append, List.nodup_append] at nodup
        exact nodup.2.2 other.key (List.mem_map_of_mem otherMember) element.key (by simp)
      rw [List.map_cons, List.foldlM_cons, EStateM.run_bind] at failed
      split at failed
      · next counted between first =>
        obtain ⟨moreLinks, moreNotes, more⟩ :=
          searched.field keyed (members element (by simp)) apart first
        have appendEq : dealt ++ element :: rest = dealt ++ [element] ++ rest := by simp
        rw [appendEq] at nodup
        exact ih more (fun other member => members other (by simp [member])) nodup failed
      · next other stuck first =>
        obtain ⟨rfl, rfl⟩ := EStateM.Result.error.inj failed
        exact searched.field_stopped keyed (members element (by simp)) apart first

/-- The page after a boot that was stopped in its search. -/
theorem startSession_eq_error (keyed : page.Keyed) {holder : Holder} {fault : ScriptFault}
    {last : Browser} (failed : page.startSession settings holder = (.error fault, last)) :
    (∃ cause, fault = .failed (.page cause)) ∧
      ∃ links notes next console, Fresh page.nextKey links notes ∧
        last = { (page.withConsole console).decorated links notes next with slot := .missing } := by
  rw [startSession, run_start_opened] at failed
  cases outcome : ((page.inputs.map Element.field).foldlM Session.startField {}).run
      (page.opened settings) with
  | ok total searchedAll =>
      rw [outcome] at failed
      cases failed
  | error cause stuck =>
      rw [outcome] at failed
      obtain ⟨faultEq, rfl⟩ := Prod.mk.inj failed
      obtain rfl := Except.error.inj faultEq
      have bound : page.bindLinks.Keyed := ⟨keyed.nodup, keyed.lt⟩
      obtain ⟨⟨fault, rfl⟩, links, notes, next, console, fresh, pageEq⟩ :=
        (searched_opened page settings).fields_stopped bound
          (fun _ member => inputs_mem_keys member) (inputs_keys_nodup bound) outcome
      refine ⟨⟨fault, rfl⟩, links, notes, next, console, fresh, ?_⟩
      rw [pageEq]
      rfl

/-! ### Repeated boots -/

/-- The verbosity of a boot is its own. -/
theorem boot_withVerbosity (page : Browser) (verbosity : Verbosity) (start : StartSettings)
    (holder : Holder) :
    { page with verbosity := verbosity }.boot start holder = page.boot start holder :=
  rfl

theorem meet_boot_ok {choices : Option Json} {start : StartSettings}
    (chosen : StartSettings.ofChoices choices = .ok start) (page : Browser) :
    page.meet (.boot choices) =
      (answerOf .report (page.boot start .script).1, (page.boot start .script).2) := by
  have booted : page.meet (.boot choices) = page.bootScript choices := rfl
  rw [booted, bootScript, chosen]

theorem meet_boot_error {choices : Option Json} {fault : ScriptFault}
    (unread : StartSettings.ofChoices choices = .error fault) (page : Browser) :
    page.meet (.boot choices) = (.exception fault, page) := by
  have booted : page.meet (.boot choices) = page.bootScript choices := rfl
  rw [booted, bootScript, unread]

theorem ofChoices_eq_error {choices : Option Json} {fault : ScriptFault}
    (unread : StartSettings.ofChoices choices = .error fault) : isEarly fault = true := by
  rw [StartSettings.ofChoices.eq_def] at unread
  split at unread
  · cases unread
  · cases unread
  · split at unread
    · cases unread
    · obtain rfl := Except.error.inj unread
      rfl

theorem refusal?_eq_some {fault : ScriptFault} (refused : page.refusal? = some fault) :
    isEarly fault = true ∨ fault = .failed .alreadyStarted := by
  rw [refusal?] at refused
  split at refused
  · obtain rfl := Option.some.inj refused
    exact Or.inl rfl
  · split at refused
    · obtain rfl := Option.some.inj refused
      exact Or.inl rfl
    · split at refused
      · obtain rfl := Option.some.inj refused
        exact Or.inr rfl
      · cases refused

theorem boot_of_ready_claimed (windowed : page.hasWindow = true)
    (documented : page.hasDocument = true) (claimed : page.guard.claimed = true)
    (start : StartSettings) (holder : Holder) :
    page.boot start holder =
      (.error (.failed .alreadyStarted), { page with verbosity := start.verbosity }) := by
  have refused : page.refusal? = some (.failed .alreadyStarted) := by
    rw [refusal?, windowed, documented, claimed]
    rfl
  rw [boot_eq, refused]

/-- What is left by a boot that failed before it claimed the page. -/
structure FailedEarly (page last : Browser) : Prop where
  /-- The document is as it was, and so is all else but the verbosity. -/
  same : ∃ verbosity, last = { page with verbosity := verbosity }
  /-- A boot that follows comes to what it would have come to as the first. -/
  repeated : ∀ choices start, StartSettings.ofChoices choices = .ok start →
    last.meet (.boot choices) = page.meet (.boot choices)
  unread : ∀ choices fault, StartSettings.ofChoices choices = .error fault →
    last.meet (.boot choices) = (.exception fault, last) ∧
      page.meet (.boot choices) = (.exception fault, page)

/-- What is left by a boot that was stopped in its search. -/
structure FailedLate (page last : Browser) (fault : ScriptFault) : Prop where
  fault_eq : ∃ cause, fault = .failed (.page cause)
  /-- Without the elements that were put in, the document is as it was. -/
  restored : last.document.remove (fun key => page.nextKey ≤ key) = page.document
  others_eq : { last with
    document := page.document, nextKey := page.nextKey, guard := page.guard, slot := page.slot
    verbosity := page.verbosity, console := page.console } = page
  /-- No link does anything, those that were put in included. -/
  click_eq : ∀ place, (last.step (.click place)).2 = { last with console := [], nested := [] }
  unclaimed : page.guard.claimed = false
  claimed : last.guard.claimed = true
  /-- No boot that follows looks at the document. -/
  boot_refused : ∀ choices start, StartSettings.ofChoices choices = .ok start →
    last.meet (.boot choices) =
      (.exception (.failed .alreadyStarted), { last with verbosity := start.verbosity })
  boot_unread : ∀ choices fault, StartSettings.ofChoices choices = .error fault →
    last.meet (.boot choices) = (.exception fault, last)
  install_refused : ∀ choices,
    last.meet (.install choices) = (.exception (.failed .alreadyStarted), last)

theorem failedEarly (page : Browser) (verbosity : Verbosity) :
    FailedEarly page { page with verbosity := verbosity } where
  same := ⟨verbosity, rfl⟩
  repeated choices start chosen := by
    rw [meet_boot_ok chosen, meet_boot_ok chosen, boot_withVerbosity]
  unread choices fault unread := ⟨meet_boot_error unread _, meet_boot_error unread page⟩

/-- With the session of the links gone, a click changes nothing. -/
theorem step_click_of_missing {last : Browser} (missing : last.slot = .missing) (place : Nat) :
    (last.step (.click place)).2 = { last with console := [], nested := [] } := by
  let cleared : Browser := { last with console := [], nested := [] }
  have stepped : (last.step (.click place)).2 = (cleared.respond serve (.click place)).2 := rfl
  rcases respond_click_cases serve cleared place with same | ⟨key, link, -, followed⟩
  · rw [stepped, same]
  · have gone : ({ cleared with clicked := some key } : Browser).slot = .missing := missing
    rw [stepped, followed, followLink, gone]

/-- A boot that fails was refused, or was stopped in its search. -/
theorem failed_attempt (keyed : page.Keyed) {start : StartSettings} {holder : Holder}
    {fault : ScriptFault} {last : Browser} (failed : page.boot start holder = (.error fault, last))
    (other : fault ≠ .failed .alreadyStarted) :
    isEarly fault = true ∧ FailedEarly page last ∨ FailedLate page last fault := by
  rw [boot_eq] at failed
  cases refusal : page.refusal? with
  | some refused =>
      rw [refusal] at failed
      obtain ⟨faultEq, rfl⟩ := Prod.mk.inj failed
      obtain rfl := Except.error.inj faultEq
      exact Or.inl ⟨(refusal?_eq_some refusal).resolve_right other, failedEarly page _⟩
  | none =>
      rw [refusal] at failed
      obtain ⟨windowed, documented, unclaimed⟩ := refusal?_eq_none.mp refusal
      obtain ⟨faultEq, links, notes, next, console, fresh, lastEq⟩ :=
        startSession_eq_error (keyed.claimed start.verbosity _) failed
      have freshOn : Fresh page.nextKey links notes := fresh
      have windowedStill : last.hasWindow = true := by rw [lastEq]; exact windowed
      have documentedStill : last.hasDocument = true := by rw [lastEq]; exact documented
      have claimed : last.guard.claimed = true := by rw [lastEq]; rfl
      have missing : last.slot = .missing := by rw [lastEq]
      have restored : last.document.remove (fun key => page.nextKey ≤ key) = page.document := by
        rw [lastEq]
        exact freshOn.restored keyed
      refine Or.inr ⟨faultEq, restored, ?_, step_click_of_missing missing, unclaimed, claimed, ?_,
        fun choices fault unread => meet_boot_error unread last, install_of_claimed claimed⟩
      · rw [lastEq]
        rfl
      · intro choices again chosen
        rw [meet_boot_ok chosen, boot_of_ready_claimed windowedStill documentedStill claimed]
        rfl

/-- An answer that is an exception comes from a fault. -/
theorem eq_of_answer {α : Type} {found : α → PageAnswer}
    (report : ∀ value fault, found value ≠ .exception fault)
    {outcome : Except ScriptFault α × Browser} {fault : ScriptFault} {last : Browser}
    (answered : (answerOf found outcome.1, outcome.2) = (.exception fault, last)) :
    outcome = (.error fault, last) := by
  obtain ⟨answer, same⟩ := Prod.mk.inj answered
  cases outcomeEq : outcome.1 with
  | ok value =>
      rw [outcomeEq] at answer
      exact (report value fault answer).elim
  | error other =>
      rw [outcomeEq] at answer
      obtain rfl := PageAnswer.exception.inj answer
      exact Prod.ext outcomeEq same

theorem installing_refused {choices : Option Json} {fault : ScriptFault}
    (refused : page.installing choices = .refused fault) :
    isEarly fault = true ∨ fault = .failed .alreadyStarted := by
  rw [installing] at refused
  split at refused
  · obtain rfl := Installing.refused.inj refused
    exact Or.inr rfl
  · split at refused
    · next unread =>
      obtain rfl := Installing.refused.inj refused
      exact Or.inl (ofChoices_eq_error unread)
    · split at refused
      · split at refused <;> cases refused
      · obtain rfl := Installing.refused.inj refused
        exact Or.inl rfl

/-- A boot, or an installation, that fails otherwise than for an earlier boot has not
touched the page and can be repeated, or it was stopped in its search, after which the
page is never searched again.  Any page that was opened with a document is keyed, whatever
the document. -/
theorem failed_boot (keyed : page.Keyed) {event : BootEvent} (asked : event.isScript = true)
    {fault : ScriptFault} {last : Browser} (failed : page.meet event = (.exception fault, last))
    (other : fault ≠ .failed .alreadyStarted) :
    isEarly fault = true ∧ FailedEarly page last ∨ FailedLate page last fault := by
  cases event with
  | load => cases asked
  | setReadyState state => cases asked
  | setWindow present => cases asked
  | setDocument present => cases asked
  | boot choices =>
      cases chosen : StartSettings.ofChoices choices with
      | error unread =>
          rw [meet_boot_error chosen] at failed
          obtain ⟨faultEq, rfl⟩ := Prod.mk.inj failed
          obtain rfl := PageAnswer.exception.inj faultEq
          exact Or.inl ⟨ofChoices_eq_error chosen, failedEarly page page.verbosity⟩
      | ok start =>
          rw [meet_boot_ok chosen] at failed
          exact failed_attempt keyed (eq_of_answer (by rintro value fault ⟨⟩) failed) other
  | install choices =>
      have installed : page.meet (.install choices) =
          (answerOf (fun _ => .done) (page.install choices).1, (page.install choices).2) := rfl
      rw [installed, install_eq] at failed
      cases installing : page.installing choices with
      | onLoad start =>
          rw [installing] at failed
          cases failed
      | now start =>
          rw [installing] at failed
          have installedNow := eq_of_answer (by rintro value fault ⟨⟩) failed
          obtain ⟨mapped, same⟩ := Prod.mk.inj installedNow
          have booted : page.boot start .window = (.error fault, last) := by
            refine Prod.ext ?_ same
            cases outcome : (page.boot start .window).1 with
            | error cause =>
                have outcomeEq : (BootAttempt.mk page start .window).outcome.1 = .error cause :=
                  outcome
                rw [outcomeEq] at mapped
                exact congrArg _ (Except.error.inj mapped)
            | ok report =>
                have outcomeEq : (BootAttempt.mk page start .window).outcome.1 = .ok report :=
                  outcome
                rw [outcomeEq] at mapped
                cases mapped
          exact failed_attempt keyed booted other
      | refused cause =>
          rw [installing] at failed
          obtain ⟨faultEq, rfl⟩ := Prod.mk.inj failed
          obtain rfl := PageAnswer.exception.inj faultEq
          exact Or.inl ⟨(installing_refused installing).resolve_right other,
            failedEarly page page.verbosity⟩

/-- A document with a day, of a server two hours behind universal time. -/
def plannerForm : Forest :=
  let day : Element :=
    { key := 0, tag := "input", attributes := [("type", "date"), ("class", "vDateField")] }
  let body : Element :=
    { key := 0, tag := "body", attributes := [("data-admin-utc-offset", "-7200")] }
  .element { key := 0, tag := "html" } (.element body
    (.element { key := 0, tag := "p" } (.element day .nil .nil) .nil) .nil) .nil

/-- A page that was opened with that document, by a browser without a clock. -/
def planner : Browser :=
  ofDocument plannerForm ⟨none, none⟩

/-- The choice of a class that no element takes. -/
def badNoteClass : Json :=
  .ofMembers [("timezone_warning_class", .string "a b")]

/-- One boot of the planner fails without a window, another for the class of its note. -/
theorem failed_boot_planner :
    (∃ last, meet { planner with hasWindow := false } (.boot none) =
        (.exception .noWindow, last) ∧
      FailedEarly { planner with hasWindow := false } last) ∧
    ∃ fault last, planner.meet (.boot (some badNoteClass)) = (.exception fault, last) ∧
      FailedLate planner last fault := by
  have keyed : planner.Keyed := keyed_ofDocument plannerForm ⟨none, none⟩
  constructor
  · have windowless : Keyed { planner with hasWindow := false } := ⟨keyed.nodup, keyed.lt⟩
    have failed : meet { planner with hasWindow := false } (.boot none) =
        (.exception .noWindow, _) := rfl
    refine ⟨_, failed, ?_⟩
    rcases failed_boot windowless rfl failed (by decide) with early | late
    · exact early.2
    · obtain ⟨cause, same⟩ := late.fault_eq
      cases same
  · let fault : ScriptFault := .failed (.page (.exception "InvalidCharacterError"))
    have answered : (planner.meet (.boot (some badNoteClass))).1 = .exception fault := by
      decide +kernel
    have failed : planner.meet (.boot (some badNoteClass)) = (.exception fault, _) :=
      Prod.ext answered rfl
    refine ⟨fault, _, failed, ?_⟩
    rcases failed_boot keyed rfl failed (by decide) with early | late
    · exact absurd early.1 (by decide)
    · exact late

/-- The planner could have been booted; after a boot that failed it cannot be, and its day has
a link. -/
theorem planner_not_restored :
    (planner.meet (.boot none)).1 = .report ⟨7200, ⟨1, 0, 1, 1⟩⟩ ∧
      (planner.meet (.boot (some badNoteClass))).1 =
        .exception (.failed (.page (.exception "InvalidCharacterError"))) ∧
      (planner.meet (.boot (some badNoteClass))).2.document ≠ planner.document ∧
      ((planner.meet (.boot (some badNoteClass))).2.meet (.boot none)).1 =
        .exception (.failed .alreadyStarted) := by
  decide +kernel

end Browser

end QuickFill
