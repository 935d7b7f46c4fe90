import QuickFill.Proofs.Browser.Lifetime
import QuickFill.Proofs.Browser.Staying
import QuickFill.Proofs.Page.Filled

/-!
# What the numbers of a boot say

A boot that succeeds reports how many links of each kind and how many notes it has put into
the document.  The numbers are copied out once, and they stay right: as long as somebody has
the object that holds them, the session knows the handles below them and no others, and a
call with any other handle is refused for that handle, whatever else it asks for.  The links
and notes stay in the document, too, unless a script removes them.
-/

namespace QuickFill

/-- The number of inputs that got a link of a kind. -/
def StartReport.inputs (report : StartReport) : LinkKind → Nat
  | .clock => report.clockInputs
  | .calendar => report.calendarInputs

namespace Element

/-- Whether an element is a quick-fill link of a kind. -/
def linksTo (kind : LinkKind) (element : Element) : Bool :=
  element.tag == "a" && element.action.any fun action => action.kind == kind

/-- Whether an element that a boot has put into a document is a note. -/
def isNote (element : Element) : Bool :=
  element.tag == "div"

end Element

/-- The handle that a call is about, with its kind; none when the call gives an hour that there
is not, or asks for the id of a box. -/
def ScriptCall.target? : ScriptCall → Option (LinkKind × Nat)
  | .clock handle value _ => if -1 ≤ value ∧ value ≤ 23 then some (.clock, handle) else none
  | .today handle _ => some (.calendar, handle)
  | .pick handle _ _ _ => some (.calendar, handle)
  | .boxId _ => none

theorem ScriptCall.request_of_target? {call : ScriptCall} {kind : LinkKind} {handle : Nat}
    (target : call.target? = some (kind, handle)) :
    ∃ request, call.request = .ok request ∧ request.target? = some (kind, handle) := by
  cases call with
  | clock number value template =>
      rw [ScriptCall.target?] at target
      split at target
      · next bounds =>
        by_cases isNow : value = -1
        · refine ⟨.clock number .now template, ?_, target⟩
          rw [request, ClockValue.ofSentinel, if_pos isNow]
          rfl
        · refine ⟨.clock number (.hour value.toNat) template, ?_, target⟩
          have hour : 0 ≤ value ∧ value ≤ 23 := by omega
          rw [request, ClockValue.ofSentinel, if_neg isNow, if_pos hour]
          rfl
      · cases target
  | today number days => exact ⟨_, rfl, target⟩
  | pick number year month day => exact ⟨_, rfl, target⟩
  | boxId number => cases target

/-! ### Handles that nothing is registered for -/

namespace Session

variable {σ ι : Type} [Environment σ] [Fillable σ ι]

theorem informed_requestEnd {found running after : Running σ ι} {input : ι}
    {request : SessionRequest} {fault : Fault}
    (failed : (requestEnd found input request).run running = .error fault after) :
    fault.Informed := by
  cases request with
  | pick handle year month day =>
      rw [requestEnd, run_change_bind] at failed
      split at failed
      · cases failed
      · obtain ⟨rfl, -⟩ := EStateM.Result.error.inj failed
        trivial
  | follow link =>
      rw [requestEnd_follow] at failed
      cases failed
  | _ => cases failed

/-- Once the input of a handle is found, no handle is blamed any more. -/
theorem informed_fillInput {running after : Running σ ι} {kind : LinkKind} {handle : Nat}
    {input : ι} (resolved : running.session.registry.resolve kind handle = .ok input)
    {request : SessionRequest} {fault : Fault}
    (failed : (fillInput kind handle request).run running = .error fault after) :
    fault.Informed := by
  rw [run_fillInput, resolved] at failed
  simp only at failed
  split at failed
  · next early refused =>
    obtain ⟨rfl, -⟩ := EStateM.Result.error.inj failed
    exact informed_requestText running input request _ refused
  · split at failed
    · obtain ⟨rfl, -⟩ := EStateM.Result.error.inj failed
      trivial
    · split at failed
      · obtain ⟨rfl, -⟩ := EStateM.Result.error.inj failed
        trivial
      · split at failed
        · next ended outcome =>
          obtain ⟨rfl, -⟩ := EStateM.Result.error.inj failed
          exact informed_requestEnd outcome
        · cases failed

/-- A request is refused for an unknown handle if and only if nothing is registered for its
own one; this comes before all else that it can be refused for. -/
theorem serve_unknown_iff {request : SessionRequest} {kind : LinkKind} {handle : Nat}
    (target : request.target? = some (kind, handle)) (running : Running σ ι)
    (blamed : LinkKind) (number : Nat) :
    (∃ after, (serve request).run running = .error (.unknownHandle blamed number) after) ↔
      (running.session.registry.inputs kind).length ≤ handle ∧ blamed = kind ∧
        number = handle := by
  rw [run_serve target]
  rcases Nat.lt_or_ge handle (running.session.registry.inputs kind).length with known | beyond
  · obtain ⟨input, resolved⟩ := Registry.resolve_of_lt known
    constructor
    · rintro ⟨after, failed⟩
      exact (informed_fillInput resolved failed).elim
    · rintro ⟨beyond, -⟩
      omega
  · rw [run_fillInput, Registry.resolve_of_length_le beyond]
    constructor
    · rintro ⟨after, failed⟩
      obtain ⟨same, -⟩ := EStateM.Result.error.inj failed
      obtain ⟨rfl, rfl⟩ := Fault.unknownHandle.inj same
      exact ⟨beyond, rfl, rfl⟩
    · rintro ⟨-, rfl, rfl⟩
      exact ⟨_, rfl⟩

/-! ### What a start counts -/

theorem inputs_tally (report : StartReport) (kind : FieldKind) (added : Bool)
    (other : LinkKind) : (tally report kind added).inputs other =
      report.inputs other + if other = kind.linkKind then 1 else 0 := by
  cases kind <;> cases added <;> cases other <;> rfl

theorem notes_tally (report : StartReport) (kind : FieldKind) (added : Bool) :
    (tally report kind added).notes = report.notes + if added then 1 else 0 := by
  cases kind <;> cases added <;> rfl

end Session

namespace Browser

/-- What a page has in its document that was put there since it was another page. -/
def newElements (first page : Browser) : List Element :=
  page.document.elements.filter fun element => first.nextKey ≤ element.key

/-- The numbers of links and notes that were put into a document are as reported, and nothing
was put there but these and the spans around the links. -/
structure Numbered (first page : Browser) (report : StartReport) : Prop where
  links_eq : ∀ kind, (first.newElements page).countP (Element.linksTo kind) = report.inputs kind
  notes_eq : (first.newElements page).countP Element.isNote = report.notes
  length_eq : (first.newElements page).length =
    2 * (report.inputs .clock + report.inputs .calendar) + report.notes

/-- A page in the middle of the search of a boot, with what was counted so far. -/
structure Tallied (first : Browser) (report : StartReport) (running : Running Browser Nat) :
    Prop where
  descends : Descends first running.page
  registered_eq : ∀ kind, (running.session.registry.inputs kind).length = report.inputs kind
  numbered : Numbered first running.page report

/-- What the report of a boot says about every page that comes about from the booted one. -/
structure ReportHolds (first booted : Browser) (report : BootReport) : Prop where
  numbered : Numbered first booted report.report
  /-- So they are as long as no script adds elements or removes them. -/
  still_numbered : booted.ListenersSpare → ∀ page, AfterSparing booted page →
    Numbered first page report.report
  /-- Whoever has the object reads the numbers of the boot off it. -/
  read_eq : ∀ page, After booted page → ∀ holder, (page.objectOf? holder).isSome →
    (page.step (.describe holder)).1.answer = .report report
  /-- A call is refused for an unknown handle if and only if its own handle is not below the
  number of links of its kind, and then it is that handle which is blamed. -/
  unknown_iff : ∀ page, After booted page → ∀ holder, (page.objectOf? holder).isSome →
    ∀ (call : ScriptCall) kind handle, call.target? = some (kind, handle) →
      ∀ blamed number, (page.step (.call holder call)).1.answer =
          .exception (.failed (.unknownHandle blamed number)) ↔
        report.report.inputs kind ≤ handle ∧ blamed = kind ∧ number = handle

variable {first page after booted : Browser} {key : Nat}

/-! ### What is put into a document -/

theorem mem_keys_of_homeOf {home : Option Nat} (found : page.homeOf key = .ok home) :
    key ∈ page.document.keys := by
  by_contra absent
  rw [homeOf, Forest.homeOf?_of_notMem absent] at found
  cases found

theorem perm_insertShortcut (keyed : page.Keyed) {shortcut : Shortcut}
    (inserted : page.insertShortcut key shortcut = .ok after) :
    after.document.elements.Perm (page.document.elements ++
      [spanOf page.nextKey shortcut, anchorOf page.nextKey shortcut]) := by
  simp only [insertShortcut, bind, Except.bind, pure, Except.pure] at inserted
  split at inserted
  · cases inserted
  · next home found =>
    split at inserted
    · cases inserted
    · obtain rfl := Except.ok.inj inserted
      have added := Forest.perm_insertAfter keyed.nodup (mem_keys_of_homeOf found)
        (shortcutNodes page.nextKey shortcut)
      rwa [elements_shortcutNodes] at added

theorem perm_appendNote (keyed : page.Keyed) {note : Note}
    (appended : page.appendNote key note = .ok after) :
    ∃ classAttribute, after.document.elements.Perm
      (page.document.elements ++ [noteOf page.nextKey classAttribute]) := by
  simp only [appendNote, homeOf, bind, Except.bind, pure, Except.pure] at appended
  cases home : page.document.homeOf? key none with
  | none =>
      rw [home] at appended
      cases appended
  | some place =>
      rw [home] at appended
      simp only at appended
      split at appended
      · cases appended
      · next classAttribute joined =>
        cases place with
        | none => cases appended
        | some parent =>
            obtain rfl := Except.ok.inj appended
            have inside : parent ∈ page.document.keys :=
              Forest.mem_keys_of_homeOf? home (by simp)
            have added := Forest.perm_modifyContent keyed.nodup inside
              (noteNodes page.nextKey classAttribute note.text)
            rw [elements_noteNodes] at added
            exact ⟨classAttribute, added⟩

theorem perm_newElements {added : List Element}
    (perm : after.document.elements.Perm (page.document.elements ++ added))
    (new : ∀ element ∈ added, first.nextKey ≤ element.key) :
    (first.newElements after).Perm (first.newElements page ++ added) := by
  have filtered := perm.filter fun element => decide (first.nextKey ≤ element.key)
  rwa [List.filter_append, List.filter_eq_self.mpr fun element member =>
    decide_eq_true (new element member)] at filtered

theorem Numbered.of_perm {report more : StartReport} (numbered : Numbered first page report)
    {added : List Element}
    (perm : (first.newElements after).Perm (first.newElements page ++ added))
    (linksEq : ∀ kind, more.inputs kind =
      report.inputs kind + added.countP (Element.linksTo kind))
    (notesEq : more.notes = report.notes + added.countP Element.isNote)
    (lengthEq : added.length = 2 * (added.countP (Element.linksTo .clock) +
      added.countP (Element.linksTo .calendar)) + added.countP Element.isNote) :
    Numbered first after more where
  links_eq kind := by
    rw [perm.countP_eq, List.countP_append, numbered.links_eq, linksEq]
  notes_eq := by
    rw [perm.countP_eq, List.countP_append, numbered.notes_eq, notesEq]
  length_eq := by
    rw [perm.length_eq, List.length_append, numbered.length_eq, lengthEq, notesEq, linksEq,
      linksEq]
    omega

/-- How many elements are new does not depend on what readers and scripts can change of them. -/
theorem Numbered.of_bare {report : StartReport} (numbered : Numbered first page report)
    (bareEq : after.document.elements.map Element.bare =
      page.document.elements.map Element.bare) : Numbered first after report := by
  have newEq : (first.newElements after).map Element.bare =
      (first.newElements page).map Element.bare := by
    have filtered := congrArg (List.filter fun element => first.nextKey ≤ element.key) bareEq
    rwa [List.filter_map, List.filter_map] at filtered
  have countEq (counts : Element → Bool) (keeps : counts ∘ Element.bare = counts) :
      (first.newElements after).countP counts = (first.newElements page).countP counts := by
    have counted := congrArg (List.countP counts) newEq
    rwa [List.countP_map, List.countP_map, keeps] at counted
  have lengthEq := congrArg List.length newEq
  rw [List.length_map, List.length_map] at lengthEq
  exact ⟨fun kind => (countEq (Element.linksTo kind) rfl).trans (numbered.links_eq kind),
    (countEq Element.isNote rfl).trans numbered.notes_eq, lengthEq.trans numbered.length_eq⟩

/-! ### One more input -/

section Field

variable {report : StartReport} {running ended : Running Browser Nat}

theorem Tallied.logged (tallied : Tallied first report running) (event : LogEvent) :
    Tallied first report (running.logged event) := by
  have sameElements : first.newElements (running.logged event).page =
      first.newElements running.page := by
    obtain ⟨console, loggedEq⟩ := log_eq running.page event
    have recorded := congrArg first.newElements loggedEq
    exact recorded
  refine ⟨(attachClosed_descends first).logged event tallied.descends, tallied.registered_eq, ?_⟩
  exact ⟨fun kind => by rw [sameElements, tallied.numbered.links_eq],
    by rw [sameElements, tallied.numbered.notes_eq],
    by rw [sameElements, tallied.numbered.length_eq]⟩

/-- An input is registered, and gets a span with a link. -/
theorem Tallied.attach (tallied : Tallied first report running) {kind : FieldKind}
    {settings : Settings} {handle : Nat} (attached : (Session.attach kind.linkKind kind.label
      (kind.action settings) key).run running = .ok handle ended) :
    Tallied first (Session.tally report kind false) ended := by
  obtain ⟨-, -, changed, inserted, rfl⟩ := Session.attach_eq_ok attached
  let linked : Running Browser Nat := (running.push kind.linkKind key).withPage changed
  let shortcut := Session.shortcutOf running kind.label (kind.action settings handle)
  let row : List Element :=
    [spanOf running.page.nextKey shortcut, anchorOf running.page.nextKey shortcut]
  have new : ∀ element ∈ row, first.nextKey ≤ element.key := by
    have later := tallied.descends.nextKey_le
    simp only [row, List.mem_cons, List.not_mem_nil, or_false, forall_eq_or_imp, forall_eq]
    exact ⟨later, Nat.le_succ_of_le later⟩
  have perm : (first.newElements changed).Perm (first.newElements running.page ++ row) :=
    perm_newElements (perm_insertShortcut tallied.descends.keyed inserted) new
  have countEq (other : LinkKind) :
      row.countP (Element.linksTo other) = if other = kind.linkKind then 1 else 0 := by
    have actionKind : shortcut.action.kind = kind.linkKind :=
      (Session.names_action kind settings handle).1
    by_cases same : other = kind.linkKind
    · simp [row, Element.linksTo, spanOf, anchorOf, actionKind, same]
    · simp [row, Element.linksTo, spanOf, anchorOf, actionKind, same, Ne.symm same]
  have noNote : row.countP Element.isNote = 0 := rfl
  have tallied : Tallied first (Session.tally report kind false) linked := by
    refine ⟨(attachClosed_descends first).linked tallied.descends inserted, fun other => ?_,
      tallied.numbered.of_perm perm (fun other => ?_) ?_ ?_⟩
    · have pushed : linked.session.registry.inputs other = _ :=
        Registry.inputs_push running.session.registry key kind.linkKind other
      rw [pushed, Session.inputs_tally, ← tallied.registered_eq]
      split
      · rw [List.length_append, List.length_singleton]
      · rfl
    · rw [Session.inputs_tally, countEq]
    · rw [Session.notes_tally, noNote]
      rfl
    · rw [countEq, countEq, noNote]
      cases kind <;> rfl
  exact tallied.logged _

/-- A note is added to the numbers when it is put into the document. -/
theorem Tallied.notify {kind : FieldKind}
    (tallied : Tallied first (Session.tally report kind false) running) {added : Bool}
    (notified : (Session.notify key).run running = .ok added ended) :
    Tallied first (Session.tally report kind added) ended := by
  rcases Session.notify_eq_ok notified with
    ⟨rfl, rfl | rfl⟩ | ⟨rfl, note, changed, appended, rfl⟩
  · exact tallied
  · exact tallied.logged _
  · obtain ⟨classAttribute, perm⟩ := perm_appendNote tallied.descends.keyed appended
    have new : ∀ element ∈ [noteOf running.page.nextKey classAttribute],
        first.nextKey ≤ element.key := by
      simpa [noteOf] using tallied.descends.nextKey_le
    have noted : Tallied first (Session.tally report kind true) (running.withPage changed) := by
      refine ⟨(attachClosed_descends first).noted tallied.descends appended, fun other => ?_,
        tallied.numbered.of_perm (perm_newElements perm new) (fun other => ?_) ?_ rfl⟩
      · exact (tallied.registered_eq other).trans
          ((Session.inputs_tally report kind false other).trans
            (Session.inputs_tally report kind true other).symm)
      · rw [Session.inputs_tally, Session.inputs_tally]
        rfl
      · rw [Session.notes_tally, Session.notes_tally]
        rfl
    exact noted.logged _

/-- Whatever becomes of a field, the numbers are right afterwards. -/
theorem Tallied.field (tallied : Tallied first report running) {found : Field Nat}
    {counted : StartReport}
    (dealtWith : (Session.startField report found).run running = .ok counted ended) :
    Tallied first counted ended := by
  rw [Session.run_startField] at dealtWith
  split at dealtWith
  · obtain ⟨rfl, rfl⟩ := EStateM.Result.ok.inj dealtWith
    have numbered := tallied.numbered
    exact ⟨tallied.descends, tallied.registered_eq,
      ⟨numbered.links_eq, numbered.notes_eq, numbered.length_eq⟩⟩
  · next kind _ =>
    split at dealtWith
    · cases dealtWith
    · next handle attachedTo attached =>
      split at dealtWith
      · cases dealtWith
      · next added noted notified =>
        obtain ⟨rfl, rfl⟩ := EStateM.Result.ok.inj dealtWith
        exact (tallied.attach attached).notify notified

theorem Tallied.fields (tallied : Tallied first report running) {found : List (Field Nat)}
    {counted : StartReport}
    (dealtWith : (found.foldlM Session.startField report).run running = .ok counted ended) :
    Tallied first counted ended := by
  induction found generalizing report running with
  | nil =>
      obtain ⟨rfl, rfl⟩ := EStateM.Result.ok.inj dealtWith
      exact tallied
  | cons field rest ih =>
      rw [List.foldlM_cons, EStateM.run_bind] at dealtWith
      split at dealtWith
      · next next between first =>
        exact ih (tallied.field first) dealtWith
      · cases dealtWith

end Field

/-! ### The boot -/

theorem newElements_self (keyed : first.Keyed) : first.newElements first = [] :=
  List.filter_eq_nil_iff.mpr fun element member => by
    have given := keyed.lt (Forest.mem_keys member)
    simpa using given

/-- Nothing is counted when the search begins. -/
theorem tallied_opened (keyed : first.Keyed) (settings : Settings) :
    Tallied first {} (first.opened settings) := by
  have created : Tallied first {} ⟨{
      settings := settings
      gap := ZoneGap.between first.reading.instant.offset first.serverOffset?
      started := true }, first.bindLinks⟩ := by
    have nothing : first.newElements first.bindLinks = [] := newElements_self keyed
    refine ⟨descends_of_bare keyed rfl rfl rfl, fun kind => ?_, ⟨fun kind => ?_, ?_, ?_⟩⟩
    · cases kind <;> rfl
    · rw [nothing]
      cases kind <;> rfl
    · rw [nothing]
      rfl
    · rw [nothing]
      rfl
  exact (created.logged _).logged _

/-- A boot that succeeds reports what it has put into the document, and what its session
knows. -/
theorem tallied_boot (keyed : first.Keyed) {start : StartSettings} {holder : Holder}
    {report : BootReport} (boots : first.boot start holder = (.ok report, booted)) :
    Numbered first booted report.report ∧ ∃ session, booted.slot = .resting session ∧
      ∀ kind, (session.registry.inputs kind).length = report.report.inputs kind := by
  obtain ⟨total, after, outcome, rfl, rfl⟩ := exists_search first boots
  have claimedKeyed : (first.claimed start.verbosity).Keyed := ⟨keyed.nodup, keyed.lt⟩
  have tallied := ((tallied_opened claimedKeyed start.settings).fields outcome).logged
    (.startDone total)
  have numbered := tallied.numbered
  exact ⟨⟨numbered.links_eq, numbered.notes_eq, numbered.length_eq⟩, _, rfl,
    tallied.registered_eq⟩

/-! ### Calls -/

theorem serve_eq_failed {session : Session Nat} (resting : page.slot = .resting session)
    {request : SessionRequest} {fault : Fault} :
    (page.serve request).1 = .error (.failed fault) ↔
      ∃ after, (Session.serve request).run ⟨session, { page with slot := .working }⟩ =
        .error fault after := by
  rw [serve, resting]
  simp only
  cases (Session.serve request).run ⟨session, { page with slot := .working }⟩ with
  | ok text after => simp
  | error other after => simp

theorem objectOf?_eq {holder : Holder} (held : (page.objectOf? holder).isSome) :
    ∃ found, page.object = some (holder, found) ∧ page.objectOf? holder = some found := by
  obtain ⟨found, held⟩ := Option.isSome_iff_exists.mp held
  refine ⟨found, ?_, held⟩
  rw [objectOf?] at held
  split at held
  · next owner other object =>
    split at held
    · next same =>
      rw [object, same, Option.some.inj held]
    · cases held
  · cases held

theorem answer_describe {holder : Holder} {found : BootReport}
    (held : page.objectOf? holder = some found) :
    (page.step (.describe holder)).1.answer = .report found := by
  let cleared : Browser := { page with console := [], nested := [] }
  have heldNow : cleared.objectOf? holder = some found := held
  have responded : (page.step (.describe holder)).1.answer =
      (cleared.respond serve (.describe holder)).1 := rfl
  rw [responded, respond, heldNow]

/-- A script that has the object gets the answer of the session, or the fault it ends with. -/
theorem answer_call {holder : Holder} {found : BootReport}
    (held : page.objectOf? holder = some found) {call : ScriptCall} {request : SessionRequest}
    (requested : call.request = .ok request) :
    (page.step (.call holder call)).1.answer =
      answerOf .text (serve request { page with console := [], nested := [] }).1 := by
  let cleared : Browser := { page with console := [], nested := [] }
  have heldNow : cleared.objectOf? holder = some found := held
  have responded : (page.step (.call holder call)).1.answer =
      (cleared.respond serve (.call holder call)).1 := rfl
  rw [responded, respond, callSession, heldNow, requested]

theorem answerOf_eq_exception {outcome : Except ScriptFault String} {fault : ScriptFault} :
    answerOf .text outcome = .exception fault ↔ outcome = .error fault := by
  cases outcome <;> simp [answerOf]

/-- The numbers that a boot reports are those of the links and notes that it has put into the
document.  They never change, and of the handles of each kind those below its number are known
for as long as anybody can ask.  Any page that was opened with a document is keyed and deals
with no click, whatever has happened on it. -/
theorem report_holds (keyed : first.Keyed) (idle : first.clicked = none)
    {start : StartSettings} {holder : Holder} {report : BootReport}
    (boots : first.boot start holder = (.ok report, booted)) :
    ReportHolds first booted report := by
  obtain ⟨numbered, session, restsAs, registered⟩ := tallied_boot keyed boots
  have rests := atRest_of_boot idle boots
  refine ⟨numbered, ?_, ?_, ?_⟩
  · intro spares page reached
    have retains : Retains booted page := Retains.after ⟨rests.claimed, rfl, spares⟩ reached
    exact numbered.of_bare retains.elements_eq
  · intro page reached owner held
    obtain ⟨found, object, read⟩ := objectOf?_eq held
    obtain rfl := (rests.after reached).work.report_eq owner found object
    exact answer_describe read
  · intro page reached owner held call kind handle target blamed number
    obtain ⟨found, object, read⟩ := objectOf?_eq held
    obtain ⟨request, requested, requestTarget⟩ := call.request_of_target? target
    have resting : page.slot = .resting session := by
      rcases (rests.after reached).held with ⟨other, _, resting, -⟩ | ⟨-, gone⟩
      · have same : session = other :=
          SessionSlot.resting.inj (restsAs.symm.trans (reached.slot_eq rests resting))
        rw [same]
        exact resting
      · cases gone.symm.trans object
    have restingNow : ({ page with console := [], nested := [] } : Browser).slot =
        .resting session := resting
    rw [answer_call read requested, answerOf_eq_exception, serve_eq_failed restingNow,
      Session.serve_unknown_iff requestTarget, registered]

/-- The agenda gets one link of each kind and no note.  A date that there is not is refused for
its handle when that is unknown, and for itself otherwise. -/
theorem report_holds_agenda :
    (agenda.boot {} .script).1 = .ok ⟨0, ⟨2, 1, 1, 0⟩⟩ ∧
      ReportHolds agenda (agenda.boot {} .script).2 ⟨0, ⟨2, 1, 1, 0⟩⟩ ∧
      (agenda.boot {} .script).2.ListenersSpare ∧
      ((agenda.boot {} .script).2.objectOf? .script).isSome ∧
      ((agenda.boot {} .script).2.step (.call .script (.pick 1 2024 13 40))).1.answer =
        .exception (.failed (.unknownHandle .calendar 1)) ∧
      ((agenda.boot {} .script).2.step (.call .script (.pick 0 2024 13 40))).1.answer =
        .exception (.failed (.invalidDate 2024 13 40)) := by
  have succeeds : (agenda.boot {} .script).1 = .ok ⟨0, ⟨2, 1, 1, 0⟩⟩ := by decide +kernel
  have boots : agenda.boot {} .script =
      (.ok ⟨0, ⟨2, 1, 1, 0⟩⟩, (agenda.boot {} .script).2) := Prod.ext succeeds rfl
  have keyed : agenda.Keyed := keyed_ofDocument agendaForm ⟨none, none⟩
  have unheard : (agenda.boot {} .script).2.listeners.isEmpty := by decide +kernel
  have spares : (agenda.boot {} .script).2.ListenersSpare := by
    rw [ListenersSpare, List.isEmpty_iff.mp unheard]
    exact List.forall_mem_nil _
  refine ⟨succeeds, report_holds keyed rfl boots, spares, ?_⟩
  decide +kernel

end Browser

end QuickFill
