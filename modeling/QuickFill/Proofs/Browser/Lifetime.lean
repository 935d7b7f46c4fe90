import QuickFill.Proofs.Browser.Descent
import QuickFill.Proofs.Browser.Reentry

/-!
# How long links live

The links that a boot puts into a document are bound to its session, but only the object
that the boot gives away holds the session.  As long as somebody has the object, a click on
such a link fills its input or logs why it cannot.  Once the object is let go of, or something
else is put in its place, the links stay where they are and do nothing.
-/

namespace QuickFill

/-- Whether an event takes the object from its holder. -/
def PageEvent.takesObject : PageEvent → Bool
  | .release => true
  | .setGlobal name _ => name == "DateTimeShortcuts"
  | _ => false

namespace Browser

/-- Nothing that listens to the focus takes the object from its holder. -/
def ListenersSpareObject (page : Browser) : Prop :=
  ∀ listener ∈ page.listeners, ∀ event ∈ listener.2, event.takesObject = false

/-- The pages that come about from a booted page without anything that takes its object or
breaks the page. -/
inductive WhileHeld (booted : Browser) : Browser → Prop
  | now : WhileHeld booted booted
  | step {page : Browser} {event : PageEvent} : WhileHeld booted page →
    event.takesObject = false → page.ListenersSpareObject →
      (page.step event).2.broken = false → WhileHeld booted (page.step event).2
  | waited {page : Browser} (start : StartSettings) : WhileHeld booted page →
    WhileHeld booted (page.bootPending start)

/-- What a link of a session comes to that is clicked, when it is to fill the input with a
key. -/
structure LinkLives (session : Session Nat) (page : Browser) (place : Nat) (link : Element)
    (action : QuickLink) (key : Nat) : Prop where
  action_eq : link.action = some action
  /-- The default action is prevented. -/
  prevented : (page.step (.click place)).1.answer = .truth true
  /-- While somebody has the object, the text that the session computes goes into the input,
  and the focus with all that listens to it; -/
  filled : page.object.isSome → ∀ text,
    Session.requestText (⟨session, page⟩ : Running Browser Nat) key (.follow action) = .ok text →
      (page.step (.click place)).2 =
        { ((page.clicking link).fulfilled key text (action.filled
          (Session.stepOf (⟨session, page⟩ : Running Browser Nat) key))).rest session with
            clicked := none }
  /-- if nothing listens, nothing else of the document and the focus changes; -/
  unheard : page.object.isSome → page.Unheard key → ∀ text,
    Session.requestText (⟨session, page⟩ : Running Browser Nat) key (.follow action) = .ok text →
      (page.step (.click place)).2.document = page.document.modify key (Element.filled text) ∧
        (page.step (.click place)).2.active =
          if page.document.contains key then some key else page.active
  /-- if there is no such text, the reason is logged, and nothing else changes; -/
  failed : page.object.isSome → ∀ fault, fault ≠ .clockOutOfRange →
    Session.requestText (⟨session, page⟩ : Running Browser Nat) key (.follow action) =
        .error fault →
      (page.step (.click place)).2 =
        { page with
          console := if page.verbosity.admits .warn then [.logged (.linkFailed fault)] else []
          nested := [] }
  /-- and only a clock out of its range breaks the page, before anything is filled in. -/
  breaks : page.object.isSome →
    Session.requestText (⟨session, page⟩ : Running Browser Nat) key (.follow action) =
        .error .clockOutOfRange →
      (page.step (.click place)).2.broken = true ∧
        (page.step (.click place)).2.document = page.document ∧
          (page.step (.click place)).2.active = page.active
  /-- When nobody has the object any more, the click changes nothing and nothing is logged. -/
  ignored : page.object = none →
    (page.step (.click place)).2 = { page with console := [], nested := [] }

/-- How long the links live that a boot with some session has put into a page. -/
structure LinksLive (first booted : Browser) (session : Session Nat) : Prop where
  /-- Each of them was put right after an input, and fills that input, wherever it stands
  later. -/
  lives : ∀ inserted ∈ booted.links, first.nextKey ≤ inserted.key →
    ∃ input ∈ first.inputs, ∃ key shortcut row,
      (input, shortcutNodes key shortcut ++ row) ∈ booted.document.followed ∧
        inserted = anchorOf key shortcut ∧
        ∀ page, After booted page → ∀ (place : Nat) (link : Element),
          page.links[place]? = some link → link.key = inserted.key →
            LinkLives session page place link shortcut.action input.key
  /-- The object lasts until an event takes it. -/
  held : ∀ page, WhileHeld booted page → page.object.isSome
  /-- It never comes back. -/
  gone : ∀ page later, After booted page → page.object = none → After page later →
    later.object = none

variable {report : BootReport} {clicked : Option Nat} {page booted : Browser}
  {session : Session Nat}

/-! ### The session stays the same -/

theorem fillClosed_session (session : Session Nat) :
    Session.FillClosed fun running : Running Browser Nat => running.session = session where
  logged _ before := before
  written before _ := before
  focused before _ := before
  hidden before _ := before

theorem eq_of_rest {other : Session Nat} (resting : (page.rest other).slot = .resting session) :
    other = session := by
  rw [rest] at resting
  split at resting
  · exact SessionSlot.resting.inj resting
  · cases resting

theorem slot_serve {request : SessionRequest}
    (unbroken : (page.serve request).2.broken = false)
    (resting : (page.serve request).2.slot = .resting session) : page.slot = .resting session := by
  cases slotEq : page.slot with
  | resting other =>
      rw [serve_eq_rest slotEq unbroken] at resting
      have same := (fillClosed_session other).serve request ⟨other, { page with slot := .working }⟩
        rfl
      rw [← eq_of_rest resting, same]
  | _ =>
      rw [serve, slotEq] at resting
      exact slotEq.symm.trans resting

theorem slot_followLink {link : QuickLink}
    (unbroken : (followLink serve page link).broken = false)
    (resting : (followLink serve page link).slot = .resting session) :
    page.slot = .resting session := by
  cases slotEq : page.slot with
  | resting other =>
      obtain ⟨console, followed⟩ := followLink_eq slotEq link
      rw [followed] at unbroken resting
      rw [← slotEq]
      exact slot_serve unbroken resting
  | unbound =>
      rw [followLink, slotEq] at resting
      exact slotEq.symm.trans ((sameStanding_log page _).slot_eq.symm.trans resting)
  | missing =>
      rw [followLink, slotEq] at resting
      exact slotEq.symm.trans resting
  | working =>
      rw [followLink, slotEq, serve, slotEq] at resting
      exact slotEq.symm.trans ((sameStanding_log page _).slot_eq.symm.trans resting)

theorem slot_dropObject (page : Browser) : page.dropObject.slot ≠ .resting session := by
  rw [dropObject]
  cases page.slot <;> rintro ⟨⟩

/-- A session that rests after an event rested before it. -/
theorem slot_respond (claimed : page.guard.claimed = true) {event : PageEvent}
    (unbroken : (page.respond serve event).2.broken = false)
    (resting : (page.respond serve event).2.slot = .resting session) :
    page.slot = .resting session := by
  cases concerns : event.concernsSession with
  | false => exact (sameStanding_respond serve claimed concerns).slot_eq.symm.trans resting
  | true =>
      cases event with
      | call holder call =>
          rcases respond_call_cases serve page holder call with same | ⟨request, -, served⟩
          · rwa [same] at resting
          · rw [served] at unbroken resting
            exact slot_serve unbroken resting
      | click place =>
          rcases respond_click_cases serve page place with same | ⟨key, link, -, followed⟩
          · rwa [same] at resting
          · rw [followed] at unbroken resting
            have before : ({ page with clicked := some key } : Browser).slot =
                .resting session := slot_followLink unbroken resting
            exact before
      | release =>
          rw [respond] at resting
          split at resting
          · exact absurd resting (slot_dropObject page)
          · exact resting
      | setGlobal name function =>
          rw [respond, setGlobal] at resting
          split at resting
          · split at resting
            · exact absurd resting (slot_dropObject page)
            · exact resting
          · exact resting
      | _ => cases concerns

theorem After.slot_eq (rests : AtRest report none booted) (reached : After booted page)
    (resting : page.slot = .resting session) : booted.slot = .resting session := by
  induction reached with
  | now => exact resting
  | @step page event before unbroken ih =>
      have claimed : ({ page with console := [], nested := [] } : Browser).guard.claimed = true :=
        (rests.after before).claimed
      have rested : ({ page with console := [], nested := [] } : Browser).slot =
          .resting session := slot_respond claimed unbroken resting
      exact ih rested
  | @waited page start before ih =>
      have same := sameStanding_bootPending (rests.after before).claimed start
      exact ih (same.slot_eq.symm.trans resting)

/-- Once nobody has the object, nobody ever has it again. -/
theorem AtRest.gone (rests : AtRest report none page) (gone : page.object = none)
    {later : Browser} (reached : After page later) : later.object = none := by
  rcases (rests.after reached).held with ⟨session, holder, resting, -⟩ | ⟨-, none⟩
  · have before := reached.slot_eq rests resting
    rcases rests.held with ⟨other, owner, -, object⟩ | ⟨missing, -⟩
    · cases gone.symm.trans object
    · cases missing.symm.trans before
  · exact none

/-! ### The object stays until it is taken -/

theorem InWork.object_respond (works : InWork report clicked page) {event : PageEvent}
    (spares : event.takesObject = false) : (page.respond .busy event).2.object = page.object := by
  cases concerns : event.concernsSession with
  | false => exact (sameStanding_respond .busy works.claimed concerns).object_eq
  | true =>
      cases event with
      | call holder call =>
          rcases respond_call_cases .busy page holder call with same | ⟨request, -, served⟩
          · rw [same]
          · rw [served]
            rfl
      | click place =>
          rw [Browser.respond]
          split
          · rfl
          · rw [works.click_busy]
            rfl
      | release => cases spares
      | setGlobal name function =>
          have other : name ≠ "DateTimeShortcuts" := beq_eq_false_iff_ne.mp spares
          rw [Browser.respond, Browser.setGlobal, if_neg other]
      | _ => cases concerns

theorem InWork.object_foldl (works : InWork report clicked page) {events : List PageEvent}
    (spare : ∀ event ∈ events, event.takesObject = false) :
    (events.foldl respondBusy page).object = page.object := by
  induction events generalizing page with
  | nil => rfl
  | cons event rest ih =>
      have responded : InWork report clicked (page.respondBusy event) :=
        (works.respond event).congr ⟨rfl, rfl, rfl, rfl, rfl, rfl⟩
      have first : (page.respondBusy event).object = page.object :=
        works.object_respond (spare event List.mem_cons_self)
      have others : ∀ event ∈ rest, event.takesObject = false :=
        fun event member => spare event (List.mem_cons_of_mem _ member)
      rw [List.foldl_cons, ih responded others, first]

theorem InWork.object_moveFocus (works : InWork report clicked page)
    (spare : page.ListenersSpareObject) (key : Nat) :
    (page.moveFocus key).object = page.object := by
  rw [moveFocus]
  split
  · have focused : InWork report clicked { page with active := some key } :=
      works.congr ⟨rfl, rfl, rfl, rfl, rfl, rfl⟩
    refine focused.object_foldl fun event member => ?_
    obtain ⟨listener, listening, heard⟩ := List.mem_flatMap.mp member
    exact spare listener (List.mem_of_mem_filter listening) event heard
  · rfl

/-- What follows the move of the focus leaves the object to its holder. -/
theorem keeps_object_requestEnd (object : Option (Holder × BootReport))
    (found : Running Browser Nat) (key : Nat) (request : SessionRequest) :
    Session.Keeps (fun running : Running Browser Nat => running.page.object = object)
      (Session.requestEnd found key request) := by
  refine Session.Keeps.requestEnd (fun {running} event before => ?_)
    (fun before hidden => ?_) found key request
  · exact (sameStanding_log running.page event).object_eq.trans before
  · obtain ⟨hiddenKey, rfl⟩ := hide_eq_ok hidden
    exact before

/-- A request is served without the object being taken, if no listener takes it. -/
theorem InWork.object_final (works : InWork report clicked page)
    (spare : page.ListenersSpareObject) (session : Session Nat) (request : SessionRequest) :
    (Session.final (Session.serve request) ⟨session, page⟩).page.object = page.object := by
  cases target : request.target? with
  | none =>
      cases request <;> cases target
      rfl
  | some found =>
      obtain ⟨kind, handle⟩ := found
      rw [Session.final, Session.run_serve target, Session.run_fillInput]
      cases session.registry.resolve kind handle with
      | error fault => exact (sameStanding_log page _).object_eq
      | ok key =>
          simp only
          cases Session.requestText (⟨session, page⟩ : Running Browser Nat) key request with
          | error fault => rfl
          | ok text =>
              have written : InWork report clicked (page.write key text) :=
                works.congr ⟨rfl, rfl, rfl, rfl, rfl, rfl⟩
              have moved : ((page.write key text).moveFocus key).object = page.object :=
                written.object_moveFocus spare key
              have ended := keeps_object_requestEnd page.object ⟨session, page⟩ key request
                ⟨session, (page.write key text).moveFocus key⟩ moved
              have writes : Fillable.write page key text = .ok (page.write key text) := rfl
              have focuses : Fillable.focus (page.write key text) key =
                  .ok ((page.write key text).moveFocus key) := rfl
              rw [Session.final] at ended
              simp only [writes, focuses, Running.withPage]
              cases outcome : (Session.requestEnd (⟨session, page⟩ : Running Browser Nat) key
                request).run ⟨session, (page.write key text).moveFocus key⟩ <;>
                  simpa only [outcome] using ended

theorem AtRest.object_serve (rests : AtRest report clicked page)
    (spare : page.ListenersSpareObject) (request : SessionRequest) :
    (page.serve request).2.object = page.object := by
  rcases rests.held with ⟨session, holder, resting, -⟩ | ⟨missing, -⟩
  · have kept := rests.work.object_final spare session request
    rcases serve_eq_final resting request with rested | breaks
    · rw [rested]
      exact kept
    · rw [breaks]
      exact kept
  · rw [Browser.serve, missing]

theorem AtRest.object_followLink (rests : AtRest report clicked page)
    (spare : page.ListenersSpareObject) (link : QuickLink) :
    (Browser.followLink Browser.serve page link).object = page.object := by
  rcases rests.held with ⟨session, holder, resting, -⟩ | ⟨missing, -⟩
  · obtain ⟨console, followed⟩ := followLink_eq resting link
    rw [followed]
    exact rests.object_serve spare (.follow link)
  · rw [Browser.followLink, missing]

theorem AtRest.object_respond (rests : AtRest report clicked page)
    (spare : page.ListenersSpareObject) {event : PageEvent} (spares : event.takesObject = false) :
    (page.respond Browser.serve event).2.object = page.object := by
  cases concerns : event.concernsSession with
  | false => exact (sameStanding_respond Browser.serve rests.claimed concerns).object_eq
  | true =>
      cases event with
      | call holder call =>
          rcases respond_call_cases Browser.serve page holder call with same | ⟨request, -, served⟩
          · rw [same]
          · rw [served]
            exact rests.object_serve spare request
      | click place =>
          rcases respond_click_cases Browser.serve page place with same | ⟨key, link, -, followed⟩
          · rw [same]
          · rw [followed]
            exact (rests.withClicked (some key)).object_followLink spare link
      | release => cases spares
      | setGlobal name function =>
          have other : name ≠ "DateTimeShortcuts" := beq_eq_false_iff_ne.mp spares
          rw [Browser.respond, Browser.setGlobal, if_neg other]
      | _ => cases concerns

theorem WhileHeld.after (held : WhileHeld booted page) : After booted page := by
  induction held with
  | now => exact .now
  | step _ _ _ unbroken ih => exact .step _ ih unbroken
  | waited start _ ih => exact .waited start ih

/-- As long as nothing takes the object, it is where the boot has put it. -/
theorem WhileHeld.object_eq (rests : AtRest report none booted) (held : WhileHeld booted page) :
    page.object = booted.object := by
  induction held with
  | now => rfl
  | @step page event before spares spare _ ih =>
      have cleared : AtRest report none { page with console := [], nested := [] } :=
        (rests.after before.after).congr ⟨rfl, rfl, rfl, rfl, rfl, rfl⟩
      exact (cleared.object_respond spare spares).trans ih
  | @waited page start before ih =>
      exact (sameStanding_bootPending (rests.after before.after).claimed start).object_eq.trans ih

/-! ### One click -/

section Click

variable {place key : Nat} {link : Element} {action : QuickLink}
  (found : page.links[place]? = some link) (acts : link.action = some action)
  (rests : AtRest report none page)

include found acts rests

theorem answer_click : (page.step (.click place)).1.answer = .truth true := by
  let cleared : Browser := { page with console := [], nested := [] }
  have responded : (page.step (.click place)).1.answer =
      (cleared.respond serve (.click place)).1 := rfl
  have foundNow : cleared.links[place]? = some link := found
  have idle : cleared.clicked = none := rests.clicked_eq
  rw [responded, respond, foundNow]
  simp only [click, acts, idle, reduceCtorEq, if_false]

theorem linkLives (only : ∀ other, page.slot = .resting other → other = session)
    (resolved : session.registry.resolve action.kind action.handle = .ok key) :
    LinkLives session page place link action key := by
  have resting (held : page.object.isSome) : page.slot = .resting session := by
    rcases rests.held with ⟨other, holder, restsAs, -⟩ | ⟨-, object⟩
    · rw [restsAs, only other restsAs]
    · rw [object] at held
      cases held
  have filled (held : page.object.isSome) (text : String) (text? : Session.requestText
      (⟨session, page⟩ : Running Browser Nat) key (.follow action) = .ok text) :
      (page.step (.click place)).2 =
        { ((page.clicking link).fulfilled key text (action.filled
          (Session.stepOf (⟨session, page⟩ : Running Browser Nat) key))).rest session with
            clicked := none } := by
    rw [step_click_of_resting (resting held) held rests.clicked_eq found acts resolved, text?]
  refine ⟨acts, answer_click found acts rests, filled, ?_, ?_, ?_, ?_⟩
  · intro held unheard text text?
    have unheardNow : (page.clicking link).Unheard key := unheard
    obtain ⟨console, fulfilledEq⟩ := fulfilled_eq unheardNow text
      (action.filled (Session.stepOf (⟨session, page⟩ : Running Browser Nat) key))
    rw [filled held text text?, fulfilledEq]
    exact ⟨rfl, rfl⟩
  · intro held fault spared text?
    rw [step_click_of_resting (resting held) held rests.clicked_eq found acts resolved, text?]
    exact if_neg spared
  · intro held text?
    rw [step_click_of_resting (resting held) held rests.clicked_eq found acts resolved, text?]
    exact ⟨rfl, rfl, rfl⟩
  · intro object
    rcases rests.held with ⟨other, holder, -, held⟩ | ⟨missing, -⟩
    · cases object.symm.trans held
    · exact step_click_of_missing missing place

end Click

/-! ### All links of a boot -/

variable {first : Browser} {settings : Settings} {links : Nat → List (Nat × Shortcut)}
  {notes : Nat → List (Nat × String × String)}

/-- Whatever link a boot has put into a document, it has put it after an input. -/
theorem Booted.exists_input (boots : Booted first booted settings links notes session)
    (keyed : first.Keyed) {inserted : Element} (member : inserted ∈ booted.links)
    (new : first.nextKey ≤ inserted.key) :
    ∃ input ∈ first.inputs, ∃ key shortcut, links input.key = [(key, shortcut)] ∧
      inserted = anchorOf key shortcut := by
  obtain ⟨inDocument, isAnchor⟩ := List.mem_filter.mp member
  have tagEq : inserted.tag = "a" := beq_iff_eq.mp isAnchor
  rw [boots.document_eq, Forest.mem_decorate] at inDocument
  rcases inDocument with original | ⟨host, original, beside | held⟩
  · exact absurd (keyed.lt (Forest.mem_keys original)) (Nat.not_lt_of_le new)
  · rw [elements_linkRow, List.mem_flatMap] at beside
    obtain ⟨⟨key, shortcut⟩, linked, isNew⟩ := beside
    have lengthEq := boots.length_links keyed original
    have filled := List.length_pos_of_mem linked
    split at lengthEq
    · next both =>
      obtain ⟨only, linksEq⟩ := List.length_eq_one_iff.mp lengthEq
      rw [linksEq, List.mem_singleton] at linked
      refine ⟨host, List.mem_filter.mpr ⟨original, both.1⟩, key, shortcut,
        linked ▸ linksEq, ?_⟩
      rcases List.mem_cons.mp isNew with isSpan | isLink
      · rw [isSpan] at tagEq
        exact absurd tagEq (by simp [spanOf])
      · exact List.mem_singleton.mp isLink
    · omega
  · rw [elements_noteRow, List.mem_map] at held
    obtain ⟨note, -, rfl⟩ := held
    exact absurd tagEq (by simp [noteOf])

/-- The links of a boot that succeeds do what they are for as long as somebody has the object
that it gave away, and nothing after that, whatever else happens on the page.  Any page that
was opened with a document is keyed and deals with no click, whatever has happened on it. -/
theorem links_live_with_object (keyed : first.Keyed) (idle : first.clicked = none)
    {start : StartSettings} {holder : Holder}
    (boots : first.boot start holder = (.ok report, booted)) :
    ∃ session, booted.slot = .resting session ∧ LinksLive first booted session := by
  obtain ⟨links, notes, session, done⟩ := boot_eq_ok keyed boots
  have rests := atRest_of_boot idle boots
  have descends := descends_boot keyed start holder
  rw [boots] at descends
  refine ⟨session, done.slot_eq, ?_, ?_,
    fun page later reached object => (rests.after reached).gone object⟩
  · intro inserted member new
    obtain ⟨input, isInput, key, shortcut, linksEq, insertedEq⟩ :=
      done.exists_input keyed member new
    have original := List.mem_of_mem_filter isInput
    obtain ⟨row, follows⟩ := exists_followed_decorate original (fun key => linkRow (links key))
      (fun key => noteRow (notes key)) .nil
    rw [Forest.append_nil, ← done.document_eq, linksEq, linkRow_cons, Forest.append_assoc]
      at follows
    refine ⟨input, isInput, key, shortcut, _, follows, insertedEq, ?_⟩
    intro page reached place link found sameKey
    have inDocument := List.mem_of_mem_filter member
    -- The link of a later page has the key of the inserted one, so it is that one.
    have acts : link.action = some shortcut.action := by
      have given : link.key < booted.nextKey := by
        rw [sameKey]
        exact descends.keyed.lt (Forest.mem_keys inDocument)
      have linkMember := List.mem_of_mem_filter (List.mem_of_getElem? found)
      obtain ⟨origin, originMember, same⟩ := List.mem_map.mp
        ((reached.descends descends.keyed).origin link linkMember given)
      have originKey : origin.key = link.key := (congrArg Element.key same :)
      have originAction : origin.action = link.action := (congrArg Element.action same :)
      obtain rfl := descends.keyed.eq_of_key originMember inDocument (originKey.trans sameKey)
      rw [← originAction, insertedEq, anchorOf]
    have resolved : session.registry.resolve shortcut.action.kind shortcut.action.handle =
        .ok input.key := by
      rw [Registry.resolve_eq_ok]
      exact done.resolves (by rw [linksEq]; exact List.mem_singleton_self (key, shortcut))
    refine linkLives found acts (rests.after reached) (fun other resting => ?_) resolved
    exact SessionSlot.resting.inj ((reached.slot_eq rests resting).symm.trans done.slot_eq)
  · intro page held
    rw [held.object_eq rests]
    exact done.object_isSome

/-- The agenda gets two links, which live as long as the object that its boot gives away. -/
theorem links_live_with_object_agenda :
    (agenda.boot {} .script).1 = .ok ⟨0, ⟨2, 1, 1, 0⟩⟩ ∧
      ((agenda.boot {} .script).2.links.countP fun link => agenda.nextKey ≤ link.key) = 2 ∧
      ∃ session, (agenda.boot {} .script).2.slot = .resting session ∧
        LinksLive agenda (agenda.boot {} .script).2 session := by
  have succeeds : (agenda.boot {} .script).1 = .ok ⟨0, ⟨2, 1, 1, 0⟩⟩ := by decide +kernel
  have boots : agenda.boot {} .script =
      (.ok ⟨0, ⟨2, 1, 1, 0⟩⟩, (agenda.boot {} .script).2) := Prod.ext succeeds rfl
  have keyed : agenda.Keyed := keyed_ofDocument agendaForm ⟨none, none⟩
  exact ⟨succeeds, by decide +kernel, links_live_with_object keyed rfl boots⟩

/-- A page that was booted for a holder, after one more event. -/
def agendaAfter (holder : Holder) (event : PageEvent) : Browser :=
  ((agenda.boot {} holder).2.step event).2

/-- What is seen when a click on a link does nothing. -/
def nothingDone : PageStep :=
  { answer := .truth true, active := none, values := ["", ""], console := [], nested := [] }

/-- The link of the day fills its input, but once the script lets go of its object, or the
window gets something else in its place, a click on the link is ignored, and no line of the
log tells of it, though warnings are shown. -/
theorem released_link_ignored :
    (agenda.boot {} .script).1 = .ok ⟨0, ⟨2, 1, 1, 0⟩⟩ ∧
      (agenda.boot {} .window).1 = .ok ⟨0, ⟨2, 1, 1, 0⟩⟩ ∧
      ((agendaAfter .script .blur).step (.click 0)).1.values = ["1970-01-01", ""] ∧
      ((agendaAfter .script .blur).step (.click 0)).1.active = some "day" ∧
      (agendaAfter .script .release).verbosity.admits .warn = true ∧
      ((agendaAfter .script .release).step (.click 0)).1 = nothingDone ∧
      (agendaAfter .window (.setGlobal "DateTimeShortcuts" none)).verbosity.admits .warn =
        true ∧
      ((agendaAfter .window (.setGlobal "DateTimeShortcuts" none)).step (.click 0)).1 =
        nothingDone := by
  decide +kernel

end Browser

end QuickFill
