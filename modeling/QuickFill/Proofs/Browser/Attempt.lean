import QuickFill.Proofs.Browser.Start

/-!
# Attempts to boot a page

An attempt gets past the guard of the page, if there is a window with a document and the
page was not claimed before, and then it starts a session.  An attempt that does not get
past the guard is over at once.
-/

namespace QuickFill

/-- An attempt to boot a page, as the page is then, for a holder of the object. -/
structure BootAttempt where
  page : Browser
  start : StartSettings
  holder : Holder

namespace BootAttempt

def outcome (attempt : BootAttempt) : Except ScriptFault BootReport × Browser :=
  attempt.page.boot attempt.start attempt.holder

/-- Whether the attempt gets past the guard and claims the page. -/
def passes (attempt : BootAttempt) : Bool :=
  (attempt.page.claim attempt.start.verbosity).1.isOk

/-- Who has which object after an attempt. -/
def objectAfter (before : Option (Holder × BootReport)) (attempt : BootAttempt) :
    Option (Holder × BootReport) :=
  match attempt.outcome.1 with
  | .ok report => some (attempt.holder, report)
  | .error _ => before

end BootAttempt

namespace Browser

variable {page : Browser}

/-! ### Starting a session -/

/-- What links and notes leave alone. -/
structure SparedBy (page changed : Browser) : Prop where
  guard_eq : changed.guard = page.guard
  pending_eq : changed.pending = page.pending
  object_eq : changed.object = page.object
  hasWindow_eq : changed.hasWindow = page.hasWindow
  hasDocument_eq : changed.hasDocument = page.hasDocument
  clicked_eq : changed.clicked = page.clicked

theorem SparedBy.trans {changed after : Browser} (first : SparedBy page changed)
    (second : SparedBy changed after) : SparedBy page after :=
  ⟨second.guard_eq.trans first.guard_eq, second.pending_eq.trans first.pending_eq,
    second.object_eq.trans first.object_eq, second.hasWindow_eq.trans first.hasWindow_eq,
    second.hasDocument_eq.trans first.hasDocument_eq, second.clicked_eq.trans first.clicked_eq⟩

theorem insertShortcut_spares {key : Nat} {shortcut : Shortcut} {changed : Browser}
    (inserted : page.insertShortcut key shortcut = .ok changed) : SparedBy page changed := by
  simp only [insertShortcut, bind, Except.bind, pure, Except.pure] at inserted
  split at inserted
  · cases inserted
  · split at inserted
    · cases inserted
    · obtain rfl := Except.ok.inj inserted
      exact ⟨rfl, rfl, rfl, rfl, rfl, rfl⟩

theorem appendNote_spares {key : Nat} {note : Note} {changed : Browser}
    (appended : page.appendNote key note = .ok changed) : SparedBy page changed := by
  simp only [appendNote, bind, Except.bind, pure, Except.pure] at appended
  split at appended
  · cases appended
  · split at appended
    · cases appended
    · split at appended
      · cases appended
      · obtain rfl := Except.ok.inj appended
        exact ⟨rfl, rfl, rfl, rfl, rfl, rfl⟩

theorem attachClosed_spares (page : Browser) :
    Session.AttachClosed fun running : Running Browser Nat => SparedBy page running.page where
  logged {running} event spares := by
    obtain ⟨console, loggedEq⟩ := log_eq running.page event
    have recorded : (running.logged event).page = running.page.log event := rfl
    rw [recorded, loggedEq]
    exact spares.trans ⟨rfl, rfl, rfl, rfl, rfl, rfl⟩
  begun spares := spares
  registered _ _ spares := spares
  linked spares inserted := spares.trans (insertShortcut_spares inserted)
  noted spares appended := spares.trans (appendNote_spares appended)

/-- A search leaves alone what links and notes do. -/
theorem final_start_spares (page : Browser) (settings : Settings) :
    SparedBy page (Session.final Session.start
      (Session.create page.bindLinks settings page.serverOffset?)).page := by
  have closed := attachClosed_spares page
  let session : Session Nat :=
    { settings := settings
      gap := ZoneGap.between page.reading.instant.offset page.serverOffset? }
  have fresh : SparedBy page (Running.mk session page.bindLinks).page :=
    ⟨rfl, rfl, rfl, rfl, rfl, rfl⟩
  have created : SparedBy page
      (Session.create page.bindLinks settings page.serverOffset? : Running Browser Nat).page :=
    closed.logged _ fresh
  exact closed.start _ created

/-- A session that starts gives the guard and the waiting boots back as they were, and its
object to the holder. -/
theorem startSession_spares (page : Browser) (settings : Settings) (holder : Holder) :
    (page.startSession settings holder).2.guard = page.guard ∧
      (page.startSession settings holder).2.pending = page.pending ∧
        (page.startSession settings holder).2.object =
          match (page.startSession settings holder).1 with
          | .ok report => some (holder, report)
          | .error _ => page.object := by
  have spares := final_start_spares page settings
  rw [Session.final] at spares
  rw [startSession]
  cases outcome : Session.start.run
      (Session.create page.bindLinks settings page.serverOffset?) with
  | ok report running =>
      rw [outcome] at spares
      exact ⟨spares.guard_eq, spares.pending_eq, rfl⟩
  | error fault running =>
      rw [outcome] at spares
      exact ⟨spares.guard_eq, spares.pending_eq, spares.object_eq⟩

/-! ### One attempt -/

theorem passes_iff (attempt : BootAttempt) :
    attempt.passes = true ↔ attempt.page.refusal? = none := by
  rw [BootAttempt.passes, claim_eq]
  cases attempt.page.refusal? <;> simp [Except.isOk, Except.toBool]

/-- An attempt that does not get past the guard changes nothing but the verbosity. -/
theorem outcome_of_not_passes {attempt : BootAttempt} (stopped : attempt.passes = false) :
    ∃ fault, attempt.outcome =
      (.error fault, { attempt.page with verbosity := attempt.start.verbosity }) := by
  cases refused : attempt.page.refusal? with
  | none => exact (Bool.eq_false_iff.mp stopped ((passes_iff attempt).mpr refused)).elim
  | some fault =>
      refine ⟨fault, ?_⟩
      rw [BootAttempt.outcome, boot_eq, refused]

theorem passes_of_outcome {attempt : BootAttempt} {report : BootReport}
    (succeeds : attempt.outcome.1 = .ok report) : attempt.passes = true := by
  cases passing : attempt.passes with
  | true => rfl
  | false =>
      obtain ⟨fault, outcomeEq⟩ := outcome_of_not_passes passing
      rw [outcomeEq] at succeeds
      cases succeeds

/-- A boot that fails for want of settings, of a window or of a document. -/
def isEarly : ScriptFault → Bool
  | .unreadableSettings | .noWindow | .noDocument => true
  | .busy | .failed _ => false

theorem outcome_of_early {attempt : BootAttempt} {fault : ScriptFault}
    (early : isEarly fault = true) (fails : attempt.outcome.1 = .error fault) :
    ∃ verbosity, attempt.outcome.2 = { attempt.page with verbosity := verbosity } := by
  rw [BootAttempt.outcome, boot_eq] at fails ⊢
  cases refused : attempt.page.refusal? with
  | some fault => exact ⟨attempt.start.verbosity, rfl⟩
  | none =>
      rw [refused] at fails
      simp only [startSession] at fails
      split at fails
      · cases fails
      · obtain rfl := Except.error.inj fails
        cases early

/-- What a listener of the window does: it attempts its boot, and shows a failure. -/
theorem bootPending_eq (page : Browser) (start : StartSettings) :
    ∃ console, page.bootPending start =
      (BootAttempt.mk page start .window).outcome.2.withConsole console := by
  rw [bootPending, BootAttempt.outcome]
  cases booted : page.boot start .window with
  | mk outcome after =>
      cases outcome with
      | ok report => exact ⟨after.console, rfl⟩
      | error fault => exact ⟨after.console ++ [.uncaught fault], rfl⟩

end Browser

end QuickFill
