import QuickFill.Proofs.Session.Filling

/-!
# What the operations of a session keep

An operation keeps a property of sessions when the property also holds of the state
that the operation ends in, be it with an answer or with a fault.  Longer operations
keep what their parts keep.
-/

namespace QuickFill

namespace Session

variable {σ ι α β : Type}

/-- The state in which an operation ends. -/
def final (action : Action σ ι α) (running : Running σ ι) : Running σ ι :=
  match action.run running with
  | .ok _ after => after
  | .error _ after => after

/-- Whatever the operation ends with, the property holds at the end if it held at the
start. -/
def Keeps (holds : Running σ ι → Prop) (action : Action σ ι α) : Prop :=
  ∀ running, holds running → holds (final action running)

variable {holds : Running σ ι → Prop} {action : Action σ ι α} {next : α → Action σ ι β}

theorem Keeps.pure (value : α) : Keeps holds (pure value : Action σ ι α) :=
  fun _ before => before

theorem Keeps.get : Keeps holds (get : Action σ ι (Running σ ι)) :=
  fun _ before => before

theorem Keeps.throw (fault : Fault) : Keeps holds (throw fault : Action σ ι α) :=
  fun _ before => before

theorem Keeps.bind (first : Keeps holds action) (second : ∀ value, Keeps holds (next value)) :
    Keeps holds (action >>= next) := by
  intro running before
  have middle := first running before
  rw [final] at middle ⊢
  rw [EStateM.run_bind]
  cases outcome : action.run running with
  | error fault after => simpa only [outcome] using middle
  | ok value after =>
      rw [outcome] at middle
      exact second value after middle

theorem Keeps.foldlM {δ : Type} {step : β → δ → Action σ ι β} {items : List δ}
    (each : ∀ total, ∀ item ∈ items, Keeps holds (step total item)) (start : β) :
    Keeps holds (items.foldlM step start) := by
  induction items generalizing start with
  | nil => exact Keeps.pure start
  | cons item rest ih =>
      rw [List.foldlM_cons]
      apply Keeps.bind (each start item (by simp))
      intro total
      exact ih (fun next other member => each next other (by simp [member])) total

theorem Keeps.change {alter : σ → Except PageFault σ}
    (changed : ∀ running page, holds running → alter running.page = .ok page →
      holds (running.withPage page)) : Keeps holds (change alter) := by
  intro running before
  rw [final, run_change]
  cases outcome : alter running.page with
  | ok page => exact changed running page before outcome
  | error cause => exact before

theorem Keeps.yields [Environment σ] [Fillable σ ι] (outcome : Except Fault α) :
    Keeps holds (yields outcome : Action σ ι α) := by
  intro running before
  rw [final, run_yields]
  cases outcome <;> exact before

variable [Environment σ]

theorem Keeps.log {event : LogEvent}
    (logged : ∀ running, holds running → holds (running.logged event)) :
    Keeps holds (log event) :=
  logged

/-- What holds whatever is written, focused, hidden and logged. -/
structure FillClosed [Fillable σ ι] (holds : Running σ ι → Prop) : Prop where
  logged : ∀ {running : Running σ ι} (event : LogEvent),
    holds running → holds (running.logged event)
  written : ∀ {running : Running σ ι} {input : ι} {text : String} {page : σ},
    holds running → Fillable.write running.page input text = .ok page →
      holds (running.withPage page)
  focused : ∀ {running : Running σ ι} {input : ι} {page : σ},
    holds running → Fillable.focus running.page input = .ok page →
      holds (running.withPage page)
  hidden : ∀ {running : Running σ ι} {id : String} {page : σ},
    holds running → Fillable.hide (ι := ι) running.page id = .ok page →
      holds (running.withPage page)

section Fill

variable [Fillable σ ι]

theorem FillClosed.resolve (closed : FillClosed holds) (kind : LinkKind) (handle : Nat) :
    Keeps holds (resolve kind handle) := by
  intro running before
  rw [final, run_resolve]
  cases running.session.registry.resolve kind handle with
  | ok input => exact before
  | error fault => exact closed.logged _ before

/-- What is kept by hiding and logging is kept by the end of a request. -/
theorem Keeps.requestEnd
    (logged : ∀ {running : Running σ ι} (event : LogEvent),
      holds running → holds (running.logged event))
    (hidden : ∀ {running : Running σ ι} {id : String} {page : σ}, holds running →
      Fillable.hide (ι := ι) running.page id = .ok page → holds (running.withPage page))
    (found : Running σ ι) (input : ι) (request : SessionRequest) :
    Keeps holds (Session.requestEnd found input request) := by
  have logs (event : LogEvent) : Keeps holds (Session.log event) :=
    Keeps.log fun _ before => logged event before
  cases request with
  | clock handle value template => exact logs _
  | today handle days => exact logs _
  | pick handle year month day =>
      exact Keeps.bind (Keeps.change fun _ _ => hidden) fun _ => logs _
  | boxId handle => exact Keeps.pure ()
  | follow link => cases link <;> exact logs _

/-- Serving a request keeps what holds whatever is written, focused, hidden and
logged. -/
theorem FillClosed.serve (closed : FillClosed holds) (request : SessionRequest) :
    Keeps holds (serve request) := by
  cases target : request.target? with
  | none =>
      cases request <;> cases target
      exact fun _ before => before
  | some found =>
      obtain ⟨kind, handle⟩ := found
      intro running before
      rw [final, run_serve target]
      have kept : Keeps holds (fillInput kind handle request) := by
        refine Keeps.bind (closed.resolve kind handle) fun input => ?_
        refine Keeps.bind Keeps.get fun found => ?_
        refine Keeps.bind (Keeps.yields _) fun text => ?_
        refine Keeps.bind (Keeps.bind (Keeps.change fun _ _ => closed.written) fun _ =>
          Keeps.change fun _ _ => closed.focused) fun _ => ?_
        exact Keeps.bind (Keeps.requestEnd closed.logged closed.hidden found input request)
          fun _ => Keeps.pure text
      exact kept running before

end Fill

section Attach

def Names (kind : LinkKind) (action : Nat → QuickLink) : Prop :=
  ∀ handle, (action handle).kind = kind ∧ (action handle).handle = handle

theorem names_action (kind : FieldKind) (settings : Settings) :
    Names kind.linkKind (kind.action settings) := by
  intro handle
  cases kind <;> exact ⟨rfl, rfl⟩

variable [Attachable σ ι] [DecidableEq ι]

/-- What every attachment, every note and every line of the log keeps, a start keeps. -/
theorem Keeps.start (logged : ∀ (running : Running σ ι) (event : LogEvent),
      holds running → holds (running.logged event))
    (started : ∀ running : Running σ ι, holds running →
      holds { running with session := { running.session with started := true } })
    (attached : ∀ {kind : LinkKind} {action : Nat → QuickLink} (label : String) (input : ι),
      Names kind action → Keeps holds (attach kind label action input))
    (notified : ∀ input, Keeps holds (notify input)) : Keeps holds start := by
  have field (report : StartReport) (found : Field ι) : Keeps holds (startField report found) := by
    intro running before
    rw [final, run_startField]
    cases found.kind? running.session.settings with
    | none => exact before
    | some kind =>
        have linked := attached kind.label found.input
          (names_action kind running.session.settings) running before
        rw [final] at linked
        simp only
        cases outcome : (attach kind.linkKind kind.label
            (kind.action running.session.settings) found.input).run running with
        | error fault after => simpa only [outcome] using linked
        | ok handle after =>
            rw [outcome] at linked
            have noted := notified found.input after linked
            rw [final] at noted
            simp only
            cases second : (notify found.input).run after <;> simpa only [second] using noted
  intro running before
  rw [final, run_start]
  by_cases already : running.session.started = true
  · rw [if_pos already]
    exact logged _ _ before
  · rw [if_neg already]
    have begins : holds (begun running) := logged _ _ (started running before)
    have kept : Keeps holds ((Attachable.fields (begun running).page).foldlM startField {}) :=
      Keeps.foldlM (fun total item _ => field total item) {}
    have searched := kept (begun running) begins
    rw [final] at searched
    cases outcome : ((Attachable.fields (begun running).page).foldlM startField {}).run
        (begun running) with
    | error fault after => simpa only [outcome] using searched
    | ok report after =>
        rw [outcome] at searched
        exact logged _ _ searched

/-- What holds whatever is registered, linked, noted and logged. -/
structure AttachClosed (holds : Running σ ι → Prop) : Prop where
  logged : ∀ {running : Running σ ι} (event : LogEvent),
    holds running → holds (running.logged event)
  begun : ∀ {running : Running σ ι}, holds running →
    holds { running with session := { running.session with started := true } }
  registered : ∀ {running : Running σ ι} (kind : LinkKind) (input : ι),
    holds running → holds (running.push kind input)
  linked : ∀ {running : Running σ ι} {input : ι} {shortcut : Shortcut} {page : σ},
    holds running → Attachable.insertShortcut running.page input shortcut = .ok page →
      holds (running.withPage page)
  noted : ∀ {running : Running σ ι} {input : ι} {note : Note} {page : σ},
    holds running → Attachable.appendNote running.page input note = .ok page →
      holds (running.withPage page)

theorem AttachClosed.attach (closed : AttachClosed holds) (kind : LinkKind) (label : String)
    (action : Nat → QuickLink) (input : ι) : Keeps holds (attach kind label action input) := by
  intro running before
  rw [final, run_attach]
  by_cases known : input ∈ running.session.registry.inputs kind
  · rw [if_pos known]
    exact before
  · rw [if_neg known]
    have pushed := closed.registered kind input before
    simp only
    cases inserted : Attachable.insertShortcut running.page input
        (shortcutOf running label (action (running.session.registry.inputs kind).length)) with
    | error cause => exact pushed
    | ok page => exact closed.logged _ (closed.linked pushed inserted)

omit [DecidableEq ι] in
theorem AttachClosed.notify (closed : AttachClosed holds) (input : ι) :
    Keeps holds (notify input) := by
  intro running before
  rw [final, run_notify]
  cases running.session.gap.noteText? (Environment.translator running.page) with
  | none => exact before
  | some text =>
      simp only
      by_cases marked :
          Attachable.hasMarker running.page input running.session.settings.noteClass = true
      · rw [if_pos marked]
        exact closed.logged _ before
      · rw [if_neg marked]
        cases appended : Attachable.appendNote running.page input
            ⟨[running.session.settings.helpClass, running.session.settings.noteClass], text⟩ with
        | error cause => exact before
        | ok page => exact closed.logged _ (closed.noted before appended)

theorem AttachClosed.start (closed : AttachClosed holds) : Keeps holds start :=
  Keeps.start (fun _ event => closed.logged event) (fun _ => closed.begun)
    (fun label input _ => closed.attach _ label _ input) closed.notify

end Attach

end Session

end QuickFill
