import QuickFill.Proofs.Registry
import QuickFill.Session.Request
import QuickFill.Session.Start

/-!
# Running the operations of a session

An operation takes a session and its page to an answer or a fault, and to what they
are then.  This file says for each operation that puts something on a page what a
run of it amounts to.
-/

namespace QuickFill

variable {σ ι : Type}

namespace FieldKind

def linkKind : FieldKind → LinkKind
  | .date => .calendar
  | _ => .clock

def label : FieldKind → String
  | .date => "Today"
  | _ => "Now"

def action (kind : FieldKind) (settings : Settings) (handle : Nat) : QuickLink :=
  match kind with
  | .time => .clockNow handle settings.timeTemplate
  | .dateTime => .clockNow handle settings.dateTimeTemplate
  | .date => .calendarDay handle 0

end FieldKind

def Running.push (running : Running σ ι) (kind : LinkKind) (input : ι) : Running σ ι :=
  { running with
    session := { running.session with registry := running.session.registry.push input kind } }

def Running.withPage (running : Running σ ι) (page : σ) : Running σ ι :=
  { running with page := page }

def Running.logged [Environment σ] (running : Running σ ι) (event : LogEvent) : Running σ ι :=
  running.withPage (Environment.record event running.page)

namespace Session

@[simp]
theorem run_log [Environment σ] (event : LogEvent) (running : Running σ ι) :
    (log event : Action σ ι Unit).run running = .ok () (running.logged event) :=
  rfl

@[simp]
theorem run_change (alter : σ → Except PageFault σ) (running : Running σ ι) :
    (change alter : Action σ ι Unit).run running =
      match alter running.page with
      | .ok page => .ok () (running.withPage page)
      | .error cause => .error (.page cause) running :=
  rfl

theorem run_change_bind {α : Type} (alter : σ → Except PageFault σ)
    (next : Unit → Action σ ι α) (running : Running σ ι) :
    (change alter >>= next).run running =
      match alter running.page with
      | .ok page => (next ()).run (running.withPage page)
      | .error cause => .error (.page cause) running := by
  rw [EStateM.run_bind, run_change]
  cases alter running.page <;> rfl

@[simp]
theorem run_throw {α : Type} (fault : Fault) (running : Running σ ι) :
    (throw fault : Action σ ι α).run running = .error fault running :=
  rfl

@[simp]
theorem run_register [DecidableEq ι] (kind : LinkKind) (input : ι) (running : Running σ ι) :
    (register kind input).run running =
      if input ∈ running.session.registry.inputs kind then
        .error (.alreadyRegistered kind) running
      else
        .ok (running.session.registry.inputs kind).length (running.push kind input) := by
  by_cases known : input ∈ running.session.registry.inputs kind
  · simp [EStateM.run, register, Registry.register, known]
  · simp [EStateM.run, register, Registry.register, known, Running.push]

variable [Environment σ] [Attachable σ ι]

def shortcutOf (running : Running σ ι) (label : String) (action : QuickLink) : Shortcut :=
  { spanClass := running.session.settings.shortcutsClass
    label := (Environment.translator running.page).gettext label
    action := action }

/-- An input is registered first; a page that refuses the link does not undo that. -/
theorem run_attach [DecidableEq ι] (kind : LinkKind) (label : String) (action : Nat → QuickLink)
    (input : ι) (running : Running σ ι) :
    (attach kind label action input).run running =
      if input ∈ running.session.registry.inputs kind then
        .error (.alreadyRegistered kind) running
      else
        let handle := (running.session.registry.inputs kind).length
        match Attachable.insertShortcut running.page input
            (shortcutOf running label (action handle)) with
        | .error cause => .error (.page cause) (running.push kind input)
        | .ok page =>
          .ok handle (((running.push kind input).withPage page).logged
            (.linkAttached kind handle)) := by
  by_cases known : input ∈ running.session.registry.inputs kind
  · simp only [attach, EStateM.run_bind, run_register, if_pos known]
  · simp only [attach, ↓run_change_bind, EStateM.run_bind, run_register, if_neg known,
      EStateM.run_get]
    simp only [Running.push, shortcutOf]
    cases Attachable.insertShortcut running.page input _ <;> rfl

/-- What an attachment that succeeds has done. -/
theorem attach_eq_ok [DecidableEq ι] {kind : LinkKind} {label : String}
    {action : Nat → QuickLink} {input : ι} {running after : Running σ ι} {handle : Nat}
    (attached : (attach kind label action input).run running = .ok handle after) :
    input ∉ running.session.registry.inputs kind ∧
      handle = (running.session.registry.inputs kind).length ∧
        ∃ page, Attachable.insertShortcut running.page input
            (shortcutOf running label (action handle)) = .ok page ∧
          after = ((running.push kind input).withPage page).logged (.linkAttached kind handle) := by
  rw [run_attach] at attached
  split at attached
  · cases attached
  · next unknown =>
    simp only at attached
    split at attached
    · cases attached
    · next page inserted =>
      obtain ⟨rfl, rfl⟩ := EStateM.Result.ok.inj attached
      exact ⟨unknown, rfl, page, inserted, rfl⟩

/-- An attachment that fails for an input that is not registered has registered it. -/
theorem attach_eq_error [DecidableEq ι] {kind : LinkKind} {label : String}
    {action : Nat → QuickLink} {input : ι} {running after : Running σ ι} {fault : Fault}
    (failed : (attach kind label action input).run running = .error fault after) :
    input ∈ running.session.registry.inputs kind ∨
      (∃ cause, fault = .page cause) ∧ after = running.push kind input := by
  rw [run_attach] at failed
  split at failed
  · next known => exact Or.inl known
  · simp only at failed
    split at failed
    · next cause _ =>
      obtain ⟨rfl, rfl⟩ := EStateM.Result.error.inj failed
      exact Or.inr ⟨⟨cause, rfl⟩, rfl⟩
    · cases failed

/-- A note is put only where one is due. -/
theorem run_notify (input : ι) (running : Running σ ι) :
    (notify input).run running =
      match running.session.gap.noteText? (Environment.translator running.page) with
      | none => .ok false running
      | some text =>
        let settings := running.session.settings
        if Attachable.hasMarker running.page input settings.noteClass then
          .ok false (running.logged .noteSkipped)
        else
          match Attachable.appendNote running.page input
              ⟨[settings.helpClass, settings.noteClass], text⟩ with
          | .error cause => .error (.page cause) running
          | .ok page =>
            .ok true ((running.withPage page).logged
              (.noteAppended running.session.gap.wholeHours)) := by
  simp only [notify, EStateM.run_bind, EStateM.run_get]
  cases running.session.gap.noteText? (Environment.translator running.page) with
  | none => rfl
  | some text =>
      by_cases marked :
          Attachable.hasMarker running.page input running.session.settings.noteClass = true
      · simp only [if_pos marked]
        rfl
      · simp only [if_neg marked, EStateM.run_bind, run_change]
        cases Attachable.appendNote running.page input _ <;> rfl

/-- What a note that is not refused may have done. -/
theorem notify_eq_ok {input : ι} {running after : Running σ ι} {added : Bool}
    (notified : (notify input).run running = .ok added after) :
    added = false ∧ (after = running ∨ after = running.logged .noteSkipped) ∨
      added = true ∧ ∃ note page, Attachable.appendNote running.page input note = .ok page ∧
        after = (running.withPage page).logged
          (.noteAppended running.session.gap.wholeHours) := by
  rw [run_notify] at notified
  split at notified
  · obtain ⟨rfl, rfl⟩ := EStateM.Result.ok.inj notified
    exact Or.inl ⟨rfl, Or.inl rfl⟩
  · simp only at notified
    split at notified
    · obtain ⟨rfl, rfl⟩ := EStateM.Result.ok.inj notified
      exact Or.inl ⟨rfl, Or.inr rfl⟩
    · split at notified
      · cases notified
      · next page appended =>
        obtain ⟨rfl, rfl⟩ := EStateM.Result.ok.inj notified
        exact Or.inr ⟨rfl, _, page, appended, rfl⟩

theorem notify_eq_error {input : ι} {running after : Running σ ι} {fault : Fault}
    (failed : (notify input).run running = .error fault after) :
    (∃ cause, fault = .page cause) ∧ after = running := by
  rw [run_notify] at failed
  split at failed
  · cases failed
  · simp only at failed
    split at failed
    · cases failed
    · split at failed
      · next cause _ =>
        obtain ⟨rfl, rfl⟩ := EStateM.Result.error.inj failed
        exact ⟨⟨cause, rfl⟩, rfl⟩
      · cases failed

/-! ### Starting -/

def begun (running : Running σ ι) : Running σ ι :=
  Running.logged { running with session := { running.session with started := true } } .startBegun

def tally (report : StartReport) (kind : FieldKind) (added : Bool) : StartReport :=
  let counted := count { report with scanned := report.scanned + 1 } kind
  if added then { counted with notes := counted.notes + 1 } else counted

variable [DecidableEq ι]

/-- Every kind of fields gets its link in the same way. -/
theorem attachKind_eq (input : ι) (kind : FieldKind) (running : Running σ ι) :
    (attachKind input kind).run running =
      (attach kind.linkKind kind.label (kind.action running.session.settings) input).run
        running := by
  cases kind <;> rfl

/-- A field of no known kind is only counted; any other gets its link before its
note. -/
theorem run_startField (report : StartReport) (found : Field ι) (running : Running σ ι) :
    (startField report found).run running =
      match found.kind? running.session.settings with
      | none => .ok { report with scanned := report.scanned + 1 } running
      | some kind =>
        match (attach kind.linkKind kind.label (kind.action running.session.settings)
            found.input).run running with
        | .error fault attached => .error fault attached
        | .ok _ attached =>
          match (notify found.input).run attached with
          | .error fault noted => .error fault noted
          | .ok added noted => .ok (tally report kind added) noted := by
  simp only [startField, EStateM.run_bind, EStateM.run_get]
  cases found.kind? running.session.settings with
  | none => rfl
  | some kind =>
      simp only [EStateM.run_bind, attachKind_eq]
      cases (attach kind.linkKind kind.label (kind.action running.session.settings)
          found.input).run running with
      | error fault attached => rfl
      | ok handle attached =>
          simp only
          cases (notify found.input).run attached with
          | error fault noted => rfl
          | ok added noted => cases kind <;> cases added <;> rfl

/-- Only a session that was not started before searches its page. -/
theorem run_start (running : Running σ ι) :
    (start (σ := σ) (ι := ι)).run running =
      if running.session.started then
        .error .alreadyStarted (running.logged .startRefused)
      else
        match ((Attachable.fields (begun running).page).foldlM startField {}).run
            (begun running) with
        | .error fault searched => .error fault searched
        | .ok report searched => .ok report (searched.logged (.startDone report)) := by
  simp only [start, EStateM.run_bind, EStateM.run_get]
  by_cases started : running.session.started = true
  · simp only [if_pos started]
    rfl
  · simp only [if_neg started, EStateM.run_bind, EStateM.run_modify, EStateM.run_get, run_log]
    rw [← begun]
    cases ((Attachable.fields (begun running).page).foldlM startField {}).run
        (begun running) <;> rfl

end Session

end QuickFill
