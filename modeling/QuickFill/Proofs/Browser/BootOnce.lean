import QuickFill.Browser.Perform
import QuickFill.Proofs.Browser.Attempt
import QuickFill.Proofs.Browser.Links

/-!
# Booting once

Scripts boot a page or have it booted later, in any order and as often as they like,
while the window is loaded, and comes and goes with its document.  Each boot is attempted on
the page as it is at that moment.  One attempt at most gets past the guard of the page;
every other one leaves the page as it was.
-/

namespace QuickFill

/-- What bears on the booting of a page. -/
inductive BootEvent where
  | boot (choices : Option Json)
  | install (choices : Option Json)
  | load
  | setReadyState (state : Option String)
  | setWindow (present : Bool)
  | setDocument (present : Bool)

namespace Browser

/-- What becomes of settings that a script installs. -/
inductive Installing where
  | refused (fault : ScriptFault)
  | now (start : StartSettings)
  | onLoad (start : StartSettings)

def installing (page : Browser) (choices : Option Json) : Installing :=
  if page.guard.claimed then .refused (.failed .alreadyStarted)
  else
    match StartSettings.ofChoices choices with
    | .error fault => .refused fault
    | .ok start =>
      if page.hasWindow then
        match BootTiming.ofReadyState page.readyState? with
        | .immediate => .now start
        | .onLoad => .onLoad start
      else .refused .noWindow

/-- Meet an event that bears on the booting of a page. -/
def meet (page : Browser) : BootEvent → PageAnswer × Browser
  | .boot choices => page.perform (.boot choices)
  | .install choices => page.perform (.install choices)
  | .load => page.perform .load
  | .setReadyState state => page.perform (.setReadyState state)
  | .setWindow present => (.done, { page with hasWindow := present })
  | .setDocument present => (.done, { page with hasDocument := present })

/-- The attempts that boots make which waited, one after the other. -/
def pendingAttempts : Browser → List StartSettings → List BootAttempt
  | _, [] => []
  | page, start :: rest => ⟨page, start, .window⟩ :: pendingAttempts (page.bootPending start) rest

/-- The attempts to boot a page that an event gives rise to. -/
def attempts (page : Browser) : BootEvent → List BootAttempt
  | .boot choices =>
    match StartSettings.ofChoices choices with
    | .ok start => [⟨page, start, .script⟩]
    | .error _ => []
  | .install choices =>
    match page.installing choices with
    | .now start => [⟨page, start, .window⟩]
    | _ => []
  | .load => { page with pending := [] }.pendingAttempts page.pending
  | _ => []

/-- The settings that an event leaves to a listener of the window. -/
def deferred (page : Browser) : BootEvent → List StartSettings
  | .install choices =>
    match page.installing choices with
    | .onLoad start => [start]
    | _ => []
  | _ => []

/-- The settings with which listeners of the window attempt a boot at an event. -/
def listened (page : Browser) : BootEvent → List StartSettings
  | .load => (page.attempts .load).map BootAttempt.start
  | _ => []

/-- A page after some events. -/
def meetAll (page : Browser) (events : List BootEvent) : Browser :=
  events.foldl (fun page event => (page.meet event).2) page

/-- What happens at each event, all in a row. -/
def along {α : Type} (page : Browser) (seen : Browser → BootEvent → List α) :
    List BootEvent → List α
  | [] => []
  | event :: rest => seen page event ++ (page.meet event).2.along seen rest

/-- The page but for what may change while no boot gets past the guard. -/
def steady (page : Browser) : Browser :=
  { page with
    verbosity := .off, console := [], pending := [], readyState := none
    hasWindow := true, hasDocument := true }

variable {page : Browser}

/-! ### What comes of attempts -/

/-- What comes of a page by some attempts to boot it, while some settings were left to
listeners of the window, and listeners made attempts with some settings. -/
structure Met (page : Browser) (attempts : List BootAttempt)
    (deferred listened : List StartSettings) (after : Browser) : Prop where
  claimed_eq : after.guard.claimed.toNat =
    page.guard.claimed.toNat + attempts.countP BootAttempt.passes
  object_eq : after.object = attempts.foldl BootAttempt.objectAfter page.object
  pending_eq : page.pending ++ deferred = listened ++ after.pending
  steady_eq : (∀ attempt ∈ attempts, attempt.passes = false) → after.steady = page.steady

variable {attempts others : List BootAttempt}
  {deferred moreDeferred listened moreListened : List StartSettings} {middle after : Browser}

theorem Met.refl (page : Browser) : Met page [] [] [] page :=
  ⟨rfl, rfl, List.append_nil _, fun _ => rfl⟩

theorem Met.trans (first : Met page attempts deferred listened middle)
    (second : Met middle others moreDeferred moreListened after) :
    Met page (attempts ++ others) (deferred ++ moreDeferred) (listened ++ moreListened) after where
  claimed_eq := by rw [second.claimed_eq, first.claimed_eq, List.countP_append, Nat.add_assoc]
  object_eq := by rw [second.object_eq, first.object_eq, List.foldl_append]
  pending_eq := by
    rw [← List.append_assoc, first.pending_eq, List.append_assoc, second.pending_eq,
      List.append_assoc]
  steady_eq stopped := by
    rw [List.forall_mem_append] at stopped
    rw [second.steady_eq stopped.2, first.steady_eq stopped.1]

/-- One attempt. -/
theorem met_outcome (attempt : BootAttempt) :
    Met attempt.page [attempt] [] [] attempt.outcome.2 := by
  cases passing : attempt.passes with
  | false =>
      obtain ⟨fault, outcomeEq⟩ := outcome_of_not_passes passing
      rw [outcomeEq]
      refine ⟨?_, ?_, List.append_nil _, fun _ => rfl⟩
      · rw [List.countP_singleton, passing]
        rfl
      · rw [List.foldl_cons, List.foldl_nil, BootAttempt.objectAfter, outcomeEq]
  | true =>
      have ready := (passes_iff attempt).mp passing
      let claimed : Browser :=
        { attempt.page with verbosity := attempt.start.verbosity, guard := ⟨true⟩ }
      have started := startSession_spares claimed attempt.start.settings attempt.holder
      have outcomeEq : attempt.outcome =
          claimed.startSession attempt.start.settings attempt.holder := by
        rw [BootAttempt.outcome, boot_eq, ready]
      rw [← outcomeEq] at started
      refine ⟨?_, started.2.2, ?_, ?_⟩
      · rw [started.1, (refusal?_eq_none.mp ready).2.2, List.countP_singleton, passing]
        rfl
      · rw [started.2.1, List.append_nil]
        rfl
      · intro stopped
        exact (Bool.false_ne_true ((stopped attempt (by simp)).symm.trans passing)).elim

theorem Met.withConsole (met : Met page attempts deferred listened after)
    (console : List ConsoleLine) :
    Met page attempts deferred listened (after.withConsole console) :=
  ⟨met.claimed_eq, met.object_eq, met.pending_eq, met.steady_eq⟩

/-! ### One event -/

theorem install_eq (page : Browser) (choices : Option Json) :
    page.install choices =
      match page.installing choices with
      | .refused fault => (.error fault, page)
      | .now start =>
        let outcome := (BootAttempt.mk page start .window).outcome
        (outcome.1.map fun _ => (), outcome.2)
      | .onLoad start => (.ok (), { page with pending := page.pending ++ [start] }) := by
  rw [install, installing]
  by_cases claimed : page.guard.claimed = true
  · rw [if_pos claimed, if_pos claimed]
  · rw [if_neg claimed, if_neg claimed]
    cases StartSettings.ofChoices choices with
    | error fault => rfl
    | ok start =>
        simp only
        by_cases windowed : page.hasWindow = true
        · rw [if_pos windowed, if_pos windowed]
          cases BootTiming.ofReadyState page.readyState? <;> rfl
        · rw [if_neg windowed, if_neg windowed]

/-- The listeners of the window attempt their boots one after the other. -/
theorem met_foldl (starts : List StartSettings) (page : Browser) :
    Met page (page.pendingAttempts starts) [] [] (starts.foldl bootPending page) := by
  induction starts generalizing page with
  | nil => exact Met.refl page
  | cons start rest ih =>
      obtain ⟨console, bootedEq⟩ := bootPending_eq page start
      have first := (met_outcome ⟨page, start, .window⟩).withConsole console
      rw [← bootedEq] at first
      exact first.trans (ih (page.bootPending start))

theorem map_start_pendingAttempts (starts : List StartSettings) (page : Browser) :
    (page.pendingAttempts starts).map BootAttempt.start = starts := by
  induction starts generalizing page with
  | nil => rfl
  | cons start rest ih => rw [pendingAttempts, List.map_cons, ih]

theorem met_load (page : Browser) :
    Met page (page.attempts .load) [] (page.listened .load) page.load := by
  have met := met_foldl page.pending { page with pending := [] }
  have noneLeft : ([] : List StartSettings) = page.load.pending := met.pending_eq
  have listenedEq : page.listened .load = page.pending := map_start_pendingAttempts _ _
  refine ⟨met.claimed_eq, met.object_eq, ?_, met.steady_eq⟩
  rw [listenedEq, ← noneLeft]

/-- What comes of one event. -/
theorem met_meet (page : Browser) (event : BootEvent) :
    Met page (page.attempts event) (page.deferred event) (page.listened event)
      (page.meet event).2 := by
  cases event with
  | load => exact met_load page
  | setReadyState state => exact ⟨rfl, rfl, List.append_nil _, fun _ => rfl⟩
  | setWindow present => exact ⟨rfl, rfl, List.append_nil _, fun _ => rfl⟩
  | setDocument present => exact ⟨rfl, rfl, List.append_nil _, fun _ => rfl⟩
  | boot choices =>
      have booted : page.meet (.boot choices) = page.bootScript choices := rfl
      have nothingDeferred : page.deferred (.boot choices) = [] := rfl
      rw [booted, nothingDeferred, bootScript]
      simp only [Browser.attempts]
      cases StartSettings.ofChoices choices with
      | error fault => exact Met.refl page
      | ok start => exact met_outcome ⟨page, start, .script⟩
  | install choices =>
      have installed : (page.meet (.install choices)).2 = (page.install choices).2 := rfl
      rw [installed, install_eq]
      simp only [Browser.attempts, Browser.deferred]
      cases page.installing choices with
      | refused fault => exact Met.refl page
      | now start => exact met_outcome ⟨page, start, .window⟩
      | onLoad start => exact ⟨rfl, rfl, rfl, fun _ => rfl⟩

/-! ### A row of events -/

theorem met_meetAll (page : Browser) (events : List BootEvent) :
    Met page (page.along Browser.attempts events) (page.along Browser.deferred events)
      (page.along Browser.listened events) (page.meetAll events) := by
  induction events generalizing page with
  | nil => exact Met.refl page
  | cons event rest ih => exact (met_meet page event).trans (ih (page.meet event).2)

/-! ### The one boot -/

/-- No attempt passes on a page that was claimed before or is not claimed after. -/
theorem Met.stopped (met : Met page attempts deferred listened after)
    (kept : page.guard.claimed = true ∨ after.guard.claimed = false) :
    ∀ attempt ∈ attempts, attempt.passes = false := by
  have counted := met.claimed_eq
  have bound := Bool.toNat_le after.guard.claimed
  have nonePasses : attempts.countP BootAttempt.passes = 0 := by
    rcases kept with claimed | unclaimed
    · rw [claimed, Bool.toNat_true] at counted
      omega
    · rw [unclaimed, Bool.toNat_false] at counted
      omega
  intro attempt member
  exact Bool.eq_false_iff.mpr (List.countP_eq_zero.mp nonePasses attempt member)

theorem foldl_objectAfter_of_stopped {before : Option (Holder × BootReport)}
    (stopped : ∀ attempt ∈ attempts, attempt.passes = false) :
    attempts.foldl BootAttempt.objectAfter before = before := by
  induction attempts with
  | nil => rfl
  | cons attempt rest ih =>
      rw [List.forall_mem_cons] at stopped
      obtain ⟨fault, outcomeEq⟩ := outcome_of_not_passes stopped.1
      rw [List.foldl_cons, BootAttempt.objectAfter, outcomeEq]
      exact ih stopped.2

/-- The object is that of the attempt that succeeds, of which there is one at most. -/
theorem foldl_objectAfter_eq_some (once : attempts.countP BootAttempt.passes ≤ 1)
    {holder : Holder} {report : BootReport} :
    attempts.foldl BootAttempt.objectAfter none = some (holder, report) ↔
      ∃ attempt ∈ attempts, attempt.holder = holder ∧ attempt.outcome.1 = .ok report := by
  induction attempts with
  | nil => simp
  | cons attempt rest ih =>
      rw [List.foldl_cons, List.exists_mem_cons_iff]
      cases passing : attempt.passes with
      | false =>
          obtain ⟨fault, outcomeEq⟩ := outcome_of_not_passes passing
          rw [List.countP_cons_of_neg (by simp [passing])] at once
          rw [BootAttempt.objectAfter, outcomeEq, ih once]
          simp
      | true =>
          rw [List.countP_cons_of_pos passing] at once
          have noneOther : rest.countP BootAttempt.passes = 0 := by omega
          have stopped (other : BootAttempt) (member : other ∈ rest) : other.passes = false :=
            Bool.eq_false_iff.mpr (List.countP_eq_zero.mp noneOther other member)
          have noOther : ¬ ∃ other ∈ rest, other.holder = holder ∧
              other.outcome.1 = .ok report := by
            rintro ⟨other, member, -, succeeds⟩
            exact Bool.false_ne_true ((stopped other member).symm.trans
              (passes_of_outcome succeeds))
          rw [foldl_objectAfter_of_stopped stopped, or_iff_left noOther, BootAttempt.objectAfter]
          cases attempt.outcome.1 <;> simp

theorem objectOf?_eq_some {holder : Holder} {report : BootReport} :
    page.objectOf? holder = some report ↔ page.object = some (holder, report) := by
  rw [objectOf?]
  cases page.object with
  | none => simp
  | some object =>
      obtain ⟨owner, found⟩ := object
      by_cases same : owner = holder <;> simp [same]

/-- Listeners whose boots fail change nothing but the verbosity and the console. -/
theorem foldl_bootPending_of_stopped {starts : List StartSettings} {page : Browser}
    (stopped : ∀ attempt ∈ page.pendingAttempts starts, attempt.passes = false) :
    ∃ verbosity console, starts.foldl bootPending page =
      { page with verbosity := verbosity, console := console } := by
  induction starts generalizing page with
  | nil => exact ⟨page.verbosity, page.console, rfl⟩
  | cons start rest ih =>
      rw [pendingAttempts, List.forall_mem_cons] at stopped
      obtain ⟨fault, outcomeEq⟩ := outcome_of_not_passes stopped.1
      obtain ⟨lines, bootedEq⟩ := bootPending_eq page start
      obtain ⟨verbosity, console, restEq⟩ := ih stopped.2
      refine ⟨verbosity, console, ?_⟩
      rw [List.foldl_cons, restEq, bootedEq, outcomeEq]
      rfl

theorem not_passes_of_claimed {attempt : BootAttempt}
    (claimed : attempt.page.guard.claimed = true) : attempt.passes = false :=
  (met_outcome attempt).stopped (Or.inl claimed) attempt (List.mem_singleton_self attempt)

theorem claimed_of_passes {attempt : BootAttempt} (passing : attempt.passes = true) :
    attempt.outcome.2.guard.claimed = true := by
  have counted := (met_outcome attempt).claimed_eq
  rw [List.countP_singleton, passing] at counted
  cases claimed : attempt.outcome.2.guard.claimed with
  | true => rfl
  | false =>
      rw [claimed] at counted
      simp at counted

/-- A page that nobody has claimed or waits to boot, and whose object nobody has. -/
structure Unbooted (page : Browser) : Prop where
  unclaimed : page.guard.claimed = false
  nobody_waits : page.pending = []
  no_object : page.object = none

/-- What a row of events that bear on booting comes to on a page; `last` is the page after
them. -/
structure BootsOnce (page : Browser) (events : List BootEvent) (last : Browser) : Prop where
  /-- One attempt at most gets past the guard. -/
  passes_once : (page.along Browser.attempts events).countP BootAttempt.passes ≤ 1
  /-- No other attempt looks at the document. -/
  stopped : ∀ attempt ∈ page.along Browser.attempts events, attempt.passes = false →
    ∃ fault, attempt.outcome =
      (.error fault, { attempt.page with verbosity := attempt.start.verbosity })
  /-- What fails before the guard changes nothing but the verbosity. -/
  early : ∀ event fault, isEarly fault = true → (last.meet event).1 = .exception fault →
    ∃ verbosity, (last.meet event).2 = { last with verbosity := verbosity }
  /-- As long as the page is not claimed, it is as it was and can be booted. -/
  untouched : last.guard.claimed = false → last.steady = page.steady
  ready : last.guard.claimed = false → last.hasWindow = true → last.hasDocument = true →
    ∀ choices start, StartSettings.ofChoices choices = .ok start →
      (last.meet (.boot choices)).2.guard.claimed = true ∧
        (last.readyState = some "complete" →
          (last.meet (.install choices)).2.guard.claimed = true)
  waiting : last.guard.claimed = false → last.hasWindow = true → last.hasDocument = true →
    last.pending ≠ [] → (last.meet .load).2.guard.claimed = true
  /-- Once the page is claimed, boots, installations and listeners fail. -/
  boot_refused : last.guard.claimed = true → ∀ choices, ∃ fault verbosity,
    last.meet (.boot choices) = (.exception fault, { last with verbosity := verbosity })
  install_refused : last.guard.claimed = true → ∀ choices,
    last.meet (.install choices) = (.exception (.failed .alreadyStarted), last)
  load_refused : last.guard.claimed = true →
    (∀ attempt ∈ last.attempts .load, ∃ fault, attempt.outcome.1 = .error fault) ∧
      ∃ verbosity console, (last.meet .load).2 =
        { last with verbosity := verbosity, console := console, pending := [] }
  later : last.guard.claimed = true → ∀ more, (last.meetAll more).steady = last.steady
  /-- Every listener attempted its boot once, or still waits to. -/
  listened_once : page.along Browser.deferred events =
    page.along Browser.listened events ++ last.pending
  /-- The window has the object of the attempt that passed, if it was made for the window. -/
  published_iff : ∀ report, last.objectOf? .window = some report ↔
    ∃ attempt ∈ page.along Browser.attempts events, attempt.passes = true ∧
      attempt.holder = .window ∧ attempt.outcome.1 = .ok report

theorem early_meet {event : BootEvent} {fault : ScriptFault} (early : isEarly fault = true)
    (fails : (page.meet event).1 = .exception fault) :
    ∃ verbosity, (page.meet event).2 = { page with verbosity := verbosity } := by
  cases event with
  | load => cases fails
  | setReadyState state => cases fails
  | setWindow present => cases fails
  | setDocument present => cases fails
  | boot choices =>
      have booted : page.meet (.boot choices) = page.bootScript choices := rfl
      rw [booted, bootScript] at fails ⊢
      cases chosen : StartSettings.ofChoices choices with
      | error other => exact ⟨page.verbosity, rfl⟩
      | ok start =>
          rw [chosen] at fails
          have outcomeEq : page.boot start .script =
              (BootAttempt.mk page start .script).outcome := rfl
          simp only [outcomeEq] at fails ⊢
          cases outcome : (BootAttempt.mk page start .script).outcome.1 with
          | ok report =>
              rw [outcome] at fails
              cases fails
          | error other =>
              rw [outcome] at fails
              obtain rfl := PageAnswer.exception.inj fails
              exact outcome_of_early early outcome
  | install choices =>
      have installed : page.meet (.install choices) =
          (answerOf (fun _ => .done) (page.install choices).1, (page.install choices).2) := rfl
      rw [installed, install_eq] at fails ⊢
      cases installing : page.installing choices with
      | refused other => exact ⟨page.verbosity, rfl⟩
      | onLoad start =>
          rw [installing] at fails
          cases fails
      | now start =>
          rw [installing] at fails
          simp only at fails ⊢
          cases outcome : (BootAttempt.mk page start .window).outcome.1 with
          | ok report =>
              rw [outcome] at fails
              cases fails
          | error other =>
              rw [outcome] at fails
              obtain rfl := PageAnswer.exception.inj fails
              exact outcome_of_early early outcome

theorem boot_of_claimed (claimed : page.guard.claimed = true) (choices : Option Json) :
    ∃ fault verbosity, page.meet (.boot choices) =
      (.exception fault, { page with verbosity := verbosity }) := by
  have booted : page.meet (.boot choices) = page.bootScript choices := rfl
  rw [booted, bootScript]
  cases StartSettings.ofChoices choices with
  | error fault => exact ⟨fault, page.verbosity, rfl⟩
  | ok start =>
      let attempt : BootAttempt := ⟨page, start, .script⟩
      have stopped : attempt.passes = false := not_passes_of_claimed claimed
      obtain ⟨fault, outcomeEq⟩ := outcome_of_not_passes stopped
      have bootEq : page.boot start .script = attempt.outcome := rfl
      simp only [bootEq, outcomeEq]
      exact ⟨fault, start.verbosity, rfl⟩

theorem install_of_claimed (claimed : page.guard.claimed = true) (choices : Option Json) :
    page.meet (.install choices) = (.exception (.failed .alreadyStarted), page) := by
  have installed : page.meet (.install choices) =
      (answerOf (fun _ => .done) (page.install choices).1, (page.install choices).2) := rfl
  rw [installed, install_eq, installing, if_pos claimed]
  rfl

theorem load_of_claimed (claimed : page.guard.claimed = true) :
    (∀ attempt ∈ page.attempts .load, ∃ fault, attempt.outcome.1 = .error fault) ∧
      ∃ verbosity console, (page.meet .load).2 =
        { page with verbosity := verbosity, console := console, pending := [] } := by
  have stopped := (met_load page).stopped (Or.inl claimed)
  constructor
  · intro attempt member
    obtain ⟨fault, outcomeEq⟩ := outcome_of_not_passes (stopped attempt member)
    exact ⟨fault, by rw [outcomeEq]⟩
  · exact foldl_bootPending_of_stopped stopped

/-- A page that is not claimed can be booted and, once it is loaded, installed on. -/
theorem claimed_of_ready (unclaimed : page.guard.claimed = false)
    (windowed : page.hasWindow = true) (documented : page.hasDocument = true)
    {choices : Option Json} {start : StartSettings}
    (chosen : StartSettings.ofChoices choices = .ok start) :
    (page.meet (.boot choices)).2.guard.claimed = true ∧
      (page.readyState = some "complete" →
        (page.meet (.install choices)).2.guard.claimed = true) := by
  have passing (holder : Holder) : (BootAttempt.mk page start holder).passes = true :=
    (passes_iff _).mpr (refusal?_eq_none.mpr ⟨windowed, documented, unclaimed⟩)
  constructor
  · have booted : page.meet (.boot choices) = page.bootScript choices := rfl
    rw [booted, bootScript, chosen]
    exact claimed_of_passes (passing .script)
  · intro complete
    have installed : (page.meet (.install choices)).2 = (page.install choices).2 := rfl
    have now : page.installing choices = .now start := by
      rw [installing, unclaimed, chosen, windowed, readyState?, documented, complete]
      rfl
    rw [installed, install_eq, now]
    exact claimed_of_passes (passing .window)

theorem claimed_of_waiting (unclaimed : page.guard.claimed = false)
    (windowed : page.hasWindow = true) (documented : page.hasDocument = true)
    (waiting : page.pending ≠ []) : (page.meet .load).2.guard.claimed = true := by
  obtain ⟨start, rest, pendingEq⟩ := List.exists_cons_of_ne_nil waiting
  have passing : (BootAttempt.mk { page with pending := [] } start .window).passes = true :=
    (passes_iff _).mpr (refusal?_eq_none.mpr ⟨windowed, documented, unclaimed⟩)
  have member : ⟨{ page with pending := [] }, start, .window⟩ ∈ page.attempts .load := by
    rw [attempts, pendingEq, pendingAttempts]
    exact List.mem_cons_self
  by_contra notClaimed
  have stopped := (met_load page).stopped (Or.inr (Bool.eq_false_iff.mpr notClaimed)) _ member
  exact Bool.false_ne_true (stopped.symm.trans passing)

/-- Whatever order boots, installations, loads and changes of the window come in, a page is
booted once at most. -/
theorem boots_once (page : Browser) (unbooted : page.Unbooted) (events : List BootEvent) :
    page.BootsOnce events (page.meetAll events) := by
  have met := met_meetAll page events
  have once : (page.along Browser.attempts events).countP BootAttempt.passes ≤ 1 := by
    have counted := met.claimed_eq
    have bound := Bool.toNat_le (page.meetAll events).guard.claimed
    rw [unbooted.unclaimed, Bool.toNat_false, Nat.zero_add] at counted
    omega
  constructor
  case passes_once => exact once
  case stopped => exact fun attempt _ => outcome_of_not_passes
  case early => exact fun event fault => early_meet
  case untouched => exact fun unclaimed => met.steady_eq (met.stopped (Or.inr unclaimed))
  case ready =>
    exact fun unclaimed windowed documented _ _ => claimed_of_ready unclaimed windowed documented
  case waiting => exact claimed_of_waiting
  case boot_refused => exact boot_of_claimed
  case install_refused => exact install_of_claimed
  case load_refused => exact load_of_claimed
  case later =>
    intro claimed more
    have metMore := met_meetAll (page.meetAll events) more
    exact metMore.steady_eq (metMore.stopped (Or.inl claimed))
  case listened_once =>
    have counted := met.pending_eq
    rwa [unbooted.nobody_waits] at counted
  case published_iff =>
    intro report
    rw [objectOf?_eq_some, met.object_eq, unbooted.no_object, foldl_objectAfter_eq_some once]
    constructor
    · rintro ⟨attempt, member, holderEq, succeeds⟩
      exact ⟨attempt, member, passes_of_outcome succeeds, holderEq, succeeds⟩
    · rintro ⟨attempt, member, -, holderEq, succeeds⟩
      exact ⟨attempt, member, holderEq, succeeds⟩

/-- A script installs, another one boots while there is no document, and then the diary is
loaded twice. -/
def diaryEvents : List BootEvent :=
  [.install none, .setDocument false, .boot none, .setDocument true, .load, .load, .boot none]

theorem boots_once_diary :
    (diary.meetAll diaryEvents).objectOf? .window = some ⟨0, ⟨2, 1, 1, 0⟩⟩ ∧
      diary.BootsOnce diaryEvents (diary.meetAll diaryEvents) :=
  ⟨by decide +kernel, boots_once diary ⟨rfl, rfl, rfl⟩ diaryEvents⟩

end Browser

end QuickFill
