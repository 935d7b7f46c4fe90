import QuickFill.Proofs.Page.Counts
import QuickFill.Proofs.Page.Places

/-!
# The counts of a run

A run shows how many links and notes it put on its page, and the page with the links and
notes on it.  The two agree, whatever texts the page is described with and whatever is
clicked on: the tags in the output are as many as the counts say.
-/

namespace QuickFill

open PageSession

namespace CommandLine

/-- The lines that a run shows before the page. -/
def heading (seconds : Int) (clockInputs calendarInputs notes : Nat) : String :=
  "Timezone offset: " ++ toString seconds ++ "s\nClock inputs: " ++ toString clockInputs ++
    "\nCalendar inputs: " ++ toString calendarInputs ++ "\nWarnings: " ++ toString notes ++ "\n\n"

/-- An output that starts with counts, and shows a page with as many things. -/
structure Counted (fixture : PageFixture) (shown : String) (seconds : Int)
    (clockInputs calendarInputs notes : Nat) : Prop where
  headed : ∃ page, shown = heading seconds clockInputs calendarInputs notes ++ page
  spans_eq : Tag.span.count shown.toList = clockInputs + calendarInputs
  divs_eq : Tag.div.count shown.toList = notes
  inputs_eq : Tag.input.count shown.toList = fixture.fields.length
  notes_eq : notes = if seconds.natAbs < 3600 then 0 else fixture.unmarked.card

variable {fixture : PageFixture} {now : Instant} {clicks : List Click} {shown : String}

theorem holds_heading (tag : Tag) (seconds : Int) (clockInputs calendarInputs notes : Nat) :
    tag.Holds (heading seconds clockInputs calendarInputs notes).toList 0 := by
  have noDigit : '<'.isDigit = false := by decide
  have noSign : '<' ≠ '-' := by decide
  apply Tag.holds_of_notMem
  -- To state the equation of the definition, Lean would evaluate its fixed texts.
  delta heading
  simp only [String.toList_append, List.mem_append, not_or, notMem_toString noDigit,
    notMem_toString_int noDigit noSign, not_false_eq_true, and_true]
  decide

/-- A run that ends well shows the page that its clicks left, and what its start reported. -/
theorem exists_clicked (outcome : runOn fixture now clicks = .ok shown) :
    let before := openSession fixture now
    let order := before.page.page.inputOrder
    ∃ log after, Click.Clicked (searched before order order log) clicks after ∧
      shown = summary after (startReport before order) := by
  intro before order
  rw [runOn, run_simulate] at outcome
  obtain ⟨log, started⟩ := start_openSession fixture now
  rw [started] at outcome
  simp only at outcome
  cases performed : (performAll clicks).run (searched before order order log) with
  | error fault after =>
      rw [performed] at outcome
      cases outcome
  | ok done after =>
      rw [performed] at outcome
      have clicked := clicked_performAll (.nothing _) rfl performed
      exact ⟨log, after, clicked, (Except.ok.inj outcome).symm⟩

/-- Neither clicks nor texts of the page change how many tags an output holds. -/
theorem counted_of_runOn (outcome : runOn fixture now clicks = .ok shown) :
    let before := openSession fixture now
    let report := startReport before before.page.page.inputOrder
    Counted fixture shown before.session.gap.seconds report.clockInputs report.calendarInputs
      report.notes := by
  intro before report
  obtain ⟨log, after, clicked, rfl⟩ := exists_clicked outcome
  have opened := opened_searched fixture now before.page.page.inputOrder log
  have formed : after.page.page.WellFormed := (Page.wellFormed_ofFixture fixture).congr
    (opened.rows_after clicked) (opened.homes_after clicked)
  have sorted : after.page.page.boxes.Pairwise (· < ·) := by
    rw [clicked.boxes_eq, opened.boxes_eq]
    exact sortedNames_sorted fixture.boxes
  have summaryEq : summary after report =
      heading before.session.gap.seconds report.clockInputs report.calendarInputs report.notes ++
        after.page.page.render := by
    have gapEq : after.session.gap = before.session.gap := by
      rw [clicked.session_eq]
      rfl
    rw [← gapEq]
    rfl
  have counted (tag : Tag) :
      tag.count (summary after report).toList = after.page.page.number tag := by
    have shownEq := (holds_heading tag before.session.gap.seconds report.clockInputs
      report.calendarInputs report.notes).append (after.page.page.visible.holds_markup tag)
    rw [summaryEq, Page.render_eq_of_sorted sorted, String.toList_append, shownEq.count_eq,
      Nat.zero_add, formed.number_visible]
  have plain := (Page.described_ofFixture fixture).plain
  have decoratedEq (tag : Tag) : after.page.page.number tag =
      ((Page.ofFixture fixture).decorated (startLinks before before.page.page.inputOrder)
        (startNotes before before.page.page.inputOrder)).number tag := by
    rw [Page.number, clicked.containers_eq]
    rfl
  refine ⟨⟨_, summaryEq⟩, ?_, ?_, ?_, card_notedHomes fixture now⟩
  · rw [counted, decoratedEq, Page.number_span_decorated plain]
    exact length_startLinks before before.page.page.inputOrder
  · rw [counted, decoratedEq, Page.number_div_decorated plain]
    exact length_startNotes before before.page.page.inputOrder
  · have orderEq := formed.order_perm.length_eq
    rw [opened.homes_after clicked, Page.homes, List.length_range, List.length_map,
      ← opened.inputs_eq, opened.length_fields, ← Page.inputOrder_eq_flatten] at orderEq
    rw [counted, Page.number_input, orderEq]

/-- The counts that a run shows agree with the page that it shows.  There is an opening tag
of a span for each link, one of a note for each note, and one of an input for each field;
and notes are counted, when the clocks are an hour or more apart, for the containers that
hold a field with a link and no field with the class of notes. -/
theorem counts_agree {invocation : Invocation} {source : Option String} {systemTime : Instant}
    (outcome : invocation.run source systemTime = .ok shown) :
    ∃ text fixture seconds clockInputs calendarInputs notes, source = some text ∧
      Json.decodeText PageFixture.ofJson text = .ok fixture ∧
        Counted fixture shown seconds clockInputs calendarInputs notes := by
  rw [run_eq] at outcome
  split at outcome
  · split at outcome
    · cases outcome
    · next text =>
      split at outcome
      · cases outcome
      · next fixture decoded =>
        split at outcome
        · cases outcome
        · next now timed =>
          exact ⟨text, fixture, _, _, _, _, rfl, decoded, counted_of_runOn outcome⟩
  · cases outcome

/-- A field whose texts imitate tags, and one that has the class of notes. -/
def imitationText : String :=
  "\x7b\"admin_utc_offset\": \"0\", \"fields\": [\x7b\"id\": \"<input \", \"type\": \"time\", " ++
    "\"classes\": [\"vTimeField\", \"<span class=\"], \"container\": \"<div class=\"\x7d, " ++
    "\x7b\"id\": \"b\", \"type\": \"date\", \"classes\": [\"vDateField\", \"timezonewarning\"]\x7d]\x7d"

/-- A run seven hours ahead of the server. -/
def imitation : Invocation where
  page := "imitation.json"
  time := some "2024-03-01T00:30:05+07:00"
  clicks := [.hour 0 6]
  logLevel := "warn"

def imitationShown : String :=
  "Timezone offset: 25200s\nClock inputs: 1\nCalendar inputs: 1\nWarnings: 1\n\n" ++
    "<div data-container=\"&lt;div class=\">\n" ++
    "  <input id=\"&lt;input \" type=\"time\" class=\"vTimeField &lt;span class=\" " ++
    "value=\"06:00\" autofocus>\n" ++
    "  <span class=\"datetimeshortcuts\">&nbsp;<a href=\"#\">Now</a></span>\n" ++
    "  <div class=\"help timezonewarning\">Note: You are 7 hours ahead of server time.</div>\n" ++
    "</div>\n<div data-container=\"b\">\n" ++
    "  <input id=\"b\" type=\"date\" class=\"vDateField timezonewarning\" value=\"\">\n" ++
    "  <span class=\"datetimeshortcuts\">&nbsp;<a href=\"#\">Today</a></span>\n</div>\n"

theorem counts_agree_imitation :
    imitation.run (some imitationText) earlyMarch = .ok imitationShown ∧
      ∃ text fixture seconds clockInputs calendarInputs notes, some imitationText = some text ∧
        Json.decodeText PageFixture.ofJson text = .ok fixture ∧
          Counted fixture imitationShown seconds clockInputs calendarInputs notes := by
  have outcome : imitation.run (some imitationText) earlyMarch = .ok imitationShown := by
    decide +kernel
  exact ⟨outcome, counts_agree outcome⟩

end CommandLine

end QuickFill
