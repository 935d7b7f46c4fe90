import QuickFill.Session.Fill

/-!
# Plain templates

A plain template holds literal text and asks for years, months, days, hours, minutes
and seconds only.  What it is filled with does not depend on the offset of a clock, and
every moment with a time of day fills it.
-/

namespace QuickFill

namespace Template

/-- The letters that a plain template has after `%`; the last one stands for itself. -/
def plainLetters : List Char :=
  ['Y', 'm', 'd', 'H', 'M', 'S', '%']

def isPlain : List Char → Bool
  | '%' :: letter :: rest => plainLetters.contains letter && isPlain rest
  | ['%'] => false
  | _ :: rest => isPlain rest
  | [] => true

def plainFields : List NumberField :=
  [.year, .month, .day, .hour, .minute, .second]

def Item.isPlain : Item → Bool
  | .literal _ => true
  | .number field _ => plainFields.contains field
  | .text _ => false

theorem afterPercent_plain {letter : Char} (plain : plainLetters.contains letter = true) :
    ∃ items, afterPercent letter = some (.plain, items) ∧ items.all Item.isPlain = true := by
  have each : (plainLetters.all fun letter => (afterPercent letter).any
      fun found => found.1 == .plain && found.2.all Item.isPlain) = true := rfl
  have complete := List.all_eq_true.mp each letter (List.contains_iff_mem.mp plain)
  obtain ⟨⟨mode, items⟩, found, accepted⟩ := (Option.any_eq_true _ _).mp complete
  rw [Bool.and_eq_true, beq_iff_eq] at accepted
  obtain ⟨rfl, itemsPlain⟩ : mode = .plain ∧ items.all Item.isPlain = true := accepted
  exact ⟨items, found, itemsPlain⟩

theorem step_plain {character : Char} (literal : character ≠ '%') :
    step .plain character = some (.plain, [.literal character]) := by
  rw [step]
  exact literal

/-- A plain template is read to its end, and into plain items. -/
theorem scan_plain {text : List Char} (plain : isPlain text = true) :
    ∃ items, scan .plain text = some (.plain, items) ∧ items.all Item.isPlain = true := by
  fun_induction isPlain text with
  | case1 letter rest ih =>
      rw [Bool.and_eq_true] at plain
      obtain ⟨items, found, itemsPlain⟩ := afterPercent_plain plain.1
      obtain ⟨more, scanned, morePlain⟩ := ih plain.2
      refine ⟨items ++ more, ?_, by rw [List.all_append, itemsPlain, morePlain]; rfl⟩
      rw [scan, step]
      simp only [scan, step, found, scanned, Option.map_some, List.nil_append]
  | case2 => cases plain
  | case3 character rest notSpecifier notLast ih =>
      have literal : character ≠ '%' := by
        cases rest with
        | nil => exact fun percent => notLast percent rfl
        | cons letter rest => exact fun percent => notSpecifier letter rest percent rfl
      obtain ⟨more, scanned, morePlain⟩ := ih plain
      refine ⟨.literal character :: more, ?_, by rw [List.all_cons, morePlain]; rfl⟩
      rw [scan, step_plain literal]
      simp only [scanned, Option.map_some, List.singleton_append]
  | case4 => exact ⟨[], rfl, rfl⟩

theorem isPlain_append {front back : List Char} (frontPlain : isPlain front = true)
    (backPlain : isPlain back = true) : isPlain (front ++ back) = true := by
  fun_induction isPlain front with
  | case1 letter rest ih =>
      rw [Bool.and_eq_true] at frontPlain
      rw [List.cons_append, List.cons_append, isPlain, frontPlain.1, ih frontPlain.2]
      rfl
  | case2 => cases frontPlain
  | case3 character rest notSpecifier notLast ih =>
      have literal : character ≠ '%' := by
        cases rest with
        | nil => exact fun percent => notLast percent rfl
        | cons letter rest => exact fun percent => notSpecifier letter rest percent rfl
      rw [List.cons_append, isPlain, ih frontPlain]
      · exact fun _ _ percent => absurd percent literal
      · exact fun percent => absurd percent literal
  | case4 => exact backPlain

/-- Seconds that a step asks for leave a template plain. -/
theorem isPlain_clockTemplate {template : String} (plain : isPlain template.toList = true)
    (stepSize : Nat) : isPlain (clockTemplate template stepSize).toList = true := by
  rw [clockTemplate]
  split
  · exact plain
  · rw [String.toList_append]
    exact isPlain_append plain (by decide)

/-! ### Filling -/

theorem mem_plainFields {field : NumberField} (plain : plainFields.contains field = true) :
    field = .year ∨ field = .month ∨ field = .day ∨ field = .hour ∨ field = .minute ∨
      field = .second := by
  simpa [plainFields] using plain

/-- The offset of the clock plays no part in plain items. -/
theorem Item.render?_congr {item : Item} (plain : item.isPlain = true) {moment other : Moment}
    (dateEq : other.date = moment.date) (timeEq : other.time = moment.time) :
    item.render? other = item.render? moment := by
  cases item with
  | literal character => rfl
  | text field => cases plain
  | number field padding =>
      have figureEq : field.figure? other = field.figure? moment := by
        rcases mem_plainFields plain with rfl | rfl | rfl | rfl | rfl | rfl <;>
          simp only [NumberField.figure?, dateEq, timeEq]
      rw [Item.render?, Item.render?, figureEq]

theorem Item.render?_isSome {item : Item} (plain : item.isPlain = true) {moment : Moment}
    (timed : moment.time.isSome = true) : (item.render? moment).isSome = true := by
  cases item with
  | literal character => rfl
  | text field => cases plain
  | number field padding =>
      rw [Item.render?, Option.isSome_map]
      rcases mem_plainFields plain with rfl | rfl | rfl | rfl | rfl | rfl <;>
        simp only [NumberField.figure?, Option.isSome_some, Option.isSome_map, timed]

theorem renderItems?_congr {items : List Item} (plain : items.all Item.isPlain = true)
    {moment other : Moment} (dateEq : other.date = moment.date)
    (timeEq : other.time = moment.time) :
    renderItems? other items = renderItems? moment items := by
  induction items with
  | nil => rfl
  | cons item rest ih =>
      rw [List.all_cons, Bool.and_eq_true] at plain
      rw [renderItems?, renderItems?, Item.render?_congr plain.1 dateEq timeEq, ih plain.2]

theorem renderItems?_isSome {items : List Item} (plain : items.all Item.isPlain = true)
    {moment : Moment} (timed : moment.time.isSome = true) :
    (renderItems? moment items).isSome = true := by
  induction items with
  | nil => rfl
  | cons item rest ih =>
      rw [List.all_cons, Bool.and_eq_true] at plain
      obtain ⟨shown, shownEq⟩ := Option.isSome_iff_exists.mp (Item.render?_isSome plain.1 timed)
      obtain ⟨more, moreEq⟩ := Option.isSome_iff_exists.mp (ih plain.2)
      rw [renderItems?, shownEq, moreEq]
      rfl

variable {template : String}

/-- Two moments that show one date and one time of day fill a plain template alike. -/
theorem render?_congr (plain : isPlain template.toList = true) {moment other : Moment}
    (dateEq : other.date = moment.date) (timeEq : other.time = moment.time) :
    render? template other = render? template moment := by
  obtain ⟨items, scanned, itemsPlain⟩ := scan_plain plain
  rw [render?, render?, items?, scanned]
  simp only [Option.bind_some, renderItems?_congr itemsPlain dateEq timeEq]

/-- A moment with a time of day fills a plain template. -/
theorem render?_isSome (plain : isPlain template.toList = true) {moment : Moment}
    (timed : moment.time.isSome = true) : (render? template moment).isSome = true := by
  obtain ⟨items, scanned, itemsPlain⟩ := scan_plain plain
  rw [render?, items?, scanned, Option.isSome_map]
  exact renderItems?_isSome itemsPlain timed

end Template

end QuickFill
