import QuickFill.Session.Fill

/-!
# Joined templates

A template is read one character at a time, so reading two templates that are joined is
reading one after the other.  The seconds that are put at the end of a template are read on
their own: a specifier that the template leaves unfinished cannot take them up.
-/

namespace QuickFill

namespace Template

theorem scan_append (mode : Mode) (front back : List Char) :
    scan mode (front ++ back) =
      (scan mode front).bind fun read =>
        (scan read.1 back).map fun more => (more.1, read.2 ++ more.2) := by
  induction front generalizing mode with
  | nil => simp [scan]
  | cons character rest ih =>
      rw [List.cons_append, scan, scan]
      cases step mode character with
      | none => rfl
      | some next =>
          simp only [ih next.1]
          cases scan next.1 rest with
          | none => rfl
          | some read => simp [Function.comp_def]

theorem items?_append {front : List Char} {items : List Item} (whole : items? front = some items)
    (back : List Char) : items? (front ++ back) = (items? back).map (items ++ ·) := by
  have scanned : scan .plain front = some (.plain, items) := by
    rw [items?] at whole
    split at whole
    · next found => rw [found, Option.some.inj whole]
    · cases whole
  rw [items?, scan_append, scanned, items?]
  simp only [Option.bind_some]
  cases scan .plain back with
  | none => rfl
  | some read =>
      obtain ⟨mode, more⟩ := read
      cases mode <;> rfl

theorem renderItems?_append (moment : Moment) (front back : List Item) :
    renderItems? moment (front ++ back) =
      (renderItems? moment front).bind fun shown =>
        (renderItems? moment back).map (shown ++ ·) := by
  induction front with
  | nil => simp [renderItems?]
  | cons item rest ih =>
      rw [List.cons_append, renderItems?, renderItems?, ih]
      cases item.render? moment with
      | none => rfl
      | some shown =>
          cases renderItems? moment rest with
          | none => rfl
          | some more =>
              simp only [Option.bind_some]
              cases renderItems? moment back <;> simp

/-- A template joined from two is filled with what the two are filled with. -/
theorem render?_append {front : String} {moment : Moment} {shown : String}
    (filled : render? front moment = some shown) (back : String) :
    render? (front ++ back) moment = (render? back moment).map (shown ++ ·) := by
  rw [render?, Option.map_eq_some_iff] at filled
  obtain ⟨text, rendered, rfl⟩ := filled
  obtain ⟨items, whole, itemsShown⟩ := Option.bind_eq_some_iff.mp rendered
  rw [render?, render?, String.toList_append, items?_append whole]
  cases items? back.toList with
  | none => rfl
  | some more =>
      simp only [Option.map_some, Option.bind_some, renderItems?_append, itemsShown]
      cases renderItems? moment more <;> simp [String.ofList_append]

/-! ### Seconds at the end -/

/-- A template that ends inside a specifier. -/
def Unfinished (template : String) : Prop :=
  ∃ mode items, scan .plain template.toList = some (mode, items) ∧ mode ≠ .plain

/-- A number in two digits. -/
def twoDigits (number : Nat) : String :=
  String.ofList (Text.zeroPadded 2 number)

variable {template : String} {moment : Moment}

/-- No specifier goes on with a colon and ends with what comes after it. -/
theorem scan_seconds {mode : Mode} (inside : mode ≠ .plain) : scan mode ":%S".toList = none := by
  cases mode with
  | plain => exact (inside rfl).elim
  | colons further =>
      match further with
      | 0 | 1 | 2 => rfl
  | _ => rfl

theorem items?_of_unfinished (unfinished : Unfinished template) :
    items? template.toList = none := by
  obtain ⟨mode, items, scanned, inside⟩ := unfinished
  rw [items?, scanned]
  cases mode with
  | plain => exact (inside rfl).elim
  | _ => rfl

theorem render?_of_unfinished (unfinished : Unfinished template) (moment : Moment) :
    render? template moment = none := by
  rw [render?, items?_of_unfinished unfinished]
  rfl

/-- A template that cannot be read cannot be read with seconds at its end, either. -/
theorem items?_seconds (front : List Char) :
    items? (front ++ ":%S".toList) =
      (items? front).map (· ++ [.literal ':', numberItem .second]) := by
  cases whole : items? front with
  | some items => exact items?_append whole _
  | none =>
      rw [items?, scan_append]
      cases scanned : scan .plain front with
      | none => rfl
      | some read =>
          obtain ⟨mode, items⟩ := read
          have inside : mode ≠ .plain := by
            rintro rfl
            rw [items?, scanned] at whole
            cases whole
          rw [Option.bind_some, scan_seconds inside]
          rfl

theorem writePair_zeros {number : Nat} (short : number < 100) :
    writePair .zeros number = Text.zeroPadded 2 number := by
  have each : ∀ number : Fin 100, writePair .zeros number = Text.zeroPadded 2 number := by
    decide +kernel
  exact each ⟨number, short⟩

/-- With seconds at its end a template is filled if it is without them, and with the same
text before the seconds. -/
theorem render?_seconds (template : String) {time : TimeOfDay} (timed : moment.time = some time)
    (short : time.secondOfMinute < 100) :
    render? (template ++ ":%S") moment =
      (render? template moment).map (· ++ ":" ++ twoDigits time.secondOfMinute) := by
  have seconds : renderItems? moment [.literal ':', numberItem .second] =
      some (':' :: Text.zeroPadded 2 time.secondOfMinute) := by
    simp only [renderItems?, Item.render?, numberItem, NumberField.figure?, timed, Option.map_some,
      Figure.render, writePair_zeros short, List.append_nil, List.singleton_append]
  rw [render?, render?, String.toList_append, items?_seconds]
  cases items? template.toList with
  | none => rfl
  | some items =>
      simp only [Option.map_some, Option.bind_some, renderItems?_append, seconds]
      cases renderItems? moment items with
      | none => rfl
      | some shown =>
          simp [twoDigits, String.ofList_append, ← String.toList_inj]

end Template

end QuickFill
