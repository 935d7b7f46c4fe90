import QuickFill.CommandLine.Click
import QuickFill.Proofs.Calendar.DateText
import QuickFill.Proofs.Text.Integer

/-!
# The spelling of clicks

A text is a click if it has one of five shapes: an action word, a handle and, as the word asks for
it, an hour, a number of days or a date, with colons between them and nothing before or after.
Every click of the widths of its numbers is written in one of them and read back from there.
-/

namespace QuickFill

namespace Click

open Text

/-- A handle is spelled in digits, perhaps after a plus sign. -/
def SpellsHandle (handle : Nat) (text : List Char) : Prop :=
  (∃ (sign : Sign) (digits : List Char), sign ≠ .minus ∧ text = sign.text ++ digits ∧
    SpellsNatural handle digits) ∧ handle < twoPow 64

/-- An hour or a number of days is spelled in digits, perhaps after a sign. -/
def SpellsLong (number : Int) (text : List Char) : Prop :=
  SpellsInteger number text ∧ leastInt64 ≤ number ∧ number ≤ greatestInt64

/-- The parts of a text between its colons make up a click. -/
inductive Spells : List (List Char) → Click → Prop where
  | now {handle : Nat} {text : List Char} (first : SpellsHandle handle text) :
      Spells ["now".toList, text] (.now handle)
  | hour {handle : Nat} {number : Int} {text part : List Char} (first : SpellsHandle handle text)
      (second : SpellsLong number part) :
      Spells ["hour".toList, text, part] (.hour handle number)
  | today {handle : Nat} {text : List Char} (first : SpellsHandle handle text) :
      Spells ["today".toList, text] (.today handle 0)
  | otherDay {handle : Nat} {days : Int} {text part : List Char} (first : SpellsHandle handle text)
      (second : SpellsLong days part) :
      Spells ["today".toList, text, part] (.today handle days)
  | pick {handle : Nat} {date : Date} {text part : List Char} (first : SpellsHandle handle text)
      (second : Date.read part = .ok date) :
      Spells ["pick".toList, text, part] (.pick handle date)

variable {parts : List (List Char)} {action text part : List Char} {click : Click} {handle : Nat}

theorem readNatural_eq_ok_iff_spells :
    readNatural greatestNat64 text = .ok handle ↔ SpellsHandle handle text := by
  have bound : handle ≤ greatestNat64 ↔ handle < twoPow 64 := by
    have width : twoPow 64 = greatestNat64 + 1 := by decide
    rw [width, Nat.lt_succ_iff]
  rw [readNatural_eq_ok_iff, bound]
  rfl

theorem readLong_eq_ok_iff {number : Int} : readLong part = .ok number ↔ SpellsLong number part :=
  readInteger_eq_ok_iff

/-! ### Reading -/

theorem map_orFault_eq_ok_iff {ε α : Type} {fault : ε → ClickFault} {outcome : Except ε α}
    {make : α → Click} :
    (orFault fault outcome).map make = .ok click ↔
      ∃ value, outcome = .ok value ∧ make value = click := by
  cases outcome with
  | error cause => exact ⟨nofun, nofun⟩
  | ok found =>
      constructor
      · intro made
        exact ⟨found, rfl, Except.ok.inj made⟩
      · rintro ⟨value, same, rfl⟩
        obtain rfl := Except.ok.inj same
        rfl

/-- The handle is read first, and superfluous parts are found last. -/
theorem readParts_cons_cons {rest : List (List Char)} :
    readParts (action :: text :: rest) = .ok click ↔
      ∃ handle, SpellsHandle handle text ∧ ofParts action handle rest.head? = .ok click ∧
        rest.tail = [] := by
  simp only [← readNatural_eq_ok_iff_spells, readParts]
  cases handleEq : readNatural greatestNat64 text with
  | error cause =>
      constructor
      · intro reads
        cases reads
      · rintro ⟨handle, found, -⟩
        cases found
  | ok handle =>
      simp only [orFault, bind, Except.bind, Except.ok.injEq, exists_eq_left']
      cases madeEq : ofParts action handle rest.head? with
      | error fault =>
          constructor
          · intro reads
            cases reads
          · rintro ⟨made, -⟩
            cases made
      | ok made =>
          simp only [List.isEmpty_iff]
          by_cases ended : rest.tail = []
          · rw [if_pos ended]
            exact ⟨fun same => ⟨same, ended⟩, And.left⟩
          · rw [if_neg ended]
            exact ⟨nofun, fun both => absurd both.2 ended⟩

/-- The action word decides how many parts there are and what the last one is. -/
theorem spells_of_ofParts {rest : List (List Char)} (spelled : SpellsHandle handle text)
    (made : ofParts action handle rest.head? = .ok click) (ended : rest.tail = []) :
    Spells (action :: text :: rest) click := by
  -- One more part at most is looked at, and one more part at most is there.
  have only : rest = rest.head?.toList := by
    cases rest with
    | nil => rfl
    | cons part others => exact congrArg (part :: ·) ended
  have actionEq {word : String} (same : String.ofList action = word) : action = word.toList := by
    rw [← same, String.toList_ofList]
  rw [only]
  unfold ofParts at made
  split at made
  · next word noPart =>
    obtain rfl := Except.ok.inj made
    rw [noPart, actionEq word]
    exact .now spelled
  · next part word onePart =>
    obtain ⟨number, reads, rfl⟩ := map_orFault_eq_ok_iff.mp made
    rw [onePart, actionEq word]
    exact .hour spelled (readLong_eq_ok_iff.mp reads)
  · next word noPart =>
    obtain rfl := Except.ok.inj made
    rw [noPart, actionEq word]
    exact .today spelled
  · next part word onePart =>
    obtain ⟨days, reads, rfl⟩ := map_orFault_eq_ok_iff.mp made
    rw [onePart, actionEq word]
    exact .otherDay spelled (readLong_eq_ok_iff.mp reads)
  · next part word onePart =>
    obtain ⟨date, reads, rfl⟩ := map_orFault_eq_ok_iff.mp made
    rw [onePart, actionEq word]
    exact .pick spelled reads
  · cases made

theorem readParts_eq_ok_iff : readParts parts = .ok click ↔ Spells parts click := by
  constructor
  · intro reads
    cases parts with
    | nil => cases reads
    | cons action more =>
        cases more with
        | nil => cases reads
        | cons text rest =>
            obtain ⟨handle, spelled, made, ended⟩ := readParts_cons_cons.mp reads
            exact spells_of_ofParts spelled made ended
  · intro spelled
    cases spelled with
    | now first => exact readParts_cons_cons.mpr ⟨_, first, rfl, rfl⟩
    | today first => exact readParts_cons_cons.mpr ⟨_, first, rfl, rfl⟩
    | hour first second =>
        refine readParts_cons_cons.mpr ⟨_, first, ?_, rfl⟩
        change (orFault .badHour (readLong _)).map (Click.hour _) = _
        exact map_orFault_eq_ok_iff.mpr ⟨_, readLong_eq_ok_iff.mpr second, rfl⟩
    | otherDay first second =>
        refine readParts_cons_cons.mpr ⟨_, first, ?_, rfl⟩
        change (orFault .badDays (readLong _)).map (Click.today _) = _
        exact map_orFault_eq_ok_iff.mpr ⟨_, readLong_eq_ok_iff.mpr second, rfl⟩
    | pick first second =>
        refine readParts_cons_cons.mpr ⟨_, first, ?_, rfl⟩
        change (orFault .badDate (Date.read _)).map (Click.pick _) = _
        exact map_orFault_eq_ok_iff.mpr ⟨_, second, rfl⟩

/-! ### Writing -/

/-- Whether the parts of a click have the widths of what is read. -/
def InWidth : Click → Prop
  | .now handle => handle < twoPow 64
  | .hour handle number =>
    handle < twoPow 64 ∧ leastInt64 ≤ number ∧ number ≤ greatestInt64
  | .today handle days => handle < twoPow 64 ∧ leastInt64 ≤ days ∧ days ≤ greatestInt64
  | .pick handle date => handle < twoPow 64 ∧ date.InRange

/-- The parts of a click in plain decimals, the date as its template writes it. -/
def parts? : Click → Option (List String)
  | .now handle => some ["now", toString handle]
  | .hour handle number => some ["hour", toString handle, toString number]
  | .today handle days => some ["today", toString handle, toString days]
  | .pick handle date => (Template.render? "%Y-%m-%d" (.ofDate date)).map fun text =>
      ["pick", toString handle, text]

def written? (click : Click) : Option String :=
  click.parts?.map (String.intercalate ":")

theorem spellsHandle_toString (wide : handle < twoPow 64) :
    SpellsHandle handle (toString handle).toList :=
  ⟨⟨.absent, _, nofun, rfl, spellsNatural_toString handle⟩, wide⟩

theorem SpellsHandle.noColon (spelled : SpellsHandle handle text) : ':' ∉ text := by
  obtain ⟨⟨sign, digits, -, rfl, digital, -⟩, -⟩ := spelled
  intro member
  exact absurd (digital.sign_of_mem member rfl) (by decide)

theorem SpellsLong.noColon {number : Int} (spelled : SpellsLong number part) : ':' ∉ part := by
  obtain ⟨⟨sign, digits, digital, rfl, -⟩, -⟩ := spelled
  intro member
  exact absurd (digital.sign_of_mem member rfl) (by decide)

theorem noColon_writeDate (date : Date) : ':' ∉ Clock.writeDate date := by
  have digits (width number : Nat) : ':' ∉ zeroPadded width number := fun member =>
    absurd (isDigit_of_mem_zeroPadded member) (by decide)
  have year : ':' ∉ Clock.writeYear date.year := by
    unfold Clock.writeYear
    split
    · exact digits _ _
    · rw [List.mem_cons, not_or]
      exact ⟨by split <;> decide, digits _ _⟩
  unfold Clock.writeDate
  simp [year, digits]

/-- Parts without colons are found again between the colons. -/
theorem read_intercalate {shown : List String} (some : shown ≠ [])
    (noColon : ∀ part ∈ shown, ':' ∉ part.toList)
    (spelled : Spells (shown.map String.toList) click) :
    read (String.intercalate ":" shown) = .ok click := by
  have parts : (String.intercalate ":" shown).toList.splitOn ':' = shown.map String.toList := by
    rw [String.toList_intercalate]
    refine List.splitOn_intercalate ':' ?_ (by simpa using some)
    intro part member
    obtain ⟨original, inShown, rfl⟩ := List.mem_map.mp member
    exact noColon original inShown
  unfold read
  rw [parts]
  exact readParts_eq_ok_iff.mpr spelled

theorem read_threeParts {first second third : String} (firstPlain : ':' ∉ first.toList)
    (secondPlain : ':' ∉ second.toList) (thirdPlain : ':' ∉ third.toList)
    (spelled : Spells [first.toList, second.toList, third.toList] click) :
    read (String.intercalate ":" [first, second, third]) = .ok click := by
  refine read_intercalate (List.cons_ne_nil _ _) ?_ spelled
  simp only [List.forall_mem_cons]
  exact ⟨firstPlain, secondPlain, thirdPlain, nofun⟩

/-- A date that is written is picked, with any spelling of a handle before it. -/
theorem read_pick {date : Date} {number : Nat} {shown : String}
    (spelled : SpellsHandle number shown.toList) (inRange : date.InRange) :
    read (String.intercalate ":" ["pick", shown, String.ofList (Clock.writeDate date)]) =
      .ok (.pick number date) := by
  have readBack : Date.read (String.ofList (Clock.writeDate date)).toList = .ok date := by
    rw [String.toList_ofList]
    exact Date.read_writeDate inRange
  refine read_threeParts (by decide) spelled.noColon ?_ (.pick spelled readBack)
  rw [String.toList_ofList]
  exact noColon_writeDate date

theorem read_written (wide : click.InWidth) :
    ∃ text, click.written? = some text ∧ read text = .ok click := by
  cases click with
  | now handle =>
      have first := spellsHandle_toString wide
      refine ⟨_, rfl, read_intercalate (List.cons_ne_nil _ _) ?_ (.now first)⟩
      simp only [List.forall_mem_cons]
      exact ⟨by decide, first.noColon, nofun⟩
  | hour handle number =>
      have first := spellsHandle_toString wide.1
      have second : SpellsLong number (toString number).toList :=
        ⟨spellsInteger_toString number, wide.2⟩
      exact ⟨_, rfl,
        read_threeParts (by decide) first.noColon second.noColon (.hour first second)⟩
  | today handle days =>
      have first := spellsHandle_toString wide.1
      have second : SpellsLong days (toString days).toList :=
        ⟨spellsInteger_toString days, wide.2⟩
      exact ⟨_, rfl,
        read_threeParts (by decide) first.noColon second.noColon (.otherDay first second)⟩
  | pick handle date =>
      have rendered : Template.render? "%Y-%m-%d" (.ofDate date) =
          some (String.ofList (Clock.writeDate date)) := Date.render?_date (.ofDate date)
      simp only [written?, parts?, rendered, Option.map_some]
      exact ⟨_, rfl, read_pick (spellsHandle_toString wide.1) wide.2⟩

/-- A text is a click exactly when the parts between its colons have one of the five shapes, and
every click is written in a shape that is read back as this click. -/
theorem click_spelled :
    (∀ (raw : String) (click : Click),
      read raw = .ok click ↔ Spells (raw.toList.splitOn ':') click) ∧
        ∀ click : Click, click.InWidth →
          ∃ text, click.written? = some text ∧ read text = .ok click :=
  ⟨fun _ _ => readParts_eq_ok_iff, fun _ => read_written⟩

/-- The year of a leap day has five digits and a sign. -/
theorem click_spelled_farYear :
    ∃ date : Date, date.year = 12024 ∧ date.month = 2 ∧ date.day = 29 ∧
      read "pick:7:+12024-02-29" = .ok (.pick 7 date) := by
  let date : Date := ⟨12024, 2, 29, by decide⟩
  have wide : (Click.pick 7 date).InWidth := ⟨by decide, by decide +kernel⟩
  obtain ⟨text, shown, reads⟩ := click_spelled.2 (.pick 7 date) wide
  have written : (Click.pick 7 date).written? = some "pick:7:+12024-02-29" := by decide +kernel
  rw [written] at shown
  exact ⟨date, rfl, rfl, rfl, (Option.some.inj shown) ▸ reads⟩

end Click

end QuickFill
