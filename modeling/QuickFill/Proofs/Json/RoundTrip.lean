import QuickFill.Proofs.Json.Links
import QuickFill.Proofs.Json.Written

/-!
# Values that survive being written

Settings, links, the spans around them, notes, described pages, handles, kinds of links and
gaps between clocks are decoded from their own texts, and from every text that presents the
same fields.
-/

namespace QuickFill

namespace Json

theorem decodeText_eq {α : Type} {ofJson : Json → Decoded α} {text : String} {value : Json}
    (reads : read text.toList = (value, true)) : decodeText ofJson text = ofJson value := by
  rw [decodeText, reads]
  cases decoded : ofJson value <;> simp [decoded]

theorem read_writeText {value : Json} (writable : value.isWritable = true) :
    read value.writeText.toList = (value, true) := by
  rw [writeText, String.toList_ofList, read_write writable]

/-- A value is decoded from its own text and from every other text that presents it. -/
structure RoundTrips {α : Type} (ofJson : Json → Decoded α) (Presented : Json → Prop)
    (json : Json) (value : α) : Prop where
  encoded : decodeText ofJson json.writeText = .ok value
  itself : Presented json
  presented : ∀ found, Presented found → ∀ text : String, read text.toList = (found, true) →
    decodeText ofJson text = .ok value
  written : ∀ found, Presented found → found.isWritable = true →
    decodeText ofJson found.writeText = .ok value

theorem roundTrips {α : Type} {ofJson : Json → Decoded α} {Presented : Json → Prop}
    {json : Json} {value : α} (itself : Presented json) (writable : json.isWritable = true)
    (decodes : ∀ found, Presented found → ofJson found = .ok value) :
    RoundTrips ofJson Presented json value := by
  have presented (found : Json) (isPresented : Presented found) (text : String)
      (reads : read text.toList = (found, true)) : decodeText ofJson text = .ok value := by
    rw [decodeText_eq reads, decodes found isPresented]
  have written (found : Json) (isPresented : Presented found)
      (isWritable : found.isWritable = true) : decodeText ofJson found.writeText = .ok value :=
    presented found isPresented _ (read_writeText isWritable)
  exact ⟨written json itself writable, itself, presented, written⟩

/-! ### What is written can be read -/

theorem isWritable_settings (settings : Settings) : settings.toJson.isWritable = true := by
  simp [Settings.toJson, ofNat]

@[simp]
theorem isWritable_link (link : QuickLink) : link.toJson.isWritable = true := by
  cases link <;> simp [QuickLink.toJson, ofNat]

theorem isWritable_shortcut (shortcut : Shortcut) : shortcut.toJson.isWritable = true := by
  simp [Shortcut.toJson]

theorem isWritable_note (note : Note) : note.toJson.isWritable = true := by
  simp [Note.toJson]

@[simp]
theorem isWritable_field (described : FieldFixture) : described.toJson.isWritable = true := by
  simp [FieldFixture.toJson]

theorem isWritable_page (page : PageFixture) : page.toJson.isWritable = true := by
  simp [PageFixture.toJson]

theorem isWritable_gap (gap : ZoneGap) : gap.toJson.isWritable = true := by
  simp [ZoneGap.toJson]

/-! ### All of them -/

/-- Whatever is written is decoded again, from its own text and from every text that presents
it; a link that is presented among other members is decoded just when all of them can be held. -/
theorem round_trips :
    (∀ settings : Settings, settings.InWidth →
      RoundTrips Settings.ofJson settings.Presented settings.toJson settings) ∧
    (∀ link : QuickLink, link.InWidth →
      RoundTrips QuickLink.ofJson link.Presented link.toJson link) ∧
    (∀ shortcut : Shortcut, shortcut.action.InWidth →
      RoundTrips Shortcut.ofJson shortcut.Presented shortcut.toJson shortcut) ∧
    (∀ note : Note, RoundTrips Note.ofJson note.Presented note.toJson note) ∧
    (∀ page : PageFixture, RoundTrips PageFixture.ofJson page.Presented page.toJson page) ∧
    (∀ described : FieldFixture,
      RoundTrips FieldFixture.ofJson described.Presented described.toJson described) ∧
    (∀ handle : Nat, handle ≤ greatestNat64 →
      RoundTrips handleOfJson (· = .ofNat handle) (.ofNat handle) handle) ∧
    (∀ kind : LinkKind,
      RoundTrips LinkKind.ofJson (· = .string kind.name) (.string kind.name) kind) ∧
    (∀ gap : ZoneGap, gap.InWidth → RoundTrips ZoneGap.ofJson gap.Presented gap.toJson gap) ∧
    ∀ (link : QuickLink) (members : List (String × Json)) (text : String), link.InWidth →
      Presents (link.parts.map Part.name) Ignored link.parts members →
        read text.toList = (.ofMembers members, true) →
          decodeText QuickLink.ofJson text =
            if QuickLink.areHeld QuickLink.depthLimit members then .ok link
            else .error .malformed := by
  refine ⟨?settings, ?link, ?shortcut, ?note, ?page, ?described, ?handle, ?kind, ?gap, ?exact⟩
  case settings =>
    exact fun settings inWidth => roundTrips settings.presented_toJson
      (isWritable_settings settings) fun _ => Settings.ofJson_presented inWidth
  case link =>
    exact fun link inWidth => roundTrips (link.presented_toJson _) (isWritable_link link)
      fun _ => QuickLink.ofJsonWithin_presented (by decide) inWidth
  case shortcut =>
    exact fun shortcut inWidth => roundTrips shortcut.presented_toJson
      (isWritable_shortcut shortcut) fun _ => Shortcut.ofJson_presented inWidth
  case note =>
    exact fun note => roundTrips note.presented_toJson (isWritable_note note)
      fun _ => Note.ofJson_presented
  case page =>
    exact fun page => roundTrips page.presented_toJson (isWritable_page page)
      fun _ => PageFixture.ofJson_presented
  case described =>
    exact fun described => roundTrips described.presented_toJson (isWritable_field described)
      fun _ => FieldFixture.ofJson_presented
  case handle =>
    intro handle within
    refine roundTrips rfl (isWritable_ofInt _) ?_
    rintro _ rfl
    exact asNat_ofNat within
  case kind =>
    intro kind
    refine roundTrips rfl (isWritable_string _) ?_
    rintro _ rfl
    cases kind <;> rfl
  case gap =>
    exact fun gap inWidth => roundTrips gap.presented_toJson (isWritable_gap gap)
      fun _ => ZoneGap.ofJson_presented inWidth
  case exact =>
    intro link members text inWidth presents reads
    rw [decodeText_eq reads]
    exact QuickLink.ofJsonWithin_presents (by decide) inWidth presents

/-- Extreme handles, days and gaps, a link whose kind comes last, and settings without fields. -/
theorem round_trips_extremes :
    decodeText Settings.ofJson "\x7b\x7d" = .ok Settings.standard ∧
    decodeText QuickLink.ofJson
      (ofMembers [("day_offset", .ofInt leastInt64), ("extra", .null),
        ("handle", .ofNat greatestNat64), ("kind", .string "calendar_day")]).writeText =
      .ok (.calendarDay greatestNat64 leastInt64) ∧
    decodeText Shortcut.ofJson
      (Shortcut.toJson ⟨"datetimeshortcuts", "Now", .clockNow greatestNat64 "%H"⟩).writeText =
      .ok ⟨"datetimeshortcuts", "Now", .clockNow greatestNat64 "%H"⟩ ∧
    decodeText handleOfJson (ofNat greatestNat64).writeText = .ok greatestNat64 ∧
    decodeText ZoneGap.ofJson (ZoneGap.toJson ⟨leastInt32, true⟩).writeText =
      .ok ⟨leastInt32, true⟩ := by
  obtain ⟨settings, link, shortcut, -, -, -, handle, -, gap, -⟩ := round_trips
  refine ⟨?_, ?_, ?_, ?_, ?_⟩
  · exact (settings .standard (Nat.le_of_ble_eq_true rfl)).presented (.ofMembers [])
      ⟨[], rfl, .spared rfl <| .spared rfl <| .spared rfl <| .spared rfl <| .spared rfl <|
        .spared rfl <| .spared rfl <| .spared rfl <| .spared rfl <| .spared rfl <|
          .spared rfl .nil⟩ _ rfl
  · refine (link (.calendarDay greatestNat64 leastInt64)
      ⟨Nat.le_refl _, Int.le_refl _, by decide⟩).written _
      ⟨_, rfl, .permuted ?_ (List.reverse_perm _)⟩ rfl
    exact .given rfl <| .given rfl <| .other (by decide) rfl <| .given rfl .nil
  · exact (shortcut ⟨"datetimeshortcuts", "Now", .clockNow greatestNat64 "%H"⟩
      (Nat.le_refl greatestNat64)).encoded
  · exact (handle _ (Nat.le_refl _)).encoded
  · exact (gap _ ⟨Int.le_refl _, by decide⟩).encoded

/-- Arrays inside one another. -/
def nested : Nat → Json
  | 0 => .ofList []
  | depth + 1 => .ofList [nested depth]

/-- Members of a link with a member among them that is too deep. -/
def deepMembers : List (String × Json) :=
  [("kind", .string "calendar_day"), ("handle", .ofNat 0), ("day_offset", .ofInt 0),
    ("extra", nested 126)]

theorem deep_member_refused :
    Presents ((QuickLink.calendarDay 0 0).parts.map Part.name) Ignored
        (QuickLink.calendarDay 0 0).parts deepMembers ∧
      decodeText QuickLink.ofJson (ofMembers deepMembers).writeText = .error .malformed := by
  have complete : (nested 126).isComplete = true := by decide +kernel
  have writable : (ofMembers deepMembers).isWritable = true := by decide +kernel
  have refused : QuickLink.areHeld QuickLink.depthLimit deepMembers = false := by decide +kernel
  have presents : Presents ((QuickLink.calendarDay 0 0).parts.map Part.name) Ignored
      (QuickLink.calendarDay 0 0).parts deepMembers :=
    .given rfl <| .given rfl <| .given rfl <| .other (by decide) complete .nil
  have inWidth : (QuickLink.calendarDay 0 0).InWidth := ⟨by decide, by decide, by decide⟩
  refine ⟨presents, ?_⟩
  rw [decodeText_eq (read_writeText writable), QuickLink.ofJson,
    QuickLink.ofJsonWithin_presents (by decide) inWidth presents, refused]
  rfl

end Json

end QuickFill
