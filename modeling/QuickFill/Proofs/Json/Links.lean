import QuickFill.Proofs.Json.Records
import QuickFill.Proofs.Number.Overflow

/-!
# Links that survive being written

A link is held until its kind is known, wherever the kind stands among its members.  So what
its other members have has to be something that can be held; then the link is decoded from
every object that presents it, and so is a span with a link.
-/

namespace QuickFill

open Json

namespace QuickLink

def tag : QuickLink → Tag
  | .clockNow _ _ => .clockNow
  | .calendarDay _ _ => .calendarDay

/-- The members of a link beside its kind. -/
def ownParts : QuickLink → List Part
  | .clockNow handle template =>
    [.exact "handle" (.ofNat handle) false, .exact "format" (.string template) false]
  | .calendarDay handle days =>
    [.exact "handle" (.ofNat handle) false, .exact "day_offset" (.ofInt days) false]

def parts (link : QuickLink) : List Part :=
  .exact "kind" (.string link.tag.name) false :: link.ownParts

/-- A presentation of a link that may be held up to a depth. -/
def PresentedWithin (limit : Nat) (link : QuickLink) : Json → Prop :=
  Presentation (fun value => isHeld limit value = true) link.parts

def Presented : QuickLink → Json → Prop :=
  PresentedWithin depthLimit

/-- The handle is a number of 64 bits, and so are the days. -/
def InWidth : QuickLink → Prop
  | .clockNow handle _ => handle ≤ greatestNat64
  | .calendarDay handle days =>
    handle ≤ greatestNat64 ∧ leastInt64 ≤ days ∧ days ≤ greatestInt64

theorem presented_toJson (limit : Nat) (link : QuickLink) :
    link.PresentedWithin limit link.toJson := by
  cases link <;> exact ⟨_, rfl, .given rfl <| .given rfl <| .given rfl .nil⟩

theorem ofJson_tag (link : QuickLink) : Tag.ofJson (.string link.tag.name) = .ok link.tag := by
  cases link <;> rfl

/-! ### What can be held -/

theorem isHeld_string {limit : Nat} (deep : 0 < limit) (text : String) :
    isHeld limit (.string text) = true := by
  simp [isHeld, isKept, isComplete, nodes, isFinished, isVoid, hasUnnamed, depth, deep]

/-- Numbers of 64 bits can be held, with a sign or without. -/
theorem isHeld_ofInt {limit : Nat} (deep : 0 < limit) {number : Int}
    (within : number.natAbs ≤ greatestNat64) : isHeld limit (.ofInt number) = true := by
  have notTooLarge : (Decimal.ofInt number).isTooLarge = false :=
    Decimal.isTooLarge_eq_false within _
  simp [isHeld, isKept, isComplete, nodes, isFinished, isVoid, hasUnnamed, depth, deep, ofInt,
    notTooLarge]

def areHeld (limit : Nat) (members : List (String × Json)) : Bool :=
  members.all fun member => isHeld limit member.2

theorem areHeld_cons (limit : Nat) (member : String × Json) (rest : List (String × Json)) :
    areHeld limit (member :: rest) = (isHeld limit member.2 && areHeld limit rest) :=
  rfl

theorem isHeld_of_stands {limit : Nat} (deep : 0 < limit) {link : QuickLink}
    (inWidth : link.InWidth) :
    ∀ part ∈ link.parts, ∀ value, part.stands value → isHeld limit value = true := by
  cases link with
  | clockNow handle template =>
      have handleHeld : isHeld limit (.ofNat handle) = true := isHeld_ofInt deep inWidth
      simp only [parts, ownParts, Part.exact, List.forall_mem_cons, forall_eq]
      exact ⟨isHeld_string deep _, handleHeld, isHeld_string deep _, fun _ none => nomatch none⟩
  | calendarDay handle days =>
      obtain ⟨handleWithin, above, below⟩ := inWidth
      have handleHeld : isHeld limit (.ofNat handle) = true := isHeld_ofInt deep handleWithin
      have daysWithin : days.natAbs ≤ greatestNat64 := by
        simp only [leastInt64, greatestInt64, greatestNat64] at above below ⊢
        omega
      simp only [parts, ownParts, Part.exact, List.forall_mem_cons, forall_eq]
      exact ⟨isHeld_string deep _, handleHeld, isHeld_ofInt deep daysWithin,
        fun _ none => nomatch none⟩

/-! ### Splitting off the kind -/

/-- The members beside the kind. -/
def others (members : List (String × Json)) : List (String × Json) :=
  members.filter fun member => member.1 != "kind"

theorem areHeld_others {limit : Nat} (deep : 0 < limit) {members : List (String × Json)}
    {text : String} (tagged : called "kind" members = [("kind", .string text)]) :
    areHeld limit (others members) = areHeld limit members := by
  rw [Bool.eq_iff_iff, areHeld, areHeld, List.all_eq_true, List.all_eq_true]
  constructor
  · intro held member isMember
    by_cases isKind : member.1 = "kind"
    · have isCalled : member ∈ called "kind" members :=
        List.mem_filter.mpr ⟨isMember, by simpa using isKind⟩
      rw [tagged, List.mem_singleton] at isCalled
      rw [isCalled]
      exact isHeld_string deep text
    · exact held member (List.mem_filter.mpr ⟨isMember, by simpa using isKind⟩)
  · exact fun held member isOther => held member (List.mem_filter.mp isOther).1

/-- Members without a kind are kept as they are, if each of them can be held. -/
theorem splitTag_untagged {limit : Nat} {members : List (String × Json)}
    (untagged : called "kind" members = []) (tag : Option Tag) :
    splitTag limit true tag (members.map fun member => (some member.1, member.2)) =
      if areHeld limit members then .ok (tag, members) else .error .malformed := by
  induction members with
  | nil => rfl
  | cons member rest ih =>
      rw [called_eq_nil] at untagged
      have isOther := untagged member List.mem_cons_self
      have restUntagged := called_eq_nil.mpr
        fun other isMember => untagged other (List.mem_cons_of_mem _ isMember)
      rw [List.map_cons, splitTag, if_neg isOther, ih restUntagged, areHeld_cons]
      cases isHeld limit member.2 with
      | false => rfl
      | true => cases areHeld limit rest <;> rfl

/-- The one member with the kind is taken out, wherever it stands. -/
theorem splitTag_tagged {limit : Nat} {members : List (String × Json)} {value : Json} {tag : Tag}
    (tagged : called "kind" members = [("kind", value)]) (isTag : Tag.ofJson value = .ok tag) :
    splitTag limit true none (members.map fun member => (some member.1, member.2)) =
      if areHeld limit (others members) then .ok (some tag, others members)
      else .error .malformed := by
  induction members with
  | nil => cases tagged
  | cons member rest ih =>
      obtain ⟨name, found⟩ := member
      rw [List.map_cons, splitTag]
      by_cases isKind : name = "kind"
      · subst isKind
        rw [called_cons_self] at tagged
        obtain ⟨same, untagged⟩ := List.cons.inj tagged
        obtain ⟨-, rfl⟩ := Prod.mk.inj same
        have kept : others (("kind", found) :: rest) = rest := by
          rw [others, List.filter_cons_of_neg (by simp)]
          exact List.filter_eq_self.mpr fun other isMember => by
            simpa using called_eq_nil.mp untagged other isMember
        simp only [isTag, kept]
        exact splitTag_untagged untagged (some tag)
      · rw [called_cons_of_ne isKind] at tagged
        have kept : others ((name, found) :: rest) = (name, found) :: others rest :=
          List.filter_cons_of_pos (by simpa using isKind)
        rw [if_neg isKind, ih tagged, kept, areHeld_cons]
        cases isHeld limit found with
        | false => rfl
        | true => cases areHeld limit (others rest) <;> rfl

/-! ### Decoding a link -/

theorem nodup_parts (link : QuickLink) : (link.parts.map Part.name).Nodup := by
  cases link <;> simp [parts, ownParts, Part.exact]

/-- What gives a link gives the members beside its kind when the kind is taken out. -/
theorem gives_others {link : QuickLink} {members : List (String × Json)}
    (gives : Gives link.parts members) : Gives link.ownParts (others members) := by
  have notKind : ∀ part ∈ link.ownParts, part.name ≠ "kind" := by
    cases link <;> simp [ownParts, Part.exact]
  intro part isPart
  have same : called part.name (others members) = called part.name members :=
    called_filter fun member named => by simpa [named] using notKind part isPart
  rw [same]
  exact gives part (List.mem_cons_of_mem _ isPart)

theorem ofKept_gives {link : QuickLink} (inWidth : link.InWidth)
    {members : List (String × Json)} (gives : Gives link.ownParts members)
    (complete : ∀ member ∈ members, member.2.isComplete = true) :
    ofKept link.tag (.ofMembers members) = .ok link := by
  have unknownComplete := fun member isMember
    (_ : member.1 ∉ (shape link.tag).map Prod.fst) => complete member isMember
  cases link with
  | clockNow handle template =>
      have decodes : handleOfJson (.ofNat handle) = .ok handle := asNat_ofNat inWidth
      have fits : Fits (shape .clockNow) (clockNow handle template).ownParts :=
        .cons (fitsPart_exact decodes) <| .cons (fitsPart_exact rfl) .nil
      obtain ⟨fields, recordEq, found⟩ := gives.asRecord fits unknownComplete
      have handleEq : required fields "handle" handleOfJson = .ok handle :=
        found.required_exact (by simp [ownParts]) decodes
      have templateEq : required fields "format" asText = .ok template :=
        found.required_text (by simp [ownParts])
      simp only [ofKept, ofFields, tag, recordEq, handleEq, templateEq, ok_bind]
      rfl
  | calendarDay handle days =>
      have decodes : handleOfJson (.ofNat handle) = .ok handle := asNat_ofNat inWidth.1
      have daysDecode := asInt_ofInt inWidth.2.1 inWidth.2.2
      have fits : Fits (shape .calendarDay) (calendarDay handle days).ownParts :=
        .cons (fitsPart_exact decodes) <| .cons (fitsPart_exact daysDecode) .nil
      obtain ⟨fields, recordEq, found⟩ := gives.asRecord fits unknownComplete
      have handleEq : required fields "handle" handleOfJson = .ok handle :=
        found.required_exact (by simp [ownParts]) decodes
      have daysEq : required fields "day_offset" (asInt leastInt64 greatestInt64) = .ok days :=
        found.required_exact (by simp [ownParts]) daysDecode
      simp only [ofKept, ofFields, tag, recordEq, handleEq, daysEq, ok_bind]
      rfl

/-- A link is decoded from members that give it when all of them can be held; when one
cannot, the text is taken for one that is not JSON. -/
theorem ofJsonWithin_presents {limit : Nat} (deep : 0 < limit) {link : QuickLink}
    (inWidth : link.InWidth) {allowed : Json → Prop} {members : List (String × Json)}
    (presents : Presents (link.parts.map Part.name) allowed link.parts members) :
    ofJsonWithin limit (.ofMembers members) =
      if areHeld limit members then .ok link else .error .malformed := by
  have gives := presents.gives (List.Subset.refl _) link.nodup_parts
  have tagged : called "kind" members = [("kind", .string link.tag.name)] := by
    rcases gives _ List.mem_cons_self with ⟨value, rfl, once⟩ | ⟨isSpared, -⟩
    · exact once
    · cases isSpared
  rw [ofMembers, ofJsonWithin, splitTag_tagged tagged link.ofJson_tag, areHeld_others deep tagged]
  cases held : areHeld limit members with
  | false => rfl
  | true =>
      refine ofKept_gives inWidth (gives_others gives) fun member isOther => ?_
      have isHeld := List.all_eq_true.mp held member (List.mem_filter.mp isOther).1
      rw [QuickLink.isHeld, isKept, Bool.and_eq_true, Bool.and_eq_true] at isHeld
      exact isHeld.1.1

theorem ofJsonWithin_presented {limit : Nat} (deep : 0 < limit) {link : QuickLink}
    (inWidth : link.InWidth) {value : Json} (presented : link.PresentedWithin limit value) :
    ofJsonWithin limit value = .ok link := by
  obtain ⟨members, rfl, presents⟩ := presented
  have held : areHeld limit members = true :=
    List.all_eq_true.mpr (presents.forall_value (isHeld_of_stands deep inWidth) fun _ held => held)
  rw [ofJsonWithin_presents deep inWidth presents, held]
  rfl

end QuickLink

namespace Shortcut

def parts (shortcut : Shortcut) : List Part :=
  [.exact "container_class" (.string shortcut.spanClass) false,
    .exact "label" (.string shortcut.label) false,
    { name := "action"
      stands := shortcut.action.PresentedWithin (QuickLink.depthLimit - 1)
      isSpared := false }]

def Presented (shortcut : Shortcut) : Json → Prop :=
  Presentation Ignored shortcut.parts

theorem presented_toJson (shortcut : Shortcut) : shortcut.Presented shortcut.toJson :=
  ⟨_, rfl, .given rfl <| .given rfl <| .given (shortcut.action.presented_toJson _) .nil⟩

theorem ofJson_presented {shortcut : Shortcut} (inWidth : shortcut.action.InWidth) {value : Json}
    (presented : shortcut.Presented value) : ofJson value = .ok shortcut := by
  have decodes : ∀ value, shortcut.action.PresentedWithin (QuickLink.depthLimit - 1) value →
      asAction value = .ok shortcut.action :=
    fun _ => QuickLink.ofJsonWithin_presented (by decide) inWidth
  have fits : Fits shape shortcut.parts :=
    .cons (fitsPart_exact rfl) <| .cons (fitsPart_exact rfl) <|
      .cons (fitsPart_field _ decodes) .nil
  obtain ⟨fields, recordEq, found⟩ :=
    presented.asRecord (fun _ complete => complete) fits (by decide)
  have spanClass : required fields "container_class" asText = .ok shortcut.spanClass :=
    found.required_text (by simp [parts])
  have label : required fields "label" asText = .ok shortcut.label :=
    found.required_text (by simp [parts])
  have action : required fields "action" asAction = .ok shortcut.action :=
    found.required
      (List.mem_cons_of_mem _ (List.mem_cons_of_mem _ List.mem_cons_self)) rfl decodes
  simp only [ofJson, recordEq, spanClass, label, action, ok_bind]
  rfl

end Shortcut

end QuickFill
