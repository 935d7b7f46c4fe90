import QuickFill.Text.Interpolation
import Mathlib.Data.List.Infix

/-!
# Interpolation in one pass

A template is plain texts with slots between them, in exactly one way, and its slots are all the
places at which `%s` stands.  One pass puts the arguments between the plain texts, whatever the
arguments are.  A second pass goes on with the slots for which the first one had no arguments, as
long as the texts and arguments before them make no slot at their seams.
-/

namespace QuickFill

namespace Text

/-- The mark of a slot. -/
def slot : List Char := ['%', 's']

/-- No slot stands in a text. -/
def IsPlain (text : List Char) : Prop :=
  ¬ slot <:+: text

instance (text : List Char) : Decidable (IsPlain text) :=
  inferInstanceAs (Decidable (¬ slot <:+: text))

/-- The first place at which a slot stands, from a place on. -/
def IsNextSlot (text : List Char) (resumed place : Nat) : Prop :=
  resumed ≤ place ∧ slot <+: text.drop place ∧
    ∀ earlier, resumed ≤ earlier → earlier < place → ¬ slot <+: text.drop earlier

/-- What is put into a slot: its argument, or the slot itself if there is none. -/
def replacement (arguments : List String) (index : Nat) : List Char :=
  (arguments[index]?.map String.toList).getD slot

/-- The texts behind slots, each with what is put into its slot before it. -/
def filling (arguments : List String) (pieces : List (List Char)) : List Char :=
  pieces.zipIdx.flatMap fun (piece, index) => replacement arguments index ++ piece

/-- Plain texts with slots between them. -/
@[ext]
structure Slotted where
  lead : List Char
  /-- For each slot the text behind it, up to the next slot. -/
  others : List (List Char)
  plain_lead : IsPlain lead
  plain_others : ∀ piece ∈ others, IsPlain piece

namespace Slotted

def text (template : Slotted) : List Char :=
  template.lead ++ template.others.flatMap (slot ++ ·)

def filled (template : Slotted) (arguments : List String) : List Char :=
  template.lead ++ filling arguments template.others

/-- The part of a template before the slot with an index. -/
def upTo (template : Slotted) (index : Nat) : Slotted where
  lead := template.lead
  others := template.others.take index
  plain_lead := template.plain_lead
  plain_others piece member := template.plain_others piece (List.mem_of_mem_take member)

/-- Where the slot with an index begins. -/
def start (template : Slotted) (index : Nat) : Nat :=
  (template.upTo index).text.length

/-- Where the search for the slot with an index begins: behind the slot before it. -/
def resumption (template : Slotted) : Nat → Nat
  | 0 => 0
  | index + 1 => template.start index + slot.length

end Slotted

variable {pieces taken : List (List Char)} {arguments first : List String}

/-! ### Fillings -/

theorem replacement_succ (arguments : List String) (index : Nat) :
    replacement arguments (index + 1) = replacement arguments.tail index := by
  rw [replacement, replacement, List.getElem?_tail]

theorem filling_cons (arguments : List String) (piece : List Char) (pieces : List (List Char)) :
    filling arguments (piece :: pieces) =
      replacement arguments 0 ++ (piece ++ filling arguments.tail pieces) := by
  rw [filling, List.zipIdx_cons, List.flatMap_cons, List.zipIdx_succ, List.flatMap_map,
    List.append_assoc]
  simp only [replacement_succ]
  rfl

theorem filling_cons_cons (argument : String) (arguments : List String) (piece : List Char)
    (pieces : List (List Char)) :
    filling (argument :: arguments) (piece :: pieces) =
      argument.toList ++ (piece ++ filling arguments pieces) :=
  filling_cons (argument :: arguments) piece pieces

/-- Slots without arguments are kept. -/
theorem filling_nil (pieces : List (List Char)) :
    filling [] pieces = pieces.flatMap (slot ++ ·) := by
  induction pieces with
  | nil => rfl
  | cons piece pieces ih =>
      rw [filling_cons, List.tail_nil, ih, List.flatMap_cons, List.append_assoc]
      rfl

/-- As many arguments as there are slots fill these, and those after them go on behind. -/
theorem filling_append (fits : first.length = taken.length) (second : List String)
    (left : List (List Char)) :
    filling (first ++ second) (taken ++ left) = filling first taken ++ filling second left := by
  induction taken generalizing first with
  | nil =>
      obtain rfl := List.length_eq_zero_iff.mp fits
      rfl
  | cons piece taken ih =>
      cases first with
      | nil => cases fits
      | cons argument first =>
          have inner := ih (Nat.succ.inj fits)
          rw [List.cons_append, List.cons_append, filling_cons_cons, filling_cons_cons, inner]
          simp only [List.append_assoc]

/-- Around the argument for a slot stands what does not depend on it. -/
theorem exists_filling_set {index : Nat} (indexed : index < arguments.length)
    (within : index < pieces.length) :
    ∃ before after, ∀ argument,
      filling (arguments.set index argument) pieces = before ++ (argument.toList ++ after) := by
  induction index generalizing arguments pieces with
  | zero =>
      obtain ⟨old, arguments, rfl⟩ := List.exists_cons_of_length_pos indexed
      obtain ⟨piece, pieces, rfl⟩ := List.exists_cons_of_length_pos within
      exact ⟨[], piece ++ filling arguments pieces, fun _ => filling_cons_cons _ _ _ _⟩
  | succ index ih =>
      obtain ⟨old, arguments, rfl⟩ := List.exists_cons_of_length_pos (Nat.zero_lt_of_lt indexed)
      obtain ⟨piece, pieces, rfl⟩ := List.exists_cons_of_length_pos (Nat.zero_lt_of_lt within)
      obtain ⟨before, after, around⟩ :=
        ih (Nat.lt_of_succ_lt_succ indexed) (Nat.lt_of_succ_lt_succ within)
      refine ⟨old.toList ++ (piece ++ before), after, fun argument => ?_⟩
      rw [List.set_cons_succ, filling_cons_cons, around]
      simp only [List.append_assoc]

theorem filling_take (enough : pieces.length ≤ arguments.length) :
    filling arguments pieces = filling (arguments.take pieces.length) pieces := by
  have split := filling_append (List.length_take_of_le enough) (arguments.drop pieces.length) []
  have nothing : filling (arguments.drop pieces.length) [] = [] := rfl
  rwa [List.take_append_drop, List.append_nil, nothing, List.append_nil] at split

/-- Surplus arguments are not looked at. -/
theorem filling_surplus (enough : pieces.length ≤ arguments.length) (more : List String) :
    filling (arguments ++ more) pieces = filling arguments pieces := by
  have still : pieces.length ≤ (arguments ++ more).length := by
    rw [List.length_append]
    omega
  rw [filling_take enough, filling_take still, List.take_append_of_le_length enough]

/-! ### Splitting at the slots -/

theorem slot_prefix_iff {text : List Char} : slot <+: text ↔ ∃ rest, text = '%' :: 's' :: rest :=
  exists_congr fun _ => eq_comm

namespace Slotted

/-- The template of no characters. -/
def empty : Slotted where
  lead := []
  others := []
  plain_lead := by decide
  plain_others := List.forall_mem_nil _

/-- A template behind one more character, which may open a slot with the text behind it. -/
def cons (character : Char) (template : Slotted) : Slotted :=
  if opens : slot <+: character :: template.lead then
    { lead := []
      others := template.lead.tail :: template.others
      plain_lead := by decide
      plain_others := List.forall_mem_cons.mpr
        ⟨fun found => template.plain_lead (found.trans (List.tail_suffix _).isInfix),
          template.plain_others⟩ }
  else
    { lead := character :: template.lead
      others := template.others
      plain_lead := fun found => (List.infix_cons_iff.mp found).elim opens template.plain_lead
      plain_others := template.plain_others }

/-- A text split at its slots. -/
def ofText (text : List Char) : Slotted :=
  text.foldr cons empty

/-- A template behind one more slot. -/
def behindSlot (template : Slotted) : Slotted where
  lead := []
  others := template.lead :: template.others
  plain_lead := by decide
  plain_others := List.forall_mem_cons.mpr ⟨template.plain_lead, template.plain_others⟩

variable {template other : Slotted} {character : Char} {lead : List Char}

theorem cons_of_opens (opens : slot <+: character :: template.lead) :
    (cons character template).lead = [] ∧
      (cons character template).others = template.lead.tail :: template.others := by
  rw [cons, dif_pos opens]
  exact ⟨rfl, rfl⟩

theorem cons_of_not_opens (closed : ¬ slot <+: character :: template.lead) :
    (cons character template).lead = character :: template.lead ∧
      (cons character template).others = template.others := by
  rw [cons, dif_neg closed]
  exact ⟨rfl, rfl⟩

theorem text_cons (character : Char) (template : Slotted) :
    (cons character template).text = character :: template.text := by
  by_cases opens : slot <+: character :: template.lead
  · obtain ⟨consLead, consOthers⟩ := cons_of_opens opens
    obtain ⟨rest, restEq⟩ := slot_prefix_iff.mp opens
    obtain ⟨rfl, leadEq⟩ := List.cons.inj restEq
    rw [text, text, consLead, consOthers, leadEq]
    rfl
  · obtain ⟨consLead, consOthers⟩ := cons_of_not_opens opens
    rw [text, text, consLead, consOthers, List.cons_append]

theorem text_ofText (text : List Char) : (ofText text).text = text := by
  induction text with
  | nil => rfl
  | cons character rest ih => exact (text_cons character _).trans (congrArg _ ih)

/-- A slot in front of a template stands by itself. -/
theorem cons_cons_slot (template : Slotted) :
    cons '%' (cons 's' template) = template.behindSlot := by
  have closed : ¬ slot <+: 's' :: template.lead := by
    intro opens
    obtain ⟨rest, restEq⟩ := slot_prefix_iff.mp opens
    cases restEq
  obtain ⟨innerLead, innerOthers⟩ := cons_of_not_opens closed
  have opens : slot <+: '%' :: (cons 's' template).lead :=
    slot_prefix_iff.mpr ⟨template.lead, congrArg _ innerLead⟩
  obtain ⟨outerLead, outerOthers⟩ := cons_of_opens opens
  rw [innerLead, innerOthers, List.tail_cons] at outerOthers
  exact Slotted.ext outerLead outerOthers

/-- Text in front of a template that makes no slot goes to the text before its first slot. -/
theorem foldr_cons_plain (plain : IsPlain (lead ++ template.lead)) :
    (lead.foldr cons template).lead = lead ++ template.lead ∧
      (lead.foldr cons template).others = template.others := by
  induction lead with
  | nil => exact ⟨rfl, rfl⟩
  | cons character lead ih =>
      obtain ⟨leadEq, othersEq⟩ := ih fun found => plain (List.infix_cons_iff.mpr (Or.inr found))
      have closed : ¬ slot <+: character :: (lead.foldr cons template).lead := by
        rw [leadEq]
        exact fun opens => plain opens.isInfix
      obtain ⟨consLead, consOthers⟩ := cons_of_not_opens closed
      rw [List.foldr_cons, consLead, consOthers, leadEq, othersEq]
      exact ⟨rfl, rfl⟩

/-- The plain texts are known from the whole text. -/
theorem ofText_text (template : Slotted) : ofText template.text = template := by
  obtain ⟨lead, others, plainLead, plainOthers⟩ := template
  induction others generalizing lead with
  | nil =>
      have plain : IsPlain (lead ++ empty.lead) := by rwa [empty, List.append_nil]
      obtain ⟨leadEq, othersEq⟩ := foldr_cons_plain plain
      rw [ofText, text, List.flatMap_nil, List.append_nil]
      exact Slotted.ext (leadEq.trans (List.append_nil lead)) othersEq
  | cons piece others ih =>
      obtain ⟨plainPiece, plainOthers⟩ := List.forall_mem_cons.mp plainOthers
      let next : Slotted := ⟨piece, others, plainPiece, plainOthers⟩
      have nextEq : ofText next.text = next := ih piece plainPiece plainOthers
      have textEq : lead ++ (piece :: others).flatMap (slot ++ ·) =
          lead ++ '%' :: 's' :: next.text := rfl
      have plain : IsPlain (lead ++ next.behindSlot.lead) := by
        rwa [behindSlot, List.append_nil]
      have split : ofText (lead ++ '%' :: 's' :: next.text) =
          lead.foldr cons (cons '%' (cons 's' (ofText next.text))) := List.foldr_append
      obtain ⟨leadEq, othersEq⟩ := foldr_cons_plain plain
      rw [text, textEq, split, nextEq, cons_cons_slot]
      exact Slotted.ext (leadEq.trans (List.append_nil lead)) othersEq

theorem text_injective (same : template.text = other.text) : template = other := by
  rw [← ofText_text template, same, ofText_text]

/-! ### Where the slots are -/

/-- Two templates with a slot between them. -/
def join (template other : Slotted) : Slotted where
  lead := template.lead
  others := template.others ++ other.lead :: other.others
  plain_lead := template.plain_lead
  plain_others := List.forall_mem_append.mpr
    ⟨template.plain_others, other.behindSlot.plain_others⟩

theorem text_join (template other : Slotted) :
    (template.join other).text = template.text ++ (slot ++ other.text) := by
  simp only [text, join, List.flatMap_append, List.flatMap_cons, List.append_assoc]

theorem upTo_join (template other : Slotted) :
    (template.join other).upTo template.others.length = template :=
  Slotted.ext rfl (List.take_left' rfl)

theorem upTo_upTo {earlier index : Nat} (before : earlier ≤ index) :
    (template.upTo index).upTo earlier = template.upTo earlier := by
  have others : (template.others.take index).take earlier = template.others.take earlier := by
    rw [List.take_take, Nat.min_eq_left before]
  exact Slotted.ext rfl others

theorem text_eq_upTo {index : Nat} (within : index < template.others.length) :
    ∃ after, template.text = (template.upTo index).text ++ (slot ++ after) := by
  obtain ⟨piece, rest, behind⟩ : ∃ piece rest, template.others.drop index = piece :: rest :=
    ⟨_, _, List.drop_eq_getElem_cons within⟩
  refine ⟨piece ++ rest.flatMap (slot ++ ·), ?_⟩
  rw [text, ← List.take_append_drop index template.others, behind]
  simp only [text, upTo, List.flatMap_append, List.flatMap_cons, List.append_assoc]

/-- Slots do not overlap. -/
theorem start_apart {earlier index : Nat} (before : earlier < index)
    (within : index ≤ template.others.length) :
    template.start earlier + slot.length ≤ template.start index := by
  have earlierWithin : earlier < (template.upTo index).others.length := by
    rw [upTo, List.length_take_of_le within]
    exact before
  obtain ⟨after, textEq⟩ := text_eq_upTo earlierWithin
  rw [upTo_upTo before.le] at textEq
  rw [start, start, textEq, List.length_append, List.length_append]
  omega

/-- Wherever a slot stands, the template has one of its slots: what is before it and what is
behind it are split on their own, and both together are a split of the whole. -/
theorem exists_start_eq {before after : List Char}
    (textEq : template.text = before ++ (slot ++ after)) :
    ∃ index < template.others.length, template.start index = before.length := by
  obtain rfl : template = (ofText before).join (ofText after) := by
    apply text_injective
    rw [text_join, text_ofText, text_ofText, textEq]
  refine ⟨(ofText before).others.length, ?_, ?_⟩
  · rw [join, List.length_append, List.length_cons]
    omega
  · rw [start, upTo_join, text_ofText]

theorem slot_prefix_drop_iff (template : Slotted) (place : Nat) :
    slot <+: template.text.drop place ↔
      ∃ index < template.others.length, template.start index = place := by
  constructor
  · rintro ⟨after, found⟩
    have reached : place ≤ template.text.length := by
      have lengths := congrArg List.length found
      rw [List.length_append, List.length_drop] at lengths
      have marked : slot.length = 2 := rfl
      omega
    have textEq : template.text = template.text.take place ++ (slot ++ after) := by
      rw [found, List.take_append_drop]
    obtain ⟨index, within, startEq⟩ := exists_start_eq textEq
    exact ⟨index, within, startEq.trans (List.length_take_of_le reached)⟩
  · rintro ⟨index, within, rfl⟩
    obtain ⟨after, textEq⟩ := text_eq_upTo within
    rw [start, textEq, List.drop_left]
    exact List.prefix_append slot after

/-- The slots are found from left to right, each as the first one behind those before it. -/
theorem isNextSlot_start {index : Nat} (within : index < template.others.length) :
    IsNextSlot template.text (template.resumption index) (template.start index) := by
  refine ⟨?_, (slot_prefix_drop_iff template _).mpr ⟨index, within, rfl⟩, ?_⟩
  · cases index with
    | zero => exact Nat.zero_le _
    | succ index => exact start_apart index.lt_succ_self within.le
  · intro place resumed before found
    obtain ⟨other, otherWithin, rfl⟩ := (slot_prefix_drop_iff template place).mp found
    have marked : slot.length = 2 := rfl
    rcases Nat.lt_trichotomy other index with less | rfl | more
    · obtain ⟨index, rfl⟩ := Nat.exists_eq_succ_of_ne_zero (Nat.ne_zero_of_lt less)
      have behind : template.start other ≤ template.start index := by
        rcases Nat.lt_succ_iff_lt_or_eq.mp less with less | rfl
        · have apart := start_apart less (Nat.le_of_succ_le within.le)
          omega
        · exact le_rfl
      rw [resumption] at resumed
      omega
    · exact Nat.lt_irrefl _ before
    · have apart := start_apart more otherWithin.le
      omega

/-! ### One pass -/

theorem filled_behindSlot (template : Slotted) (arguments : List String) :
    template.behindSlot.filled arguments =
      replacement arguments 0 ++ template.filled arguments.tail :=
  filling_cons arguments template.lead template.others

theorem filled_cons (closed : ¬ slot <+: character :: template.lead) (arguments : List String) :
    (cons character template).filled arguments = character :: template.filled arguments := by
  obtain ⟨consLead, consOthers⟩ := cons_of_not_opens closed
  rw [filled, filled, consLead, consOthers, List.cons_append]

/-- A character that opens a slot with the plain text behind it does so with all the text there. -/
theorem slot_prefix_text (opens : slot <+: character :: template.lead) :
    slot <+: character :: template.text := by
  refine opens.trans ?_
  rw [text, ← List.cons_append]
  exact List.prefix_append _ _

theorem fillSlots_eq (text : List Char) (arguments : List String) :
    fillSlots text arguments = (ofText text).filled arguments := by
  fun_induction fillSlots text arguments with
  | case1 rest argument more ih =>
      have split : ofText ('%' :: 's' :: rest) = (ofText rest).behindSlot := cons_cons_slot _
      rw [split, filled_behindSlot, ih]
      rfl
  | case2 rest ih =>
      have split : ofText ('%' :: 's' :: rest) = (ofText rest).behindSlot := cons_cons_slot _
      rw [split, filled_behindSlot, ih]
      rfl
  | case3 character rest arguments noArgument noSlot ih =>
      have closed : ¬ slot <+: character :: (ofText rest).lead := by
        intro opens
        have whole := slot_prefix_text opens
        rw [text_ofText] at whole
        obtain ⟨after, textEq⟩ := slot_prefix_iff.mp whole
        obtain ⟨rfl, rfl⟩ := List.cons.inj textEq
        cases arguments with
        | nil => exact noSlot after rfl rfl rfl
        | cons argument more => exact noArgument after argument more rfl rfl rfl
      exact (congrArg _ ih).trans (filled_cons closed arguments).symm
  | case4 arguments => rfl

/-- One pass leaves the plain texts, and puts the arguments between them. -/
theorem fillSlots_text (template : Slotted) (arguments : List String) :
    fillSlots template.text arguments = template.filled arguments := by
  rw [fillSlots_eq, ofText_text]

/-! ### Another pass -/

/-- Arguments for the first slots fill the part before the next slot, and those after them go on
from there. -/
theorem filled_append (within : first.length ≤ template.others.length) (second : List String) :
    template.filled (first ++ second) = (template.upTo first.length).filled first ++
      filling second (template.others.drop first.length) := by
  have fits : first.length = (template.others.take first.length).length :=
    (List.length_take_of_le within).symm
  have split := filling_append fits second (template.others.drop first.length)
  rw [List.take_append_drop] at split
  rw [filled, filled, upTo, split, List.append_assoc]

/-- What the first pass leaves to the second, when it makes no slot of its own. -/
def remaining (template : Slotted) (arguments : List String)
    (plain : IsPlain ((template.upTo arguments.length).filled arguments)) : Slotted where
  lead := (template.upTo arguments.length).filled arguments
  others := template.others.drop arguments.length
  plain_lead := plain
  plain_others piece member := template.plain_others piece (List.mem_of_mem_drop member)

theorem text_remaining (within : arguments.length ≤ template.others.length)
    (plain : IsPlain ((template.upTo arguments.length).filled arguments)) :
    (template.remaining arguments plain).text = template.filled arguments := by
  have filledEq := filled_append within []
  rw [List.append_nil, filling_nil] at filledEq
  exact filledEq.symm

theorem fillSlots_filled (within : first.length ≤ template.others.length)
    (plain : IsPlain ((template.upTo first.length).filled first)) (second : List String) :
    fillSlots (template.filled first) second = template.filled (first ++ second) := by
  rw [← text_remaining within plain, fillSlots_text]
  exact (filled_append within second).symm

end Slotted

theorem toList_interpolate (template : String) (arguments : List String) :
    (interpolate template arguments).toList =
      (Slotted.ofText template.toList).filled arguments := by
  rw [interpolate, String.toList_ofList, Slotted.fillSlots_eq]

/-- How a template is split at its slots, and what interpolation makes of it. -/
structure OnePass (template : String) (slotted : Slotted) : Prop where
  /-- There is one way to split the template. -/
  split : ∀ other : Slotted, other.text = template.toList ↔ other = slotted
  /-- A slot stands wherever the split has one, and nowhere else. -/
  slots : ∀ place, slot <+: template.toList.drop place ↔
    ∃ index < slotted.others.length, slotted.start index = place
  /-- Each slot is the first one behind those before it. -/
  leftmost : ∀ index < slotted.others.length,
    IsNextSlot template.toList (slotted.resumption index) (slotted.start index)
  /-- The arguments are put between the plain texts, and slots without arguments are kept. -/
  filled : ∀ arguments, (interpolate template arguments).toList = slotted.filled arguments
  /-- An argument is not looked at, whatever it makes together with the texts around it. -/
  verbatim : ∀ (arguments : List String) (index : Nat), index < arguments.length →
    index < slotted.others.length → ∃ before after : String, ∀ argument,
      interpolate template (arguments.set index argument) = before ++ argument ++ after
  surplus : ∀ arguments more : List String, slotted.others.length ≤ arguments.length →
    interpolate template (arguments ++ more) = interpolate template arguments
  /-- Two passes with some arguments each are one pass with all of them, when the first pass has
  made no slot in what it has filled. -/
  twoPasses : ∀ first second : List String, first.length ≤ slotted.others.length →
    IsPlain ((slotted.upTo first.length).filled first) →
      interpolate (interpolate template first) second = interpolate template (first ++ second)

/-- Interpolation goes once through its template, from left to right. -/
theorem interpolate_onePass (template : String) :
    OnePass template (Slotted.ofText template.toList) where
  split other := by
    constructor
    · intro same
      exact Slotted.text_injective (same.trans (Slotted.text_ofText _).symm)
    · rintro rfl
      exact Slotted.text_ofText _
  slots place := by
    have found := Slotted.slot_prefix_drop_iff (Slotted.ofText template.toList) place
    rwa [Slotted.text_ofText] at found
  leftmost index within := by
    have next := Slotted.isNextSlot_start within
    rwa [Slotted.text_ofText] at next
  filled := toList_interpolate template
  verbatim arguments index indexed within := by
    obtain ⟨before, after, around⟩ := exists_filling_set indexed within
    refine ⟨String.ofList ((Slotted.ofText template.toList).lead ++ before),
      String.ofList after, fun argument => ?_⟩
    apply String.toList_inj.mp
    rw [toList_interpolate, Slotted.filled, around]
    simp only [String.toList_append, String.toList_ofList, List.append_assoc]
  surplus arguments more enough := by
    apply String.toList_inj.mp
    rw [toList_interpolate, toList_interpolate, Slotted.filled, Slotted.filled,
      filling_surplus enough]
  twoPasses first second within plain := by
    apply String.toList_inj.mp
    rw [interpolate, String.toList_ofList, toList_interpolate, toList_interpolate,
      Slotted.fillSlots_filled within plain]

/-- The second pass takes the slots that the template had, and not the one that its own argument
makes at a seam. -/
theorem onePass_seam :
    ["%"].length ≤ (Slotted.ofText "a%s%%sb%s".toList).others.length ∧
      IsPlain (((Slotted.ofText "a%s%%sb%s".toList).upTo 1).filled ["%"]) ∧
      interpolate (interpolate "a%s%%sb%s" ["%"]) ["s", "x"] =
        interpolate "a%s%%sb%s" ["%", "s", "x"] :=
  have within : ["%"].length ≤ (Slotted.ofText "a%s%%sb%s".toList).others.length := by decide
  have plain : IsPlain (((Slotted.ofText "a%s%%sb%s".toList).upTo 1).filled ["%"]) := by decide
  ⟨within, plain, (interpolate_onePass "a%s%%sb%s").twoPasses ["%"] ["s", "x"] within plain⟩

-- A slot that the first pass makes at a seam is left as it is, and a second pass would fill it.
example : interpolate "%%ss" ["", "x"] = "%s" ∧
    interpolate (interpolate "%%ss" [""]) ["x"] = "x" := by
  decide

end Text

end QuickFill
