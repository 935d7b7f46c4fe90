import Mathlib.Data.List.Forall2
import Mathlib.Data.List.Nodup
import QuickFill.Json.Decode

/-!
# Presentations of records

An object gives the fields of a record in whatever order its members come, among members
that the record does not know, and without fields that have the value they get when they
are missing.  However it presents them, the record that is decoded from it has the same
fields.
-/

namespace QuickFill

namespace Json

/-- One field of a record, with the values that stand for it in an object. -/
structure Part where
  name : String
  stands : Json → Prop
  /-- Whether the field may be left out. -/
  isSpared : Bool

/-- A field that one value stands for. -/
def Part.exact (name : String) (value : Json) (isSpared : Bool) : Part where
  name := name
  stands found := found = value
  isSpared := isSpared

/-- The members of an object that give the parts of a record: in any order, without some that
may be left out, and among members with other names and allowed values. -/
inductive Presents (names : List String) (allowed : Json → Prop) :
    List Part → List (String × Json) → Prop
  | nil : Presents names allowed [] []
  | given {part : Part} {value : Json} {parts : List Part} {members : List (String × Json)} :
    part.stands value → Presents names allowed parts members →
      Presents names allowed (part :: parts) ((part.name, value) :: members)
  | spared {part : Part} {parts : List Part} {members : List (String × Json)} :
    part.isSpared = true → Presents names allowed parts members →
      Presents names allowed (part :: parts) members
  | other {name : String} {value : Json} {parts : List Part} {members : List (String × Json)} :
    name ∉ names → allowed value → Presents names allowed parts members →
      Presents names allowed parts ((name, value) :: members)
  | permuted {parts : List Part} {members others : List (String × Json)} :
    Presents names allowed parts members → members.Perm others →
      Presents names allowed parts others

/-! ### What members give -/

/-- The members with a name. -/
def called (name : String) (members : List (String × Json)) : List (String × Json) :=
  members.filter fun member => member.1 == name

theorem called_cons_self (name : String) (value : Json) (members : List (String × Json)) :
    called name ((name, value) :: members) = (name, value) :: called name members :=
  List.filter_cons_of_pos (by simp)

theorem called_cons_of_ne {name other : String} (differs : other ≠ name) (value : Json)
    (members : List (String × Json)) :
    called name ((other, value) :: members) = called name members :=
  List.filter_cons_of_neg (by simpa using differs)

theorem called_eq_nil {name : String} {members : List (String × Json)} :
    called name members = [] ↔ ∀ member ∈ members, member.1 ≠ name := by
  simp [called, List.filter_eq_nil_iff]

/-- A filter that keeps a name leaves the members with it. -/
theorem called_filter {name : String} {members : List (String × Json)}
    {holds : String × Json → Bool} (keeps : ∀ member, member.1 = name → holds member = true) :
    called name (members.filter holds) = called name members := by
  rw [called, List.filter_filter]
  apply List.filter_congr
  intro member _
  by_cases same : member.1 = name
  · simp [same, keeps member same]
  · simp [same]

theorem lookup_eq_called (name : String) (members : List (String × Json)) :
    members.lookup name = (called name members).head?.map Prod.snd := by
  induction members with
  | nil => rfl
  | cons member rest ih =>
      obtain ⟨other, value⟩ := member
      by_cases same : other = name
      · subst same
        rw [List.lookup_cons_self, called_cons_self]
        rfl
      · have differs : (name == other) = false := beq_eq_false_iff_ne.mpr (Ne.symm same)
        rw [List.lookup_cons, differs, called_cons_of_ne same, ← ih]

theorem isSome_lookup_iff {α : Type} {name : String} {listed : List (String × α)} :
    (listed.lookup name).isSome = true ↔ name ∈ listed.map Prod.fst := by
  constructor
  · intro isListed
    obtain ⟨value, found⟩ := Option.isSome_iff_exists.mp isListed
    obtain ⟨before, after, rfl, -⟩ := List.lookup_eq_some_iff.mp found
    simp
  · intro member
    obtain ⟨entry, isEntry, rfl⟩ := List.mem_map.mp member
    cases found : listed.lookup entry.1 with
    | some value => rfl
    | none =>
        have differs := List.lookup_eq_none_iff.mp found entry isEntry
        simp at differs

/-- The members give each part once, or leave it out where they may. -/
def Gives (parts : List Part) (members : List (String × Json)) : Prop :=
  ∀ part ∈ parts,
    (∃ value, part.stands value ∧ called part.name members = [(part.name, value)]) ∨
      part.isSpared = true ∧ called part.name members = []

variable {names : List String} {allowed : Json → Prop} {parts : List Part}
  {members : List (String × Json)}

theorem Presents.of_mem (presents : Presents names allowed parts members) :
    ∀ member ∈ members, (∃ part ∈ parts, part.name = member.1) ∨
      member.1 ∉ names ∧ allowed member.2 := by
  induction presents with
  | nil => exact fun _ none => (List.not_mem_nil none).elim
  | given stands _ ih =>
      intro member isMember
      rcases List.mem_cons.mp isMember with rfl | later
      · exact Or.inl ⟨_, List.mem_cons_self, rfl⟩
      · refine (ih member later).imp_left ?_
        rintro ⟨part, isPart, same⟩
        exact ⟨part, List.mem_cons_of_mem _ isPart, same⟩
  | spared _ _ ih =>
      intro member isMember
      refine (ih member isMember).imp_left ?_
      rintro ⟨part, isPart, same⟩
      exact ⟨part, List.mem_cons_of_mem _ isPart, same⟩
  | other unknown isAllowed _ ih =>
      intro member isMember
      rcases List.mem_cons.mp isMember with rfl | later
      · exact Or.inr ⟨unknown, isAllowed⟩
      · exact ih member later
  | permuted _ perm ih => exact fun member isMember => ih member (perm.mem_iff.mpr isMember)

/-- What holds of all that stands for a part and of all other values holds of each member. -/
theorem Presents.forall_value (presents : Presents names allowed parts members)
    {holds : Json → Prop} (stand : ∀ part ∈ parts, ∀ value, part.stands value → holds value)
    (others : ∀ value, allowed value → holds value) : ∀ member ∈ members, holds member.2 := by
  induction presents with
  | nil => exact fun _ none => (List.not_mem_nil none).elim
  | given stands _ ih =>
      obtain ⟨first, rest⟩ := List.forall_mem_cons.mp stand
      exact List.forall_mem_cons.mpr ⟨first _ stands, ih rest⟩
  | spared _ _ ih => exact ih (List.forall_mem_cons.mp stand).2
  | other _ isAllowed _ ih => exact List.forall_mem_cons.mpr ⟨others _ isAllowed, ih stand⟩
  | permuted _ perm ih => exact fun member isMember => ih stand member (perm.mem_iff.mpr isMember)

/-- A known name that no part has is not among the members. -/
theorem Presents.called_eq_nil (presents : Presents names allowed parts members) {name : String}
    (known : name ∈ names) (absent : name ∉ parts.map Part.name) : called name members = [] := by
  rw [Json.called_eq_nil]
  rintro member isMember rfl
  rcases presents.of_mem member isMember with ⟨part, isPart, same⟩ | ⟨unknown, -⟩
  · exact absent (same ▸ List.mem_map_of_mem isPart)
  · exact unknown known

theorem Presents.gives (presents : Presents names allowed parts members)
    (known : parts.map Part.name ⊆ names) (nodup : (parts.map Part.name).Nodup) :
    Gives parts members := by
  induction presents with
  | nil => exact fun _ none => (List.not_mem_nil none).elim
  | @given first value parts members stands presents ih =>
      rw [List.map_cons] at known nodup
      obtain ⟨isKnown, restKnown⟩ := List.cons_subset.mp known
      obtain ⟨fresh, restNodup⟩ := List.nodup_cons.mp nodup
      intro part isPart
      rcases List.mem_cons.mp isPart with rfl | later
      · exact Or.inl ⟨value, stands, by
          rw [called_cons_self, presents.called_eq_nil isKnown fresh]⟩
      · have differs : first.name ≠ part.name := by
          intro same
          exact fresh (same ▸ List.mem_map_of_mem later)
        rw [called_cons_of_ne differs]
        exact ih restKnown restNodup part later
  | @spared first parts members isSpared presents ih =>
      rw [List.map_cons] at known nodup
      obtain ⟨isKnown, restKnown⟩ := List.cons_subset.mp known
      obtain ⟨fresh, restNodup⟩ := List.nodup_cons.mp nodup
      intro part isPart
      rcases List.mem_cons.mp isPart with rfl | later
      · exact Or.inr ⟨isSpared, presents.called_eq_nil isKnown fresh⟩
      · exact ih restKnown restNodup part later
  | @other name value parts members unknown _ _ ih =>
      intro part isPart
      have differs : name ≠ part.name := by
        rintro rfl
        exact unknown (known (List.mem_map_of_mem isPart))
      rw [called_cons_of_ne differs]
      exact ih known nodup part isPart
  | permuted _ perm ih =>
      intro part isPart
      have calledPerm := perm.filter fun member => member.1 == part.name
      rcases ih known nodup part isPart with ⟨value, stands, once⟩ | ⟨isSpared, none⟩
      · refine Or.inl ⟨value, stands, ?_⟩
        rw [called] at once
        rw [once] at calledPerm
        exact List.perm_singleton.mp calledPerm.symm
      · refine Or.inr ⟨isSpared, ?_⟩
        rw [called] at none
        rw [none] at calledPerm
        exact List.Perm.nil_eq calledPerm |>.symm

/-! ### Checking the members -/

/-- The members whose names are in a shape. -/
def known (shape : Shape) (members : List (String × Json)) : List (String × Json) :=
  members.filter fun member => (shape.lookup member.1).isSome

variable {shape : Shape}

theorem called_known {name : String} (inShape : (shape.lookup name).isSome = true)
    (members : List (String × Json)) :
    called name (known shape members) = called name members :=
  called_filter fun _ named => named ▸ inShape

/-- Members that pass as those of a record: all of them have names, what is not known was read to
its end, and what is known is right and stands once. -/
structure Accepted (shape : Shape) (seen : List (String × Json))
    (members : List (String × Json)) : Prop where
  complete : ∀ member ∈ members, shape.lookup member.1 = none → member.2.isComplete = true
  checked : ∀ member ∈ members, ∀ check, shape.lookup member.1 = some check →
    check member.2 = .ok ()
  nodup : ((seen ++ known shape members).map Prod.fst).Nodup

/-- Such members are accepted, and the known ones are kept. -/
theorem Accepted.checkMembers {seen : List (String × Json)}
    (accepted : Accepted shape seen members) :
    Json.checkMembers shape true seen (members.map fun member => (some member.1, member.2)) =
      .ok (seen ++ known shape members) := by
  induction members generalizing seen with
  | nil => simp [Json.checkMembers, known]
  | cons member rest ih =>
      obtain ⟨complete, checked, nodup⟩ := accepted
      obtain ⟨name, value⟩ := member
      have restComplete := fun other isOther => complete other (List.mem_cons_of_mem _ isOther)
      have restChecked := fun other isOther => checked other (List.mem_cons_of_mem _ isOther)
      rw [List.map_cons, Json.checkMembers]
      cases found : shape.lookup name with
      | none =>
          have dropped : known shape ((name, value) :: rest) = known shape rest :=
            List.filter_cons_of_neg (by simp [found])
          rw [dropped] at nodup ⊢
          simp only [complete _ List.mem_cons_self found]
          exact ih ⟨restComplete, restChecked, nodup⟩
      | some check =>
          have kept : known shape ((name, value) :: rest) = (name, value) :: known shape rest :=
            List.filter_cons_of_pos (by simp [found])
          have appended : seen ++ (name, value) :: known shape rest =
              (seen ++ [(name, value)]) ++ known shape rest := by simp
          rw [kept] at nodup ⊢
          have fresh : seen.lookup name = none := by
            rw [List.lookup_eq_none_iff]
            intro other isOther
            rw [List.map_append, List.nodup_append] at nodup
            have differs := nodup.2.2 other.1 (List.mem_map_of_mem isOther) name (by simp)
            simpa using Ne.symm differs
          rw [appended] at nodup ⊢
          simp only [fresh, checked _ List.mem_cons_self check found]
          exact ih ⟨restComplete, restChecked, nodup⟩

/-- What one member can be if it is accepted with the rest. -/
theorem checkMembers_cons_eq_ok {closed : Bool} {seen fields : List (String × Json)}
    {member : Option String × Json} {rest : List (Option String × Json)}
    (accepted : checkMembers shape closed seen (member :: rest) = .ok fields) :
    ∃ name value, member = (some name, value) ∧
      (shape.lookup name = none ∧ value.isComplete = true ∧
          checkMembers shape closed seen rest = .ok fields ∨
        ∃ check, shape.lookup name = some check ∧ seen.lookup name = none ∧
          check value = .ok () ∧
            checkMembers shape closed (seen ++ [(name, value)]) rest = .ok fields) := by
  obtain ⟨name, value⟩ := member
  cases name with
  | none => cases accepted
  | some name =>
      refine ⟨name, value, rfl, ?_⟩
      rw [checkMembers] at accepted
      split at accepted
      · next unknown =>
        split at accepted
        · next isComplete => exact Or.inl ⟨unknown, isComplete, accepted⟩
        · cases accepted
      · next check found =>
        split at accepted
        · cases accepted
        · next fresh =>
          split at accepted
          · cases accepted
          · next passes => exact Or.inr ⟨check, found, Option.not_isSome_iff_eq_none.mp fresh, passes,
            accepted⟩

theorem exists_of_checkMembers_seen {closed : Bool} {seen fields : List (String × Json)}
    {members : List (Option String × Json)} (distinct : (seen.map Prod.fst).Nodup)
    (accepted : checkMembers shape closed seen members = .ok fields) :
    closed = true ∧ ∃ listed : List (String × Json),
      members = listed.map (fun member => (some member.1, member.2)) ∧
        Accepted shape seen listed ∧ fields = seen ++ known shape listed := by
  induction members generalizing seen with
  | nil =>
      rw [checkMembers] at accepted
      split at accepted
      · next isClosed =>
        obtain rfl := Except.ok.inj accepted
        refine ⟨isClosed, [], rfl, ⟨nofun, nofun, ?_⟩, (List.append_nil _).symm⟩
        rwa [known, List.filter_nil, List.append_nil]
      · cases accepted
  | cons member rest ih =>
      obtain ⟨name, value, rfl, ⟨unknown, isComplete, others⟩ |
        ⟨check, found, fresh, passes, others⟩⟩ := checkMembers_cons_eq_ok accepted
      · obtain ⟨isClosed, listed, rfl, ⟨complete, checked, nodup⟩, rfl⟩ := ih distinct others
        have dropped : known shape ((name, value) :: listed) = known shape listed :=
          List.filter_cons_of_neg (by simp [unknown])
        refine ⟨isClosed, (name, value) :: listed, rfl, ⟨?_, ?_, ?_⟩, ?_⟩
        · exact List.forall_mem_cons.mpr ⟨fun _ => isComplete, complete⟩
        · refine List.forall_mem_cons.mpr ⟨fun check isCheck => ?_, checked⟩
          cases unknown.symm.trans isCheck
        · rwa [dropped]
        · rw [dropped]
      · have absent : name ∉ seen.map Prod.fst := by
          rw [← isSome_lookup_iff, fresh]
          exact Bool.false_ne_true
        have stillDistinct : ((seen ++ [(name, value)]).map Prod.fst).Nodup := by
          rw [List.map_append]
          exact distinct.append (List.nodup_singleton name) (List.disjoint_singleton.mpr absent)
        obtain ⟨isClosed, listed, rfl, ⟨complete, checked, nodup⟩, rfl⟩ := ih stillDistinct others
        have kept : known shape ((name, value) :: listed) = (name, value) :: known shape listed :=
          List.filter_cons_of_pos (by simp [found])
        rw [List.append_assoc, List.singleton_append, ← kept] at nodup ⊢
        refine ⟨isClosed, (name, value) :: listed, rfl, ⟨?_, ?_, nodup⟩, rfl⟩
        · refine List.forall_mem_cons.mpr ⟨fun noCheck => ?_, complete⟩
          cases found.symm.trans noCheck
        · refine List.forall_mem_cons.mpr ⟨fun other isOther => ?_, checked⟩
          obtain rfl := Option.some.inj (found.symm.trans isOther)
          exact passes

/-- Only such members are accepted. -/
theorem exists_of_checkMembers {closed : Bool} {fields : List (String × Json)}
    {members : List (Option String × Json)}
    (accepted : checkMembers shape closed [] members = .ok fields) :
    closed = true ∧ ∃ listed : List (String × Json),
      members = listed.map (fun member => (some member.1, member.2)) ∧
        Accepted shape [] listed ∧ fields = known shape listed :=
  exists_of_checkMembers_seen List.nodup_nil accepted

/-- Two shapes that treat each member alike accept the same members and find the same fault. -/
theorem checkMembers_congr {other : Shape} {closed : Bool} {seen : List (String × Json)}
    {members : List (Option String × Json)}
    (alike : ∀ name value, (some name, value) ∈ members →
      (shape.lookup name).map (fun check => check value) =
        (other.lookup name).map (fun check => check value)) :
    checkMembers shape closed seen members = checkMembers other closed seen members := by
  induction members generalizing seen with
  | nil => rfl
  | cons member rest ih =>
      obtain ⟨name, value⟩ := member
      have restAlike := fun name value isMember => alike name value (List.mem_cons_of_mem _ isMember)
      cases name with
      | none => rfl
      | some name =>
          have first := alike name value List.mem_cons_self
          rw [checkMembers, checkMembers]
          cases found : shape.lookup name with
          | none =>
              rw [found, Option.map_none, eq_comm, Option.map_eq_none_iff] at first
              simp only [first, ih restAlike]
          | some check =>
              rw [found, Option.map_some, eq_comm, Option.map_eq_some_iff] at first
              obtain ⟨otherCheck, otherFound, sameCheck⟩ := first
              simp only [otherFound, sameCheck, ih restAlike]

/-- What stands for a part passes the check of a field. -/
def FitsPart (entry : String × (Json → Decoded Unit)) (part : Part) : Prop :=
  entry.1 = part.name ∧ ∀ value, part.stands value → entry.2 value = .ok ()

/-- What stands for the parts of a record passes the checks of its shape. -/
def Fits (shape : Shape) (parts : List Part) : Prop :=
  List.Forall₂ FitsPart shape parts

theorem Fits.names_eq (fits : Fits shape parts) :
    shape.map Prod.fst = parts.map Part.name := by
  induction fits with
  | nil => rfl
  | cons first _ ih => rw [List.map_cons, List.map_cons, first.1, ih]

theorem Fits.exists_part (fits : Fits shape parts) {name : String} {check : Json → Decoded Unit}
    (found : shape.lookup name = some check) :
    ∃ part ∈ parts, part.name = name ∧ ∀ value, part.stands value → check value = .ok () := by
  induction fits with
  | nil => cases found
  | @cons entry part _ _ first _ ih =>
      obtain ⟨other, otherCheck⟩ := entry
      rw [List.lookup_cons] at found
      split at found
      · next same =>
        obtain rfl := beq_iff_eq.mp same
        obtain rfl := Option.some.inj found
        exact ⟨part, List.mem_cons_self, first.1.symm, first.2⟩
      · obtain ⟨later, isLater, named, accepts⟩ := ih found
        exact ⟨later, List.mem_cons_of_mem _ isLater, named, accepts⟩

theorem Fits.isSome_lookup (fits : Fits shape parts) {part : Part} (isPart : part ∈ parts) :
    (shape.lookup part.name).isSome = true := by
  rw [isSome_lookup_iff, fits.names_eq]
  exact List.mem_map_of_mem isPart

/-- No known name stands twice among members that give each part at most once. -/
theorem Gives.nodup_known (gives : Gives parts members) (fits : Fits shape parts) :
    ((known shape members).map Prod.fst).Nodup := by
  rw [List.nodup_iff_count_le_one]
  intro name
  have countEq : ((known shape members).map Prod.fst).count name =
      (called name (known shape members)).length := by
    rw [List.count_eq_countP, List.countP_map, List.countP_eq_length_filter]
    rfl
  rw [countEq]
  cases found : shape.lookup name with
  | none =>
      have none : called name (known shape members) = [] := by
        rw [called_eq_nil]
        rintro member isMember rfl
        have inShape := (List.mem_filter.mp isMember).2
        simp [found] at inShape
      rw [none]
      exact Nat.zero_le 1
  | some check =>
      obtain ⟨part, isPart, rfl, -⟩ := fits.exists_part found
      rw [called_known (fits.isSome_lookup isPart)]
      rcases gives part isPart with ⟨value, -, once⟩ | ⟨-, none⟩
      · rw [once]
        exact Nat.le_refl 1
      · rw [none]
        exact Nat.zero_le 1

/-- The fields that are found in a record. -/
def Found (parts : List Part) (fields : List (String × Json)) : Prop :=
  ∀ part ∈ parts, (∃ value, part.stands value ∧ fields.lookup part.name = some value) ∨
    part.isSpared = true ∧ fields.lookup part.name = none

/-- An object that gives the parts of a record passes as that record. -/
theorem Gives.asRecord (gives : Gives parts members) (fits : Fits shape parts)
    (complete : ∀ member ∈ members, member.1 ∉ shape.map Prod.fst →
      member.2.isComplete = true) :
    ∃ fields, asRecord shape (.ofMembers members) = .ok fields ∧ Found parts fields := by
  refine ⟨known shape members, ?_, ?_⟩
  · rw [ofMembers, Json.asRecord]
    refine Accepted.checkMembers ⟨?_, ?_, gives.nodup_known fits⟩
    · intro member isMember unknown
      refine complete member isMember fun isKnown => ?_
      rw [← isSome_lookup_iff, unknown] at isKnown
      cases isKnown
    · intro member isMember check found
      obtain ⟨part, isPart, named, accepts⟩ := fits.exists_part found
      have isCalled : member ∈ called part.name members :=
        List.mem_filter.mpr ⟨isMember, by simp [named]⟩
      rcases gives part isPart with ⟨value, stands, once⟩ | ⟨-, none⟩
      · rw [once, List.mem_singleton] at isCalled
        rw [isCalled]
        exact accepts value stands
      · rw [none] at isCalled
        cases isCalled
  · intro part isPart
    rw [lookup_eq_called, called_known (fits.isSome_lookup isPart)]
    rcases gives part isPart with ⟨value, stands, once⟩ | ⟨isSpared, none⟩
    · exact Or.inl ⟨value, stands, by rw [once]; rfl⟩
    · exact Or.inr ⟨isSpared, by rw [none]; rfl⟩

/-- A value is an object whose members give the parts of a record. -/
def Presentation (allowed : Json → Prop) (parts : List Part) (value : Json) : Prop :=
  ∃ members, value = .ofMembers members ∧
    Presents (parts.map Part.name) allowed parts members

theorem Presentation.asRecord {value : Json} (presented : Presentation allowed parts value)
    (complete : ∀ found, allowed found → found.isComplete = true) (fits : Fits shape parts)
    (nodup : (shape.map Prod.fst).Nodup) :
    ∃ fields, asRecord shape value = .ok fields ∧ Found parts fields := by
  obtain ⟨members, rfl, presents⟩ := presented
  have gives := presents.gives (List.Subset.refl _) (fits.names_eq ▸ nodup)
  refine gives.asRecord fits fun member isMember unknown => ?_
  rw [fits.names_eq] at unknown
  rcases presents.of_mem member isMember with ⟨part, isPart, named⟩ | ⟨-, isAllowed⟩
  · exact (unknown (named ▸ List.mem_map_of_mem isPart)).elim
  · exact complete _ isAllowed

/-! ### Decoding the fields -/

theorem ok_bind {α β : Type} (value : α) (next : α → Decoded β) :
    (Except.ok value >>= next) = next value :=
  rfl

section Fields

variable {α : Type} {decode : Json → Decoded α} {result absent : α}
  {fields : List (String × Json)}

theorem Found.required {part : Part} (found : Found parts fields) (isPart : part ∈ parts)
    (whole : part.isSpared = false)
    (decodes : ∀ value, part.stands value → decode value = .ok result) :
    required fields part.name decode = .ok result := by
  rw [Json.required]
  rcases found part isPart with ⟨value, stands, isValue⟩ | ⟨isSpared, -⟩
  · rw [isValue]
    exact decodes value stands
  · rw [whole] at isSpared
    cases isSpared

theorem Found.optional {part : Part} (found : Found parts fields) (isPart : part ∈ parts)
    (decodes : ∀ value, part.stands value → decode value = .ok result)
    (spared : part.isSpared = true → absent = result) :
    optional fields part.name decode absent = .ok result := by
  rw [Json.optional]
  rcases found part isPart with ⟨value, stands, isValue⟩ | ⟨isSpared, isNone⟩
  · rw [isValue]
    exact decodes value stands
  · rw [isNone, spared isSpared]

theorem Found.required_exact {name : String} {value : Json} (found : Found parts fields)
    (isPart : .exact name value false ∈ parts) (decodes : decode value = .ok result) :
    Json.required fields name decode = .ok result :=
  found.required isPart rfl fun _ same => same ▸ decodes

theorem Found.optional_exact [BEq α] [LawfulBEq α] {name : String} {value : Json}
    (found : Found parts fields) (isPart : .exact name value (result == absent) ∈ parts)
    (decodes : decode value = .ok result) :
    Json.optional fields name decode absent = .ok result :=
  found.optional isPart (fun _ same => same ▸ decodes) fun same => (beq_iff_eq.mp same).symm

theorem fitsPart_field {name : String} {stands : Json → Prop} (isSpared : Bool)
    (decodes : ∀ value, stands value → decode value = .ok result) :
    FitsPart (field name decode) ⟨name, stands, isSpared⟩ := by
  refine ⟨rfl, fun value isValue => ?_⟩
  rw [field]
  simp only [decodes value isValue]
  rfl

theorem fitsPart_exact {name : String} {value : Json} {isSpared : Bool}
    (decodes : decode value = .ok result) :
    FitsPart (field name decode) (.exact name value isSpared) :=
  fitsPart_field isSpared fun _ same => same ▸ decodes

end Fields

theorem Found.required_text {fields : List (String × Json)} {name text : String}
    (found : Found parts fields) (isPart : .exact name (.string text) false ∈ parts) :
    Json.required fields name asText = .ok text :=
  found.required_exact isPart rfl

theorem Found.optional_text {fields : List (String × Json)} {name text absent : String}
    (found : Found parts fields)
    (isPart : .exact name (.string text) (text == absent) ∈ parts) :
    Json.optional fields name asText absent = .ok text :=
  found.optional_exact isPart rfl

/-! ### Decoding plain values -/

theorem integer?_ofInt (number : Int) : (ofInt number).integer? = some number := by
  rw [ofInt, Decimal.ofInt, integer?]
  by_cases negative : number < 0
  · have notZero : number.natAbs ≠ 0 := by omega
    rw [if_pos (decide_eq_true negative), if_neg notZero]
    congr 1
    omega
  · rw [if_neg (by simpa using negative)]
    congr 1
    omega

/-- An integer is written in one way only. -/
theorem eq_ofInt_of_integer? {value : Json} {number : Int}
    (integer : value.integer? = some number) : value = ofInt number := by
  unfold integer? at integer
  split at integer
  · next negative digits =>
    split at integer
    · next isNegative =>
      split at integer
      · cases integer
      · next nonzero =>
        obtain rfl := Option.some.inj integer
        have below : decide (-(digits : Int) < 0) = negative := by
          rw [isNegative]
          exact decide_eq_true (by omega)
        rw [ofInt, Decimal.ofInt, below, Int.natAbs_neg, Int.natAbs_natCast]
    · next notNegative =>
      obtain rfl := Option.some.inj integer
      have above : decide ((digits : Int) < 0) = negative := by
        rw [eq_false_of_ne_true notNegative]
        exact decide_eq_false (by omega)
      rw [ofInt, Decimal.ofInt, above, Int.natAbs_natCast]
  · cases integer

theorem asInt_ofInt {least greatest number : Int} (above : least ≤ number)
    (below : number ≤ greatest) : asInt least greatest (ofInt number) = .ok number := by
  rw [asInt, integer?_ofInt]
  exact if_pos ⟨above, below⟩

theorem asNat_ofNat {greatest number : Nat} (below : number ≤ greatest) :
    asNat greatest (ofNat number) = .ok number := by
  rw [asNat, ofNat, asInt_ofInt (Int.natCast_nonneg number) (Int.ofNat_le.mpr below)]
  rfl

theorem eq_ofNat_of_asNat {greatest number : Nat} {value : Json}
    (decoded : asNat greatest value = .ok number) : value = ofNat number := by
  unfold asNat asInt at decoded
  split at decoded
  · next found integer =>
    split at decoded
    · next within =>
      obtain rfl := Except.ok.inj decoded
      rw [ofNat, Int.toNat_of_nonneg within.1]
      exact eq_ofInt_of_integer? integer
    · cases decoded
  · cases decoded

theorem asOption_ofText? (text : Option String) : asOption asText (ofText? text) = .ok text := by
  cases text <;> rfl

theorem asList_ofList {α : Type} {decode : Json → Decoded α} {items : List Json} {values : List α}
    (decodes : List.Forall₂ (fun value item => decode item = .ok value) values items) :
    asList decode (ofList items) = .ok values := by
  rw [ofList, asList]
  induction decodes with
  | nil => rfl
  | cons first _ ih =>
      rw [decodeItems, first, ih]
      rfl

theorem asList_texts (texts : List String) :
    asList asText (ofList (texts.map .string)) = .ok texts := by
  apply asList_ofList
  induction texts with
  | nil => exact List.Forall₂.nil
  | cons text rest ih => exact List.Forall₂.cons rfl ih

end Json

end QuickFill
