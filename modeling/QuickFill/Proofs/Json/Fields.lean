import QuickFill.Proofs.Json.Presented

/-!
# Fields that are given

A record that passed its checks gives each of its fields, or does not; no field is refused any
more.  Members that are left out of an object or put into it change the fields of their own name
alone, and a null that is put in gives what nothing gives.
-/

namespace QuickFill

namespace Json

/-- What a field of a record is decoded to, if the field is given. -/
def given {α : Type} (decode : Json → Decoded α) (fields : List (String × Json)) (name : String) :
    Option α :=
  (fields.lookup name).bind fun value => (decode value).toOption

/-- The fields of a record that its shape knows have passed its checks. -/
def Checked (shape : Shape) (fields : List (String × Json)) : Prop :=
  ∀ name value, fields.lookup name = some value →
    ∀ check, shape.lookup name = some check → check value = .ok ()

section Given

variable {α : Type} {decode : Json → Decoded α} {shape : Shape} {closed : Bool}
  {fields listed before after : List (String × Json)} {members : List (Option String × Json)}
  {name key : String} {value : Json}

theorem checked_of_checkMembers (accepted : checkMembers shape closed [] members = .ok fields) :
    Checked shape fields ∧
      ∀ name value, fields.lookup name = some value → (some name, value) ∈ members := by
  obtain ⟨-, listed, rfl, ⟨-, checked, -⟩, rfl⟩ := exists_of_checkMembers accepted
  have listed_of_lookup {name : String} {value : Json}
      (found : (known shape listed).lookup name = some value) : (name, value) ∈ listed := by
    obtain ⟨before, after, split, -⟩ := List.lookup_eq_some_iff.mp found
    apply List.mem_of_mem_filter
    rw [← known, split]
    simp
  constructor
  · exact fun name value found check isCheck => checked _ (listed_of_lookup found) check isCheck
  · exact fun name value found => List.mem_map_of_mem (listed_of_lookup found)

/-- After the checks no field is refused. -/
theorem optional_eq_given {absent : α} (checked : Checked shape fields)
    (inShape : shape.lookup name = some (field name decode).2) :
    optional fields name decode absent = .ok ((given decode fields name).getD absent) := by
  unfold optional given
  cases found : fields.lookup name with
  | none => rfl
  | some value =>
      have passes := checked name value found _ inShape
      unfold field at passes
      simp only [Option.bind_some]
      cases decoded : decode value with
      | ok result => rfl
      | error fault =>
          simp only [decoded] at passes
          cases passes

theorem exists_of_given {result : α} (found : given decode fields name = some result) :
    ∃ value, fields.lookup name = some value ∧ decode value = .ok result := by
  obtain ⟨value, isValue, decoded⟩ := Option.bind_eq_some_iff.mp found
  refine ⟨value, isValue, ?_⟩
  cases outcome : decode value with
  | error fault =>
      rw [outcome] at decoded
      cases decoded
  | ok other =>
      rw [outcome] at decoded
      exact congrArg Except.ok (Option.some.inj decoded)

theorem asOption_of_ne_null (some : value ≠ .null) :
    asOption decode value = (decode value).map Option.some := by
  unfold asOption
  split
  · exact absurd rfl some
  · rfl

theorem given_asOption (some : fields.lookup name ≠ Option.some .null) :
    (given (asOption decode) fields name).getD none = given decode fields name := by
  unfold given
  cases found : fields.lookup name with
  | none => rfl
  | some value =>
      have notNull : value ≠ .null := fun isNull => some (isNull ▸ found)
      simp only [Option.bind_some, asOption_of_ne_null notNull]
      cases decode value <;> rfl

theorem map_asOption {β : Type} {convert : Option α → β} {other : α → β} (some : value ≠ .null)
    (same : ∀ result, convert (Option.some result) = other result) :
    (asOption decode value).map convert = (decode value).map other := by
  rw [asOption_of_ne_null some]
  cases decode value with
  | error fault => rfl
  | ok result => exact congrArg Except.ok (same result)

theorem lookup_known (inShape : (shape.lookup name).isSome = true) :
    (known shape listed).lookup name = listed.lookup name := by
  rw [lookup_eq_called, lookup_eq_called, called_known inShape]

theorem lookup_filter_self :
    (listed.filter fun member => member.1 ≠ name).lookup name = none := by
  rw [List.lookup_eq_none_iff]
  intro member isMember
  have differs : member.1 ≠ name := by simpa using (List.mem_filter.mp isMember).2
  simpa using differs.symm

theorem lookup_filter_of_ne (other : key ≠ name) :
    (listed.filter fun member => member.1 ≠ name).lookup key = listed.lookup key := by
  induction listed with
  | nil => rfl
  | cons first rest ih =>
      rw [List.filter_cons]
      split
      · rw [List.lookup_cons, List.lookup_cons, ih]
      · next dropped =>
        have isName : first.1 = name := by simpa using dropped
        have differs : (key == first.1) = false := beq_eq_false_iff_ne.mpr (isName ▸ other)
        rw [ih, List.lookup_cons, differs]

theorem lookup_insert_of_ne (other : key ≠ name) :
    (before ++ (name, value) :: after).lookup key = (before ++ after).lookup key := by
  have differs : (key == name) = false := beq_eq_false_iff_ne.mpr other
  rw [List.lookup_append, List.lookup_append, List.lookup_cons, differs]

theorem lookup_insert_self (fresh : (before ++ after).lookup name = none) :
    (before ++ (name, value) :: after).lookup name = some value := by
  rw [List.lookup_append, Option.or_eq_none_iff] at fresh
  rw [List.lookup_append, fresh.1, List.lookup_cons_self]
  rfl

theorem given_known (inShape : (shape.lookup key).isSome = true) :
    given decode (known shape listed) key = given decode listed key := by
  unfold given
  rw [lookup_known inShape]

theorem given_insert_of_ne (other : key ≠ name) :
    given decode (before ++ (name, value) :: after) key = given decode (before ++ after) key := by
  unfold given
  rw [lookup_insert_of_ne other]

/-- A null is as good as nothing. -/
theorem given_insert_null (fresh : (before ++ after).lookup name = none) (key : String) :
    (given (asOption decode) (before ++ (name, .null) :: after) key).getD none =
      (given (asOption decode) (before ++ after) key).getD none := by
  by_cases same : key = name
  · subst same
    unfold given
    rw [lookup_insert_self fresh, fresh]
    rfl
  · rw [given_insert_of_ne same]

/-- Two decoders that agree on what is read of a text agree on the text. -/
theorem decodeText_congr {β γ : Type} {other : Json → Decoded β} {convert : α → γ}
    {otherConvert : β → γ} {text : String}
    (agree : (decode (read text.toList).1).map convert =
      (other (read text.toList).1).map otherConvert) :
    (decodeText decode text).map convert = (decodeText other text).map otherConvert := by
  unfold decodeText
  simp only
  cases decoded : decode (read text.toList).1 with
  | error fault =>
      cases otherDecoded : other (read text.toList).1 with
      | error otherFault =>
          rw [decoded, otherDecoded] at agree
          exact agree
      | ok result =>
          rw [decoded, otherDecoded] at agree
          cases agree
  | ok result =>
      cases otherDecoded : other (read text.toList).1 with
      | error fault =>
          rw [decoded, otherDecoded] at agree
          cases agree
      | ok otherResult =>
          rw [decoded, otherDecoded] at agree
          cases (read text.toList).2 with
          | true => exact agree
          | false => rfl

/-! ### Members that are left out or put in -/

/-- The members of an object without those of one name. -/
def without (name : String) (members : List (Option String × Json)) :
    List (Option String × Json) :=
  members.filter fun member => member.1 ≠ some name

theorem without_map (name : String) (listed : List (String × Json)) :
    without name (listed.map fun member => (some member.1, member.2)) =
      (listed.filter fun member => member.1 ≠ name).map fun member => (some member.1, member.2) := by
  unfold without
  rw [List.filter_map]
  congr 1
  apply List.filter_congr
  intro member _
  simp

/-- The members that have a name. -/
def named (members : List (Option String × Json)) : List (String × Json) :=
  members.filterMap fun member => member.1.map fun name => (name, member.2)

theorem named_without (name : String) (members : List (Option String × Json)) :
    named (without name members) = (named members).filter fun member => member.1 ≠ name := by
  unfold named without
  rw [List.filterMap_filter, List.filter_filterMap]
  congr 1
  funext member
  obtain ⟨key, value⟩ := member
  cases key with
  | none => simp
  | some key => by_cases same : key = name <;> simp [same, Option.filter]

theorem Accepted.filter (accepted : Accepted shape [] listed) (holds : String × Json → Bool) :
    Accepted shape [] (listed.filter holds) where
  complete member isMember := accepted.complete member (List.mem_of_mem_filter isMember)
  checked member isMember := accepted.checked member (List.mem_of_mem_filter isMember)
  nodup := by
    refine accepted.nodup.sublist (List.Sublist.map _ ?_)
    exact (List.filter_sublist (p := holds)).filter _

theorem Accepted.insert (accepted : Accepted shape [] (before ++ after))
    (fresh : (before ++ after).lookup name = none) {check : Json → Decoded Unit}
    (found : shape.lookup name = some check) (passes : check value = .ok ()) :
    Accepted shape [] (before ++ (name, value) :: after) := by
  have middle : (before ++ (name, value) :: after).Perm ((name, value) :: (before ++ after)) :=
    List.perm_middle
  refine ⟨?_, ?_, ?_⟩
  · intro member isMember unknown
    rcases List.mem_cons.mp (middle.mem_iff.mp isMember) with rfl | old
    · cases found.symm.trans unknown
    · exact accepted.complete member old unknown
  · intro member isMember other isOther
    rcases List.mem_cons.mp (middle.mem_iff.mp isMember) with rfl | old
    · obtain rfl := Option.some.inj (found.symm.trans isOther)
      exact passes
    · exact accepted.checked member old other isOther
  -- Whether names are distinct does not depend on the order of the members.
  · have kept : known shape ((name, value) :: (before ++ after)) =
        (name, value) :: known shape (before ++ after) :=
      List.filter_cons_of_pos (by simp [found])
    have permuted : (known shape (before ++ (name, value) :: after)).Perm
        ((name, value) :: known shape (before ++ after)) := by
      rw [← kept]
      exact middle.filter _
    have absent : name ∉ (known shape (before ++ after)).map Prod.fst := by
      intro member
      have listed := (List.filter_sublist.map Prod.fst).subset member
      rw [← isSome_lookup_iff, fresh] at listed
      cases listed
    rw [List.nil_append, (permuted.map Prod.fst).nodup_iff, List.map_cons]
    exact List.nodup_cons.mpr ⟨absent, accepted.nodup⟩

end Given

end Json

end QuickFill
