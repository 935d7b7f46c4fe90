import Mathlib.Data.List.Induction
import QuickFill.Proofs.Registry

/-!
# Histories of a registry

Inputs are offered to a registry and handles are looked up, in any order and for both
kinds.  The list of a kind holds the inputs that were offered to it, each once and where it
came first, so every answer can be told from the calls before it; and calls of one kind
have nothing to do with the answers of the other.
-/

namespace QuickFill

/-- Something asked of a registry; a clock input or a calendar input is registered by its
kind. -/
inductive RegistryCall (ι : Type) where
  | register (kind : LinkKind) (input : ι)
  | resolve (kind : LinkKind) (handle : Nat)
  deriving DecidableEq, Repr

inductive RegistryAnswer (ι : Type) where
  | handle (handle : Nat)
  | input (input : ι)
  | refused (fault : Fault)
  deriving DecidableEq, Repr

def RegistryCall.kind {ι : Type} : RegistryCall ι → LinkKind
  | .register kind _ => kind
  | .resolve kind _ => kind

namespace Registry

variable {ι : Type}

/-- The inputs that calls offer to one kind, in their order. -/
def offered (kind : LinkKind) (calls : List (RegistryCall ι)) : List ι :=
  calls.filterMap fun
    | .register other input => if other = kind then some input else none
    | .resolve _ _ => none

variable [DecidableEq ι]

/-- The answer to a call, and the registry after it. -/
def answer (registry : Registry ι) : RegistryCall ι → RegistryAnswer ι × Registry ι
  | .register kind input =>
    match registry.register kind input with
    | .ok (handle, changed) => (.handle handle, changed)
    | .error fault => (.refused fault, registry)
  | .resolve kind handle =>
    match registry.resolve kind handle with
    | .ok input => (.input input, registry)
    | .error fault => (.refused fault, registry)

/-- The registry after calls, one after another. -/
def afterAll (registry : Registry ι) (calls : List (RegistryCall ι)) : Registry ι :=
  calls.foldl (fun current call => (current.answer call).2) registry

/-- The answers to calls, one after another. -/
def answerAll : Registry ι → List (RegistryCall ι) → List (RegistryAnswer ι)
  | _, [] => []
  | registry, call :: rest =>
    (registry.answer call).1 :: (registry.answer call).2.answerAll rest

/-- The registry after calls, when it was empty before them. -/
def after (calls : List (RegistryCall ι)) : Registry ι :=
  afterAll {} calls

def answers (calls : List (RegistryCall ι)) : List (RegistryAnswer ι) :=
  answerAll {} calls

/-- The answers to the calls of one kind. -/
def answersTo (kind : LinkKind) (calls : List (RegistryCall ι)) : List (RegistryAnswer ι) :=
  ((calls.zip (answers calls)).filter fun entry => entry.1.kind = kind).map Prod.snd

/-- The handles that were returned for one kind. -/
def returned (kind : LinkKind) (calls : List (RegistryCall ι)) : List Nat :=
  (answersTo kind calls).filterMap fun
    | .handle handle => some handle
    | _ => none

/-- The answer to a call as it is told from the calls before it. -/
def recalled (before : List (RegistryCall ι)) : RegistryCall ι → RegistryAnswer ι
  | .register kind input =>
    if input ∈ offered kind before then .refused (.alreadyRegistered kind)
    else .handle (offered kind before).eraseDups.length
  | .resolve kind handle =>
    match (offered kind before).eraseDups[handle]? with
    | some input => .input input
    | none => .refused (.unknownHandle kind handle)

/-! ### One call -/

theorem answer_register (registry : Registry ι) (kind : LinkKind) (input : ι) :
    registry.answer (.register kind input) =
      if input ∈ registry.inputs kind then (.refused (.alreadyRegistered kind), registry)
      else (.handle (registry.inputs kind).length, registry.push input kind) := by
  rw [answer, register]
  by_cases known : input ∈ registry.inputs kind
  · rw [if_pos known, if_pos known]
  · rw [if_neg known, if_neg known]

theorem answer_resolve (registry : Registry ι) (kind : LinkKind) (handle : Nat) :
    registry.answer (.resolve kind handle) =
      (match (registry.inputs kind)[handle]? with
        | some input => .input input
        | none => .refused (.unknownHandle kind handle), registry) := by
  rw [answer, resolve]
  cases (registry.inputs kind)[handle]? <;> rfl

/-- Only an input that is offered to a kind for the first time comes to its list. -/
theorem inputs_answer_register (registry : Registry ι) (other : LinkKind) (input : ι)
    (kind : LinkKind) :
    (registry.answer (.register other input)).2.inputs kind =
      if other = kind ∧ input ∉ registry.inputs kind then registry.inputs kind ++ [input]
      else registry.inputs kind := by
  rw [answer_register]
  by_cases known : input ∈ registry.inputs other
  · rw [if_pos known, if_neg]
    rintro ⟨rfl, new⟩
    exact new known
  · rw [if_neg known, inputs_push]
    by_cases same : other = kind
    · subst same
      rw [if_pos rfl, if_pos ⟨rfl, known⟩]
    · rw [if_neg (Ne.symm same), if_neg fun new => same new.1]

theorem inputs_answer_resolve (registry : Registry ι) (other : LinkKind) (handle : Nat)
    (kind : LinkKind) :
    (registry.answer (.resolve other handle)).2.inputs kind = registry.inputs kind := by
  rw [answer_resolve]

/-- A call changes the list of its own kind only, and looks at no other. -/
theorem inputs_answer_of_ne (registry : Registry ι) {call : RegistryCall ι} {kind : LinkKind}
    (apart : call.kind ≠ kind) : (registry.answer call).2.inputs kind = registry.inputs kind := by
  cases call with
  | register other input =>
      rw [inputs_answer_register, if_neg fun new => apart new.1]
  | resolve other handle => exact inputs_answer_resolve registry other handle kind

theorem inputs_answer_congr {first second : Registry ι} {kind : LinkKind}
    (alike : first.inputs kind = second.inputs kind) (call : RegistryCall ι) :
    (first.answer call).2.inputs kind = (second.answer call).2.inputs kind := by
  cases call with
  | register other input => rw [inputs_answer_register, inputs_answer_register, alike]
  | resolve other handle => rw [inputs_answer_resolve, inputs_answer_resolve, alike]

/-- What is answered depends on the inputs of one kind. -/
theorem answer_congr {first second : Registry ι} {call : RegistryCall ι}
    (alike : first.inputs call.kind = second.inputs call.kind) :
    (first.answer call).1 = (second.answer call).1 := by
  cases call with
  | register kind input =>
      have same : first.inputs kind = second.inputs kind := alike
      rw [answer_register, answer_register, same]
      split <;> rfl
  | resolve kind handle =>
      have same : first.inputs kind = second.inputs kind := alike
      rw [answer_resolve, answer_resolve, same]

/-! ### Runs of calls -/

theorem afterAll_append (registry : Registry ι) (calls more : List (RegistryCall ι)) :
    registry.afterAll (calls ++ more) = (registry.afterAll calls).afterAll more :=
  List.foldl_append

theorem answerAll_append (registry : Registry ι) (calls more : List (RegistryCall ι)) :
    registry.answerAll (calls ++ more) =
      registry.answerAll calls ++ (registry.afterAll calls).answerAll more := by
  induction calls generalizing registry with
  | nil => rfl
  | cons call rest ih =>
      rw [List.cons_append, answerAll, ih]
      rfl

theorem length_answerAll (registry : Registry ι) (calls : List (RegistryCall ι)) :
    (registry.answerAll calls).length = calls.length := by
  induction calls generalizing registry with
  | nil => rfl
  | cons call rest ih =>
      rw [answerAll, List.length_cons, List.length_cons, ih]

/-- The answer in the middle of a run is that of the registry as it is then. -/
theorem getElem?_answers (before later : List (RegistryCall ι)) (call : RegistryCall ι) :
    (answers (before ++ call :: later))[before.length]? =
      some ((after before).answer call).1 := by
  rw [answers, answerAll_append, ← length_answerAll {} before,
    List.getElem?_append_right (Nat.le_refl _), Nat.sub_self]
  rfl

omit [DecidableEq ι] in
theorem offered_append_singleton (kind : LinkKind) (calls : List (RegistryCall ι))
    (call : RegistryCall ι) :
    offered kind (calls ++ [call]) = offered kind calls ++ offered kind [call] :=
  List.filterMap_append

theorem eraseDups_append_singleton (inputs : List ι) (input : ι) :
    (inputs ++ [input]).eraseDups =
      if input ∈ inputs then inputs.eraseDups else inputs.eraseDups ++ [input] := by
  rw [List.eraseDups_append]
  by_cases known : input ∈ inputs
  · simp [List.removeAll, known]
  · simp [List.removeAll, known, List.eraseDups_cons]

/-- What one more call adds to the inputs of a kind. -/
theorem offered_eraseDups_register (calls : List (RegistryCall ι)) (other : LinkKind) (input : ι)
    (kind : LinkKind) :
    (offered kind (calls ++ [.register other input])).eraseDups =
      if other = kind ∧ input ∉ offered kind calls then (offered kind calls).eraseDups ++ [input]
      else (offered kind calls).eraseDups := by
  rw [offered_append_singleton]
  by_cases same : other = kind
  · have offers : offered kind [.register other input] = [input] := by simp [offered, same]
    rw [offers, eraseDups_append_singleton]
    by_cases known : input ∈ offered kind calls
    · rw [if_pos known, if_neg fun new => new.2 known]
    · rw [if_neg known, if_pos ⟨same, known⟩]
  · have offers : offered kind [RegistryCall.register other input] = [] := by
      simp [offered, same]
    rw [offers, List.append_nil, if_neg fun new => same new.1]

theorem offered_eraseDups_resolve (calls : List (RegistryCall ι)) (other : LinkKind)
    (handle : Nat) (kind : LinkKind) :
    (offered kind (calls ++ [.resolve other handle])).eraseDups =
      (offered kind calls).eraseDups := by
  rw [offered_append_singleton]
  exact congrArg List.eraseDups (List.append_nil _)

theorem after_append_singleton (calls : List (RegistryCall ι)) (call : RegistryCall ι) :
    after (calls ++ [call]) = ((after calls).answer call).2 :=
  afterAll_append {} calls [call]

/-- The list of a kind holds what was offered to it, without repetitions. -/
theorem inputs_after (kind : LinkKind) (calls : List (RegistryCall ι)) :
    (after calls).inputs kind = (offered kind calls).eraseDups := by
  induction calls using List.reverseRecOn with
  | nil => cases kind <;> rfl
  | append_singleton calls call ih =>
      rw [after_append_singleton]
      cases call with
      | register other input =>
          rw [inputs_answer_register, offered_eraseDups_register, ih]
          simp only [List.mem_eraseDups]
      | resolve other handle => rw [inputs_answer_resolve, offered_eraseDups_resolve, ih]

/-- A registry answers as it is told from the calls before. -/
theorem answer_after (before : List (RegistryCall ι)) (call : RegistryCall ι) :
    ((after before).answer call).1 = recalled before call := by
  cases call with
  | register kind input =>
      rw [answer_register, inputs_after, recalled]
      simp only [List.mem_eraseDups]
      split <;> rfl
  | resolve kind handle => rw [answer_resolve, inputs_after, recalled]

/-! ### Calls of one kind -/

/-- Registries that are alike in one kind answer the calls of that kind alike, whatever is
asked of one of them about the other kind. -/
theorem answerAll_filter {first second : Registry ι} (kind : LinkKind)
    (calls : List (RegistryCall ι)) (alike : first.inputs kind = second.inputs kind) :
    first.answerAll (calls.filter fun call => call.kind = kind) =
      ((calls.zip (second.answerAll calls)).filter fun entry => entry.1.kind = kind).map
        Prod.snd := by
  induction calls generalizing first second with
  | nil => rfl
  | cons call rest ih =>
      rw [answerAll, List.zip_cons_cons]
      by_cases same : call.kind = kind
      · subst same
        rw [List.filter_cons_of_pos (by simp), List.filter_cons_of_pos (by simp), answerAll,
          List.map_cons, answer_congr alike, ih (inputs_answer_congr alike call)]
      · have alikeAfter : first.inputs kind = (second.answer call).2.inputs kind := by
          rw [inputs_answer_of_ne second same, alike]
        rw [List.filter_cons_of_neg (by simpa using same),
          List.filter_cons_of_neg (by simpa using same), ih alikeAfter]

/-! ### Handles that were returned -/

theorem answersTo_append_singleton (kind : LinkKind) (calls : List (RegistryCall ι))
    (call : RegistryCall ι) :
    answersTo kind (calls ++ [call]) =
      answersTo kind calls ++ if call.kind = kind then [recalled calls call] else [] := by
  have whole : answers (calls ++ [call]) = answers calls ++ [recalled calls call] := by
    rw [answers, answerAll_append, ← answer_after]
    rfl
  have lengthEq : calls.length = (answers calls).length := (length_answerAll {} calls).symm
  rw [answersTo, whole, List.zip_append lengthEq, List.filter_append, List.map_append, answersTo]
  by_cases same : call.kind = kind
  · simp [same]
  · simp [same]

/-- The handles of a kind are returned in order, one for each input. -/
theorem returned_eq_range (kind : LinkKind) (calls : List (RegistryCall ι)) :
    returned kind calls = List.range (offered kind calls).eraseDups.length := by
  induction calls using List.reverseRecOn with
  | nil => rfl
  | append_singleton calls call ih =>
      rw [returned] at ih ⊢
      rw [answersTo_append_singleton, List.filterMap_append, ih]
      cases call with
      | resolve other handle =>
          rw [offered_eraseDups_resolve, recalled]
          split
          · cases (offered other calls).eraseDups[handle]? <;> exact List.append_nil _
          · exact List.append_nil _
      | register other input =>
          rw [offered_eraseDups_register, recalled]
          by_cases same : other = kind
          · subst same
            by_cases known : input ∈ offered other calls
            · simp [RegistryCall.kind, known]
            · simp [RegistryCall.kind, known, List.range_succ]
          · simp [RegistryCall.kind, same]

/-! ### Whole runs -/

/-- A run of calls, told from the calls alone. -/
structure Told (calls : List (RegistryCall ι)) : Prop where
  /-- A list holds what was offered to its kind, without the later repetitions. -/
  inputs_eq : ∀ kind, (after calls).inputs kind = (offered kind calls).eraseDups
  /-- An input is refused when it was offered to the kind before, and else gets the number of
  the inputs that were. -/
  registered : ∀ before kind input later, calls = before ++ .register kind input :: later →
    (answers calls)[before.length]? =
      some (if input ∈ offered kind before then .refused (.alreadyRegistered kind)
        else .handle (offered kind before).eraseDups.length)
  unchanged : ∀ before kind input later, calls = before ++ .register kind input :: later →
    input ∈ offered kind before → after (before ++ [.register kind input]) = after before
  /-- A handle keeps its input. -/
  kept : ∀ before kind input between handle later,
    calls = before ++ .register kind input :: (between ++ .resolve kind handle :: later) →
    (answers calls)[before.length]? = some (.handle handle) →
      (answers calls)[(before ++ .register kind input :: between).length]? = some (.input input)
  /-- Just the handles that were returned are known. -/
  known : ∀ before kind handle later, calls = before ++ .resolve kind handle :: later →
    handle ∈ returned kind before →
      ∃ input, (answers calls)[before.length]? = some (.input input)
  unknown : ∀ before kind handle later, calls = before ++ .resolve kind handle :: later →
    handle ∉ returned kind before →
      (answers calls)[before.length]? = some (.refused (.unknownHandle kind handle))
  /-- Without the calls of the other kind, the calls of a kind are answered as they were. -/
  apart : ∀ kind, answers (calls.filter fun call => call.kind = kind) = answersTo kind calls

/-- A call in the middle of a run is answered as it is told from the calls before. -/
theorem answer_of_split {calls before later : List (RegistryCall ι)} {call : RegistryCall ι}
    (split : calls = before ++ call :: later) :
    (answers calls)[before.length]? = some (recalled before call) := by
  rw [split, getElem?_answers, answer_after]

/-- What was offered first keeps its place. -/
theorem getElem?_offered_append {kind : LinkKind} {calls : List (RegistryCall ι)} {handle : Nat}
    {input : ι} (placed : (offered kind calls).eraseDups[handle]? = some input)
    (more : List (RegistryCall ι)) :
    (offered kind (calls ++ more)).eraseDups[handle]? = some input := by
  have inside := (List.getElem?_eq_some_iff.mp placed).1
  have appended : offered kind (calls ++ more) = offered kind calls ++ offered kind more :=
    List.filterMap_append
  rw [appended, List.eraseDups_append, List.getElem?_append_left inside]
  exact placed

/-- Every run of calls on an empty registry can be told from the calls. -/
theorem answers_told (calls : List (RegistryCall ι)) : Told calls where
  inputs_eq kind := inputs_after kind calls
  registered before kind input later split := answer_of_split split
  unchanged before kind input later split offeredBefore := by
    have known : input ∈ (after before).inputs kind := by
      rw [inputs_after, List.mem_eraseDups]
      exact offeredBefore
    rw [after_append_singleton, answer_register, if_pos known]
  kept before kind input between handle later split answered := by
    rw [answer_of_split split, recalled] at answered
    have new : input ∉ offered kind before := by
      intro known
      rw [if_pos known] at answered
      cases answered
    rw [if_neg new] at answered
    obtain rfl := RegistryAnswer.handle.inj (Option.some.inj answered)
    have placed : (offered kind (before ++ [.register kind input])).eraseDups[
        (offered kind before).eraseDups.length]? = some input := by
      rw [offered_eraseDups_register, if_pos ⟨rfl, new⟩, List.getElem?_concat_length]
    have whole : calls = (before ++ .register kind input :: between) ++
        .resolve kind (offered kind before).eraseDups.length :: later := by
      rw [split, List.append_assoc, List.cons_append]
    have stays := getElem?_offered_append placed between
    rw [List.append_assoc, List.singleton_append] at stays
    rw [answer_of_split whole, recalled, stays]
  known before kind handle later split member := by
    rw [returned_eq_range, List.mem_range] at member
    rw [answer_of_split split, recalled, List.getElem?_eq_getElem member]
    exact ⟨_, rfl⟩
  unknown before kind handle later split absent := by
    rw [returned_eq_range, List.mem_range, Nat.not_lt] at absent
    rw [answer_of_split split, recalled, List.getElem?_eq_none absent]
  apart kind := answerAll_filter kind calls rfl

/-- Two kinds share the input 7; its second offer to a kind is refused, and takes no handle. -/
example : answers [.register .clock 7, .register .calendar 7, .register .clock 7,
    .register .clock 8, .resolve .clock 1, .resolve .calendar 1] =
      [.handle 0, .handle 0, .refused (.alreadyRegistered .clock), .handle 1, .input 8,
        .refused (.unknownHandle .calendar 1)] := by
  decide

end Registry

end QuickFill
