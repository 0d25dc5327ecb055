import CompletionCache.Proofs.Request.Decoders

/-!
# Why a body is refused

What is wrong with a member of a body is said by `AtFault`, one case for each member. The members are
checked in the order of `BodyMember.all`: a body is refused with the fault of the first member that is at
fault, and read when none is (`ofBody_eq_error_iff`). The error for a text, a number, a limit or the flag
is a validation error that names its member (`AtFault.error_named`); the one for a list is not
(`AtFault.error_of_list`). Null messages are at fault, every other parameter that is null is absent
(`refused_by_first_at_fault`).
-/

set_option autoImplicit false

namespace CompletionCache

open Json (Mismatch find? insertMember find?_insertMember eraseMember)

/-! ## Results that are faults -/

namespace Json

variable {ε α β : Type}

theorem bind_eq_error {first : Except ε α} {next : α → Except ε β} {fault : ε} :
    first >>= next = .error fault ↔
      first = .error fault ∨ ∃ value, first = .ok value ∧ next value = .error fault := by
  cases first with
  | error other =>
    constructor
    · intro failed
      cases failed
      exact .inl rfl
    · rintro (failed | ⟨value, impossible, -⟩)
      · cases failed
        rfl
      · cases impossible
  | ok value =>
    constructor
    · intro failed
      exact .inr ⟨value, rfl, failed⟩
    · rintro (impossible | ⟨same, read, failed⟩)
      · cases impossible
      · cases read
        exact failed

theorem map_eq_error {build : α → β} {first : Except ε α} {fault : ε} :
    build <$> first = .error fault ↔ first = .error fault := by
  cases first with
  | error other =>
    constructor
    · intro failed
      cases failed
      rfl
    · intro failed
      cases failed
      rfl
  | ok value => exact iff_of_false nofun nofun

theorem mapError_eq_error {ε' : Type} {first : Except ε α} {wrap : ε → ε'} {fault : ε'} :
    first.mapError wrap = .error fault ↔ ∃ inner, first = .error inner ∧ wrap inner = fault := by
  cases first <;> simp [Except.mapError]

/-- A value that is no list is refused as such. -/
theorem readList_of_noList {v : Json} (noList : ∀ items, v ≠ array items)
    (read : Json → Except Mismatch α) :
    readList read v = .error (.invalidType v.found "a sequence") := by
  cases v with
  | array items => exact absurd rfl (noList items)
  | _ => rfl

end Json

namespace Request

/-! ## Members at fault -/

/-- The members of a body that are checked. -/
inductive BodyMember where
  | model
  | messages
  | maxTokens
  | maxCompletionTokens
  | tools
  | functions
  | temperature
  | topP
  | stream
  deriving DecidableEq

namespace BodyMember

/-- The name of a member. -/
def name : BodyMember → String
  | model => "model"
  | messages => "messages"
  | maxTokens => "max_tokens"
  | maxCompletionTokens => "max_completion_tokens"
  | tools => "tools"
  | functions => "functions"
  | temperature => "temperature"
  | topP => "top_p"
  | stream => "stream"

/-- All members, in the order in which they are checked. -/
def all : List BodyMember :=
  [model, messages, maxTokens, maxCompletionTokens, tools, functions, temperature, topP, stream]

/-- Whether the value of a member is a list. -/
def isList : BodyMember → Bool
  | messages => true
  | tools => true
  | functions => true
  | _ => false

end BodyMember

/-- What is wrong with the value of a token limit. -/
inductive LimitFault (name : String) (v : Json) : BodyFault → Prop
  | type (noCount : ∀ n : Nat, v ≠ .ofNat n) :
      LimitFault name v (.mistyped name "a non-negative integer" v)
  | range {n : Nat} (count : v = .ofNat n) (large : UInt32.size ≤ n) :
      LimitFault name v (.limitOutOfRange name n)

/-- What is wrong with a member of a body. Only the model has to be there; a parameter that is null is
absent, and a second name counts when nothing stands under the first one. -/
inductive AtFault (body : Json) : BodyMember → BodyFault → Prop
  | model (noText : ∀ text, body.member? "model" ≠ some (.string text)) :
      AtFault body .model .missingModel
  | messages {v : Json} {mismatch : Mismatch} (given : body.member? "messages" = some v)
      (unread : Json.readList Message.ofJson v = .error mismatch) :
      AtFault body .messages (.shape mismatch)
  | maxTokens {v : Json} {fault : BodyFault} (given : present? body "max_tokens" = some v)
      (limit : LimitFault "max_tokens" v fault) : AtFault body .maxTokens fault
  | maxCompletionTokens {v : Json} {fault : BodyFault} (free : present? body "max_tokens" = none)
      (given : present? body "max_completion_tokens" = some v)
      (limit : LimitFault "max_completion_tokens" v fault) :
      AtFault body .maxCompletionTokens fault
  | tools {v : Json} {mismatch : Mismatch} (given : present? body "tools" = some v)
      (unread : Json.readList Tool.ofJson v = .error mismatch) :
      AtFault body .tools (.shape mismatch)
  | functions {v : Json} {mismatch : Mismatch} (free : present? body "tools" = none)
      (given : present? body "functions" = some v)
      (unread : Json.readList Function.ofJson v = .error mismatch) :
      AtFault body .functions (.shape mismatch)
  | temperature {v : Json} (given : present? body "temperature" = some v)
      (noNumber : ∀ number, v ≠ .number number) :
      AtFault body .temperature (.mistyped "temperature" "a number" v)
  | topP {v : Json} (given : present? body "top_p" = some v)
      (noNumber : ∀ number, v ≠ .number number) :
      AtFault body .topP (.mistyped "top_p" "a number" v)
  | stream {v : Json} (given : present? body "stream" = some v) (noFlag : ∀ flag, v ≠ .bool flag) :
      AtFault body .stream (.mistyped "stream" "a boolean" v)

/-- The fault of the first member that is at fault, among some members in their order. -/
inductive FirstAtFault (body : Json) (fault : BodyFault) : List BodyMember → Prop
  | here {member : BodyMember} {later : List BodyMember} (atFault : AtFault body member fault) :
      FirstAtFault body fault (member :: later)
  | later {member : BodyMember} {later : List BodyMember}
      (inOrder : ∀ other, ¬ AtFault body member other) (rest : FirstAtFault body fault later) :
      FirstAtFault body fault (member :: later)

section Checks

variable {body : Json} {fault : BodyFault} {member : BodyMember} {members members' : List BodyMember}

theorem not_firstAtFault_nil : ¬ FirstAtFault body fault [] := nofun

theorem firstAtFault_cons_iff :
    FirstAtFault body fault (member :: members) ↔
      AtFault body member fault ∨
        (∀ other, ¬ AtFault body member other) ∧ FirstAtFault body fault members := by
  constructor
  · rintro (atFault | ⟨inOrder, rest⟩)
    · exact .inl atFault
    · exact .inr ⟨inOrder, rest⟩
  · rintro (atFault | ⟨inOrder, rest⟩)
    · exact .here atFault
    · exact .later inOrder rest

theorem firstAtFault_singleton_iff :
    FirstAtFault body fault [member] ↔ AtFault body member fault := by
  rw [firstAtFault_cons_iff, or_iff_left]
  exact fun both => not_firstAtFault_nil both.2

/-- No member is at fault when there is no first one. -/
theorem forall_not_firstAtFault_iff :
    (∀ fault, ¬ FirstAtFault body fault members) ↔
      ∀ member ∈ members, ∀ fault, ¬ AtFault body member fault := by
  induction members with
  | nil => simp [not_firstAtFault_nil]
  | cons member members ih =>
    rw [List.forall_mem_cons, ← ih]
    simp only [firstAtFault_cons_iff, not_or, not_and]
    constructor
    · intro inOrder
      exact ⟨fun fault => (inOrder fault).1,
        fun fault => (inOrder fault).2 fun other => (inOrder other).1⟩
    · rintro ⟨first, later⟩ fault
      exact ⟨first fault, fun _ => later fault⟩

theorem firstAtFault_append_iff :
    FirstAtFault body fault (members ++ members') ↔
      FirstAtFault body fault members ∨
        (∀ member ∈ members, ∀ other, ¬ AtFault body member other) ∧
          FirstAtFault body fault members' := by
  induction members with
  | nil => simp [not_firstAtFault_nil]
  | cons member members ih =>
    rw [List.cons_append, firstAtFault_cons_iff, firstAtFault_cons_iff, ih, List.forall_mem_cons,
      and_or_left, or_assoc, and_assoc]

/-- A reader checks some members: it gives no value exactly when one of them is at fault, and then the
fault of the first one that is. -/
def Checks {α : Type} (body : Json) (members : List BodyMember) (read : Except BodyFault α) : Prop :=
  ∀ fault, read = .error fault ↔ FirstAtFault body fault members

variable {α β : Type}

theorem checks_nil (value : α) : Checks body [] (.ok value) := by
  intro fault
  exact iff_of_false nofun not_firstAtFault_nil

/-- Readers that come one after another check their members one after another. -/
theorem Checks.bind {first : Except BodyFault α} {next : α → Except BodyFault β}
    (checks : Checks body members first) (rest : ∀ value, Checks body members' (next value)) :
    Checks body (members ++ members') (first >>= next) := by
  intro fault
  -- The next reader is run exactly where the first one gives a value, that is, where no member of its
  -- own is at fault.
  rw [Json.bind_eq_error, firstAtFault_append_iff, checks fault, ← forall_not_firstAtFault_iff]
  apply or_congr_right
  constructor
  · rintro ⟨value, read, failed⟩
    refine ⟨fun other first => ?_, (rest value fault).1 failed⟩
    cases read.symm.trans ((checks other).2 first)
  · rintro ⟨inOrder, failed⟩
    cases read : first with
    | error other => exact absurd ((checks other).1 read) (inOrder other)
    | ok value => exact ⟨value, rfl, (rest value fault).2 failed⟩

theorem checks_singleton_iff {read : Except BodyFault α} :
    Checks body [member] read ↔ ∀ fault, read = .error fault ↔ AtFault body member fault :=
  forall_congr' fun _ => by rw [firstAtFault_singleton_iff]

/-- A reader that looks at the second of two members only where nothing stands under the first. -/
theorem checks_pair {first second : BodyMember} {read : Except BodyFault α}
    (exactly : ∀ fault, read = .error fault ↔ AtFault body first fault ∨ AtFault body second fault)
    (apart : ∀ fault other, AtFault body second fault → ¬ AtFault body first other) :
    Checks body [first, second] read := by
  intro fault
  rw [exactly, firstAtFault_cons_iff, firstAtFault_singleton_iff]
  apply or_congr_right
  rw [iff_and_self]
  exact fun atFault other => apart fault other atFault

end Checks

/-! ## What each reader checks -/

theorem tokenLimit_ofNat (name : String) (n : Nat) :
    tokenLimit name (.ofNat n) =
      if UInt32.size ≤ n then .error (.limitOutOfRange name n) else .ok (.ofNat n) := by
  have nonneg : ¬(n : Int) < 0 := Int.not_lt.2 (Int.natCast_nonneg n)
  rw [tokenLimit, Json.ofNat, Json.integer?]
  dsimp only
  rw [if_neg nonneg]
  simp only [Int.ofNat_le, Int.toNat_natCast]

theorem tokenLimit_of_noCount {name : String} {v : Json} (noCount : ∀ n : Nat, v ≠ .ofNat n) :
    tokenLimit name v = .error (.mistyped name "a non-negative integer" v) := by
  cases v with
  | number value =>
    cases value with
    | integer value =>
      -- A whole number that is no count is a negative one.
      have negative : value < 0 := by
        by_contra nonneg
        obtain ⟨n, rfl⟩ := Int.eq_ofNat_of_zero_le (Int.not_lt.1 nonneg)
        exact noCount n rfl
      rw [tokenLimit, Json.integer?]
      dsimp only
      rw [if_pos negative]
    | real value => rfl
  | _ => rfl

theorem tokenLimit_eq_error_iff {name : String} {v : Json} {fault : BodyFault} :
    tokenLimit name v = .error fault ↔ LimitFault name v fault := by
  by_cases count : ∃ n : Nat, v = .ofNat n
  · obtain ⟨n, rfl⟩ := count
    rw [tokenLimit_ofNat]
    constructor
    · intro failed
      split_ifs at failed with large
      cases failed
      exact .range rfl large
    · intro limit
      cases limit with
      | type noCount => exact absurd rfl (noCount n)
      | range count large =>
        cases count
        exact if_pos large
  · have noCount : ∀ n : Nat, v ≠ .ofNat n := not_exists.1 count
    rw [tokenLimit_of_noCount noCount]
    constructor
    · intro failed
      cases failed
      exact .type noCount
    · intro limit
      cases limit with
      | type _ => rfl
      | range count _ => exact absurd count (noCount _)

/-- What is read of the first of two parameters that is there. -/
theorem readEither_eq_error_iff {α : Type} {first second : Option Json}
    {readFirst readSecond : Json → Except BodyFault (Option α)} {fault : BodyFault} :
    (match first, second with
      | some v, _ => readFirst v
      | none, some v => readSecond v
      | none, none => .ok none) = .error fault ↔
      (∃ v, first = some v ∧ readFirst v = .error fault) ∨
        first = none ∧ ∃ v, second = some v ∧ readSecond v = .error fault := by
  cases first with
  | some v => simp
  | none => cases second <;> simp

section Readers

variable (body : Json)

theorem checks_messages : Checks body [.messages] (bodyMessages body) := by
  rw [checks_singleton_iff]
  intro fault
  rw [bodyMessages]
  cases found : body.member? "messages" with
  | none =>
    constructor
    · intro impossible
      cases impossible
    · intro atFault
      cases atFault with
      | messages given _ => cases found.symm.trans given
  | some v =>
    dsimp only
    rw [Json.mapError_eq_error]
    constructor
    · rintro ⟨mismatch, unread, rfl⟩
      exact .messages found unread
    · intro atFault
      cases atFault with
      | messages given unread =>
        cases found.symm.trans given
        exact ⟨_, unread, rfl⟩

theorem checks_tokenLimit : Checks body [.maxTokens, .maxCompletionTokens] (bodyTokenLimit body) := by
  apply checks_pair
  · intro fault
    refine readEither_eq_error_iff.trans (or_congr ?_ ?_)
    · simp only [Json.map_eq_error, tokenLimit_eq_error_iff]
      constructor
      · rintro ⟨v, given, limit⟩
        exact .maxTokens given limit
      · intro atFault
        cases atFault with
        | maxTokens given limit => exact ⟨_, given, limit⟩
    · simp only [Json.map_eq_error, tokenLimit_eq_error_iff]
      constructor
      · rintro ⟨free, v, given, limit⟩
        exact .maxCompletionTokens free given limit
      · intro atFault
        cases atFault with
        | maxCompletionTokens free given limit => exact ⟨free, _, given, limit⟩
  · -- The second name counts where nothing stands under the first one, and nothing is not at fault.
    intro fault other second first
    cases second with
    | maxCompletionTokens free _ _ =>
      cases first with
      | maxTokens given _ => cases free.symm.trans given

theorem checks_tools : Checks body [.tools, .functions] (bodyTools body) := by
  apply checks_pair
  · intro fault
    refine readEither_eq_error_iff.trans (or_congr ?_ ?_)
    · simp only [Json.mapError_eq_error, Json.map_eq_error]
      constructor
      · rintro ⟨v, given, mismatch, unread, rfl⟩
        exact .tools given unread
      · intro atFault
        cases atFault with
        | tools given unread => exact ⟨_, given, _, unread, rfl⟩
    · simp only [Json.mapError_eq_error, Json.map_eq_error]
      constructor
      · rintro ⟨free, v, given, mismatch, unread, rfl⟩
        exact .functions free given unread
      · intro atFault
        cases atFault with
        | functions free given unread => exact ⟨free, _, given, _, unread, rfl⟩
  · intro fault other second first
    cases second with
    | functions free _ _ =>
      cases first with
      | tools given _ => cases free.symm.trans given

/-- A number is at fault when something else is there that is not null. -/
theorem bodyNumber_eq_error_iff {name : String} {fault : BodyFault} :
    bodyNumber body name = .error fault ↔
      ∃ v, present? body name = some v ∧ (∀ number, v ≠ .number number) ∧
        .mistyped name "a number" v = fault := by
  rw [bodyNumber]
  cases present? body name with
  | none => simp
  | some v => cases v <;> simp [Json.binary64?]

theorem checks_temperature : Checks body [.temperature] (bodyNumber body "temperature") := by
  rw [checks_singleton_iff]
  intro fault
  rw [bodyNumber_eq_error_iff]
  constructor
  · rintro ⟨v, given, noNumber, rfl⟩
    exact .temperature given noNumber
  · intro atFault
    cases atFault with
    | temperature given noNumber => exact ⟨_, given, noNumber, rfl⟩

theorem checks_topP : Checks body [.topP] (bodyNumber body "top_p") := by
  rw [checks_singleton_iff]
  intro fault
  rw [bodyNumber_eq_error_iff]
  constructor
  · rintro ⟨v, given, noNumber, rfl⟩
    exact .topP given noNumber
  · intro atFault
    cases atFault with
    | topP given noNumber => exact ⟨_, given, noNumber, rfl⟩

/-- The flag is at fault when something else is there that is not null. -/
theorem bodyStream_eq_error_iff {fault : BodyFault} :
    bodyStream body = .error fault ↔
      ∃ v, present? body "stream" = some v ∧ (∀ flag, v ≠ .bool flag) ∧
        .mistyped "stream" "a boolean" v = fault := by
  rw [bodyStream]
  cases present? body "stream" with
  | none => simp
  | some v => cases v <;> simp

theorem checks_stream : Checks body [.stream] (bodyStream body) := by
  rw [checks_singleton_iff]
  intro fault
  rw [bodyStream_eq_error_iff]
  constructor
  · rintro ⟨v, given, noFlag, rfl⟩
    exact .stream given noFlag
  · intro atFault
    cases atFault with
    | stream given noFlag => exact ⟨_, given, noFlag, rfl⟩

/-- The members behind the model are checked one after another. -/
theorem checks_parts (model : String) : Checks body BodyMember.all.tail (do
    let messages ← bodyMessages body
    let maxTokens ← bodyTokenLimit body
    let tools ← bodyTools body
    let temperature ← bodyNumber body "temperature"
    let topP ← bodyNumber body "top_p"
    let stream ← bodyStream body
    return Request.mk model messages temperature maxTokens topP tools
      (present? body "response_format") stream) :=
  (checks_messages body).bind fun _ => (checks_tokenLimit body).bind fun _ =>
    (checks_tools body).bind fun _ => (checks_temperature body).bind fun _ =>
      (checks_topP body).bind fun _ => (checks_stream body).bind fun _ => checks_nil _

end Readers

/-- A body is refused with the fault of the first member that is at fault, and read when none is. -/
theorem ofBody_eq_error_iff {body : Json} {fault : BodyFault} :
    ofBody body = .error fault ↔ FirstAtFault body fault BodyMember.all := by
  -- The model is looked at before any other part is read.
  change _ ↔ FirstAtFault body fault (.model :: BodyMember.all.tail)
  rw [firstAtFault_cons_iff]
  unfold ofBody
  cases model : (body.member? "model").bind Json.string? with
  | none =>
    have noText : ∀ text, body.member? "model" ≠ some (.string text) := by
      intro text named
      cases model.symm.trans (bodyModel_eq_some_iff.2 named)
    constructor
    · intro failed
      cases failed
      exact .inl (.model noText)
    · rintro (atFault | ⟨inOrder, -⟩)
      · cases atFault
        rfl
      · exact absurd (.model noText) (inOrder _)
  | some name =>
    have inOrder : ∀ other, ¬ AtFault body .model other := by
      intro other atFault
      cases atFault with
      | model noText => exact noText name (bodyModel_eq_some_iff.1 model)
    dsimp only
    rw [or_iff_right (inOrder fault), and_iff_right inOrder]
    exact checks_parts body name fault

/-! ## Errors -/

section Errors

variable {body : Json} {fault : BodyFault} {member : BodyMember}

/-- The error for a text, a number, a limit or the flag names the member. -/
theorem AtFault.error_named (atFault : AtFault body member fault) (notList : member.isList = false) :
    ∃ message details, fault.error = .failure .validation message
      ⟨some (bodyPath member.name), details, some "cacheable_request"⟩ := by
  cases atFault with
  | model _ => exact ⟨_, _, rfl⟩
  | maxTokens _ limit => cases limit <;> exact ⟨_, _, rfl⟩
  | maxCompletionTokens _ _ limit => cases limit <;> exact ⟨_, _, rfl⟩
  | temperature _ _ => exact ⟨_, _, rfl⟩
  | topP _ _ => exact ⟨_, _, rfl⟩
  | stream _ _ => exact ⟨_, _, rfl⟩
  | messages _ _ => cases notList
  | tools _ _ => cases notList
  | functions _ _ _ => cases notList

/-- The error for a list is that of its reader. -/
theorem AtFault.error_of_list (atFault : AtFault body member fault) (list : member.isList = true) :
    ∃ mismatch, fault = .shape mismatch ∧ fault.error = .serialization mismatch := by
  cases atFault with
  | messages _ _ => exact ⟨_, rfl, rfl⟩
  | tools _ _ => exact ⟨_, rfl, rfl⟩
  | functions _ _ _ => exact ⟨_, rfl, rfl⟩
  | _ => cases list

/-- Messages that are no list are at fault, null ones among them. -/
theorem atFault_messages_of_noList {v : Json} (given : body.member? "messages" = some v)
    (noList : ∀ items, v ≠ .array items) :
    AtFault body .messages (.shape (.invalidType v.found "a sequence")) :=
  .messages given (Json.readList_of_noList noList _)

theorem atFault_tools_of_noList {v : Json} (given : present? body "tools" = some v)
    (noList : ∀ items, v ≠ .array items) :
    AtFault body .tools (.shape (.invalidType v.found "a sequence")) :=
  .tools given (Json.readList_of_noList noList _)

theorem atFault_functions_of_noList {v : Json} (free : present? body "tools" = none)
    (given : present? body "functions" = some v) (noList : ∀ items, v ≠ .array items) :
    AtFault body .functions (.shape (.invalidType v.found "a sequence")) :=
  .functions free given (Json.readList_of_noList noList _)

end Errors

/-! ## The rule -/

/-- How a body is refused: by the fault of the first member at fault, in an error that names the member
unless its value is a list. Messages, tools and functions that are no list are at fault, null messages
among them; every other parameter that is null is absent. -/
structure RefusalRule (members : Members) : Prop where
  first : ∀ fault, ofBody (.object members) = .error fault ↔
    FirstAtFault (.object members) fault BodyMember.all
  named : ∀ {member fault}, AtFault (.object members) member fault → member.isList = false →
    ∃ message details, fault.error = .failure .validation message
      ⟨some (bodyPath member.name), details, some "cacheable_request"⟩
  unnamed : ∀ {member fault}, AtFault (.object members) member fault → member.isList = true →
    ∃ mismatch, fault = .shape mismatch ∧ fault.error = .serialization mismatch
  messages : ∀ {v}, find? "messages" members = some v → (∀ items, v ≠ .array items) →
    AtFault (.object members) .messages (.shape (.invalidType v.found "a sequence"))
  tools : ∀ {v}, present? (.object members) "tools" = some v → (∀ items, v ≠ .array items) →
    AtFault (.object members) .tools (.shape (.invalidType v.found "a sequence"))
  functions : ∀ {v}, present? (.object members) "tools" = none →
    present? (.object members) "functions" = some v → (∀ items, v ≠ .array items) →
    AtFault (.object members) .functions (.shape (.invalidType v.found "a sequence"))
  null : ∀ {name}, name ∈ parameterNames →
    ofBody (.object (insertMember name .null members)) = ofBody (.object (eraseMember name members))

/-- Every body is refused by this rule or read. -/
theorem refused_by_first_at_fault (members : Members) : RefusalRule members where
  first _ := ofBody_eq_error_iff
  named atFault notList := atFault.error_named notList
  unnamed atFault list := atFault.error_of_list list
  messages given noList := atFault_messages_of_noList given noList
  tools given noList := atFault_tools_of_noList given noList
  functions free given noList := atFault_functions_of_noList free given noList
  null parameter := ofBody_insertMember_null parameter

/-- A body with a token limit that is too large and a temperature that is a text. -/
def twoFaults : Members :=
  [("max_tokens", .ofNat 5000000000), ("model", .string "m"), ("temperature", .string "0.5")]

/-- Of the two faults that of the token limit counts, and its error names it. -/
theorem refused_by_first_at_fault_twoFaults :
    FirstAtFault (.object twoFaults) (.limitOutOfRange "max_tokens" 5000000000) BodyMember.all ∧
    AtFault (.object twoFaults) .temperature (.mistyped "temperature" "a number" (.string "0.5")) ∧
    (∃ message details, (BodyFault.limitOutOfRange "max_tokens" 5000000000).error =
      .failure .validation message ⟨some "request.max_tokens", details, some "cacheable_request"⟩) ∧
    ofBody (.object (insertMember "stream" .null twoFaults)) =
      ofBody (.object (eraseMember "stream" twoFaults)) := by
  have rule := refused_by_first_at_fault twoFaults
  have limit : AtFault (.object twoFaults) .maxTokens (.limitOutOfRange "max_tokens" 5000000000) :=
    .maxTokens rfl (.range rfl (by decide))
  exact ⟨(rule.first _).1 rfl, .temperature rfl nofun, rule.named limit rfl, rule.null (by decide)⟩

/-- The error for messages that are a text is no validation error and names nothing, and null messages
are refused where a body without messages is read. -/
theorem mistyped_messages_unnamed :
    (ofBody (.object [("messages", .string "hi"), ("model", .string "m")])).mapError BodyFault.error =
      .error (.serialization (.invalidType (.string "hi") "a sequence")) ∧
    (Error.serialization (.invalidType (.string "hi") "a sequence")).context? = none ∧
    ofBody (.object [("messages", .null), ("model", .string "m")]) =
      .error (.shape (.invalidType .null "a sequence")) ∧
    ofBody (.object [("model", .string "m")]) =
      .ok ⟨"m", [], none, none, none, none, none, false⟩ :=
  ⟨rfl, rfl, rfl, rfl⟩

end Request

end CompletionCache
