import CompletionCache.Decimal.Digits

/-!
# Documents as trees

A document is null, a boolean, a number, a text, a list, or an object whose members keep the order
and the repetitions they were written with. `normalize` sorts the members of every object by name,
by code point, and keeps the last of several members with one name. `nesting` counts the containers
around the innermost value. Equality of documents is decidable (`same_iff`).
-/

set_option autoImplicit false

namespace CompletionCache

/-- A number of a document: a whole number that was written as one and fits 64 bits, or a binary64
number. -/
inductive Number where
  | integer (value : Int)
  | real (value : Binary64)
  deriving DecidableEq, Inhabited

namespace Number

/-- The least whole number kept as one. -/
def leastInteger : Int := -0x8000000000000000

/-- The greatest whole number kept as one. -/
def greatestInteger : Int := 0xFFFFFFFFFFFFFFFF

/-- The binary64 number nearest to a number. -/
def toBinary64 : Number → Binary64
  | integer value => .ofInt value
  | real value => value

end Number

/-- A document. -/
inductive Json where
  | null
  | bool (value : Bool)
  | number (value : Number)
  | string (value : String)
  | array (items : List Json)
  | object (members : List (String × Json))
  deriving Inhabited

/-- The members of an object. -/
abbrev Members := List (String × Json)

namespace Json

/-! ## Equality -/

mutual

/-- Whether two documents are the same. -/
def same : Json → Json → Bool
  | null, null => true
  | bool a, bool b => a == b
  | number a, number b => a == b
  | string a, string b => a == b
  | array a, array b => sameItems a b
  | object a, object b => sameMembers a b
  | _, _ => false

/-- Whether two lists of documents are the same. -/
def sameItems : List Json → List Json → Bool
  | [], [] => true
  | a :: as, b :: bs => same a b && sameItems as bs
  | _, _ => false

/-- Whether two lists of members are the same. -/
def sameMembers : List (String × Json) → List (String × Json) → Bool
  | [], [] => true
  | (x, a) :: as, (y, b) :: bs => x == y && same a b && sameMembers as bs
  | _, _ => false

end

mutual

/-- Two documents are the same exactly when they are equal. -/
theorem same_iff : (a b : Json) → (same a b = true ↔ a = b)
  | null, b => by cases b <;> simp [same]
  | bool _, b => by cases b <;> simp [same]
  | number _, b => by cases b <;> simp [same]
  | string _, b => by cases b <;> simp [same]
  | array items, b => by cases b <;> simp [same, sameItems_iff items]
  | object members, b => by cases b <;> simp [same, sameMembers_iff members]

@[inherit_doc same_iff]
theorem sameItems_iff : (a b : List Json) → (sameItems a b = true ↔ a = b)
  | [], b => by cases b <;> simp [sameItems]
  | a :: as, b => by cases b <;> simp [sameItems, same_iff a, sameItems_iff as]

@[inherit_doc same_iff]
theorem sameMembers_iff : (a b : List (String × Json)) → (sameMembers a b = true ↔ a = b)
  | [], b => by cases b <;> simp [sameMembers]
  | (x, a) :: as, [] => by simp [sameMembers]
  | (x, a) :: as, (y, b) :: bs => by
      simp [sameMembers, same_iff a, sameMembers_iff as, and_assoc]

end

instance : DecidableEq Json := fun a b => decidable_of_iff (same a b = true) (same_iff a b)

/-! ## Members -/

/-- The value of the first member with a name. -/
def find? (name : String) : Members → Option Json
  | [] => none
  | (other, value) :: rest => if other = name then some value else find? name rest

/-- The value of the first member with a name, if the document is an object that has one. -/
def member? (name : String) : Json → Option Json
  | object members => find? name members
  | _ => none

/-- Puts a member into a list sorted by name; it takes the place of a member with its name. -/
def insertMember (name : String) (value : Json) : Members → Members
  | [] => [(name, value)]
  | (other, kept) :: rest =>
    if name = other then (name, value) :: rest
    else if name < other then (name, value) :: (other, kept) :: rest
    else (other, kept) :: insertMember name value rest

/-- The members sorted by name; of several with one name the last is kept. -/
def sortMembers (members : Members) : Members :=
  members.foldl (fun sorted member => insertMember member.1 member.2 sorted) []

mutual

/-- The same document with the members of every object sorted by name and no name repeated. -/
def normalize : Json → Json
  | array items => array (normalizeItems items)
  | object members => object (sortMembers (normalizeMembers members))
  | other => other

/-- `normalize` on every item. -/
def normalizeItems : List Json → List Json
  | [] => []
  | item :: rest => normalize item :: normalizeItems rest

/-- `normalize` on the value of every member. -/
def normalizeMembers : List (String × Json) → List (String × Json)
  | [] => []
  | (name, value) :: rest => (name, normalize value) :: normalizeMembers rest

end

/-! ## Nesting -/

mutual

/-- The greatest number of containers around a value of the document, its own ones included. -/
def nesting : Json → Nat
  | array items => nestingItems items + 1
  | object members => nestingMembers members + 1
  | _ => 0

/-- The greatest nesting among some items. -/
def nestingItems : List Json → Nat
  | [] => 0
  | item :: rest => max (nesting item) (nestingItems rest)

/-- The greatest nesting among the values of some members. -/
def nestingMembers : List (String × Json) → Nat
  | [] => 0
  | (_, value) :: rest => max (nesting value) (nestingMembers rest)

end

/-! ## Views -/

/-- The text of a text. -/
def string? : Json → Option String
  | string value => some value
  | _ => none

/-- The boolean of a boolean. -/
def bool? : Json → Option Bool
  | bool value => some value
  | _ => none

/-- The whole number of a number written as one. -/
def integer? : Json → Option Int
  | number (.integer value) => some value
  | _ => none

/-- The binary64 number nearest to a number. -/
def binary64? : Json → Option Binary64
  | number value => some value.toBinary64
  | _ => none

/-- A whole number as a document. -/
def ofNat (n : Nat) : Json := number (.integer n)

/-- A binary64 number as a document. A number that is not finite has no document form and becomes
null. -/
def ofBinary64 (x : Binary64) : Json := if x.isFinite then number (.real x) else null

/-- A value that may be absent, null when it is. -/
def ofOption {α : Type} (encode : α → Json) : Option α → Json
  | none => null
  | some value => encode value

/-- A member that is left out when its value is absent. -/
def optionalMember {α : Type} (name : String) (encode : α → Json) : Option α → Members
  | none => []
  | some value => [(name, encode value)]

end Json

end CompletionCache
