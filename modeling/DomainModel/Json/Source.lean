import DomainModel.Json.Basic

/-!
# Sources of values

A value is read from a source: a document at hand, or the text of one, which may break off or hold
something that cannot be read. A source records what a reader meets on its way through the text, so
that of several faults the first in the text is the one reported. What a reader passes over need
only be complete: numbers and strings in it may be such as stand for no value.
-/

namespace DomainModel

/-- What a reader meets where a value is due. -/
inductive Source where
  | null
  | bool (b : Bool)
  | number (n : Number)
  | text (s : String)
  /-- The items of an array, and whether the array is closed after them. -/
  | array (items : List Source) (closed : Bool)
  /-- The members of an object, a key without a value if it cannot be read, and what stands where
  the object should be closed, if it is not. -/
  | object (members : List (Option String × Source)) (stray : Option Source)
  /-- A number beyond all binary64 numbers, or a string with half of a surrogate pair. -/
  | unreadable
  /-- The text is no JSON from here on. -/
  | broken

namespace Source

instance : Inhabited Source := ⟨.null⟩

mutual

/-- The source of a document at hand. -/
def ofJson : Json → Source
  | .null => .null
  | .bool b => .bool b
  | .number n => .number n
  | .string s => .text s
  | .array items => .array (ofItems items) true
  | .object members => .object (ofMembers members) none

/-- The sources of the items of an array. -/
def ofItems : List Json → List Source
  | [] => []
  | x :: xs => ofJson x :: ofItems xs

/-- The sources of the members of an object. -/
def ofMembers : List (String × Json) → List (Option String × Source)
  | [] => []
  | (k, x) :: xs => (some k, ofJson x) :: ofMembers xs

end

mutual

/-- Whether a reader gets past the source without reading it. -/
def complete : Source → Bool
  | .array items closed => completeItems items && closed
  | .object members stray => completeMembers members && stray.isNone
  | .broken => false
  | .null | .bool _ | .number _ | .text _ | .unreadable => true

/-- Whether a reader gets past every item. -/
def completeItems : List Source → Bool
  | [] => true
  | x :: xs => x.complete && completeItems xs

/-- Whether a reader gets past every member. -/
def completeMembers : List (Option String × Source) → Bool
  | [] => true
  | (_, x) :: xs => x.complete && completeMembers xs

end

end Source

end DomainModel
