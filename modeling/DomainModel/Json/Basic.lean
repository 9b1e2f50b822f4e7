import DomainModel.Decimal.Binary64
import DomainModel.Dict

/-!
# JSON documents

A document keeps the members of its objects in order, and an object may name a key twice.
`Json.collapse` gives the value that such a document stands for: in every object a repeated key
keeps its first place and its last value.
-/

namespace DomainModel

/-- An integer that a document holds exactly: one of 64 bits, signed or unsigned. -/
structure Whole where
  value : Int
  /-- It is at least the least signed integer of 64 bits. -/
  lower : -0x8000000000000000 ≤ value := by decide
  /-- It is at most the greatest unsigned integer of 64 bits. -/
  upper : value < 0x10000000000000000 := by decide
  deriving DecidableEq, Repr

/-- A number of a document. -/
inductive Number where
  | whole (n : Whole)
  | real (x : Binary64)
  deriving DecidableEq, Repr

/-- A JSON document, with the members of objects in order and keys possibly repeated. -/
inductive Json where
  | null
  | bool (b : Bool)
  | number (n : Number)
  | string (s : String)
  | array (items : List Json)
  | object (members : List (String × Json))
  deriving Repr

namespace Json

instance : Inhabited Json := ⟨.null⟩

mutual

/-- Whether two documents are the same, order and repeated keys included. -/
def decEq : (a b : Json) → Decidable (a = b)
  | .null, .null => isTrue rfl
  | .bool a, .bool b => decidable_of_iff (a = b) (by simp)
  | .number a, .number b => decidable_of_iff (a = b) (by simp)
  | .string a, .string b => decidable_of_iff (a = b) (by simp)
  | .array a, .array b =>
    match decEqItems a b with
    | isTrue h => isTrue (by rw [h])
    | isFalse h => isFalse (by simpa using h)
  | .object a, .object b =>
    match decEqMembers a b with
    | isTrue h => isTrue (by rw [h])
    | isFalse h => isFalse (by simpa using h)
  | .null, .bool _ | .null, .number _ | .null, .string _ | .null, .array _ | .null, .object _
  | .bool _, .null | .bool _, .number _ | .bool _, .string _ | .bool _, .array _
  | .bool _, .object _ | .number _, .null | .number _, .bool _ | .number _, .string _
  | .number _, .array _ | .number _, .object _ | .string _, .null | .string _, .bool _
  | .string _, .number _ | .string _, .array _ | .string _, .object _ | .array _, .null
  | .array _, .bool _ | .array _, .number _ | .array _, .string _ | .array _, .object _
  | .object _, .null | .object _, .bool _ | .object _, .number _ | .object _, .string _
  | .object _, .array _ => isFalse nofun

def decEqItems : (a b : List Json) → Decidable (a = b)
  | [], [] => isTrue rfl
  | [], _ :: _ | _ :: _, [] => isFalse nofun
  | x :: xs, y :: ys =>
    match decEq x y, decEqItems xs ys with
    | isTrue h, isTrue hs => isTrue (by rw [h, hs])
    | isFalse h, _ => isFalse (by simp [h])
    | _, isFalse hs => isFalse (by simp [hs])

def decEqMembers : (a b : List (String × Json)) → Decidable (a = b)
  | [], [] => isTrue rfl
  | [], _ :: _ | _ :: _, [] => isFalse nofun
  | (k, x) :: xs, (l, y) :: ys =>
    match decEq x y, decEqMembers xs ys with
    | isTrue h, isTrue hs =>
      if hk : k = l then isTrue (by rw [hk, h, hs]) else isFalse (by simp [hk])
    | isFalse h, _ => isFalse (by simp [h])
    | _, isFalse hs => isFalse (by simp [hs])

end

instance : DecidableEq Json := decEq

mutual

/-- The value of a document: in every object a repeated key keeps its first place and its last
value. -/
def collapse : Json → Json
  | .array items => .array (collapseItems items)
  | .object members => .object (Entries.collapse (collapseMembers members))
  | .null => .null
  | .bool b => .bool b
  | .number n => .number n
  | .string s => .string s

/-- The values of a list of documents. -/
def collapseItems : List Json → List Json
  | [] => []
  | x :: xs => x.collapse :: collapseItems xs

/-- The same members with the value of each document. -/
def collapseMembers : List (String × Json) → List (String × Json)
  | [] => []
  | (k, x) :: xs => (k, x.collapse) :: collapseMembers xs

end

/-- An optional text, with null for none. -/
def ofText? : Option String → Json
  | none => .null
  | some s => .string s

/-- A list of texts. -/
def ofTexts (texts : List String) : Json := .array (texts.map .string)

end Json

end DomainModel
