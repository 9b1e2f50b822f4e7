import DomainModel.Json.Printer
import DomainModel.Json.Source
import DomainModel.NameSet
import DomainModel.Text.Quoted

/-!
# Readers

A reader turns a source into a value, or names the first fault in it. A record is read from an
object, whose keys may come in any order, or from an array of its fields in the order of their
declaration. Reading from text and reading a document at hand differ in little: text nests at most
127 deep, and names a key once.
-/

namespace DomainModel

/-- What a message says was found. -/
inductive Found where
  | null
  | bool (b : Bool)
  | number (n : Number)
  | text (s : String)
  | sequence
  | map
  deriving DecidableEq, Repr

/-- What a message says was expected. -/
inductive Expected where
  | text
  | boolean
  | sequence
  | set
  | map
  | unit
  | variant
  | textOrMap
  | record (name : String)
  deriving DecidableEq, Repr

/-- Why a source cannot be read. -/
inductive Fault where
  /-- The text is no JSON, breaks off, or goes on after the value. -/
  | malformed
  | wrongType (found : Found) (expected : Expected)
  | unknownVariant (name : String) (known : List String)
  | notSingleKey
  | missingField (name : String)
  | repeatedField (name : String)
  | tooFew (count : Nat) (record : String) (fields : Nat)
  | tooMany (count : Nat)
  deriving DecidableEq, Repr

def Found.message : Found → String
  | .null => "null"
  | .bool b => s!"boolean `{b}`"
  | .number n@(.whole _) => "integer `" ++ String.ofList (Json.numberText n) ++ "`"
  | .number n@(.real _) => "floating point `" ++ String.ofList (Json.numberText n) ++ "`"
  | .text s => "string " ++ Text.quoted s
  | .sequence => "sequence"
  | .map => "map"

def Expected.message : Expected → String
  | .text => "a string"
  | .boolean => "a boolean"
  | .sequence => "a sequence"
  | .set => "a set"
  | .map => "a map"
  | .unit => "unit"
  | .variant => "variant identifier"
  | .textOrMap => "string or map"
  | .record name => "struct " ++ name

/-- The words for a fault, if it is one of the value and not of the text. -/
def Fault.message? : Fault → Option String
  | .malformed => none
  | .wrongType found expected => some s!"invalid type: {found.message}, expected {expected.message}"
  | .unknownVariant name known =>
    some ("unknown variant `" ++ name ++ "`, expected one of "
      ++ String.intercalate ", " (known.map fun k => "`" ++ k ++ "`"))
  | .notSingleKey => some "invalid value: map, expected map with a single key"
  | .missingField name => some s!"missing field `{name}`"
  | .repeatedField name => some s!"duplicate field `{name}`"
  | .tooFew count record fields =>
    some s!"invalid length {count}, expected struct {record} with {fields} elements"
  | .tooMany count => some s!"invalid length {count}, expected fewer elements in array"

/-- Where a source comes from: a document at hand, or text, at a depth of arrays and objects. -/
inductive Origin where
  | document
  | text (depth : Nat)
  deriving DecidableEq, Repr

/-- The deepest nesting of arrays and objects in text. -/
def Origin.maxDepth : Nat := 127

/-- The origin of what an array or object holds, unless it lies too deep. -/
def Origin.enter : Origin → Except Fault Origin
  | .document => .ok .document
  | .text depth => if depth < maxDepth then .ok (.text (depth + 1)) else .error .malformed

/-- Reads a value of type `α` from a source. -/
abbrev Reader (α : Type) := Origin → Source → Except Fault α

namespace Source

/-- What a source holds, in the words of a message, unless it cannot be read. -/
def found? : Source → Option Found
  | .null => some .null
  | .bool b => some (.bool b)
  | .number n => some (.number n)
  | .text s => some (.text s)
  | .array _ _ => some .sequence
  | .object _ _ => some .map
  | .unreadable | .broken => none

/-- The fault of a source that does not hold what was expected. -/
def unexpected (s : Source) (expected : Expected) : Fault :=
  match s.found? with
  | some found => .wrongType found expected
  | none => .malformed

end Source

namespace Reader

variable {α σ : Type}

def text : Reader String
  | _, .text s => .ok s
  | _, s => .error (s.unexpected .text)

def boolean : Reader Bool
  | _, .bool b => .ok b
  | _, s => .error (s.unexpected .boolean)

/-- Reads null as none, and anything else with `r`. -/
def optional (r : Reader α) : Reader (Option α)
  | _, .null => .ok none
  | o, s => some <$> r o s

/-- Reads each item in turn. -/
def each (r : Reader α) (o : Origin) : List Source → Except Fault (List α)
  | [] => .ok []
  | x :: xs => do return (← r o x) :: (← each r o xs)

/-- Reads the items of an array, under the name that a message has for it. -/
def items (r : Reader α) (expected : Expected) : Reader (List α)
  | o, .array xs closed => do
    let values ← each r (← o.enter) xs
    if closed then return values else throw .malformed
  | _, s => .error (s.unexpected expected)

def list (r : Reader α) : Reader (List α) := items r .sequence

/-- Reads an array of names as a set. -/
def names : Reader NameSet := fun o s => NameSet.ofList <$> items text .set o s

/-- Reads each member in turn. -/
def eachMember (r : Reader α) (o : Origin) :
    List (Option String × Source) → Except Fault (List (String × α))
  | [] => .ok []
  | (none, _) :: _ => .error .malformed
  | (some k, x) :: xs => do return (k, ← r o x) :: (← eachMember r o xs)

/-- Reads the members of an object, in the order of their keys. A repeated key keeps its first
place and its last value. -/
def dict (r : Reader α) : Reader (Dict α)
  | o, .object xs stray => do
    let entries ← eachMember r (← o.enter) xs
    if stray.isNone then return .ofList entries else throw .malformed
  | _, s => .error (s.unexpected .map)

mutual

/-- Reads any value. -/
def json (o : Origin) : Source → Except Fault Json
  | .null => .ok .null
  | .bool b => .ok (.bool b)
  | .number n => .ok (.number n)
  | .text s => .ok (.string s)
  | .array xs closed => do
    let values ← jsonItems (← o.enter) xs
    if closed then return .array values else throw .malformed
  | .object xs stray => do
    let entries ← jsonMembers (← o.enter) xs
    if stray.isNone then return .object (Entries.collapse entries) else throw .malformed
  | .unreadable | .broken => .error .malformed

/-- Reads any values in turn. -/
def jsonItems (o : Origin) : List Source → Except Fault (List Json)
  | [] => .ok []
  | x :: xs => do return (← json o x) :: (← jsonItems o xs)

/-- Reads any members in turn. -/
def jsonMembers (o : Origin) : List (Option String × Source) → Except Fault (List (String × Json))
  | [] => .ok []
  | (none, _) :: _ => .error .malformed
  | (some k, x) :: xs => do return (k, ← json o x) :: (← jsonMembers o xs)

end

/-! ## Records -/

/-- A field of a record that is being read into `σ`. -/
structure Field (σ : Type) where
  key : String
  /-- Reads the field into the record. -/
  read : Origin → Source → σ → Except Fault σ

/-- The field `key`, read by `r` and stored by `store`. -/
def field (key : String) (r : Reader α) (store : α → σ → σ) : Field σ where
  key := key
  read o s record := do return store (← r o s) record

/-- Reads the members of an object into a record. Unknown keys are passed over; of the known ones,
those in `seen` have come already. -/
def namedFields (fields : List (Field σ)) (o : Origin) (seen : List String) :
    List (Option String × Source) → σ → Except Fault σ
  | [], record => .ok record
  | (none, _) :: _, _ => .error .malformed
  | (some key, x) :: rest, record =>
    match fields.find? (·.key = key) with
    -- even where nothing is kept of it, the value has to be there
    | none => if x.complete then namedFields fields o seen rest record else .error .malformed
    | some f =>
      if key ∈ seen then .error (.repeatedField key)
      else do namedFields fields o (key :: seen) rest (← f.read o x record)

/-- Reads the items of an array into a record, as many as it has fields. -/
def listedFields (o : Origin) : List (Field σ) → List Source → σ → Except Fault σ
  | f :: fields, x :: xs, record => do listedFields o fields xs (← f.read o x record)
  | _, _, record => .ok record

/-- A record as it was read, and the number of items if it was given as an array. -/
structure Filled (σ : Type) where
  record : σ
  listed : Option Nat

/-- Reads a record, from its fields by key or in order. An array may be shorter than the record; in
a document it is refused if it is longer, and in text the item that is too much is no JSON. -/
def record (name : String) (fields : List (Field σ)) (start : σ) : Reader (Filled σ)
  | o, .object members stray => do
    let record ← namedFields fields (← o.enter) [] members start
    if stray.isNone then return ⟨record, none⟩ else throw .malformed
  | o, .array xs closed => do
    let record ← listedFields (← o.enter) fields xs start
    if fields.length < xs.length then
      throw (if o = .document then .tooMany xs.length else .malformed)
    else if closed then return ⟨record, some xs.length⟩
    else throw .malformed
  | _, s => .error (s.unexpected (.record name))

end Reader

/-- Reads a value from a document at hand. -/
def Json.read {α : Type} (r : Reader α) (j : Json) : Except Fault α := r .document (.ofJson j)

end DomainModel
