import DomainModel.Text.Blank

/-!
# Injected fields

The field that a relationship puts into an entity is written as its name, which may be followed by
a field of the other entity in parentheses: `customer(name)`. Blanks around either part and the
number of closing parentheses do not matter.
-/

namespace DomainModel.Text

/-- The parts of an injected field. -/
structure InjectedField where
  name : Option String
  display : Option String
  deriving DecidableEq, Repr

/-- A text, unless it is empty. -/
def nonempty? (cs : List Char) : Option String := if cs = [] then none else some (String.ofList cs)

/-- The parts of an injected field as it is written; a blank one has none. -/
def InjectedField.read (written : Option String) : InjectedField :=
  let body := trim (written.getD "").toList
  if body = [] then ⟨none, none⟩
  else
    let name := body.takeWhile (· ≠ '(')
    match body.dropWhile (· ≠ '(') with
    | [] => ⟨some (String.ofList body), none⟩
    | _ :: rest =>
      ⟨some (String.ofList (trim name)), nonempty? (trim (dropEndWhile (· = ')') rest))⟩

end DomainModel.Text
