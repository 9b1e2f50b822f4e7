/-!
# Notices

What a conversion tells about its course, besides its result.
-/

namespace DomainModel

/-- How much a notice matters. -/
inductive Level where
  | debug
  | info
  | warn
  deriving DecidableEq, Repr

/-- Something that came up in a conversion. -/
inductive Notice where
  /-- The conversion begins. -/
  | converting (application database : String) (applicationType : Option String)
  /-- An entity is declared under the name of a built-in one. -/
  | builtInDeclared (name : String)
  /-- An option gives a service to an entity that had none. -/
  | serviceGiven (option entity : String)
  /-- An option names a built-in entity, which has no record. -/
  | optionIgnored (option entity : String)
  /-- The conversion is done. -/
  | converted (count : Nat) (application : String)
  deriving DecidableEq, Repr

namespace Notice

def level : Notice → Level
  | converting _ _ _ | optionIgnored _ _ | converted _ _ => .debug
  | serviceGiven _ _ => .info
  | builtInDeclared _ => .warn

def message : Notice → String
  | converting application database applicationType =>
    "Converting entities for " ++ application ++ " (database: " ++ database ++ ", type: "
      ++ applicationType.getD "unspecified" ++ ")"
  | builtInDeclared name =>
    s!"An Entity name '{name}' was used: '{name}' is an entity created by default. "
      ++ "All relationships toward it will be kept but any attributes and relationships from it "
      ++ "will be disregarded."
  | serviceGiven option entity =>
    s!"The {option} option is set for {entity}, the 'serviceClass' value for the "
      ++ "'service' is gonna be set for this entity if no other value has been set."
  | optionIgnored option entity =>
    s!"Ignoring the {option} option for the built-in entity {entity}"
  | converted count application => s!"Converted {count} entities for {application}"

end Notice

end DomainModel
