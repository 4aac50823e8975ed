import CameraFleet.Number.Binary64

/-!
# JSON values

Configuration comes as a JSON value. A number keeps its decimal as it was
written; an object keeps its members in order, and the last member of a name
counts.
-/

namespace CameraFleet

/-- A JSON value. -/
inductive Json
  | null
  | bool (value : Bool)
  | number (value : Number.Decimal)
  | string (value : String)
  | array (items : List Json)
  | object (members : List (String × Json))
  deriving Repr, Inhabited

namespace Json

/-- The value of the last member of a name; only objects have members. -/
def member? : Json -> String -> Option Json
  | .object members, name => (members.reverse.find? (·.1 == name)).map (·.2)
  | _, _ => none

/-- The text of a string. -/
def text? : Json -> Option String
  | .string value => some value
  | _ => none

/-- The items of an array. -/
def items? : Json -> Option (List Json)
  | .array items => some items
  | _ => none

/-- The integer that a number is. -/
def int? : Json -> Option Int
  | .number value => value.toInt?
  | _ => none

/-- Whether a value is an object. -/
def isObject : Json -> Bool
  | .object _ => true
  | _ => false

/-- A natural number as a JSON value. -/
def ofNat (n : Nat) : Json :=
  .number { digits := n, exponent := 0 }

/-- Texts as a JSON value. -/
def ofTexts (texts : List String) : Json :=
  .array (texts.map Json.string)

end Json
end CameraFleet
