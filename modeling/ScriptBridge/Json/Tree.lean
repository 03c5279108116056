/-!
# JSON trees

The values of JSON. A number keeps the form it was written in: a natural number of 64 bits, a
negative integer of 64 bits, or a double.
-/

namespace ScriptBridge

inductive JsonNumber where
  | natural (n : UInt64)
  /-- A number below zero. -/
  | negative (n : Int64)
  | double (x : Float)

/-- A value of JSON; an object keeps its members in the order of the text. -/
inductive Json where
  | null
  | bool (b : Bool)
  | number (n : JsonNumber)
  | string (s : String)
  | array (items : List Json)
  | object (members : List (String × Json))
  deriving Inhabited

end ScriptBridge
