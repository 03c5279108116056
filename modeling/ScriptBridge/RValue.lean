/-!
# Script values

The values of R that the bridge carries: null, atomic vectors in which an element may be missing
(`NA`), generic lists with optional names, and a stand-in for everything else that names its type.
-/

namespace ScriptBridge

/-- A value of a script. -/
inductive RValue where
  | null
  | logical (v : List (Option Bool))
  | integer (v : List (Option Int32))
  | double (v : List (Option Float))
  | character (v : List (Option String))
  | list (values : List RValue) (names : Option (List String))
  /-- A value without a counterpart, by the name of its type. -/
  | unsupported (typeName : String)
  deriving Inhabited

namespace RValue

def string (s : String) : RValue := character [some s]

def ofBool (b : Bool) : RValue := logical [some b]

def ofInt32 (n : Int32) : RValue := integer [some n]

def ofFloat (x : Float) : RValue := double [some x]

def strings (texts : List String) : RValue := character (texts.map some)

def namedList (entries : List (String × RValue)) : RValue :=
  list (entries.map (·.2)) (some (entries.map (·.1)))

def length : RValue → Nat
  | null | unsupported _ => 0
  | logical v => v.length
  | integer v => v.length
  | double v => v.length
  | character v => v.length
  | list values _ => values.length

def isEmpty (x : RValue) : Bool := x.length == 0

def isNull : RValue → Bool
  | null => true
  | _ => false

def typeName : RValue → String
  | null => "NULL"
  | logical _ => "logical"
  | integer _ => "integer"
  | double _ => "double"
  | character _ => "character"
  | list _ _ => "list"
  | unsupported t => t

def names? : RValue → Option (List String)
  | list _ names => names
  | _ => none

/-- The element of the first equal name. -/
def lookup (name : String) : List String → List RValue → Option RValue
  | n :: ns, v :: vs => if n = name then some v else lookup name ns vs
  | _, _ => none

/-- The element of a list under a name; the first of several equal names counts. -/
def getNamed? (x : RValue) (name : String) : Option RValue :=
  match x with
  | list values (some names) => lookup name names values
  | _ => none

/-- The first element of a vector of texts, unless it is missing. -/
def asString? : RValue → Option String
  | character (some s :: _) => some s
  | _ => none

end RValue

end ScriptBridge
