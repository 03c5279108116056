/-!
# The engine and its language

How a host finds the engine among others, and pieces of script that a host may ask it for.
-/

namespace ScriptBridge.Language

def engineName : String := "R"
def engineVersion : String := "1"
def languageName : String := "R"
def languageVersion : String := "2"
def names : List String := ["R", "r", "parscript"]
def extensions : List String := ["R", "r", "parscript"]
def mediaTypes : List String := ["text/x-R"]

/-- A field of the engine's description. -/
def parameter? (key : String) : Option String :=
  match key with
  | "name" => some engineName
  | "engine" => some engineName
  | "engine_version" => some engineVersion
  | "language" => some languageName
  | "language_version" => some languageVersion
  | _ => none

def handles (name : String) : Bool := names.contains name

def methodCall (object function : String) (arguments : List String) : String :=
  function ++ "(" ++ ",".intercalate (object :: arguments) ++ ");"

/-- A statement that prints a text. -/
def outputStatement (text : String) : String := "cat('" ++ text ++ "');"

/-- Statements as a program, one a line. -/
def program (statements : List String) : String :=
  String.join (statements.map (· ++ ";\n"))

end ScriptBridge.Language
