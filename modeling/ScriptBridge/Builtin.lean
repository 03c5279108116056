import ScriptBridge.Builtin.Console
import ScriptBridge.Builtin.Session
import ScriptBridge.Builtin.Texts
import ScriptBridge.Builtin.Vectors
import ScriptBridge.RValue.Show

/-!
# Built-in functions

The functions that every script has, by name. Their arguments are evaluated before the call; `rm`,
whose arguments are names, is part of the evaluator.
-/

namespace ScriptBridge.Builtin

/-- The value of a function that yields data. -/
def yields (x : Exec RValue) : Exec Object := do return .data (← x)

/-- The first argument without a name, null if there is none. -/
def firstOrNull (args : Args) : Object := args.positional.1.getD Object.null

/-- A call of the built-in function of a name. -/
def call (name : String) (args : Args) : Exec Object :=
  match name with
  -- Construction.
  | "c" => yields (combineAll args)
  | "list" => yields (makeList args)
  | "unlist" => yields (onValue RValue.unlist name args)
  | "seq_len" => yields (sequence name args)
  | "seq_along" => yields (positions name args)
  | "rev" => yields (onValue RValue.rev name args)
  -- Inspection.
  | "length" => yields (onValue (fun x => .ok (.ofInt32 (Int32.ofNat x.length))) name args)
  | "names" => yields (onValue (fun x => .ok (namesOf x)) name args)
  | "is.null" => yields (isNull args)
  | "is.na" => yields (onValue (fun x => .ok (missingElements x)) name args)
  | "typeof" => yields (typeName args)
  | "exists" => yields (nameExists args)
  | "nchar" => yields (onValue characterCounts name args)
  -- Coercion.
  | "as.integer" => yields (onValue (fun x => x.asInteger.map .integer) name args)
  | "as.numeric" | "as.double" => yields (onValue (fun x => x.asDouble.map .double) name args)
  | "as.character" => yields (onValue (fun x => x.asCharacter.map .character) name args)
  | "as.logical" => yields (onValue (fun x => x.asLogical.map .logical) name args)
  | "sum" => yields (sum args)
  -- Texts.
  | "paste" => yields (paste (textOr " ") args)
  | "paste0" => yields (paste (fun _ => return "") args)
  | "sprintf" => yields (format name args)
  | "toupper" => yields (onValue (mapTexts Text.toUpper) name args)
  | "tolower" => yields (onValue (mapTexts Text.toLower) name args)
  | "file.path" => yields (joinPath args)
  -- Console.
  | "stdout" => return .data (.ofInt32 outputConnection)
  | "stderr" => return .data (.ofInt32 errorConnection)
  | "cat" => cat args
  | "writeLines" => writeLines name args
  | "readLines" => yields (readLines args)
  | "print" => print args
  | "message" => message args
  | "warning" => yields (warning args)
  | "stop" => stop args
  | "geterrmessage" => yields errorMessage
  -- Control.
  | "return" => throw (.returned (firstOrNull args))
  | "invisible" | "identity" => return firstOrNull args
  -- Session.
  | "options" => yields (options args)
  | "getOption" => getOption args
  | "ls" => yields globalNames
  | "getwd" => yields workingDirectory
  | "setwd" => yields (changeDirectory args)
  | "Sys.getenv" => yields (environmentValue args)
  | "file.exists" => yields (testFiles Files.contains args)
  | "dir.exists" => yields (testFiles Files.isDirectory args)
  | _ => Exec.fail (.functionNotFound name)

end ScriptBridge.Builtin
