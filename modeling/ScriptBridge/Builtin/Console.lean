import ScriptBridge.Builtin.Args
import ScriptBridge.RValue.Combine
import ScriptBridge.RValue.Operate

/-!
# Built-in functions that print, read and write

Text goes to the console, to one of its two channels, or to a file.
-/

namespace ScriptBridge.Builtin

def outputConnection : Int32 := 1

def errorConnection : Int32 := 2

def writeFile (path : String) (append : Bool) (text : String) : Exec Unit := do
  let m ← get
  match m.files.write (m.pathOf path) append text with
  | .ok files => set { m with files }
  | .error e => Exec.fail (.cannotOpen path e.message)

/-- Writes text to what an argument names: a connection, or a file. The console stands for no
argument, for an empty path and for every number but that of the error channel. -/
def emit (text : String) (destination : Option RValue) (append : Bool) : Exec Unit :=
  match destination with
  | none => Exec.print .output text
  | some (.integer v) =>
    Exec.print (if v.head? = some (some errorConnection) then .error else .output) text
  | some (.character v) =>
    if v.head? = some (some "") then Exec.print .output text
    else writeFile ((v.headD none).getD "") append text
  | some x => Exec.fail (.connectionType x.typeName)

/-- The texts that `cat` prints for a value; elements may not be lists. -/
def catTexts (x : RValue) : Exec (List String) := do
  let texts ← x.split.mapM fun item =>
    if item.isList then Exec.fail .listForCat else Exec.ofExcept item.texts
  return texts.flatten

def cat (args : Args) : Exec Object := do
  let (sep, args) := args.named "sep"
  let sep ← textOr " " sep
  let (file, args) := args.named "file"
  let file ← optional file
  let (append, args) := args.named "append"
  let append ← flag false append
  let words ← (← values args.unnamed).mapM catTexts
  emit (sep.intercalate words.flatten) file append
  return Object.null

def writeLines (function : String) (args : Args) : Exec Object := do
  let (text, args) := args.take "text"
  let text ← required function "text" text
  let (con, args) := args.take "con"
  let con ← optional con
  let sep ← textOr "\n" (args.named "sep").1
  let lines ← Exec.ofExcept text.texts
  emit (String.join (lines.map (· ++ sep))) con false
  return Object.null

def readLines (args : Args) : Exec RValue := do
  let path ← textOr "" (args.take "con").1
  let m ← get
  match m.files.read (m.pathOf path) with
  | .ok text => return .strings ((Text.lines text.toList).map String.ofList)
  | .error e => Exec.fail (.cannotOpen path e.message)

/-- The function `print`; it yields what it prints. -/
def print (args : Args) : Exec Object := do
  let x := (args.take "x").1.getD Object.null
  Exec.print .output (match x with
    | .data v => v.printed
    | .closure _ _ => "<closure>\n")
  return x

def messageText (args : Args) : Exec String := do
  return String.join (← allTexts (← values args.unnamed))

def message (args : Args) : Exec Object := do
  let (appendLF, args) := args.named "appendLF"
  let newline ← flag true appendLF
  let text ← messageText args
  Exec.print .error (if newline then text ++ "\n" else text)
  return Object.null

def warning (args : Args) : Exec RValue := do
  let text ← messageText args
  Exec.warn text
  return .string text

def stop (args : Args) : Exec Object := do
  let (call, args) := args.named "call."
  let withCall ← flag true call
  let text ← messageText args
  let m ← get
  throw (.error ⟨.stopped text, if withCall then m.function? else none⟩)

end ScriptBridge.Builtin
