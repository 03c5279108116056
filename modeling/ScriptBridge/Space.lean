import ScriptBridge.Text.Cut
import ScriptBridge.Text.Percent

/-!
# Data spaces

A data space is a place for the files of a task, named by a URI. A space at a local directory has a
`file:` URI whose path is percent-encoded; `Space.path?` finds the local path that a URI names.
-/

namespace ScriptBridge

structure Space where
  uri : String
  deriving DecidableEq

namespace Space

def forwardSlashes (cs : List Char) : List Char := cs.map fun c => if c = '\\' then '/' else c

/-- The data space at a local directory. -/
def ofPath (path : String) : Space :=
  let cs := forwardSlashes path.toList
  let slash := if cs.head? = some '/' then [] else ['/']
  ⟨String.ofList ("file://".toList ++ slash ++ Percent.encode (Utf8.encode (String.ofList cs)))⟩

/-- The local path that a URI names: that of a `file:` URI, or a text that is no URI. -/
def path? (uri : String) : Option String :=
  match Text.stripStart? "file:".toList uri.toList with
  | none => if Text.occursIn "://".toList uri.toList then none else some uri
  | some rest => do
    let rest := Text.dropStart "localhost".toList (Text.dropStart "//".toList rest)
    let path ← Percent.read? (String.ofList rest)
    match path.toList with
    -- A path that starts with a drive has no slash before it.
    | '/' :: drive :: ':' :: more =>
      return if drive.isAlpha then String.ofList (drive :: ':' :: more) else path
    | _ => return path

/-- A path as scripts see it: without the marker of a verbatim path, with forward slashes. -/
def scriptPath (path : String) : String :=
  String.ofList (forwardSlashes (Text.dropStart "\\\\?\\".toList path.toList))

end Space

end ScriptBridge
