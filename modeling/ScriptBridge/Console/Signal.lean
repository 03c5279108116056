import ScriptBridge.Decimal.Reading
import ScriptBridge.Text.Blank
import ScriptBridge.Text.Cut

/-!
# Signals on the console

A script reports to the engine through tagged text on the error channel: the stop tag and a message,
or the progress tag, an equals sign and a number of 32 bits, with blanks around the number. Any
other text is a diagnostic.
-/

namespace ScriptBridge

def stopTag : String := "<PARError> "

def progressTag : String := "<PARProgress>"

/-- The two channels of a console. -/
inductive Channel where
  | output
  /-- Errors, warnings and messages. -/
  | error
  deriving DecidableEq, Inhabited

/-- The channel of an output type: zero is regular output. -/
def Channel.ofOutputType (n : Int32) : Channel := if n = 0 then .output else .error

/-- Text that goes to a channel in one piece. -/
structure Chunk where
  channel : Channel
  text : String
  deriving DecidableEq, Inhabited

/-- What a text on the error channel means. -/
inductive Signal where
  | stop (message : String)
  | progress (n : Int32)
  | diagnostic
  deriving DecidableEq

namespace Signal

/-- A number of 32 bits with blanks around it. -/
def readProgress? (cs : List Char) : Option Int32 :=
  let cs := cs.dropWhile Text.isBlank
  let (negative, cs) := match cs with
    | '-' :: rest => (true, rest)
    | _ => (false, cs)
  let ds := cs.takeWhile Char.isDigit
  let rest := cs.dropWhile Char.isDigit
  let n : Int := if negative then -(Decimal.ofDigits ds : Int) else Decimal.ofDigits ds
  if ds ≠ [] ∧ rest.all Text.isBlank ∧ -2147483648 ≤ n ∧ n ≤ 2147483647 then some (Int32.ofInt n)
  else none

def ofText (text : String) : Signal :=
  match Text.stripStart? stopTag.toList text.toList with
  | some message => stop (String.ofList message)
  | none =>
    match (Text.stripStart? (progressTag.toList ++ ['=']) text.toList).bind readProgress? with
    | some n => progress n
    | none => diagnostic

end Signal

end ScriptBridge
