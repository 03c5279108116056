import ScriptBridge.Text.Printable

/-!
# Quoted text

A text between double quotes. A quote and a backslash get a backslash; NUL, tab, newline and
carriage return have names; any other character without a shape of its own is written by its code
point in hexadecimal.
-/

namespace ScriptBridge.Text

/-- How a character is written between double quotes. -/
def quoteChar (c : Char) : List Char :=
  match c with
  | '"' => ['\\', '"']
  | '\\' => ['\\', '\\']
  | '\n' => ['\\', 'n']
  | '\r' => ['\\', 'r']
  | '\t' => ['\\', 't']
  | '\x00' => ['\\', '0']
  | c =>
    if isShown c then [c]
    else ['\\', 'u', '\x7b'] ++ Nat.toDigits 16 c.toNat ++ ['\x7d']

def quoted (s : String) : String :=
  String.ofList ('"' :: s.toList.flatMap quoteChar ++ ['"'])

end ScriptBridge.Text
