import ScriptBridge.Text.Utf8
import ScriptBridge.Value

/-!
# What host and engine share

The host hands the engine writers for console text, sinks for the progress of a task and maps of job
variables, and looks at them afterwards. They are kept in a store and named by their index, so two
bindings that name the same map share it.
-/

namespace ScriptBridge

/-- A destination of console text. -/
structure Writer where
  /-- The octets written so far. -/
  octets : List UInt8 := []
  /-- How often the writer was told to flush. -/
  flushes : Nat := 0
  /-- A failing writer refuses every text that is not empty; a text that is refused causes no flush.
  -/
  failing : Bool := false
  deriving DecidableEq, Inhabited

namespace Writer

def push (w : Writer) (octets : List UInt8) : Writer := { w with octets := w.octets ++ octets }

def flush (w : Writer) : Writer := { w with flushes := w.flushes + 1 }

def write (w : Writer) (text : String) : Writer :=
  if w.failing ∧ text ≠ "" then w else (w.push (Utf8.encode text)).flush

/-- Everything written so far as text. -/
def contents (w : Writer) : String := Utf8.readLossy w.octets

end Writer

/-- The shared objects, each kind by index. -/
structure Host where
  writers : List Writer := []
  sinks : List Int32 := []
  maps : List (Dict Value) := []
  deriving Inhabited

namespace Host

def addWriter (h : Host) (w : Writer) : Nat × Host :=
  (h.writers.length, { h with writers := h.writers ++ [w] })

def addSink (h : Host) (n : Int32) : Nat × Host :=
  (h.sinks.length, { h with sinks := h.sinks ++ [n] })

def addMap (h : Host) (d : Dict Value) : Nat × Host :=
  (h.maps.length, { h with maps := h.maps ++ [d] })

def writer (h : Host) (i : Nat) : Writer := h.writers.getD i {}

def sink (h : Host) (i : Nat) : Int32 := h.sinks.getD i 0

def entries (h : Host) (i : Nat) : Dict Value := h.maps.getD i []

def write (h : Host) (i : Nat) (text : String) : Host :=
  { h with writers := h.writers.modify i (·.write text) }

def flush (h : Host) (i : Nat) : Host := { h with writers := h.writers.modify i Writer.flush }

def setSink (h : Host) (i : Nat) (n : Int32) : Host := { h with sinks := h.sinks.set i n }

def setVariable (h : Host) (i : Nat) (key : String) (v : Value) : Host :=
  { h with maps := h.maps.modify i (Dict.insert key v) }

def mergeVariables (h : Host) (i : Nat) (entries : Dict Value) : Host :=
  { h with maps := h.maps.modify i (·.merge entries) }

end Host

end ScriptBridge
