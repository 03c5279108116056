import ScriptBridge.Host
import ScriptBridge.Console.Signal

/-!
# The console router

The router takes what the interpreter prints. During a run it passes output and diagnostics on to
the writers of that run, sets the progress sink of that run, and keeps the message of the last stop
signal. It lives as long as the interpreter; a run attaches to it with `beginRun` and leaves it with
`endRun`.
-/

namespace ScriptBridge

/-- The host's side of a run. -/
structure Attachment where
  out : Nat
  err : Nat
  progress : Option Nat := none
  deriving DecidableEq

structure Router where
  /-- A writer that gets a copy of every diagnostic. -/
  echo : Option Nat := none
  /-- The run in progress. -/
  run : Option Attachment := none
  /-- The message of the last stop signal. -/
  stopMessage : Option String := none
  deriving DecidableEq, Inhabited

namespace Router

/-- The router with a run attached and no signal seen. -/
def beginRun (r : Router) (a : Attachment) : Router := { echo := r.echo, run := some a }

/-- The router without a run and without a signal. -/
def endRun (r : Router) : Router := { echo := r.echo }

/-- A text passed to a writer, if there is one. -/
def forward (writer : Option Nat) (text : String) (h : Host) : Host :=
  match writer with
  | some i => h.write i text
  | none => h

/-- Text on the error channel, by its meaning. -/
def writeError (r : Router) (text : String) (h : Host) : Router × Host :=
  match Signal.ofText text with
  | .stop message => ({ r with stopMessage := some message }, h)
  | .progress n =>
    match r.run.bind (·.progress) with
    | some i => (r, h.setSink i n)
    | none => (r, h)
  | .diagnostic => (r, forward (r.run.map (·.err)) text (forward r.echo text h))

def write (r : Router) (chunk : Chunk) (h : Host) : Router × Host :=
  match chunk.channel with
  | .output => (r, forward (r.run.map (·.out)) chunk.text h)
  | .error => r.writeError chunk.text h

def writeAll (r : Router) (chunks : List Chunk) (h : Host) : Router × Host :=
  chunks.foldl (fun (r, h) c => r.write c h) (r, h)

def flush (r : Router) (h : Host) : Host :=
  match r.run with
  | some a => (h.flush a.out).flush a.err
  | none => h

def showMessage (r : Router) (text : String) (h : Host) : Host :=
  forward (r.run.map (·.err)) text h

end Router

end ScriptBridge
