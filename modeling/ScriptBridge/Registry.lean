import ScriptBridge.Error

/-!
# The shared interpreter

A process has at most one shared interpreter. It is started when it is first asked for, and stays.
-/

namespace ScriptBridge

/-- What a process knows of its interpreter. -/
structure Registry (σ : Type) where
  shared : Option σ := none
  /-- How often a way to start an interpreter was tried. -/
  starts : Nat := 0

namespace Registry

variable {σ : Type}

/-- The shared interpreter; `start` is tried only if there is none yet. -/
def createWith (start : Except InitError σ) (r : Registry σ) : Except InitError σ × Registry σ :=
  match r.shared, start with
  | some x, _ => (.ok x, r)
  | none, .ok x => (.ok x, { shared := some x, starts := r.starts + 1 })
  | none, .error e => (.error e, { r with starts := r.starts + 1 })

/-- The shared interpreter; none can be started without being told how. -/
def create (r : Registry σ) : Except InitError σ :=
  match r.shared with
  | some x => .ok x
  | none => .error (.notAvailable "built without the \x60r\x60 feature")

def update (x : σ) (r : Registry σ) : Registry σ := { r with shared := some x }

end Registry

end ScriptBridge
