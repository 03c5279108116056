import ScriptBridge.Backend

/-!
# Calls of a backend

The calls as data, so that a series of them can be named: `Backend.after` is the state to which a
series leads, and `Backend.recorded` is a backend that keeps the calls it gets, and otherwise does
what it did before (`after_recorded`).
-/

namespace ScriptBridge

variable {σ : Type}

inductive BackendCall where
  | eval (program : String)
  | assign (name : String) (x : RValue)
  | get (name : String)
  | remove (name : String)

def Reply.map {α β : Type} (f : α → β) (r : Reply α) : Reply β := ⟨r.answer.map f, r.console⟩

/-- The call made. An answer without a value, and that of a variable that is not there, are `none`.
-/
def BackendCall.on (b : Backend σ) : BackendCall → σ → Reply (Option RValue) × σ
  | eval program, m => ((b.eval program m).1.map some, (b.eval program m).2)
  | assign name x, m => ((b.assign name x m).1.map fun _ => none, (b.assign name x m).2)
  | get name, m => b.get name m
  | remove name, m => ((b.remove name m).1.map fun _ => none, (b.remove name m).2)

namespace Backend

/-- The state after a series of calls. -/
def after (b : Backend σ) (calls : List BackendCall) (m : σ) : σ :=
  calls.foldl (fun m c => (c.on b m).2) m

def recorded (b : Backend σ) : Backend (σ × List BackendCall) where
  eval program s :=
    ((b.eval program s.1).1, ((b.eval program s.1).2, s.2 ++ [.eval program]))
  assign name x s :=
    ((b.assign name x s.1).1, ((b.assign name x s.1).2, s.2 ++ [.assign name x]))
  get name s := ((b.get name s.1).1, ((b.get name s.1).2, s.2 ++ [.get name]))
  remove name s := ((b.remove name s.1).1, ((b.remove name s.1).2, s.2 ++ [.remove name]))
  files s := b.files s.1

theorem on_recorded (b : Backend σ) (c : BackendCall) (m : σ) (calls : List BackendCall) :
    c.on b.recorded (m, calls) = ((c.on b m).1, ((c.on b m).2, calls ++ [c])) := by
  cases c <;> rfl

theorem after_recorded (b : Backend σ) (cs : List BackendCall) (m : σ)
    (calls : List BackendCall) :
    b.recorded.after cs (m, calls) = (b.after cs m, calls ++ cs) := by
  induction cs generalizing m calls with
  | nil => simp [after]
  | cons c cs ih =>
    have hrest : b.recorded.after (c :: cs) (m, calls) =
        b.recorded.after cs (c.on b.recorded (m, calls)).2 := rfl
    rw [hrest, on_recorded, ih, List.append_assoc]
    rfl

end Backend

end ScriptBridge
