import ScriptBridge.Console.Router

/-!
# What the router does with chunks

Chunks go through the router one after the other (`writeAll_cons`, `writeAll_append`). They never
change who is attached to it (`writeAll_echo`, `writeAll_run`) nor the maps of the host
(`writeAll_maps`).
-/

namespace ScriptBridge

namespace Host

variable (h : Host) (i : Nat) (n : Int32) (text : String)

@[simp] theorem write_maps : (h.write i text).maps = h.maps := rfl

@[simp] theorem setSink_maps : (h.setSink i n).maps = h.maps := rfl

@[simp] theorem mergeVariables_maps (entries : Dict Value) :
    (h.mergeVariables i entries).maps = h.maps.modify i (·.merge entries) := rfl

end Host

namespace Router

variable (r : Router) (c : Chunk) (cs ds : List Chunk) (h : Host) (text : String)

@[simp] theorem forward_maps (writer : Option Nat) : (forward writer text h).maps = h.maps := by
  cases writer <;> rfl

/-! ### One chunk -/

theorem writeError_stop {message : String} (hs : Signal.ofText text = .stop message) :
    r.writeError text h = ({ r with stopMessage := some message }, h) := by
  rw [writeError, hs]

theorem writeError_diagnostic (hs : Signal.ofText text = .diagnostic) :
    r.writeError text h = (r, forward (r.run.map (·.err)) text (forward r.echo text h)) := by
  rw [writeError, hs]

@[simp] theorem writeError_maps : (r.writeError text h).2.maps = h.maps := by
  unfold writeError
  split
  · rfl
  · cases r.run.bind (·.progress) <;> rfl
  · simp

@[simp] theorem write_maps : (r.write c h).2.maps = h.maps := by
  unfold write
  split <;> simp

@[simp] theorem write_echo : (r.write c h).1.echo = r.echo := by
  unfold write writeError
  split
  · rfl
  · split
    · rfl
    · cases r.run.bind (·.progress) <;> rfl
    · rfl

@[simp] theorem write_run : (r.write c h).1.run = r.run := by
  unfold write writeError
  split
  · rfl
  · split
    · rfl
    · cases r.run.bind (·.progress) <;> rfl
    · rfl

/-! ### Many chunks -/

@[simp] theorem writeAll_nil : r.writeAll [] h = (r, h) := rfl

@[simp] theorem writeAll_cons :
    r.writeAll (c :: cs) h = (r.write c h).1.writeAll cs (r.write c h).2 := rfl

theorem writeAll_append :
    r.writeAll (cs ++ ds) h = (r.writeAll cs h).1.writeAll ds (r.writeAll cs h).2 := by
  induction cs generalizing r h with
  | nil => rfl
  | cons c cs ih => rw [List.cons_append, writeAll_cons, writeAll_cons, ih]

@[simp] theorem writeAll_maps : (r.writeAll cs h).2.maps = h.maps := by
  induction cs generalizing r h with
  | nil => rfl
  | cons c cs ih => rw [writeAll_cons, ih, write_maps]

@[simp] theorem writeAll_echo : (r.writeAll cs h).1.echo = r.echo := by
  induction cs generalizing r h with
  | nil => rfl
  | cons c cs ih => rw [writeAll_cons, ih, write_echo]

@[simp] theorem writeAll_run : (r.writeAll cs h).1.run = r.run := by
  induction cs generalizing r h with
  | nil => rfl
  | cons c cs ih => rw [writeAll_cons, ih, write_run]

end Router

end ScriptBridge
