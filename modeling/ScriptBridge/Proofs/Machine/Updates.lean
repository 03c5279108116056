import ScriptBridge.Machine.Eval
import ScriptBridge.Proofs.Machine.Exec

/-!
# How steps of an evaluation are made

Everything that an evaluation does to the state it does by one of a few operations, the `Update`s,
and by calls, each of which takes a frame of its own. `Exec.Uses A x` says that the step `x` is made
of such operations, that its updates are among `A`, and that it reads nothing of the state that lies
below the innermost frame. What the operations have in common is then shared by all steps, by
induction on how a step is made (`Exec.Uses.keeps`).
-/

namespace ScriptBridge

/-! ### Operations -/

/-- What a step does to the state at one go. -/
inductive Update where
  | print (channel : Channel) (text : String)
  /-- A warning has to wait. -/
  | defer (text : String)
  | setOption (key : String) (x : Object)
  | move (directory : String)
  /-- A text is written to a file, if it can be. -/
  | write (path : String) (append : Bool) (text : String)
  | setVar (name : String) (x : Object) (global : Bool)
  | eraseVar (name : String)

def Machine.written (m : Machine) (path : String) (append : Bool) (text : String) : Machine :=
  match m.files.write (m.pathOf path) append text with
  | .ok files => { m with files }
  | .error _ => m

def Update.apply : Update → Machine → Machine
  | print channel text, m => m.print channel text
  | defer text, m => { m with warnings := m.warnings ++ [text] }
  | setOption key x, m => { m with options := m.options.insert key x }
  | move directory, m => { m with directory }
  | write path append text, m => m.written path append text
  | setVar name x global, m => m.setVar name x global
  | eraseVar name, m => m.eraseVar name

namespace Machine

/-- The state with more frames below those under way. -/
def onto (m : Machine) (below : List Frame) : Machine := { m with frames := m.frames ++ below }

/-- While a call is under way, `g` is the same whatever frames are below. -/
def Visible {β : Type} (g : Machine → β) : Prop :=
  ∀ m below, m.frames ≠ [] → g (m.onto below) = g m

variable {m : Machine} {below : List Frame}

theorem written_of_ok {path : String} {append : Bool} {text : String} {files : Files}
    (h : m.files.write (m.pathOf path) append text = .ok files) :
    m.written path append text = { m with files } := by
  unfold written
  rw [h]

theorem written_of_error {path : String} {append : Bool} {text : String} {e : FileError}
    (h : m.files.write (m.pathOf path) append text = .error e) :
    m.written path append text = m := by
  unfold written
  rw [h]

theorem lookup?_onto (name : String) (h : m.frames ≠ []) :
    (m.onto below).lookup? name = m.lookup? name := by
  obtain ⟨f, rest, hframes⟩ := List.exists_cons_of_ne_nil h
  simp only [lookup?, onto, hframes, List.cons_append, List.head?_cons]

theorem hasVar_onto (name : String) (h : m.frames ≠ []) :
    (m.onto below).hasVar name = m.hasVar name := by
  obtain ⟨f, rest, hframes⟩ := List.exists_cons_of_ne_nil h
  simp only [hasVar, onto, hframes, List.cons_append]

theorem function?_onto (h : m.frames ≠ []) : (m.onto below).function? = m.function? := by
  obtain ⟨f, rest, hframes⟩ := List.exists_cons_of_ne_nil h
  simp only [function?, onto, hframes, List.cons_append, List.head?_cons]

end Machine

namespace Exec

open Machine (Visible)

variable {A B : Update → Prop} {α β : Type}

def read (g : Machine → α) : Exec α := do return g (← get)

def update (u : Update) : Exec Unit := modify u.apply

/-- The step is made of operations of the interpreter, and its updates are among `A`. -/
inductive Uses (A : Update → Prop) : {α : Type} → Exec α → Prop
  | pure {α : Type} (a : α) : Uses A (pure a : Exec α)
  | throw {α : Type} (exit : Exit) : Uses A (throw exit : Exec α)
  | read {α : Type} {g : Machine → α} (hg : Visible g) : Uses A (read g)
  | update {u : Update} (hu : A u) : Uses A (update u)
  | bind {α β : Type} {x : Exec α} {f : α → Exec β} (hx : Uses A x) (hf : ∀ a, Uses A (f a)) :
    Uses A (x >>= f)
  | inFrame (f : Frame) {x : Exec Object} (hx : Uses A x) : Uses A (Call.inFrame f x)

theorem Uses.mono {x : Exec α} (h : Uses A x) (hAB : ∀ u, A u → B u) : Uses B x := by
  induction h with
  | pure a => exact .pure a
  | throw exit => exact .throw exit
  | read hg => exact .read hg
  | update hu => exact .update (hAB _ hu)
  | bind _ _ ihx ihf => exact .bind ihx ihf
  | inFrame f _ ih => exact .inFrame f ih

/-- A property that the updates of a step keep, whatever frames are under way, is kept by the step.
-/
theorem Uses.keeps {P : Machine → Prop} {x : Exec α} (h : Uses A x)
    (hframes : ∀ m frames, P m → P { m with frames }) (hA : ∀ u, A u → ∀ m, P m → P (u.apply m)) :
    Keeps P x := by
  induction h with
  | pure a => exact keeps_pure
  | throw exit => exact keeps_throw
  | read hg => exact fun m hm => hm
  | update hu => exact keeps_modify (hA _ hu)
  | bind _ _ ihx ihf => exact keeps_bind ihx ihf
  | inFrame f _ ih => exact fun m hm => hframes _ _ (ih _ (hframes m _ hm))

/-- What follows `get` is a step for each state, the same for states that look the same. -/
theorem uses_get_bind {f : Machine → Exec α} (hf : Visible f) (h : ∀ m, Uses A (f m)) :
    Uses A (get >>= f) :=
  .bind (x := read fun m => (⟨f m, h m⟩ : { x : Exec α // Uses A x })) (f := Subtype.val)
    (.read fun m below hm => Subtype.ext (hf m below hm)) Subtype.property

theorem get_bind_congr {f g : Machine → Exec α} (h : ∀ m, f m m = g m m) :
    (get >>= f) = (get >>= g) :=
  funext h

theorem uses_mapM {γ : Type} {f : γ → Exec α} {l : List γ} (h : ∀ c, Uses A (f c)) :
    Uses A (l.mapM f) := by
  induction l with
  | nil => exact .pure _
  | cons c l ih =>
    rw [List.mapM_cons]
    exact .bind (h c) fun _ => .bind ih fun _ => .pure _

theorem uses_optionMapM {γ : Type} {f : γ → Exec α} {o : Option γ} (h : ∀ c, Uses A (f c)) :
    Uses A (o.mapM f) := by
  cases o with
  | none => exact .pure _
  | some c => exact .bind (h c) fun _ => .pure _

@[simp] theorem uses_fail (fault : Fault) : Uses A (fail fault : Exec α) := by
  refine uses_get_bind (fun m below h => ?_) fun _ => .throw _
  rw [Machine.function?_onto h]

@[simp] theorem uses_ofExcept (r : Except Fault α) : Uses A (ofExcept r) := by
  cases r with
  | ok a => exact .pure a
  | error fault => exact uses_fail fault

@[simp] theorem uses_data (x : Object) : Uses A (data x) := by
  cases x with
  | data r => exact .pure r
  | closure => exact uses_fail _

@[simp] theorem uses_print {channel : Channel} {text : String} (h : A (.print channel text)) :
    Uses A (print channel text) :=
  Uses.update h

/-! ### Warnings -/

/-- What a warning may do: it is printed, or it has to wait. -/
def IsWarning : Update → Prop
  | .print .error _ | .defer _ => True
  | _ => False

/-- A warning as it is shown with others at the end of an expression. -/
def deferred (text : String) : Option String → String
  | some f => s!"In {f}() : {text}"
  | none => text

def immediate (text : String) : Option String → String
  | some f => s!"Warning in {f}() : {text}\n"
  | none => s!"Warning: {text}\n"

/-- What a warning does at a level, in a function. -/
def warnAt (text : String) (level : Int32) (function? : Option String) : Exec Unit :=
  if level < 0 then pure ()
  else if level = 0 then update (.defer (deferred text function?))
  else if level = 1 then print .error (immediate text function?)
  else fail (.convertedWarning text)

theorem warn_eq (text : String) :
    warn text = get >>= fun m => warnAt text m.warnLevel m.function? := by
  refine get_bind_congr fun m => ?_
  unfold warnAt
  by_cases hbelow : m.warnLevel < 0
  · simp only [hbelow, if_true]
  · by_cases hzero : m.warnLevel = 0
    · simp only [hzero, if_true]
      cases m.function? <;> rfl
    · by_cases hone : m.warnLevel = 1
      · simp only [hone, if_true]
        cases m.function? <;> rfl
      · simp only [hbelow, hzero, hone, if_false]

theorem uses_warn (h : ∀ u, IsWarning u → A u) (text : String) : Uses A (warn text) := by
  rw [warn_eq]
  refine uses_get_bind (fun m below hm => ?_) fun m => ?_
  · rw [Machine.function?_onto hm]
    rfl
  · unfold warnAt
    split
    · exact .pure _
    · split
      · exact .update (h _ trivial)
      · split
        · exact uses_print (h _ trivial)
        · exact uses_fail _

end Exec

end ScriptBridge
