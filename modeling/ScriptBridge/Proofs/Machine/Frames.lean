import ScriptBridge.Proofs.Machine.Outline

/-!
# Calls see one frame

An evaluation leaves as many frames as it found and sees no frame but the innermost one: whatever is
below, it ends the same way and leaves it there (`Framed`, `Uses.framed`). Hence the variables of
callers have no influence on a call, and no call changes them (`Expr.evalIn_isolated`).
-/

namespace ScriptBridge

open Exec

namespace Machine

variable {m m' : Machine} {below : List Frame}

/-- How many more calls may be under way. -/
def room (m : Machine) : Nat := maxFrames - m.frames.length

/-- The states differ in no more than the variables of frames below the innermost one. -/
structure AgreeAbove (m m' : Machine) : Prop where
  rest : m' = { m with frames := m'.frames }
  top : m'.frames.head? = m.frames.head?
  functions : m'.frames.map (·.function) = m.frames.map (·.function)

/-- As many calls are under way in the second state as in the first, and what the frames below the
innermost one hold is the same. -/
structure SameCallers (m m' : Machine) : Prop where
  length : m'.frames.length = m.frames.length
  tail : m'.frames.tail = m.frames.tail

def push (f : Frame) (m : Machine) : Machine := { m with frames := f :: m.frames }

def pop (m : Machine) : Machine := { m with frames := m.frames.tail }

theorem push_onto (f : Frame) : (m.onto below).push f = (m.push f).onto below := rfl

theorem pop_onto (h : m.frames ≠ []) : (m.onto below).pop = m.pop.onto below := by
  simp only [pop, onto, List.tail_append_of_ne_nil h]

theorem length_setVar (name : String) (x : Object) (global : Bool) :
    (m.setVar name x global).frames.length = m.frames.length := by
  unfold setVar
  split
  · next hframes => simp only [hframes, List.length_cons]
  · rfl

theorem length_eraseVar (name : String) : (m.eraseVar name).frames.length = m.frames.length := by
  unfold eraseVar
  split
  · next hframes => simp only [hframes, List.length_cons]
  · next hframes => simp only [hframes]

theorem written_frames (m : Machine) (path : String) (append : Bool) (text : String) :
    (m.written path append text).frames = m.frames := by
  cases hwrite : m.files.write (m.pathOf path) append text with
  | ok files => rw [written_of_ok hwrite]
  | error e => rw [written_of_error hwrite]

theorem written_onto (m : Machine) (path : String) (append : Bool) (text : String) :
    (m.onto below).written path append text = (m.written path append text).onto below := by
  cases hwrite : m.files.write (m.pathOf path) append text with
  | ok files =>
    have hbelow : (m.onto below).files.write ((m.onto below).pathOf path) append text = .ok files :=
      hwrite
    rw [written_of_ok hwrite, written_of_ok hbelow]
    rfl
  | error e =>
    have hbelow : (m.onto below).files.write ((m.onto below).pathOf path) append text = .error e :=
      hwrite
    rw [written_of_error hwrite, written_of_error hbelow]

end Machine

theorem Update.length_apply (u : Update) (m : Machine) :
    (u.apply m).frames.length = m.frames.length := by
  cases u with
  | setVar name x global => exact Machine.length_setVar name x global
  | eraseVar name => exact Machine.length_eraseVar name
  | write path append text => exact congrArg List.length (m.written_frames path append text)
  | _ => rfl

theorem Update.apply_onto (u : Update) {m : Machine} (below : List Frame) (h : m.frames ≠ []) :
    u.apply (m.onto below) = (u.apply m).onto below := by
  obtain ⟨f, rest, hframes⟩ := List.exists_cons_of_ne_nil h
  cases u with
  | setVar name x global =>
    cases global <;> simp only [apply, Machine.setVar, Machine.onto, hframes, List.cons_append]
  | eraseVar name => simp only [apply, Machine.eraseVar, Machine.onto, hframes, List.cons_append]
  | write path append text => exact m.written_onto path append text
  | _ => rfl

/-- What a call yields if its frame ends like this. -/
def Call.yielded : Except Exit Object → Except Exit Object
  | .error (.returned value) => .ok value
  | result => result

theorem Call.inFrame_apply (f : Frame) (x : Exec Object) (m : Machine) :
    Call.inFrame f x m = (Call.yielded (x (m.push f)).1, (x (m.push f)).2.pop) := by
  rfl

namespace Exec

variable {α β : Type} {A : Update → Prop}

/-- The step leaves as many frames as it finds, and does not depend on what is below the innermost
one, which it leaves as it is. -/
structure Framed (x : Exec α) : Prop where
  length : ∀ m, (x m).2.frames.length = m.frames.length
  onto : ∀ m below, m.frames ≠ [] → x (m.onto below) = ((x m).1, (x m).2.onto below)

namespace Framed

variable {x : Exec α}

theorem frames_ne_nil (h : Framed x) {m : Machine} (hm : m.frames ≠ []) :
    (x m).2.frames ≠ [] := by
  rw [← List.length_pos_iff, h.length, List.length_pos_iff]
  exact hm

theorem bind {f : α → Exec β} (hx : Framed x) (hf : ∀ a, Framed (f a)) : Framed (x >>= f) where
  length m := by
    have hlength := hx.length m
    rcases h : x m with ⟨exit | a, m₁⟩
    · rw [bind_of_error h]
      rwa [h] at hlength
    · rw [bind_of_ok h, (hf a).length]
      rwa [h] at hlength
  onto m below hm := by
    have honto := hx.onto m below hm
    have hm₁ := hx.frames_ne_nil hm
    rcases h : x m with ⟨exit | a, m₁⟩
    · rw [h] at honto
      rw [bind_of_error h, bind_of_error honto]
    · rw [h] at honto hm₁
      rw [bind_of_ok h, bind_of_ok honto, (hf a).onto m₁ below hm₁]

theorem inFrame (f : Frame) {x : Exec Object} (h : Framed x) : Framed (Call.inFrame f x) where
  length m := by
    rw [Call.inFrame_apply, Machine.pop, List.length_tail, h.length (m.push f), Machine.push,
      List.length_cons, Nat.add_sub_cancel]
  onto m below _ := by
    have hcons : (m.push f).frames ≠ [] := List.cons_ne_nil f m.frames
    rw [Call.inFrame_apply, Call.inFrame_apply, Machine.push_onto, h.onto _ below hcons,
      Machine.pop_onto (h.frames_ne_nil hcons)]

end Framed

theorem Uses.framed {x : Exec α} (h : Uses A x) : Framed x := by
  induction h with
  | pure a => exact ⟨fun _ => rfl, fun _ _ _ => rfl⟩
  | throw exit => exact ⟨fun _ => rfl, fun _ _ _ => rfl⟩
  | @read _ g hg =>
    refine ⟨fun _ => rfl, fun m below hm => ?_⟩
    change (Except.ok (g (m.onto below)), m.onto below) = (Except.ok (g m), m.onto below)
    rw [hg m below hm]
  | @update u _ =>
    refine ⟨u.length_apply, fun m below hm => ?_⟩
    change (Except.ok (), u.apply (m.onto below)) = (Except.ok (), (u.apply m).onto below)
    rw [u.apply_onto below hm]
  | bind _ _ ihx ihf => exact ihx.bind ihf
  | inFrame f _ ih => exact ih.inFrame f

end Exec

section

variable {α : Type} {x : Exec α} {m m' : Machine} {f : Frame} {below : List Frame}

/-- A step in a frame ends as it would with nothing below, and changes no more than the frame. -/
theorem Exec.Framed.apply_cons (hx : Framed x) (hm : m.frames = f :: below) :
    ∃ f', (x { m with frames := [f] }).2.frames = [f'] ∧
      x m = ((x { m with frames := [f] }).1,
        { (x { m with frames := [f] }).2 with frames := f' :: below }) := by
  obtain ⟨f', hf'⟩ := List.length_eq_one_iff.mp (hx.length { m with frames := [f] })
  have honto := hx.onto { m with frames := [f] } below (List.cons_ne_nil f [])
  have hsplit : ({ m with frames := [f] } : Machine).onto below = m := by
    simp only [Machine.onto, List.singleton_append, ← hm]
  rw [hsplit] at honto
  refine ⟨f', hf', ?_⟩
  rw [honto, Machine.onto, hf', List.singleton_append]

theorem Exec.Framed.sameCallers (hx : Framed x) (m : Machine) : m.SameCallers (x m).2 := by
  refine ⟨hx.length m, ?_⟩
  cases hm : m.frames with
  | nil =>
    have hlength := hx.length m
    rw [hm] at hlength
    rw [List.eq_nil_of_length_eq_zero hlength]
  | cons f below =>
    obtain ⟨f', -, happly⟩ := hx.apply_cons hm
    rw [happly]
    rfl

theorem Exec.Framed.agreeAbove (hx : Framed x) (h : m.AgreeAbove m') :
    (x m').1 = (x m).1 ∧ (x m).2.AgreeAbove (x m').2 := by
  obtain ⟨hrest, htop, hfunctions⟩ := h
  cases hm : m.frames with
  | nil =>
    rw [hm, List.head?_nil, List.head?_eq_none_iff] at htop
    have hsame : m' = m := by rw [hrest, htop, ← hm]
    rw [hsame]
    exact ⟨rfl, rfl, rfl, rfl⟩
  | cons f below =>
    rw [hm, List.head?_cons] at htop
    obtain ⟨below', hm'⟩ := List.head?_eq_some_iff.mp htop
    have hbase : ({ m' with frames := [f] } : Machine) = { m with frames := [f] } := by rw [hrest]
    obtain ⟨g, hg, happly⟩ := hx.apply_cons hm
    obtain ⟨g', hg', happly'⟩ := hx.apply_cons hm'
    rw [hbase] at hg' happly'
    have hsame : g' = g := List.singleton_inj.mp (hg'.symm.trans hg)
    rw [hm, hm', List.map_cons, List.map_cons, List.cons_inj_right] at hfunctions
    rw [happly, happly', hsame]
    exact ⟨rfl, rfl, rfl, congrArg (g.function :: ·) hfunctions⟩

end

/-- The value of an expression while calls are under way: there is room for the frames that are
left. -/
def Expr.evalIn (e : Expr) : Exec Object := fun m => e.evalWith (Call.perform m.room) m

theorem Expr.eval_eq_evalIn (e : Expr) {m : Machine} (hm : m.frames = []) :
    e.eval m = e.evalIn m := by
  rw [evalIn, Machine.room, hm]
  rfl

/-- Calls are isolated from their callers. States that differ in the variables of frames below the
innermost one are the same to an expression, which leaves them with that difference at most; and
however it ends, in either of them as many frames as before are under way and those below the
innermost one are as they were. -/
theorem Expr.evalIn_isolated (e : Expr) {m m' : Machine} (h : m.AgreeAbove m') :
    (e.evalIn m').1 = (e.evalIn m).1 ∧ (e.evalIn m).2.AgreeAbove (e.evalIn m').2 ∧
      m.SameCallers (e.evalIn m).2 ∧ m'.SameCallers (e.evalIn m').2 := by
  have hroom : m'.room = m.room := by
    have hlength := congrArg List.length h.functions
    rw [List.length_map, List.length_map] at hlength
    rw [Machine.room, Machine.room, hlength]
  have hframed := (e.uses_evalWith m.room).framed
  rw [evalIn, evalIn, hroom]
  obtain ⟨hresult, hafter⟩ := hframed.agreeAbove h
  exact ⟨hresult, hafter, hframed.sameCallers m, hframed.sameCallers m'⟩

def Machine.calledBy (x : Object) : Machine where
  directory := "/"
  frames := [⟨"f", []⟩, ⟨"g", [("x", x)]⟩]

theorem Expr.evalIn_isolated_calledBy :
    let m := Machine.calledBy .null
    let m' := Machine.calledBy (.closure [] (.name "x"))
    m.AgreeAbove m' ∧
      ((name "x").evalIn m').1 = ((name "x").evalIn m).1 ∧
      ((name "x").evalIn m).2.AgreeAbove ((name "x").evalIn m').2 ∧
      m.SameCallers ((name "x").evalIn m).2 ∧ m'.SameCallers ((name "x").evalIn m').2 :=
  have h : (Machine.calledBy .null).AgreeAbove (Machine.calledBy (.closure [] (.name "x"))) :=
    ⟨rfl, rfl, rfl⟩
  ⟨h, (name "x").evalIn_isolated h⟩

end ScriptBridge
