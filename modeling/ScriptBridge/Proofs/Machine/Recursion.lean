import ScriptBridge.Proofs.Machine.Frames

/-!
# Why evaluations end

An outline is run by evaluating what it leaves open (`Outline.run`). The evaluation of an expression
is the run of its outline, in which other expressions are evaluated the same way
(`Outline.run_ofExpr`): this is the recursion of the interpreter, which counts the frames under way.

The evaluations that a run asks for are finitely many (`Outline.asked`). Each has a smaller
expression or less room for frames, since those before it left as many frames as they found
(`Outline.asked_ofExpr`).
-/

namespace ScriptBridge

open Exec

namespace Machine

variable {m : Machine}

theorem room_eq_zero : m.room = 0 ↔ maxFrames ≤ m.frames.length := Nat.sub_eq_zero_iff_le

theorem room_push (f : Frame) : (m.push f).room = m.room - 1 := by
  simp only [room, push, List.length_cons]
  omega

theorem room_of_length {m' : Machine} (h : m'.frames.length = m.frames.length) :
    m'.room = m.room := by
  rw [room, room, h]

end Machine

namespace Outline

/-- What an outline says, done, given how expressions are evaluated. -/
def run (eval : Expr → Exec Object) : {α : Type} → Outline α → Exec α
  | _, step x => x
  | _, warn text => Exec.warn text
  | _, .eval e => eval e
  | _, enter f p => fun m =>
    if Machine.maxFrames ≤ m.frames.length then (fail .tooDeep : Exec Object) m
    else Call.inFrame f (p.run eval) m
  | _, .bind p next => p.run eval >>= fun a => (next a).run eval

/-- The evaluations that an outline asks for from a state, with the states in which they start. -/
def asked : {α : Type} → Outline α → Machine → List (Expr × Machine)
  | _, step _, _ => []
  | _, warn _, _ => []
  | _, .eval e, m => [(e, m)]
  | _, enter f p, m => if Machine.maxFrames ≤ m.frames.length then [] else p.asked (m.push f)
  | _, .bind p next, m =>
    p.asked m ++
      match p.run Expr.evalIn m with
      | (.ok a, m) => (next a).asked m
      | (.error _, _) => []

section

variable {α β : Type} {eval : Expr → Exec Object} {f : Frame} {p : Outline α} {q : Outline Object}
  {next : α → Outline β} {m m' : Machine} {a : α} {exit : Exit}

theorem run_bind : (p >>= next).run eval = p.run eval >>= fun a => (next a).run eval := rfl

theorem run_enter_of_full (h : m.room = 0) :
    (enter f q).run eval m = (fail .tooDeep : Exec Object) m := by
  simp only [run, if_pos (Machine.room_eq_zero.mp h)]

theorem run_enter (h : m.room ≠ 0) :
    (enter f q).run eval m = Call.inFrame f (q.run eval) m := by
  simp only [run, if_neg (mt Machine.room_eq_zero.mpr h)]

theorem asked_enter_of_full (h : m.room = 0) : (enter f q).asked m = [] := by
  simp only [asked, if_pos (Machine.room_eq_zero.mp h)]

theorem asked_enter (h : m.room ≠ 0) : (enter f q).asked m = q.asked (m.push f) := by
  simp only [asked, if_neg (mt Machine.room_eq_zero.mpr h)]

theorem asked_bind_of_ok (h : p.run Expr.evalIn m = (.ok a, m')) :
    (p >>= next).asked m = p.asked m ++ (next a).asked m' := by
  change (Outline.bind p next).asked m = _
  simp only [asked, h]

theorem asked_bind_of_error (h : p.run Expr.evalIn m = (.error exit, m')) :
    (p >>= next).asked m = p.asked m := by
  change (Outline.bind p next).asked m = _
  simp only [asked, h, List.append_nil]

end

variable {Q : Nat → Expr → Prop} {r : Nat} {α : Type} {p : Outline α} {x : Exec α} {m : Machine}

theorem Describes.framed (h : Describes Q r p x) : Framed x :=
  (h.uses fun r e _ => e.uses_evalWith r).framed

theorem Describes.room_eq (h : Describes Q r p x) : (x m).2.room = m.room :=
  Machine.room_of_length (h.framed.length m)

theorem Describes.run_eq (h : Describes Q r p x) (hm : m.room = r) :
    p.run Expr.evalIn m = x m := by
  induction h generalizing m with
  | step => rfl
  | warn => rfl
  | eval => rw [run, Expr.evalIn, hm]
  | full => exact run_enter_of_full hm
  | @enter r f p x hp ih =>
    have hinner : (m.push f).room = r := by rw [Machine.room_push, hm, Nat.add_sub_cancel]
    rw [run_enter (by omega), Call.inFrame_apply, Call.inFrame_apply, ih hinner]
  | @bind r _ _ p x next f hp hnext ihp ihnext =>
    have hroom := hp.room_eq (m := m)
    have hrun := ihp hm
    rw [run_bind]
    rcases hx : x m with ⟨exit | a, m₁⟩
    · rw [hx] at hrun
      rw [bind_of_error hx, bind_of_error hrun]
    · rw [hx] at hrun hroom
      rw [bind_of_ok hx, bind_of_ok hrun, ihnext a (hroom.trans hm)]

/-- Each evaluation asked for is one that the outline leaves open, with the room there is then. -/
theorem Describes.asked (h : Describes Q r p x) (hm : m.room = r) :
    ∀ part ∈ p.asked m, Q part.2.room part.1 := by
  induction h generalizing m with
  | step => exact fun part hpart => nomatch hpart
  | warn => exact fun part hpart => nomatch hpart
  | @eval r e he =>
    intro part hpart
    rw [List.mem_singleton.mp hpart]
    rw [← hm] at he
    exact he
  | full =>
    rw [asked_enter_of_full hm]
    exact fun part hpart => nomatch hpart
  | @enter r f p x hp ih =>
    rw [asked_enter (by omega)]
    exact ih (by rw [Machine.room_push, hm, Nat.add_sub_cancel])
  | @bind r _ _ p x next f hp hnext ihp ihnext =>
    have hroom := hp.room_eq (m := m)
    have hrun := hp.run_eq hm
    rcases hx : x m with ⟨exit | a, m₁⟩
    · rw [hx] at hrun
      rw [asked_bind_of_error hrun]
      exact ihp hm
    · rw [hx] at hrun hroom
      rw [asked_bind_of_ok hrun]
      intro part hpart
      rcases List.mem_append.mp hpart with hpart | hpart
      · exact ihp hm part hpart
      · exact ihnext a (hroom.trans hm) part hpart

/-- The evaluation of an expression runs its outline and evaluates what it leaves open. -/
theorem run_ofExpr (e : Expr) : (ofExpr e).run Expr.evalIn = e.evalIn :=
  funext fun _ => (describes_ofExpr (fun _ _ _ => trivial) e fun _ _ => trivial :
    Describes (fun _ _ => True) _ (ofExpr e) _).run_eq rfl

/-- The evaluations that the evaluation of an expression asks for are smaller: there is less room
for frames, or as much and the expression is smaller. -/
theorem asked_ofExpr (e : Expr) (m : Machine) : ∀ part ∈ (ofExpr e).asked m,
    Prod.Lex (· < ·) (· < ·) (part.2.room, sizeOf part.1) (m.room, sizeOf e) :=
  (describes_ofExpr (fun _ hroom _ => .left _ _ hroom) e fun _ hsize => .right _ hsize :
    Describes (fun r part => Prod.Lex (· < ·) (· < ·) (r, sizeOf part) (m.room, sizeOf e))
      m.room (ofExpr e) _).asked rfl

end Outline

end ScriptBridge
