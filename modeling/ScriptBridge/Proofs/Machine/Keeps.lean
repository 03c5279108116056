import ScriptBridge.Proofs.Machine.Outline

/-!
# What evaluations keep

A property that everything that an evaluation does to the state keeps is kept by every expression
(`Expr.keeps_eval`) and by every call (`Call.keeps_perform`), however they end.
-/

namespace ScriptBridge

open Exec

variable {P : Machine → Prop}

namespace Machine.Stable

variable (h : Machine.Stable P)

include h

theorem update (u : Update) (m : Machine) (hm : P m) : P (u.apply m) := by
  cases u with
  | print => exact h.console m _ hm
  | defer => exact h.warnings m _ hm
  | setOption => exact h.options m _ _ hm
  | move => exact h.directory m _ hm
  | write path append text =>
    rw [Update.apply]
    cases hwrite : m.files.write (m.pathOf path) append text with
    | ok files =>
      rw [Machine.written_of_ok hwrite]
      exact h.files m _ _ _ _ hwrite hm
    | error e =>
      rw [Machine.written_of_error hwrite]
      exact hm
  | setVar => exact h.setVar m _ _ _ hm
  | eraseVar => exact h.eraseVar m _ hm

theorem keeps {A : Update → Prop} {α : Type} {x : Exec α} (hx : Uses A x) : Keeps P x :=
  hx.keeps h.frames fun u _ => h.update u

end Machine.Stable

theorem Expr.keeps_eval (h : Machine.Stable P) (e : Expr) : Keeps P e.eval :=
  h.keeps (e.uses_evalWith _)

theorem Call.keeps_perform (h : Machine.Stable P) (room : Nat) (c : Call) :
    Keeps P (perform room c) :=
  h.keeps (c.uses_perform room)

end ScriptBridge
