import ScriptBridge.Proofs.Machine.Trial
import ScriptBridge.Proofs.Syntax.Fuel

/-!
# Every program ends

A text is read within the steps that the parser has (`Expr.readProgram_ne_exhausted`), and a program
is run by a recursion of limited depth that never has more frames than there may be
(`Machine.ends_evalText`): each evaluation asks for smaller ones (`Outline.asked_ofExpr`). The run
includes the reports of errors and what the error handler does.
-/

namespace ScriptBridge.Machine

/-- Every program ends, in every state: reading it is no matter of steps, and a recursion of some
depth comes to the end of its run, with no more frames at any time than there may be. It does since
the evaluation of an expression, which does what its outline says, asks only for evaluations that
are smaller, by the room for frames first and by the expression second; and it leaves as many frames
as it finds, so that those that come later have the same room. -/
theorem evalText_terminates (source : String) {m : Machine} (hm : m.frames.length ≤ maxFrames) :
    Expr.readProgram source ≠ .error .exhausted ∧
      (∃ depth, ∀ d ≥ depth, ∃ raised, ∃ deepest ≤ maxFrames,
        Trial.evalText (Expr.attempt d) source ⟨m, [], m.frames.length⟩ =
          some ((evalText source m).1, ⟨(evalText source m).2, raised, deepest⟩)) ∧
      ∀ (e : Expr) (m : Machine),
        (Outline.ofExpr e).run Expr.evalIn m = e.evalIn m ∧
        (e.evalIn m).2.frames.length = m.frames.length ∧
        ∀ part ∈ (Outline.ofExpr e).asked m,
          Prod.Lex (· < ·) (· < ·) (part.2.room, sizeOf part.1) (m.room, sizeOf e) := by
  refine ⟨Expr.readProgram_ne_exhausted source, ?_, fun e m => ⟨?_, ?_, ?_⟩⟩
  · obtain ⟨noted, depth, hends⟩ := ends_evalText source m
    refine ⟨depth, fun d hd => ?_⟩
    obtain ⟨deepest, hdeepest, htried⟩ := hends d hd [] m.frames.length hm
    exact ⟨noted, deepest, hdeepest, htried⟩
  · rw [Outline.run_ofExpr]
  · exact (e.uses_evalWith m.room).framed.length m
  · exact Outline.asked_ofExpr e m

def runaway : String := "f = function() f()\nf()"

theorem evalText_terminates_runaway :
    (create {} []).frames.length ≤ maxFrames ∧
      ∃ depth, ∀ d ≥ depth, ∃ raised, ∃ deepest ≤ maxFrames,
        Trial.evalText (Expr.attempt d) runaway ⟨create {} [], [], 0⟩ =
          some ((evalText runaway (create {} [])).1,
            ⟨(evalText runaway (create {} [])).2, raised, deepest⟩) :=
  have h : (create {} []).frames.length ≤ maxFrames := Nat.zero_le _
  ⟨h, (evalText_terminates runaway h).2.1⟩

end ScriptBridge.Machine
