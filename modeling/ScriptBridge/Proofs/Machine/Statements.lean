import ScriptBridge.Language
import ScriptBridge.Proofs.Machine.Program
import ScriptBridge.Proofs.Syntax.Boundary
import ScriptBridge.Proofs.Syntax.Continuation

/-!
# Statements as one program

Programs one a line are a program, whose expressions are theirs (`readProgram_program`). It does to
an interpreter what they do one call after the other, up to the first that fails
(`evalText_program`). Only the value may differ: a last program without expressions yields null on
its own.
-/

namespace ScriptBridge

/-! ### Reading -/

namespace Expr

theorem toList_program_cons (s : String) (statements : List String) :
    (Language.program (s :: statements)).toList =
      s.toList ++ ';' :: '\n' :: (Language.program statements).toList := by
  have hcons : Language.program (s :: statements) = s ++ ";\n" ++ Language.program statements := by
    rw [Language.program, List.map_cons, String.join_cons]
    rfl
  rw [hcons, String.toList_append, String.toList_append, List.append_assoc]
  rfl

/-- Programs one a line are a program with the expressions of all of them. -/
theorem readProgram_program {statements : List String} {programs : List (List Expr)}
    (h : List.Forall₂ (fun s program => readProgram s = .ok program) statements programs) :
    readProgram (Language.program statements) = .ok programs.flatten := by
  suffices hreads : ∃ toks, Token.Scans (Language.program statements).toList toks ∧
      Reads .program toks programs.flatten [] by
    obtain ⟨toks, hscans, hreads⟩ := hreads
    exact readProgram_eq_ok.mpr ⟨toks, Token.scan_eq hscans, hreads⟩
  induction h with
  | nil => exact ⟨[], Token.scans_nil, .programNil rfl⟩
  | @cons s program statements programs hs _ ih =>
    obtain ⟨toks', hscans', hreads'⟩ := ih
    obtain ⟨toks, hscan, hreads⟩ := readProgram_eq_ok.mp hs
    obtain ⟨separators, hseparators, hscans⟩ := Token.scans_append hscans' hscan
    refine ⟨toks ++ (separators ++ toks'), by rw [toList_program_cons]; exact hscans, ?_⟩
    rw [List.flatten_cons]
    rcases hseparators with rfl | rfl
    · exact reads_program_append hreads rfl (reads_program_of_separators rfl hreads')
    · exact reads_program_append hreads rfl (reads_program_of_separators rfl hreads')

end Expr

/-! ### Running -/

namespace Machine

open Steps (bind_apply pure_apply)

/-- Runs programs one call after the other, up to the first that fails. -/
def evalTexts : List String → StateM Machine (Except BackendError Unit)
  | [] => return .ok ()
  | s :: rest => do
    match ← evalText s with
    | .ok _ => evalTexts rest
    | .error e => return .error e

/-- How a program ends and the state it leaves, without its value. -/
def ending {ε α : Type} (r : Except ε α × Machine) : Except ε Unit × Machine :=
  (r.1.map fun _ => (), r.2)

variable {m : Machine} {source : String} {program : List Expr}

theorem ending_evalProgram (last last' : Object) (program : List Expr) (m : Machine) :
    ending (evalProgram last program m) = ending (evalProgram last' program m) := by
  cases program with
  | nil => rfl
  | cons e rest => rfl

theorem evalProgram_append (last : Object) (xs ys : List Expr) (m : Machine) :
    evalProgram last (xs ++ ys) m =
      match evalProgram last xs m with
      | (.ok x, m') => evalProgram x ys m'
      | (.error text, m') => (.error text, m') := by
  induction xs generalizing last m with
  | nil => rfl
  | cons e xs ih =>
    rw [List.cons_append, evalProgram, evalProgram, bind_apply, bind_apply]
    rcases evalExpr e m with ⟨text | x, m'⟩
    · rfl
    · exact ih x m'

theorem ending_evalText (h : Expr.readProgram source = .ok program) (m : Machine) :
    ending (evalText source m) =
      ((ending (evalProgram Object.null program m)).1.mapError BackendError.evaluation,
        (ending (evalProgram Object.null program m)).2) := by
  rw [evalText_of_read h]
  rcases evalProgram Object.null program m with ⟨text | x, m'⟩
  · rfl
  · rfl

theorem evalTexts_cons (s : String) (rest : List String) (m : Machine) :
    evalTexts (s :: rest) m =
      match ending (evalText s m) with
      | (.ok _, m') => evalTexts rest m'
      | (.error e, m') => (.error e, m') := by
  rw [evalTexts, bind_apply]
  rcases evalText s m with ⟨e | x, m'⟩
  · rfl
  · rfl

theorem evalTexts_eq {statements : List String} {programs : List (List Expr)}
    (h : List.Forall₂ (fun s program => Expr.readProgram s = .ok program) statements programs)
    (m : Machine) :
    evalTexts statements m =
      ((ending (evalProgram Object.null programs.flatten m)).1.mapError BackendError.evaluation,
        (ending (evalProgram Object.null programs.flatten m)).2) := by
  induction h generalizing m with
  | nil => rfl
  | @cons s program statements programs hs _ ih =>
    rw [evalTexts_cons, ending_evalText hs, List.flatten_cons, evalProgram_append]
    rcases evalProgram Object.null program m with ⟨text | x, m'⟩
    · rfl
    · dsimp only [ending, Except.map, Except.mapError]
      rw [ih m', ending_evalProgram Object.null x]
      rfl

/-- Programs one a line are a program with the expressions of all of them, and it leaves the state,
the console and the error of the programs one call after the other, up to the first that fails. -/
theorem evalText_program {statements : List String}
    (h : ∀ s ∈ statements, ∃ program, Expr.readProgram s = .ok program) :
    ∃ programs,
      List.Forall₂ (fun s program => Expr.readProgram s = .ok program) statements programs ∧
      Expr.readProgram (Language.program statements) = .ok programs.flatten ∧
      ∀ m, ending (evalText (Language.program statements) m) = evalTexts statements m := by
  obtain ⟨programs, hprograms⟩ := exists_forall₂.mpr h
  have hread := Expr.readProgram_program hprograms
  refine ⟨programs, hprograms, hread, fun m => ?_⟩
  rw [ending_evalText hread, evalTexts_eq hprograms]

theorem evalText_program_comment :
    ∃ programs,
      List.Forall₂ (fun s program => Expr.readProgram s = .ok program)
        ["x = y # a comment", "", "if (x) f()"] programs ∧
      Expr.readProgram (Language.program ["x = y # a comment", "", "if (x) f()"]) =
        .ok programs.flatten ∧
      ∀ m, ending (evalText (Language.program ["x = y # a comment", "", "if (x) f()"]) m) =
        evalTexts ["x = y # a comment", "", "if (x) f()"] m := by
  refine evalText_program fun s hs => ?_
  simp only [List.mem_cons, List.not_mem_nil, or_false] at hs
  rcases hs with rfl | rfl | rfl
  · have hscan : Token.scan "x = y # a comment" = .ok [.name "x", .assign, .name "y"] := rfl
    refine ⟨[.assign (.name "x") (.name "y") false], ?_⟩
    rw [Expr.readProgram, hscan]
    rfl
  · exact ⟨[], rfl⟩
  · have hscan : Token.scan "if (x) f()" =
        .ok [.kwIf, .openParen, .name "x", .closeParen, .name "f", .openParen, .closeParen] := rfl
    refine ⟨[.cond (.name "x") (.call (.name "f") []) none], ?_⟩
    rw [Expr.readProgram, hscan]
    rfl

end Machine

end ScriptBridge
