import ScriptBridge.Proofs.Engine.Programs

/-!
# Paths as constants of the script language

The program that moves the interpreter to a directory has the path in it as a constant between
single quotes. Whatever characters the path has, the constant ends where it is meant to end and
stands for the path: `moveProgram_exact` says so for its tokens and for the expression that it reads
as.
-/

namespace ScriptBridge.Engine

/-- Characters with `new` in the place of each `old`. -/
def replaceEach (old : Char) (new cs : List Char) : List Char :=
  cs.flatMap fun c => if c = old then new else [c]

/-- Quoting goes over the text once; it is the same to double the backslashes first, and then to put
a backslash before each quote. -/
theorem flatMap_quoted (cs : List Char) : cs.flatMap Token.quoted =
    replaceEach '\'' ['\\', '\''] (replaceEach '\\' ['\\', '\\'] cs) := by
  induction cs with
  | nil => rfl
  | cons c cs ih =>
    simp only [replaceEach, List.flatMap_cons, List.flatMap_append] at ih ⊢
    rw [ih, Token.quoted]
    congr 1
    by_cases hslash : c = '\\'
    · simp [hslash]
    · by_cases hquote : c = '\'' <;> simp [hslash, hquote]

/-- A path is written with its backslashes doubled and a backslash before each quote. Written so, it
is one token and stands for the path, whatever follows it, and the program that moves there reads as
one expression: the call of `setwd` with the path as its only argument, a constant without a name.
So programs for different paths are different. -/
theorem moveProgram_exact (path : String) :
    (literal path).toList = '\'' :: (replaceEach '\'' ['\\', '\'']
      (replaceEach '\\' ['\\', '\\'] path.toList) ++ ['\'']) ∧
    (∀ rest, Token.next? ((literal path).toList ++ rest) = .ok (some (.text path, rest))) ∧
    Token.scan (moveProgram path) = .ok [.name "setwd", .openParen, .text path, .closeParen] ∧
    Expr.readProgram (moveProgram path) =
      .ok [.call (.name "setwd") [(none, .const (.string path))]] ∧
    ∀ other, moveProgram other = moveProgram path → other = path := by
  refine ⟨?_, next?_literal path, Token.scan_eq (scans_moveProgram path),
    readProgram_moveProgram path, fun other h => ?_⟩
  · rw [toList_literal, flatMap_quoted]
  · have hread := readProgram_moveProgram other
    rw [h, readProgram_moveProgram path] at hread
    simpa [RValue.string] using hread.symm

end ScriptBridge.Engine
