import ScriptBridge.Engine
import ScriptBridge.Proofs.Except
import ScriptBridge.Proofs.Syntax.Scanning

/-!
# The engine's own programs

Each of the programs that the engine has evaluated reads as the one expression that it is meant to
be, for every level of warnings and every path.
-/

namespace ScriptBridge.Engine

open Token (Scans scans_nil scans_cons)

theorem readProgram_of_scans {source : String} {toks : List Token} {program : List Expr}
    (hs : Scans source.toList toks) (hp : Expr.ofTokens toks = .ok program) :
    Expr.readProgram source = .ok program :=
  except_bind_eq_ok.mpr ⟨toks, Token.scan_eq hs, hp⟩

/-! ### The stop handler -/

/-- What the stop handler does: it prints the text of the last error with the stop tag before it. -/
def stopBody : Expr :=
  .call (.name "cat")
    [(none, .call (.name "sprintf")
      [(none, .const (.string "<PARError> %s")), (none, .call (.name "geterrmessage") [])]),
    (some "sep", .const (.string "")),
    (some "file", .call (.name "stderr") [])]

def stopHandler : Object := .closure [] stopBody

theorem readProgram_stopProgram : Expr.readProgram stopProgram =
    .ok [.call (.name "options") [(some "error", .function [] stopBody)]] := by
  have hscan : Token.scan stopProgram = .ok
      [.name "options", .openParen, .name "error", .assign, .kwFunction, .openParen, .closeParen,
        .name "cat", .openParen, .name "sprintf", .openParen, .text "<PARError> %s", .comma,
        .name "geterrmessage", .openParen, .closeParen, .closeParen, .comma, .name "sep", .assign,
        .text "", .comma, .name "file", .assign, .name "stderr", .openParen, .closeParen,
        .closeParen, .closeParen] := by
    have htext : stopProgram = "options(error = function() cat(sprintf('<PARError> %s', " ++
        "geterrmessage()), sep = '', file = stderr()))" := rfl
    rw [htext]
    rfl
  rw [Expr.readProgram, hscan]
  rfl

/-! ### Progress -/

/-- What `set_progress` does: it prints a number with the progress tag before it. -/
def progressBody : Expr :=
  .block [.call (.name "message")
    [(none, .const (.string "<PARProgress>=")),
      (none, .call (.name "as.integer") [(none, .name "x")]),
      (some "appendLF", .const (.ofBool false))]]

/-- The function `set_progress`. -/
def progressReporter : Object := .closure [("x", none)] progressBody

theorem readProgram_progressProgram : Expr.readProgram progressProgram =
    .ok [.assign (.name "set_progress") (.function [("x", none)] progressBody) false] := by
  have hscan : Token.scan progressProgram = .ok
      [.name "set_progress", .assign, .kwFunction, .openParen, .name "x", .closeParen, .openBrace,
        .name "message", .openParen, .text "<PARProgress>=", .comma, .name "as.integer",
        .openParen, .name "x", .closeParen, .comma, .name "appendLF", .assign, .kwFalse,
        .closeParen, .closeBrace] := by
    have htext : progressProgram = "set_progress = function(x) \x7b " ++
        "message('<PARProgress>=', as.integer(x), appendLF = FALSE) \x7d" := rfl
    rw [htext]
    rfl
  rw [Expr.readProgram, hscan]
  rfl

/-! ### The level of warnings -/

inductive IsNumber : Expr → Prop where
  | plain (x : Float) : IsNumber (.const (.ofFloat x))
  | negative (x : Float) : IsNumber (.unary .neg (.const (.ofFloat x)))

theorem scans_digits (n : Nat) :
    ∃ x, Scans (n.repr.toList ++ [')']) [.number x, .closeParen] := by
  have hds : ∀ c ∈ n.repr.toList, c.isDigit = true := fun c hc =>
    Nat.isDigit_of_mem_toDigits (by omega) (by omega) (Nat.toList_repr ▸ hc)
  cases hrepr : n.repr.toList with
  | nil => exact absurd (Nat.toList_repr.symm.trans hrepr) Nat.toDigits_ne_nil
  | cons d ds =>
    rw [hrepr] at hds
    obtain ⟨x, hx⟩ := Token.next?_digits hds []
    exact ⟨x, scans_cons hx (scans_cons rfl scans_nil)⟩

theorem scans_warnOption {cs : List Char} {toks : List Token} (h : Scans cs toks) :
    Scans ("options(warn = ".toList ++ cs)
      (.name "options" :: .openParen :: .name "warn" :: .assign :: toks) :=
  scans_cons rfl <| scans_cons rfl <| scans_cons rfl <| scans_cons rfl <| Token.scans_blank h

theorem readProgram_warnProgram (level : Int32) : ∃ e, IsNumber e ∧
    Expr.readProgram (warnProgram level) = .ok [.call (.name "options") [(some "warn", e)]] := by
  have htext : (warnProgram level).toList =
      "options(warn = ".toList ++ ((toString level.toInt).toList ++ [')']) := by
    change ("options(warn = " ++ toString level.toInt ++ ")").toList = _
    rw [String.toList_append, String.toList_append, List.append_assoc]
    rfl
  cases hlevel : level.toInt with
  | ofNat n =>
    obtain ⟨x, hx⟩ := scans_digits n
    rw [hlevel] at htext
    exact ⟨_, .plain x, readProgram_of_scans (htext ▸ scans_warnOption hx) rfl⟩
  | negSucc n =>
    obtain ⟨x, hx⟩ := scans_digits (n + 1)
    rw [hlevel, show toString (Int.negSucc n) = "-" ++ (n + 1).repr from rfl,
      String.toList_append] at htext
    exact ⟨_, .negative x, readProgram_of_scans
      (htext ▸ scans_warnOption (scans_cons (t := .minus) rfl hx)) rfl⟩

/-! ### Directories -/

theorem toList_literal (s : String) :
    (literal s).toList = '\'' :: (s.toList.flatMap Token.quoted ++ ['\'']) := by
  change ("'" ++ String.ofList (s.toList.flatMap Token.quoted) ++ "'").toList = _
  simp

/-- A text written as a constant is one token, whatever follows it. -/
theorem next?_literal (s : String) (rest : List Char) :
    Token.next? ((literal s).toList ++ rest) = .ok (some (.text s, rest)) := by
  have htext : (literal s).toList ++ rest =
      '\'' :: (s.toList.flatMap Token.quoted ++ '\'' :: rest) := by
    rw [toList_literal]
    simp
  rw [htext, Token.next?_quoted, String.ofList_toList]

theorem scans_move {cs : List Char} {toks : List Token} (h : Scans cs toks) :
    Scans ("setwd(".toList ++ cs) (.name "setwd" :: .openParen :: toks) :=
  scans_cons rfl <| scans_cons rfl h

theorem scans_moveProgram (path : String) : Scans (moveProgram path).toList
    [.name "setwd", .openParen, .text path, .closeParen] := by
  have htext : (moveProgram path).toList = "setwd(".toList ++ ((literal path).toList ++ [')']) := by
    rw [moveProgram, String.toList_append, String.toList_append, List.append_assoc]
    rfl
  rw [htext]
  exact scans_move <| scans_cons (next?_literal path [')']) <| scans_cons rfl scans_nil

theorem readProgram_moveProgram (path : String) : Expr.readProgram (moveProgram path) =
    .ok [.call (.name "setwd") [(none, .const (.string path))]] :=
  readProgram_of_scans (scans_moveProgram path) rfl

end ScriptBridge.Engine
