import ScriptBridge.Language
import ScriptBridge.Proofs.Engine.Pristine
import ScriptBridge.Proofs.Machine.Warnings
import ScriptBridge.Proofs.Syntax.Boundary
import ScriptBridge.Proofs.Syntax.Words

/-!
# The statement that prints a text

`Language.outputStatement` puts a text between single quotes as it stands. It is the call of `cat`
with the text just for the texts without a single quote and a backslash, and prints these and does
nothing else (`outputStatement_prints`). A backslash changes what is printed, and a text that ends
the quotes goes on as script (`outputStatement_runs`).
-/

namespace ScriptBridge

/-! ### Texts between quotes -/

namespace Token

variable {cs tail rest s : List Char} {t : Token} {toks : List Token}

theorem flatMap_quoted_of_plain (hquote : '\'' ∉ s) (hslash : '\\' ∉ s) : s.flatMap quoted = s := by
  induction s with
  | nil => rfl
  | cons c s ih =>
    rw [List.mem_cons, not_or] at hquote hslash
    have hc : ¬(c = '\\' ∨ c = '\'') := not_or.mpr ⟨Ne.symm hslash.1, Ne.symm hquote.1⟩
    rw [List.flatMap_cons, quoted, if_neg hc, ih hquote.2 hslash.2]
    rfl

theorem readQuoted?_eq_none (h : '\'' ∉ cs) : readQuoted? '\'' cs = none := by
  fun_induction readQuoted? '\'' cs with
  | case1 => rfl
  | case2 c cs ih =>
    have hcs : '\'' ∉ cs := fun hmem => h (List.mem_cons_of_mem _ (List.mem_cons_of_mem _ hmem))
    rw [ih hcs]
    rfl
  | case3 => rfl
  | case4 => exact absurd List.mem_cons_self h
  | case5 c cs _ _ _ ih =>
    have hcs : '\'' ∉ cs := fun hmem => h (List.mem_cons_of_mem _ hmem)
    rw [ih hcs]
    rfl

/-- With no quote behind them, the characters before a closing quote stand for as many characters at
most, and for fewer if one of them is a quote or a backslash. -/
theorem length_le_of_readQuoted? (htail : '\'' ∉ tail)
    (h : readQuoted? '\'' (cs ++ '\'' :: tail) = some (s, rest)) :
    s.length ≤ cs.length ∧ (s.length = cs.length → '\'' ∉ cs ∧ '\\' ∉ cs) := by
  fun_induction readQuoted? '\'' cs generalizing s with
  | case1 =>
    rw [List.nil_append, readQuoted?_cons (by decide), if_pos rfl] at h
    cases h
    simp
  | case2 c cs ih =>
    rw [List.cons_append, List.cons_append, readQuoted?] at h
    obtain ⟨⟨s', rest'⟩, hcs, heq⟩ := Option.map_eq_some_iff.mp h
    cases heq
    have hlength := (ih hcs).1
    simp only [List.length_cons]
    omega
  | case3 =>
    -- The backslash takes the closing quote, and there is no other.
    rw [List.cons_append, List.nil_append, readQuoted?, readQuoted?_eq_none htail] at h
    cases h
  | case4 cs =>
    rw [List.cons_append, readQuoted?_cons (by decide), if_pos rfl] at h
    cases h
    simp
  | case5 c cs hslash hend hquote ih =>
    have hc := ne_backslash hslash hend
    rw [List.cons_append, readQuoted?_cons hc, if_neg hquote] at h
    obtain ⟨⟨s', rest'⟩, hcs, heq⟩ := Option.map_eq_some_iff.mp h
    cases heq
    obtain ⟨hlength, hplain⟩ := ih hcs
    simp only [List.length_cons, List.mem_cons, not_or]
    refine ⟨by omega, fun heq => ?_⟩
    obtain ⟨hquotes, hslashes⟩ := hplain (by omega)
    exact ⟨⟨Ne.symm hquote, hquotes⟩, Ne.symm hc, hslashes⟩

theorem Scans.of_next? (h : Scans cs toks) (hnext : next? cs = .ok (some (t, rest))) :
    ∃ toks', toks = t :: toks' ∧ Scans rest toks' := by
  have hscan : scanWith (cs.length + 1) cs = .ok toks := h _ (Nat.lt_succ_self _)
  rw [scanWith, hnext] at hscan
  change (do return t :: (← scanWith cs.length rest)) = _ at hscan
  obtain ⟨toks', hrest, heq⟩ := except_bind_eq_ok.mp hscan
  cases heq
  exact ⟨toks', rfl, scans_of_scanWith hrest⟩

theorem Scans.exists_of_quote (h : Scans ('\'' :: cs) toks) :
    ∃ s rest toks', readQuoted? '\'' cs = some (s, rest) ∧
      toks = .text (String.ofList s) :: toks' ∧ Scans rest toks' := by
  have hnext := next?_quote cs
  rcases hquoted : readQuoted? '\'' cs with _ | ⟨s, rest⟩
  · have hscan : scanWith (cs.length + 2) ('\'' :: cs) = .ok toks := h _ (by simp)
    rw [scanWith, hnext, hquoted] at hscan
    cases hscan
  · rw [hquoted] at hnext
    obtain ⟨toks', htoks, hrest⟩ := h.of_next? hnext
    exact ⟨s, rest, toks', rfl, htoks, hrest⟩

end Token

namespace Language

variable {m : Machine} {text : String}

/-! ### Reading the statement -/

def printing (text : String) : Expr := .call (.name "cat") [(none, .const (.string text))]

theorem toList_outputStatement (text : String) :
    (outputStatement text).toList =
      "cat(".toList ++ ('\'' :: (text.toList ++ '\'' :: [')', ';'])) := by
  have hstatement : outputStatement text = "cat(" ++ ("'" ++ (text ++ "');")) := by
    rw [outputStatement, String.append_assoc]
    rfl
  rw [hstatement, String.toList_append, String.toList_append, String.toList_append]
  rfl

theorem readProgram_outputStatement (hquote : '\'' ∉ text.toList) (hslash : '\\' ∉ text.toList) :
    Expr.readProgram (outputStatement text) = .ok [printing text] := by
  have htext : Token.next? ('\'' :: (text.toList ++ '\'' :: [')', ';'])) =
      .ok (some (.text text, [')', ';'])) := by
    have hquoted := Token.next?_quoted text.toList [')', ';']
    rwa [Token.flatMap_quoted_of_plain hquote hslash, String.ofList_toList] at hquoted
  have hscans : Token.Scans (outputStatement text).toList
      [.name "cat", .openParen, .text text, .closeParen, .semicolon] := by
    rw [toList_outputStatement]
    exact Token.scans_cons rfl <| Token.scans_cons rfl <| Token.scans_cons htext <|
      Token.scans_cons rfl <| Token.scans_cons rfl Token.scans_nil
  exact Engine.readProgram_of_scans hscans rfl

theorem plain_of_readProgram (h : Expr.readProgram (outputStatement text) = .ok [printing text]) :
    '\'' ∉ text.toList ∧ '\\' ∉ text.toList := by
  obtain ⟨toks, hscan, -, hwords, -⟩ := Expr.spelled_readProgram h
  have hscans := Token.scans_of_scanWith hscan
  rw [toList_outputStatement] at hscans
  have hcat (cs : List Char) :
      Token.next? ("cat(".toList ++ cs) = .ok (some (.name "cat", '(' :: cs)) := rfl
  have hparen (cs : List Char) : Token.next? ('(' :: cs) = .ok (some (.openParen, cs)) := rfl
  obtain ⟨_, rfl, hargs⟩ := hscans.of_next? (hcat _)
  obtain ⟨_, rfl, htext⟩ := hargs.of_next? (hparen _)
  obtain ⟨s, rest, toks, hquoted, rfl, -⟩ := htext.exists_of_quote
  -- The first constant of the program is the text, so the quotes end where they are meant to.
  have hs : String.ofList s = text := by
    have hboth : List.Forall₂ Token.StandsFor
        (.name "cat" :: .text (String.ofList s) :: toks.filter Token.isWord)
        [.name "cat", .const (.string text)] := hwords
    obtain ⟨-, hsecond⟩ := List.forall₂_cons.mp hboth
    obtain ⟨hstands, -⟩ := List.forall₂_cons.mp hsecond
    cases hstands with
    | const hconst => simpa [Token.constant?, RValue.string] using hconst
  obtain ⟨-, hplain⟩ := Token.length_le_of_readQuoted? (by decide) hquoted
  refine hplain ?_
  rw [← hs, String.toList_ofList]

/-! ### Running it -/

theorem unhidden_create (files : Files) (environment : Dict String) (n : String) :
    (Machine.create files environment).Unhidden n := by
  intro params body h
  cases h

theorem eval_printing (h : m.Unhidden "cat") (text : String) :
    (printing text).eval { m with frames := [] } =
      (.ok Object.null, { m with frames := [] }.print .output text) := by
  rw [printing, Engine.eval_builtin h (by decide),
    Exec.bind_of_ok (Expr.evalArgs_cons_of_ok rfl Expr.evalArgs_nil)]
  rfl

theorem evalText_outputStatement (hm : m.Quiet) (hcat : m.Unhidden "cat")
    (hquote : '\'' ∉ text.toList) (hslash : '\\' ∉ text.toList) :
    Machine.evalText (outputStatement text) m = (.ok .null, m.print .output text) := by
  rw [Machine.evalText_of_ok (readProgram_outputStatement hquote hslash) (eval_printing hcat text)]
  have hframes : { m with frames := [] } = m := by rw [← hm.frames]
  have hwarnings : (m.print .output text).warnings = [] := hm.warnings
  rw [hframes, Machine.flushWarnings, if_pos hwarnings]
  rfl

/-- The statement is the call that prints the text just for a text without single quotes and
backslashes. Between the calls of the host, while no closure hides `cat`, it prints such a text
verbatim, in one chunk, and does nothing else to the interpreter. -/
theorem outputStatement_prints (text : String) :
    (Expr.readProgram (outputStatement text) = .ok [printing text] ↔
      '\'' ∉ text.toList ∧ '\\' ∉ text.toList) ∧
    ∀ m : Machine, m.Reached → m.Unhidden "cat" → '\'' ∉ text.toList → '\\' ∉ text.toList →
      Machine.evalText (outputStatement text) m = (.ok .null, m.print .output text) :=
  ⟨⟨plain_of_readProgram, fun h => readProgram_outputStatement h.1 h.2⟩,
    fun _ hm hcat hquote hslash => evalText_outputStatement hm.quiet hcat hquote hslash⟩

theorem outputStatement_prints_lines :
    Machine.evalText (outputStatement "a \"b\"\n# é;") (Machine.create {} []) =
      (.ok .null, (Machine.create {} []).print .output "a \"b\"\n# é;") :=
  (outputStatement_prints "a \"b\"\n# é;").2 _ (.create {} []) (unhidden_create {} [] "cat")
    (by decide) (by decide)

/-- A text that ends the quotes goes on as script: the statement is three, it prints nothing of the
text, and it sets a variable. -/
theorem outputStatement_runs :
    let m := Machine.create {} []
    m.Reached ∧ m.Unhidden "cat" ∧
    Expr.readProgram (outputStatement "'); x = 1L; cat('") =
      .ok [printing "", .assign (.name "x") (.const (.ofInt32 1)) false, printing ""] ∧
    Machine.evalText (outputStatement "'); x = 1L; cat('") m =
      (.ok .null, { m with
        globals := [("x", .data (.ofInt32 1))]
        console := [⟨.output, ""⟩, ⟨.output, ""⟩] }) := by
  have hread : Expr.readProgram (outputStatement "'); x = 1L; cat('") =
      .ok [printing "", .assign (.name "x") (.const (.ofInt32 1)) false, printing ""] := by
    have hscan : Token.scan (outputStatement "'); x = 1L; cat('") = .ok
        [.name "cat", .openParen, .text "", .closeParen, .semicolon, .name "x", .assign,
          .integer 1, .semicolon, .name "cat", .openParen, .text "", .closeParen, .semicolon] :=
      rfl
    rw [Expr.readProgram, hscan]
    rfl
  refine ⟨.create {} [], unhidden_create {} [] "cat", hread, ?_⟩
  rw [Machine.evalText_of_read hread]
  rfl

end Language

end ScriptBridge
