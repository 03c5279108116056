import ScriptBridge.Proofs.Console.Grammar
import ScriptBridge.Proofs.Console.History
import ScriptBridge.Proofs.Engine.Stop
import ScriptBridge.Proofs.RValue.Combination

/-!
# From a call of `set_progress` to the sink

The number that a script reports goes to the host as text: `set_progress` makes its argument a
vector of integers, prints these behind the progress tag with nothing between them, and the router
reads what stands behind the tag. `setProgress_reports` follows a vector of integers or truth values
all the way. A single element arrives as it is, and nothing arrives of a vector that is empty or has
a missing element. But the digits of several elements are one number to the router, unless there is
a sign among them: `set_progress(c(1L, 2L))` reports twelve (`setProgress_runsTogether`).
-/

namespace ScriptBridge

open Signal (Spells IsTenDigit)

/-! ### Integers as text -/

namespace RValue

variable {es : List (Option Int32)} {e : Option Int32} {n : Int32} {ns : List Int32} {k : Int}
  {c : Char}

theorem asInteger_eq_wholeElements {x : RValue}
    (hx : x.mode? = some .integer ∨ x.mode? = some .logical) :
    x.asInteger = .ok x.wholeElements := by
  cases x with
  | integer v => rw [asInteger, wholeElements]
  | logical v => rw [asInteger, wholeElements]
  | _ => simp [mode?] at hx

/-- An integer as it is printed. -/
def wholeText (e : Option Int32) : String := orNA (e.map fun n => toString n.toInt)

/-- Integers as they are printed, with nothing between them. -/
def joinedText (es : List (Option Int32)) : String := String.join (es.map wholeText)

theorem texts_integer (es : List (Option Int32)) : texts (integer es) = .ok (es.map wholeText) := by
  have htexts : texts (integer es) = .ok ((integer es).atomTexts.map orNA) := rfl
  rw [htexts, atomTexts, List.map_map]
  rfl

theorem toList_joinedText : (joinedText es).toList = es.flatMap fun e => (wholeText e).toList := by
  rw [joinedText, String.toList_join, List.flatMap_map]

theorem mem_joinedText : c ∈ (joinedText es).toList ↔ ∃ e ∈ es, c ∈ (wholeText e).toList := by
  rw [toList_joinedText, List.mem_flatMap]

theorem joinedText_cons : (joinedText (some n :: es)).toList =
    (toString n.toInt).toList ++ (joinedText es).toList := by
  rw [toList_joinedText, List.flatMap_cons, ← toList_joinedText]
  rfl

theorem isTenDigit_of_mem_wholeText (hn : 0 ≤ n) (hc : c ∈ (wholeText (some n)).toList) :
    IsTenDigit c := by
  have hnat : ((n.toInt.toNat : Nat) : Int) = n.toInt :=
    Int.toNat_of_nonneg (Int32.le_iff_toInt_le.mp hn)
  change c ∈ (toString n.toInt).toList at hc
  rw [← hnat] at hc
  exact Signal.isTenDigit_of_mem_repr hc

theorem minus_mem_wholeText (hn : n < 0) : '-' ∈ (wholeText (some n)).toList := by
  change '-' ∈ (toString n.toInt).toList
  obtain ⟨m, hm⟩ := Int.eq_negSucc_of_lt_zero (Int32.lt_iff_toInt_lt.mp hn)
  rw [hm]
  change '-' ∈ ("-" ++ (m + 1).repr).toList
  simp

theorem isBlank_of_mem_joinedText (hc : c ∈ (joinedText es).toList) : Text.isBlank c = false := by
  have hdigit (hten : IsTenDigit c) : Text.isBlank c = false := by
    rw [← Bool.not_eq_true]
    intro hblank
    rw [← Signal.isDigit_iff, Signal.isDigit_of_isBlank hblank] at hten
    cases hten
  obtain ⟨e, -, hc⟩ := mem_joinedText.mp hc
  cases e with
  | none =>
    have hletter : c ∈ ['N', 'A'] := hc
    rcases List.mem_pair.mp hletter with rfl | rfl <;> rfl
  | some n =>
    rcases (Signal.spells_toString n.toInt).forall_mem c hc with rfl | hten
    · rfl
    · exact hdigit hten

/-- Integers of which only the first may have a sign are one number. -/
theorem spells_joinedText (hns : ∀ b ∈ ns, 0 ≤ b) :
    ∃ k, Spells (joinedText (some n :: ns.map some)).toList k := by
  rw [joinedText_cons]
  refine (Signal.spells_toString n.toInt).append fun c hc => ?_
  obtain ⟨e, he, hc⟩ := mem_joinedText.mp hc
  obtain ⟨b, hb, rfl⟩ := List.mem_map.mp he
  exact isTenDigit_of_mem_wholeText (hns b hb) hc

theorem not_spells_of_none (h : none ∈ es) : ¬Spells (joinedText es).toList k := by
  intro hspells
  have hletter : 'N' ∈ (joinedText es).toList := mem_joinedText.mpr ⟨none, h, by decide⟩
  exact absurd (hspells.forall_mem 'N' hletter) (by decide)

theorem not_spells_of_sign (h : some n ∈ es) (hn : n < 0) (first : Int32) :
    ¬Spells (joinedText (some first :: es)).toList k := by
  intro hspells
  have hminus : '-' ∈ (joinedText es).toList :=
    mem_joinedText.mpr ⟨some n, h, minus_mem_wholeText hn⟩
  have htail : '-' ∈ (joinedText (some first :: es)).toList.tail := by
    rw [joinedText_cons, List.tail_append_of_ne_nil (Signal.spells_toString _).ne_nil]
    exact List.mem_append_right _ hminus
  exact absurd (hspells.forall_mem_tail '-' htail) (by decide)

/-- What is printed is no number if there is nothing, if there is a missing element, and if there is
a sign behind the first element. -/
theorem not_spells_joinedText (h : es = [] ∨ none ∈ es ∨ ∃ n, some n ∈ es.tail ∧ n < 0) :
    ¬Spells (joinedText es).toList k := by
  rcases h with rfl | hnone | ⟨n, hmem, hn⟩
  · exact fun hspells => hspells.ne_nil rfl
  · exact not_spells_of_none hnone
  · match es, hmem with
    | none :: _, _ => exact not_spells_of_none List.mem_cons_self
    | some first :: _, hmem => exact not_spells_of_sign hmem hn first

end RValue

namespace Engine

variable {m m₀ m₁ : Machine} {call : Caller} {x : RValue} {es : List (Option Int32)} {n : Int32}
  {arg : Expr} {room : Nat}

/-! ### The call -/

def setProgress (arg : Expr) : Expr := .call (.name "set_progress") [(none, arg)]

/-- The text by which integers are reported. -/
def reportText (es : List (Option Int32)) : String := progressTag ++ "=" ++ RValue.joinedText es

def progressNames : List String := ["message", "as.integer"]

theorem get?_progressProgram :
    (Machine.evalText progressProgram m).2.globals.get? "set_progress" = some progressReporter := by
  rw [evalText_progressProgram, Machine.flushWarnings_globals, Dict.get?_insert_self]

theorem allTexts_report (es : List (Option Int32)) :
    Builtin.allTexts [.string "<PARProgress>=", .integer es] m =
      (.ok ("<PARProgress>=" :: es.map RValue.wholeText), m) := by
  have hlast : Builtin.allTexts [.string "<PARProgress>=", .integer es] m =
      (Exec.ofExcept (RValue.integer es).texts >>= fun texts =>
        pure ("<PARProgress>=" :: texts ++ []) : Exec (List String)) m := rfl
  have hread : (Exec.ofExcept (RValue.integer es).texts : Exec (List String)) m =
      (.ok (es.map RValue.wholeText), m) := by
    rw [RValue.texts_integer]
    rfl
  rw [hlast, Exec.bind_of_ok hread, List.append_nil]
  rfl

theorem message_report (es : List (Option Int32)) :
    Builtin.message [(none, .data (.string "<PARProgress>=")), (none, .data (.integer es)),
      (some "appendLF", .data (.ofBool false))] m =
      (.ok Object.null, m.print .error (reportText es)) := by
  have htext : String.join ("<PARProgress>=" :: es.map RValue.wholeText) = reportText es := by
    rw [String.join_cons]
    rfl
  change ((Builtin.allTexts [.string "<PARProgress>=", .integer es] >>= fun texts =>
    Exec.print .error (String.join texts) >>= fun _ => pure Object.null) : Exec Object) m = _
  rw [Exec.bind_of_ok (allTexts_report es), htext]
  rfl

theorem evalWith_progressBody (hx : x.asInteger = .ok es) (hvar : m.lookup? "x" = some (.data x))
    (h : ∀ n ∈ progressNames, ∀ params body, m.lookup? n ≠ some (.closure params body)) :
    progressBody.evalWith call m = (.ok Object.null, m.print .error (reportText es)) := by
  have hname : (Expr.name "x").evalWith call m = (.ok (.data x), m) := by
    rw [Expr.evalWith, Expr.lookup, Exec.bind_of_ok Exec.get_apply, hvar]
    rfl
  have hinteger : (Expr.call (.name "as.integer") [(none, .name "x")]).evalWith call m =
      (.ok (.data (.integer es)), m) := by
    rw [Expr.evalWith_builtin (h _ (by decide)) (by decide),
      Exec.bind_of_ok (Expr.evalArgs_cons_of_ok hname Expr.evalArgs_nil)]
    change Builtin.yields (Exec.ofExcept (x.asInteger.map .integer)) m = _
    rw [hx]
    rfl
  have hmessage : (Expr.call (.name "message") [(none, .const (.string "<PARProgress>=")),
      (none, .call (.name "as.integer") [(none, .name "x")]),
      (some "appendLF", .const (.ofBool false))]).evalWith call m =
      (.ok Object.null, m.print .error (reportText es)) := by
    rw [Expr.evalWith_builtin (h _ (by decide)) (by decide), Exec.bind_of_ok <|
      Expr.evalArgs_cons_of_ok rfl <| Expr.evalArgs_cons_of_ok hinteger <|
        Expr.evalArgs_cons_of_ok rfl Expr.evalArgs_nil]
    exact message_report es
  rw [progressBody, Expr.evalWith, Expr.evalBlock, Exec.bind_of_ok hmessage]
  rfl

theorem perform_progressReporter (hx : x.asInteger = .ok es)
    (h : ∀ n ∈ progressNames, m.Unhidden n) :
    Call.perform (room + 1) ⟨"set_progress", [("x", none)], progressBody, [(none, .data x)]⟩ m =
      (.ok Object.null, m.print .error (reportText es)) := by
  let inner : Machine := { m with frames := ⟨"set_progress", [("x", .data x)]⟩ :: m.frames }
  have hbody : progressBody.evalWith (Call.perform room) inner =
      (.ok Object.null, inner.print .error (reportText es)) := by
    refine evalWith_progressBody hx rfl fun n hn => ?_
    have hlookup : inner.lookup? n = m.globals.get? n := by
      rcases List.mem_pair.mp hn with rfl | rfl <;> rfl
    rw [hlookup]
    exact h n hn
  rw [Call.perform_of_ok (by simp) rfl hbody]
  rfl

theorem evalWith_setProgress (hx : x.asInteger = .ok es)
    (harg : arg.evalWith (Call.perform room) m = (.ok (.data x), m₁))
    (hdefined : m.lookup? "set_progress" = some progressReporter)
    (h : ∀ n ∈ progressNames, m₁.Unhidden n) :
    (setProgress arg).evalWith (Call.perform room) m =
      if room = 0 then (.error (.error ⟨.tooDeep, m₁.function?⟩), m₁)
      else (.ok Object.null, m₁.print .error (reportText es)) := by
  have hcall : (setProgress arg).evalWith (Call.perform room) m =
      Call.perform room ⟨"set_progress", [("x", none)], progressBody, [(none, .data x)]⟩ m₁ := by
    -- The function is looked up before its argument is evaluated.
    rw [setProgress, Expr.evalWith]
    simp only [Expr.name?]
    rw [Exec.bind_of_ok Exec.get_apply, hdefined]
    simp only [progressReporter]
    rw [Exec.bind_of_ok (Expr.evalArgs_cons_of_ok harg Expr.evalArgs_nil)]
  rw [hcall]
  cases room with
  | zero => rfl
  | succ room => exact perform_progressReporter hx h

/-! ### The report on its way through the router -/

variable {r : Router} {a : Attachment} {i : Nat} {h : Host} {k : Int}

theorem readProgress?_joinedText :
    Signal.readProgress? (RValue.joinedText es).toList = some n ↔
      Spells (RValue.joinedText es).toList n.toInt :=
  Signal.readProgress?_of_solid fun _ => RValue.isBlank_of_mem_joinedText

theorem ofText_reportText : Signal.ofText (reportText es) =
    ((Signal.readProgress? (RValue.joinedText es).toList).map .progress).getD .diagnostic := by
  refine Signal.ofText_of_tagged ?_
  rw [reportText, String.toList_append, String.toList_append, List.append_assoc]
  rfl

theorem write_report_number (hrun : r.run = some a) (hi : a.progress = some i)
    (hspells : Spells (RValue.joinedText es).toList n.toInt) :
    r.write ⟨.error, reportText es⟩ h = (r, h.setSink i n) := by
  have hsignal : Signal.ofText (reportText es) = .progress n := by
    rw [ofText_reportText, readProgress?_joinedText.mpr hspells]
    rfl
  have hsink : r.run.bind (·.progress) = some i := by rw [hrun, Option.bind_some, hi]
  change r.writeError (reportText es) h = _
  rw [Router.writeError, hsignal]
  simp only [hsink]

theorem write_report_diagnostic
    (hspells : ∀ n : Int32, ¬Spells (RValue.joinedText es).toList n.toInt) :
    r.write ⟨.error, reportText es⟩ h = (r, tell r (reportText es) h) := by
  refine write_diagnostic ?_
  have hnone : Signal.readProgress? (RValue.joinedText es).toList = none :=
    Option.eq_none_iff_forall_ne_some.mpr fun n hn => hspells n (readProgress?_joinedText.mp hn)
  rw [ofText_reportText, hnone]
  rfl

theorem tell_sinks (r : Router) (text : String) (h : Host) : (tell r text h).sinks = h.sinks := by
  rw [tell, Router.forward_sinks, Router.forward_sinks]

/-- What a state has printed after one more text, on its way through a router: the text comes last.
-/
theorem writeAll_print (r : Router) (m : Machine) (text : String) (h : Host) :
    r.writeAll (m.print .error text).console h =
      (r.writeAll m.console h).1.write ⟨.error, text⟩ (r.writeAll m.console h).2 := by
  rw [Machine.print, Router.writeAll_append, Router.writeAll_cons, Router.writeAll_nil]

theorem write_sinks_length (r : Router) (c : Chunk) (h : Host) :
    (r.write c h).2.sinks.length = h.sinks.length := by
  unfold Router.write Router.writeError
  split
  · rw [Router.forward_sinks]
  · split
    · rfl
    · cases r.run.bind (·.progress) <;> simp [Host.setSink]
    · rw [Router.forward_sinks, Router.forward_sinks]

theorem writeAll_sinks_length (r : Router) (cs : List Chunk) (h : Host) :
    (r.writeAll cs h).2.sinks.length = h.sinks.length := by
  induction cs generalizing r h with
  | nil => rfl
  | cons c cs ih => rw [Router.writeAll_cons, ih, write_sinks_length]

theorem sink_setSink (hi : i < h.sinks.length) : (h.setSink i n).sink i = n := by
  simp [Host.sink, Host.setSink, hi]

theorem sink_tell (r : Router) (text : String) (h : Host) (i : Nat) :
    (tell r text h).sink i = h.sink i := by
  rw [Host.sink, Host.sink, tell_sinks]

/-- After what a state has printed before, a report of one number sets the sink. -/
theorem writeAll_report_number (hrun : r.run = some a) (hi : a.progress = some i)
    (hsink : i < h.sinks.length) (hspells : Spells (RValue.joinedText es).toList n.toInt) :
    let before := r.writeAll m.console h
    let after := r.writeAll (m.print .error (reportText es)).console h
    after = (before.1, before.2.setSink i n) ∧ after.2.sink i = n := by
  intro before after
  have hrun' : before.1.run = some a := (Router.writeAll_run r m.console h).trans hrun
  have hsink' : i < before.2.sinks.length := by
    rw [writeAll_sinks_length]
    exact hsink
  have hafter : after = (before.1, before.2.setSink i n) :=
    (writeAll_print r m _ h).trans (write_report_number hrun' hi hspells)
  refine ⟨hafter, ?_⟩
  rw [hafter]
  exact sink_setSink hsink'

/-- After what a state has printed before, a report that is no number of 32 bits is a diagnostic. -/
theorem writeAll_report_diagnostic (r : Router) (m : Machine) (h : Host) (i : Nat)
    (hspells : ∀ n : Int32, ¬Spells (RValue.joinedText es).toList n.toInt) :
    let before := r.writeAll m.console h
    let after := r.writeAll (m.print .error (reportText es)).console h
    after = (before.1, tell before.1 (reportText es) before.2) ∧
      after.2.sink i = before.2.sink i := by
  intro before after
  have hafter : after = (before.1, tell before.1 (reportText es) before.2) :=
    (writeAll_print r m _ h).trans (write_report_diagnostic hspells)
  refine ⟨hafter, ?_⟩
  rw [hafter]
  exact sink_tell _ _ _ i

/-! ### From the call to the sink -/

/-- A call of `set_progress` with a vector of integers or truth values, while the function is what
the engine's program defines and nothing hides what it calls, in a run with a sink. Unless there is
no room for a frame, the call prints one text after what was printed before. The router passes a
single element to the sink and nothing to the writers. It takes the text for a diagnostic and leaves
the sinks alone if there is no element, if one is missing, and if one behind the first is negative.
Of any other vector the digits are one number, which is passed to the sink if it has 32 bits. -/
theorem setProgress_reports (hx : x.mode? = some .integer ∨ x.mode? = some .logical)
    (harg : arg.evalWith (Call.perform room) m = (.ok (.data x), m₁))
    (hdefined : m.lookup? "set_progress" =
      (Machine.evalText progressProgram m₀).2.globals.get? "set_progress")
    (hbuiltins : ∀ n ∈ progressNames, m₁.Unhidden n)
    (hrun : r.run = some a) (hi : a.progress = some i) (hsink : i < h.sinks.length) :
    let es := x.wholeElements
    let text := reportText es
    let before := r.writeAll m₁.console h
    let after := r.writeAll (m₁.print .error text).console h
    (setProgress arg).evalWith (Call.perform room) m =
      (if room = 0 then (.error (.error ⟨.tooDeep, m₁.function?⟩), m₁)
      else (.ok Object.null, m₁.print .error text)) ∧
    (∀ n, es = [some n] →
      after = (before.1, before.2.setSink i n) ∧ after.2.sink i = n) ∧
    ((es = [] ∨ none ∈ es ∨ ∃ n, some n ∈ es.tail ∧ n < 0) →
      after = (before.1, tell before.1 text before.2) ∧ after.2.sink i = before.2.sink i) ∧
    (∀ (n : Int32) (ns : List Int32), es = some n :: ns.map some → (∀ b ∈ ns, 0 ≤ b) →
      ∃ k, Spells (RValue.joinedText es).toList k ∧
        (-2147483648 ≤ k ∧ k ≤ 2147483647 →
          after = (before.1, before.2.setSink i (Int32.ofInt k)) ∧
            after.2.sink i = Int32.ofInt k) ∧
        (k < -2147483648 ∨ 2147483647 < k →
          after = (before.1, tell before.1 text before.2) ∧
            after.2.sink i = before.2.sink i)) := by
  intro es text before after
  have hnumber (n : Int32) (hspells : Spells (RValue.joinedText es).toList n.toInt) :
      after = (before.1, before.2.setSink i n) ∧ after.2.sink i = n :=
    writeAll_report_number hrun hi hsink hspells
  have hother (hspells : ∀ n : Int32, ¬Spells (RValue.joinedText es).toList n.toInt) :
      after = (before.1, tell before.1 text before.2) ∧ after.2.sink i = before.2.sink i :=
    writeAll_report_diagnostic r m₁ h i hspells
  refine ⟨?_, fun n hes => hnumber n ?_, fun hes => hother fun n => ?_, fun n ns hes hns => ?_⟩
  · exact evalWith_setProgress (RValue.asInteger_eq_wholeElements hx) harg
      (hdefined.trans get?_progressProgram) hbuiltins
  · rw [hes, RValue.joinedText_cons, RValue.toList_joinedText, List.flatMap_nil, List.append_nil]
    exact Signal.spells_toString n.toInt
  · exact RValue.not_spells_joinedText hes
  · obtain ⟨k, hk⟩ := RValue.spells_joinedText (n := n) hns
    rw [← hes] at hk
    refine ⟨k, hk, fun hfits => hnumber _ ?_, fun hlarge => hother fun n hn => ?_⟩
    · rwa [Int32.toInt_ofInt_of_le (by omega) (by omega)]
    · have hlow := n.le_toInt
      have hhigh := n.toInt_lt
      have heq := hk.unique hn
      omega

/-- A function calls `set_progress` with its parameter, which is minus seven. -/
theorem setProgress_reports_parameter :
    let x : RValue := .integer [some (-7)]
    let m : Machine := { Machine.create {} [] with
      globals := [("set_progress", progressReporter)], frames := [⟨"f", [("p", .data x)]⟩] }
    let r : Router := { run := some ⟨0, 1, some 0⟩ }
    let h : Host := { writers := [{}, {}], sinks := [0] }
    (x.mode? = some .integer ∧
      (Expr.name "p").evalWith (Call.perform 47) m = (.ok (.data x), m) ∧
      m.lookup? "set_progress" =
        (Machine.evalText progressProgram m).2.globals.get? "set_progress" ∧
      ∀ n ∈ progressNames, m.Unhidden n) ∧
    (setProgress (.name "p")).evalWith (Call.perform 47) m =
      (.ok Object.null, m.print .error "<PARProgress>=-7") ∧
    r.writeAll (m.print .error "<PARProgress>=-7").console h = (r, h.setSink 0 (-7)) ∧
    (h.setSink 0 (-7)).sink 0 = -7 := by
  intro x m r h
  have hmode : x.mode? = some .integer := rfl
  have harg : (Expr.name "p").evalWith (Call.perform 47) m = (.ok (.data x), m) := rfl
  have hdefined : m.lookup? "set_progress" =
      (Machine.evalText progressProgram m).2.globals.get? "set_progress" :=
    get?_progressProgram.symm
  have hbuiltins : ∀ n ∈ progressNames, m.Unhidden n := by
    intro n hn params body
    rcases List.mem_pair.mp hn with rfl | rfl <;> exact fun hget => nomatch hget
  obtain ⟨hcall, hsingle, -, -⟩ := setProgress_reports (r := r) (a := ⟨0, 1, some 0⟩) (h := h)
    (.inl hmode) harg hdefined hbuiltins rfl rfl (by decide)
  have htext : reportText x.wholeElements = "<PARProgress>=-7" := by decide
  rw [htext] at hcall hsingle
  obtain ⟨hrouted, hsink⟩ := hsingle (-7) (by decide)
  rw [hrouted] at hsink
  exact ⟨⟨hmode, harg, hdefined, hbuiltins⟩, hcall, hrouted, hsink⟩

def Run.reportingTwo : Run Machine where
  engine := ⟨Machine.backend, { safeDir := "/", forked := true }⟩
  script := "set_progress(c(1L, 2L))"
  bindings := ({} : Bindings).withProgress 0
  out := 0
  err := 1
  start := { state := Machine.create {} [], host := { writers := [{}, {}], sinks := [0] } }

/-- Two numbers in one call come through as one that is neither. -/
theorem setProgress_runsTogether :
    Run.reportingTwo.scriptState.console = [⟨.error, "<PARProgress>=12"⟩] ∧
    Run.reportingTwo.start.host.sink 0 = 0 ∧ Run.reportingTwo.eval.2.host.sink 0 = 12 := by
  decide +kernel

end Engine

end ScriptBridge
