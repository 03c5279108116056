import ScriptBridge.Proofs.Machine.Program
import ScriptBridge.Proofs.Machine.Soundness
import ScriptBridge.Proofs.RValue.Lookups

/-!
# Values of scripts

Everything that an interpreter holds and yields is well formed, if its host assigns nothing else and
no vector or counted text has 2^31 elements (`Machine.ModestlyReached.values_wellFormed`). The bound
is one on the evaluations of a run: those of its expressions, those that they ask for, and those of
the error handler (`Machine.Evaluates`). The same holds in between: whenever an evaluation starts or
ends, the state is well formed (`Expr.Tidy`).
-/

namespace ScriptBridge

open Exec

namespace Expr

/-- The evaluation of the first expression from the first state comes to that of the second from the
second: it is that one, or one of those that it asks for comes to it. -/
inductive LeadsTo : Expr → Machine → Expr → Machine → Prop
  | self (e : Expr) (m : Machine) : LeadsTo e m e m
  | part {e e' : Expr} {m m' : Machine} {part : Expr × Machine}
      (hpart : part ∈ (Outline.ofExpr e).asked m) (h : LeadsTo part.1 part.2 e' m') :
      LeadsTo e m e' m'

/-- The vector that the evaluation yields has fewer than 2^31 elements, and so have the texts whose
characters it counts. -/
structure Modest (e : Expr) (m : Machine) : Prop where
  value : ∀ x m', e.evalIn m = (.ok (.data x), m') → x.length < 2147483648
  counted : Outline.CountsShort e m

/-- The evaluation is one of a well-formed expression, starts and ends in well-formed states, and
what it yields or returns is well formed. -/
structure Tidy (e : Expr) (m : Machine) : Prop where
  constants : e.WellFormed
  start : m.WellFormed
  run : Exec.SoundAt Object.WellFormed e.evalIn m

variable {e : Expr} {m : Machine}

/-- One step of the recursion: a modest evaluation is sound if those that it asks for are. -/
theorem soundAt_evalIn (he : e.WellFormed) (hm : m.WellFormed) (hmodest : e.Modest m)
    (hparts : ∀ part ∈ (Outline.ofExpr e).asked m, part.1.WellFormed → part.2.WellFormed →
      Exec.SoundAt Object.Given part.1.evalIn part.2) :
    (∀ part ∈ (Outline.ofExpr e).asked m, part.1.WellFormed ∧ part.2.WellFormed) ∧
      Exec.SoundAt Object.Given e.evalIn m := by
  obtain ⟨hstarts, hrun⟩ := Outline.soundAt_ofExpr he hmodest.counted hm hparts
  rw [Outline.run_ofExpr] at hrun
  refine ⟨hstarts, hrun.state, fun x hx => ?_, hrun.exit⟩
  have hshort : x.Short := by
    cases x with
    | data v => exact hmodest.value v _ (Prod.ext hx rfl)
    | closure params body => trivial
  exact ⟨hrun.value x hx hshort, hshort⟩

/-- The evaluations that a modest one comes to are tidy, by the recursion of the interpreter: there
is less room for frames, or the expression is smaller. -/
theorem tidy_of_leadsTo {e : Expr} {m : Machine} (he : e.WellFormed) (hm : m.WellFormed)
    (hmodest : ∀ e' m', LeadsTo e m e' m' → e'.Modest m') :
    Exec.SoundAt Object.Given e.evalIn m ∧ ∀ e' m', LeadsTo e m e' m' → e'.Tidy m' := by
  -- That the parts start from well-formed states is known only when those before them are sound.
  have hparts : ∀ part ∈ (Outline.ofExpr e).asked m, part.1.WellFormed → part.2.WellFormed →
      Exec.SoundAt Object.Given part.1.evalIn part.2 ∧
        ∀ e' m', LeadsTo part.1 part.2 e' m' → e'.Tidy m' :=
    fun part hpart he' hm' =>
      have := Outline.asked_ofExpr e m part hpart
      tidy_of_leadsTo he' hm' fun e' m' h => hmodest e' m' (.part hpart h)
  obtain ⟨hstarts, hrun⟩ := soundAt_evalIn he hm (hmodest e m (.self e m))
    fun part hpart he' hm' => (hparts part hpart he' hm').1
  refine ⟨hrun, fun e' m' h => ?_⟩
  cases h with
  | self => exact ⟨he, hm, hrun.mono fun _ h => h.1⟩
  | @part _ _ _ _ part hpart h =>
    obtain ⟨he', hm'⟩ := hstarts part hpart
    exact (hparts part hpart he' hm').2 e' m' h
termination_by (m.room, sizeOf e)
decreasing_by exact this

end Expr

namespace Machine

def reported (m : Machine) (c : Condition) : Machine :=
  { m.print .error c.text with frames := [], lastError := c.text }

def handlerCall (params : List (String × Option Expr)) (body : Expr) : Call :=
  ⟨"", params, body, []⟩

/-- After an error in the state `m` the call of the error handler comes to an evaluation of `e` from
`m'`. -/
inductive Handles (m : Machine) (c : Condition) (e : Expr) (m' : Machine) : Prop
  | intro {params : List (String × Option Expr)} {body : Expr} {part : Expr × Machine}
      (hhandling : m.handling = false)
      (hoption : m.options.get? "error" = some (.closure params body))
      (hpart : part ∈ (Outline.call (handlerCall params body)).asked
        { m.reported c with handling := true })
      (h : part.1.LeadsTo part.2 e m')

/-- The run of the program from `m` comes to an evaluation of `e'` from `m'`. -/
inductive Evaluates : List Expr → Machine → Expr → Machine → Prop
  | here {e : Expr} {rest : List Expr} {m : Machine} {e' : Expr} {m' : Machine}
      (h : e.LeadsTo { m with frames := [] } e' m') : Evaluates (e :: rest) m e' m'
  | later {e : Expr} {rest : List Expr} {m m₁ : Machine} {x : Object} {e' : Expr} {m' : Machine}
      (hok : e.eval { m with frames := [] } = (.ok x, m₁))
      (h : Evaluates rest m₁.flushWarnings e' m') : Evaluates (e :: rest) m e' m'
  | handler {e : Expr} {rest : List Expr} {m m₁ : Machine} {exit : Exit} {e' : Expr} {m' : Machine}
      (herror : e.eval { m with frames := [] } = (.error exit, m₁))
      (h : Handles m₁ exit.condition e' m') : Evaluates (e :: rest) m e' m'

/-- All evaluations of the run of a text are modest. -/
def ModestRun (source : String) (m : Machine) : Prop :=
  ∀ program, Expr.readProgram source = .ok program →
    ∀ e m', Evaluates program m e m' → e.Modest m'

/-- The state of an interpreter after uses by its host in which it assigned well-formed values only
and all runs were modest. What is printed is taken away, and files and environment may change,
between the uses. -/
inductive ModestlyReached : Machine → Prop
  | create (files : Files) (environment : Dict String) : ModestlyReached (create files environment)
  | evalText {m : Machine} {source : String} (hmodest : ModestRun source m)
      (h : ModestlyReached m) : ModestlyReached (evalText source m).2
  | assign {m : Machine} (name : String) {x : RValue} (hx : x.WellFormed) (h : ModestlyReached m) :
      ModestlyReached (m.assign name x)
  | remove {m : Machine} (name : String) (h : ModestlyReached m) : ModestlyReached (m.remove name)
  | outside {m : Machine} (console : List Chunk) (files : Files) (environment : Dict String)
      (h : ModestlyReached m) : ModestlyReached { m with console, files, environment }

variable {m m' m₁ : Machine} {e : Expr} {program rest : List Expr} {last x : Object} {exit : Exit}
  {c : Condition} {source : String} {params : List (String × Option Expr)} {body : Expr}

theorem reportError_eq : (reportError c m).2 = (callErrorHandler (m.reported c)).2 := rfl

theorem WellFormed.reported (h : m.WellFormed) : (m.reported c).WellFormed :=
  ⟨h.globals, (fun _ hf => nomatch hf), h.options⟩

/-- The evaluations of the call of the error handler start as they should, and the call leaves a
well-formed state. -/
theorem sound_handlerCall (hm : m.WellFormed) (hframes : m.frames = [])
    (hoption : m.options.get? "error" = some (.closure params body))
    (hparts : ∀ part ∈ (Outline.call (handlerCall params body)).asked m,
      part.1.WellFormed → part.2.WellFormed → Exec.SoundAt Object.Given part.1.evalIn part.2) :
    (∀ part ∈ (Outline.call (handlerCall params body)).asked m,
      part.1.WellFormed ∧ part.2.WellFormed) ∧
    (Call.perform maxFrames (handlerCall params body) m).2.WellFormed := by
  have hclosure : (Object.closure params body).WellFormed := hm.options.get? hoption
  have hcall : Outline.SoundAt Object.WellFormed (Outline.call (handlerCall params body)) m :=
    Outline.soundAt_call hclosure fun a ha => nomatch ha
  obtain ⟨hstarts, hrun⟩ := hcall hm hparts
  have hdescribes : Outline.Describes (fun _ _ => True) maxFrames _ _ :=
    Outline.describes_call (fun _ _ _ => trivial) (handlerCall params body)
  have hroom : m.room = maxFrames := by
    rw [room, hframes]
    rfl
  rw [← hdescribes.run_eq hroom]
  exact ⟨hstarts, hrun.state⟩

theorem wellFormed_callErrorHandler (hm : m.WellFormed)
    (hcall : ∀ params body, m.handling = false →
      m.options.get? "error" = some (.closure params body) →
      (Call.perform maxFrames (handlerCall params body) { m with handling := true }).2.WellFormed) :
    (callErrorHandler m).2.WellFormed := by
  obtain hsame | ⟨params, body, hhandling, hoption, hcalled⟩ := callErrorHandler_cases m
  · rw [hsame]
    exact hm
  · have hafter := hcall params body hhandling hoption
    obtain hcalled | ⟨text, hcalled⟩ := hcalled
    · rw [hcalled]
      exact ⟨hafter.globals, (fun _ hf => nomatch hf), hafter.options⟩
    · rw [hcalled]
      exact ⟨hafter.globals, (fun _ hf => nomatch hf), hafter.options⟩

/-- The call of the error handler after an expression has failed. -/
theorem tidy_handler (hm : m.WellFormed) (hmodest : ∀ e m', Handles m c e m' → e.Modest m') :
    (reportError c m).2.WellFormed ∧ ∀ e m', Handles m c e m' → e.Tidy m' := by
  have hcalled : { m.reported c with handling := true }.WellFormed :=
    ⟨hm.globals, (fun _ hf => nomatch hf), hm.options⟩
  have hcall : ∀ params body, m.handling = false →
      m.options.get? "error" = some (.closure params body) → _ :=
    fun params body hhandling hoption => sound_handlerCall hcalled rfl hoption
      fun part hpart he hm' => (Expr.tidy_of_leadsTo he hm' fun e m' h =>
        hmodest e m' (.intro hhandling hoption hpart h)).1
  refine ⟨?_, fun e m' h => ?_⟩
  · rw [reportError_eq]
    exact wellFormed_callErrorHandler hm.reported fun params body hhandling hoption =>
      (hcall params body hhandling hoption).2
  · obtain ⟨hhandling, hoption, hpart, h⟩ := h
    obtain ⟨he, hm'⟩ := (hcall _ _ hhandling hoption).1 _ hpart
    exact (Expr.tidy_of_leadsTo he hm' fun e m' h =>
      hmodest e m' (.intro hhandling hoption hpart h)).2 e m' h

theorem tidy_evalProgram (hprogram : ∀ e ∈ program, e.WellFormed) (hlast : last.WellFormed)
    (hm : m.WellFormed) (hmodest : ∀ e m', Evaluates program m e m' → e.Modest m') :
    (evalProgram last program m).2.WellFormed ∧
      (∀ x, (evalProgram last program m).1 = .ok x → x.WellFormed) ∧
      ∀ e m', Evaluates program m e m' → e.Tidy m' := by
  induction program generalizing m last with
  | nil =>
    refine ⟨hm, fun x hx => ?_, fun e m' h => nomatch h⟩
    cases hx
    exact hlast
  | cons e rest ih =>
    rw [List.forall_mem_cons] at hprogram
    obtain ⟨hrun, htidy⟩ := e.tidy_of_leadsTo hprogram.1 hm.outside fun e' m' h =>
      hmodest e' m' (.here h)
    have hin : e.evalIn { m with frames := [] } = e.eval { m with frames := [] } :=
      (e.eval_eq_evalIn rfl).symm
    rcases heval : e.eval { m with frames := [] } with ⟨exit | x, m₁⟩
    · obtain ⟨hm₁, -⟩ := hrun.of_error (hin.trans heval)
      obtain ⟨hreported, hhandler⟩ := tidy_handler (c := exit.condition) hm₁
        fun e' m' h => hmodest e' m' (.handler heval h)
      rw [evalProgram_cons_of_error heval]
      refine ⟨hreported.flushWarnings, (fun x hx => nomatch hx), fun e' m' h => ?_⟩
      cases h with
      | here h => exact htidy e' m' h
      | later hok h =>
        rw [heval] at hok
        cases hok
      | handler herror h =>
        rw [heval] at herror
        cases herror
        exact hhandler e' m' h
    · obtain ⟨hm₁, hx⟩ := hrun.of_ok (hin.trans heval)
      obtain ⟨hstate, hvalue, hrest⟩ := ih hprogram.2 hx.1 hm₁.flushWarnings fun e' m' h =>
        hmodest e' m' (.later heval h)
      rw [evalProgram_cons_of_ok heval]
      refine ⟨hstate, hvalue, fun e' m' h => ?_⟩
      cases h with
      | here h => exact htidy e' m' h
      | later hok h =>
        rw [heval] at hok
        cases hok
        exact hrest e' m' h
      | handler herror _ =>
        rw [heval] at herror
        cases herror

theorem tidy_evalText (hm : m.WellFormed) (hmodest : ModestRun source m) :
    (evalText source m).2.WellFormed ∧
      (∀ x, (evalText source m).1 = .ok x → x.WellFormed) ∧
      ∀ program, Expr.readProgram source = .ok program →
        ∀ e m', Evaluates program m e m' → e.Tidy m' := by
  cases hread : Expr.readProgram source with
  | error problem =>
    rw [evalText, hread]
    refine ⟨hm, fun x hx => ?_, fun program hprogram => ?_⟩
    · cases hx
    · cases hprogram
  | ok program =>
    obtain ⟨hstate, hvalue, htidy⟩ := tidy_evalProgram (Expr.wellFormed_readProgram hread)
      Object.wellFormed_null hm (hmodest program hread)
    rw [evalText_of_read hread]
    refine ⟨hstate, fun x hx => ?_, fun program' hprogram' => ?_⟩
    · obtain ⟨y, hy, rfl⟩ := except_map_eq_ok.mp hx
      exact (hvalue y (except_mapError_eq_ok.mp hy)).readBack
    · cases hprogram'
      exact htidy

/-! ### Uses by the host -/

theorem ModestlyReached.holds (h : ModestlyReached m) : m.WellFormed := by
  induction h with
  | create files environment => exact wellFormed_create files environment
  | evalText hmodest _ ih => exact (tidy_evalText ih hmodest).1
  | assign name hx _ ih => exact ih.setGlobal hx
  | remove name _ ih => exact ⟨ih.globals.erase name, ih.frames, ih.options⟩
  | outside _ _ _ _ ih => exact ⟨ih.globals, ih.frames, ih.options⟩

/-- An interpreter whose host assigns well-formed values only, and whose runs have no vector and no
counted text of 2^31 elements, holds well-formed values in its globals, frames and options. Whenever
an evaluation of a run starts or ends it does so, too, and what the evaluation yields or returns is
well formed, as are the value of the run and the global variables that the host reads. Hence the
negation of an integer never overflows, and names that are looked up by position, to print or to
replace an element, are always there. -/
theorem ModestlyReached.values_wellFormed (h : ModestlyReached m) :
    m.WellFormed ∧ (∀ name x, m.readGlobal? name = some x → x.WellFormed) ∧
    (∀ source, ModestRun source m →
      (Machine.evalText source m).2.WellFormed ∧
      (∀ x, (Machine.evalText source m).1 = .ok x → x.WellFormed) ∧
      ∀ program, Expr.readProgram source = .ok program →
        ∀ e m', Evaluates program m e m' → e.Tidy m') ∧
    ∀ x : RValue, x.WellFormed → x.Safe :=
  ⟨h.holds, fun _ _ hx => h.holds.readGlobal? hx, fun _ hmodest => tidy_evalText h.holds hmodest,
    fun _ hx => hx.safe⟩

def assigned : Machine :=
  (Machine.create {} []).assign "x" (.integer [some 2147483647, none])

theorem readProgram_negated : Expr.readProgram "-x" = .ok [.unary .neg (.name "x")] := by
  have hscan : Token.scan "-x" = .ok [.minus, .name "x"] := rfl
  rw [Expr.readProgram, hscan]
  rfl

theorem modestRun_negated : ModestRun "-x" assigned := by
  intro program hread e m' h
  rw [readProgram_negated] at hread
  cases hread
  cases h with
  | later _ h => cases h
  | handler herror => cases herror
  | here h =>
    cases h with
    | self =>
      refine ⟨fun v m' hv => ?_, fun _ _ _ _ _ heq => nomatch heq⟩
      cases hv
      decide
    | part hpart h =>
      obtain rfl : _ = (Expr.name "x", { assigned with frames := [] }) :=
        List.mem_singleton.mp hpart
      cases h with
      | self =>
        refine ⟨fun v m' hv => ?_, fun _ _ _ _ _ heq => nomatch heq⟩
        cases hv
        decide
      | part hpart h => cases hpart

theorem values_wellFormed_negated :
    ModestlyReached assigned ∧ ModestRun "-x" assigned ∧ assigned.WellFormed ∧
      (evalText "-x" assigned).1 = .ok (.integer [some (-2147483647), none]) ∧
      RValue.WellFormed (.integer [some (-2147483647), none]) := by
  have hproper : RValue.Proper [some 2147483647, none] := by
    intro n hn
    simp only [List.mem_cons, Option.some.injEq, reduceCtorEq, List.not_mem_nil, or_false] at hn
    subst hn
    decide
  have hreached : ModestlyReached assigned := .assign "x" (.integer hproper) (.create {} [])
  have hvalue : (Machine.evalText "-x" assigned).1 = .ok (.integer [some (-2147483647), none]) := by
    rw [evalText_of_read readProgram_negated]
    rfl
  obtain ⟨hstate, -, hruns, -⟩ := ModestlyReached.values_wellFormed hreached
  exact ⟨hreached, modestRun_negated, hstate, hvalue, (hruns "-x" modestRun_negated).2.1 _ hvalue⟩

end Machine

end ScriptBridge
