import ScriptBridge.Builtin
import ScriptBridge.Proofs.Machine.Updates

/-!
# What built-in functions do

Each built-in function is made of the operations of the interpreter, with the updates that its name
stands for (`Builtin.MayUse`, `Builtin.uses_call`).
-/

namespace ScriptBridge

/-! ### Arguments of built-in functions -/

open Exec

variable {A : Update → Prop} {α β : Type}

namespace Builtin

variable {args : Args} {name : String}

@[simp] theorem uses_required (what : String) (x : Option Object) :
    Uses A (required name what x) := by
  cases x with
  | some x => exact uses_data x
  | none => exact uses_fail _

@[simp] theorem uses_optional (x : Option Object) : Uses A (optional x) :=
  uses_optionMapM uses_data

@[simp] theorem uses_flag (default : Bool) (x : Option Object) : Uses A (flag default x) := by
  refine .bind (uses_optional x) fun x => ?_
  cases x with
  | some x => exact uses_ofExcept _
  | none => exact .pure _

@[simp] theorem uses_textOr (default : String) (x : Option Object) :
    Uses A (textOr default x) := by
  refine .bind (uses_optional x) fun x => ?_
  cases x with
  | some x => exact .bind (uses_ofExcept _) fun _ => .pure _
  | none => exact .pure _

@[simp] theorem uses_values (xs : List Object) : Uses A (values xs) := uses_mapM uses_data

@[simp] theorem uses_allTexts (xs : List RValue) : Uses A (allTexts xs) :=
  .bind (uses_mapM fun _ => uses_ofExcept _) fun _ => .pure _

@[simp] theorem uses_yields {x : Exec RValue} (h : Uses A x) : Uses A (yields x) :=
  .bind h fun _ => .pure _

/-! ### Vectors -/

@[simp] theorem uses_combineAll : Uses A (combineAll args) :=
  .bind (uses_values _) fun _ => uses_ofExcept _

@[simp] theorem uses_makeList : Uses A (makeList args) :=
  .bind (uses_values _) fun _ => .pure _

@[simp] theorem uses_sequence : Uses A (sequence name args) :=
  .bind (uses_required _ _) fun _ => .bind (uses_ofExcept _) fun _ => .pure _

@[simp] theorem uses_positions : Uses A (positions name args) :=
  .bind (uses_required _ _) fun _ => .pure _

@[simp] theorem uses_onValue (f : RValue → Except Fault RValue) : Uses A (onValue f name args) :=
  .bind (uses_required _ _) fun _ => uses_ofExcept _

@[simp] theorem uses_isNull : Uses A (isNull args) := by
  unfold isNull
  split
  · exact .pure _
  · exact .pure _
  · exact uses_fail _

@[simp] theorem uses_typeName : Uses A (typeName args) := by
  unfold typeName
  split
  · exact .pure _
  · exact .pure _
  · exact uses_fail _

@[simp] theorem uses_sum : Uses A (sum args) :=
  .bind (uses_values _) fun _ =>
    .bind (uses_mapM fun _ => uses_ofExcept _) fun _ => .pure _

/-! ### Texts -/

@[simp] theorem uses_paste {sep : Option Object → Exec String} (h : ∀ x, Uses A (sep x)) :
    Uses A (paste sep args) := by
  refine .bind (h _) fun _ => ?_
  refine .bind (uses_optionMapM fun _ => uses_textOr _ _) fun collapse => ?_
  refine .bind (uses_values _) fun _ => ?_
  refine .bind (uses_mapM fun _ => uses_ofExcept _) fun _ => ?_
  cases collapse <;> exact .pure _

@[simp] theorem uses_format : Uses A (format name args) :=
  .bind (uses_required _ _) fun _ => .bind (uses_values _) fun _ =>
    .bind (uses_ofExcept _) fun _ => uses_ofExcept _

@[simp] theorem uses_joinPath : Uses A (joinPath args) :=
  .bind (uses_values _) fun _ => .bind (uses_allTexts _) fun _ => .pure _

@[simp] theorem uses_messageText : Uses A (messageText args) :=
  .bind (uses_values _) fun _ => .bind (uses_allTexts _) fun _ => .pure _

/-! ### Functions that only read the state -/

@[simp] theorem uses_catTexts (x : RValue) : Uses A (catTexts x) := by
  refine .bind (uses_mapM fun item => ?_) fun _ => .pure _
  split
  · exact uses_fail _
  · exact uses_ofExcept _

@[simp] theorem uses_readLines : Uses A (readLines args) := by
  refine .bind (uses_textOr _ _) fun path => uses_get_bind (fun _ _ _ => rfl) fun m => ?_
  split
  · exact .pure _
  · exact uses_fail _

@[simp] theorem uses_stop : Uses A (stop args) := by
  refine .bind (uses_flag _ _) fun _ => .bind uses_messageText fun _ => ?_
  refine uses_get_bind (fun m below h => ?_) fun _ => .throw _
  rw [Machine.function?_onto h]

@[simp] theorem uses_getOption : Uses A (getOption args) :=
  .bind (uses_textOr _ _) fun _ => uses_get_bind (fun _ _ _ => rfl) fun _ => .pure _

@[simp] theorem uses_nameExists : Uses A (nameExists args) := by
  refine .bind (uses_textOr _ _) fun name => uses_get_bind (fun m below h => ?_) fun _ => .pure _
  rw [Machine.lookup?_onto name h]

@[simp] theorem uses_errorMessage : Uses A errorMessage :=
  uses_get_bind (fun _ _ _ => rfl) fun _ => .pure _

@[simp] theorem uses_globalNames : Uses A globalNames :=
  uses_get_bind (fun _ _ _ => rfl) fun _ => .pure _

@[simp] theorem uses_workingDirectory : Uses A workingDirectory :=
  uses_get_bind (fun _ _ _ => rfl) fun _ => .pure _

@[simp] theorem uses_testFiles (test : Files → String → Bool) : Uses A (testFiles test args) :=
  .bind (uses_values _) fun _ => .bind (uses_allTexts _) fun _ =>
    uses_get_bind (fun _ _ _ => rfl) fun _ => .pure _

@[simp] theorem uses_environmentValue : Uses A (environmentValue args) :=
  .bind (uses_textOr _ _) fun _ => .bind (uses_textOr _ _) fun _ =>
    uses_get_bind (fun _ _ _ => rfl) fun _ => .pure _

/-! ### Functions that print and write -/

def IsOutput : Update → Prop
  | .print _ _ | .write _ _ _ => True
  | _ => False

theorem writeFile_eq (path : String) (append : Bool) (text : String) :
    writeFile path append text = get >>= fun m =>
      match m.files.write (m.pathOf path) append text with
      | .ok _ => update (.write path append text)
      | .error e => fail (.cannotOpen path e.message) := by
  refine get_bind_congr fun m => ?_
  cases hwrite : m.files.write (m.pathOf path) append text with
  | ok files =>
    have hwritten : m.written path append text = { m with files } := Machine.written_of_ok hwrite
    exact congrArg (fun m' => (Except.ok (), m')) hwritten.symm
  | error e => rfl

theorem uses_emit (h : ∀ u, IsOutput u → A u) (text : String) (destination : Option RValue)
    (append : Bool) : Uses A (emit text destination append) := by
  unfold emit
  split
  · exact uses_print (h _ trivial)
  · exact uses_print (h _ trivial)
  · split
    · exact uses_print (h _ trivial)
    · rw [writeFile_eq]
      refine uses_get_bind (fun _ _ _ => rfl) fun m => ?_
      split
      · exact .update (h _ trivial)
      · exact uses_fail _
  · exact uses_fail _

theorem uses_cat (h : ∀ u, IsOutput u → A u) : Uses A (cat args) :=
  .bind (uses_textOr _ _) fun _ => .bind (uses_optional _) fun _ =>
    .bind (uses_flag _ _) fun _ => .bind (uses_values _) fun _ =>
      .bind (uses_mapM uses_catTexts) fun _ => .bind (uses_emit h _ _ _) fun _ => .pure _

theorem uses_writeLines (h : ∀ u, IsOutput u → A u) : Uses A (writeLines name args) :=
  .bind (uses_required _ _) fun _ => .bind (uses_optional _) fun _ =>
    .bind (uses_textOr _ _) fun _ => .bind (uses_ofExcept _) fun _ =>
      .bind (uses_emit h _ _ _) fun _ => .pure _

theorem uses_printValue (h : ∀ channel text, A (.print channel text)) : Uses A (print args) :=
  .bind (uses_print (h _ _)) fun _ => .pure _

theorem uses_message (h : ∀ channel text, A (.print channel text)) : Uses A (message args) :=
  .bind (uses_flag _ _) fun _ => .bind uses_messageText fun _ =>
    .bind (uses_print (h _ _)) fun _ => .pure _

theorem uses_warning (h : ∀ u, IsWarning u → A u) : Uses A (warning args) :=
  .bind uses_messageText fun _ => .bind (uses_warn h _) fun _ => .pure _

/-! ### Functions that change the session -/

theorem option_named_eq (key : String) (x : Object) : option (some key, x) = get >>= fun m =>
    update (.setOption key x) >>= fun _ =>
      pure [(key, ((m.options.get? key).map Object.readBack).getD .null)] :=
  rfl

theorem uses_option (h : ∀ key x, A (.setOption key x)) (arg : Option String × Object) :
    Uses A (option arg) := by
  obtain ⟨key | _, x⟩ := arg
  · exact .bind (uses_data x) fun _ => .bind (uses_ofExcept _) fun _ =>
      uses_get_bind (fun _ _ _ => rfl) fun _ => .pure _
  · rw [option_named_eq]
    exact uses_get_bind (fun _ _ _ => rfl) fun _ => .bind (.update (h _ _)) fun _ => .pure _

theorem uses_options (h : ∀ key x, A (.setOption key x)) : Uses A (options args) :=
  .bind (uses_mapM (uses_option h)) fun _ => .pure _

def moveTo (path : String) : Exec RValue := get >>= fun m =>
  if m.files.isDirectory (m.pathOf path) then
    update (.move (m.pathOf path)) >>= fun _ => pure (shownDirectory m.directory)
  else fail .cannotChangeDirectory

theorem changeDirectory_eq :
    changeDirectory args = textOr "" (args.take "dir").1 >>= fun path => moveTo path := by
  unfold changeDirectory
  refine congrArg (textOr "" (args.take "dir").1 >>= ·) (funext fun path => ?_)
  refine get_bind_congr fun m => ?_
  split <;> rfl

theorem uses_changeDirectory (h : ∀ directory, A (.move directory)) :
    Uses A (changeDirectory args) := by
  rw [changeDirectory_eq]
  refine .bind (uses_textOr _ _) fun path => uses_get_bind (fun _ _ _ => rfl) fun m => ?_
  split
  · exact .bind (.update (h _)) fun _ => .pure _
  · exact uses_fail _

/-! ### All functions -/

/-- What the built-in function of a name may do to the state. -/
def MayUse (name : String) : Update → Prop
  | .print _ _ => name ∈ ["cat", "writeLines", "print", "message", "warning"]
  | .write _ _ _ => name = "cat" ∨ name = "writeLines"
  | .defer _ => name = "warning"
  | .setOption _ _ => name = "options"
  | .move _ => name = "setwd"
  | .setVar _ _ _ | .eraseVar _ => False

theorem mayUse_output (hname : name = "cat" ∨ name = "writeLines") (u : Update)
    (hu : IsOutput u) : MayUse name u := by
  rcases hname with rfl | rfl <;> cases u <;> first | exact hu.elim | simp [MayUse]

theorem mayUse_warning (u : Update) (hu : IsWarning u) : MayUse "warning" u := by
  cases u <;> first | exact hu.elim | simp [MayUse]

theorem uses_call (name : String) (args : Args) : Uses (MayUse name) (call name args) := by
  have hcat : Uses (MayUse "cat") (cat args) := uses_cat (mayUse_output (.inl rfl))
  have hlines : Uses (MayUse "writeLines") (writeLines "writeLines" args) :=
    uses_writeLines (mayUse_output (.inr rfl))
  have hprint : Uses (MayUse "print") (print args) := uses_printValue fun _ _ => by simp [MayUse]
  have hmessage : Uses (MayUse "message") (message args) :=
    uses_message fun _ _ => by simp [MayUse]
  have hwarning : Uses (MayUse "warning") (warning args) := uses_warning mayUse_warning
  have hoptions : Uses (MayUse "options") (options args) := uses_options fun _ _ => rfl
  have hsetwd : Uses (MayUse "setwd") (changeDirectory args) := uses_changeDirectory fun _ => rfl
  unfold call
  split
  all_goals simp [Uses.pure, Uses.throw, hcat, hlines, hprint, hmessage, hwarning, hoptions, hsetwd]

/-- The update makes no warning wait. -/
def Silent : Update → Prop
  | .defer _ => False
  | _ => True

theorem silent_call (hname : name ≠ "warning") : Uses Silent (call name args) :=
  (uses_call name args).mono fun u hu => by
    cases u
    case defer => exact hname hu
    all_goals trivial

end Builtin

end ScriptBridge
