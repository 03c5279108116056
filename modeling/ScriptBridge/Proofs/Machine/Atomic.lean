import ScriptBridge.Proofs.Machine.Builtins

/-!
# Built-in functions do one thing, and do it last

A built-in function looks at its arguments and at the state first, which is where it may fail, and
then does a single update at most, after which it cannot fail (`Exec.Atomic`,
`Builtin.atomic_call`). Only `options` does more, one update for each argument with a name. So a
function that fails has left the state as it was, and no function changes more of the state than its
name stands for (`Builtin.call_frame`).
-/

namespace ScriptBridge

namespace Exec

variable {A : Update → Prop} {α β : Type} {x : Exec α} {f : α → Exec β}

/-! ### Steps that change nothing -/

/-- The step leaves the state as it is, however it ends. -/
def Reads (x : Exec α) : Prop := ∀ m, (x m).2 = m

theorem Reads.bind (hx : Reads x) (hf : ∀ a, Reads (f a)) : Reads (x >>= f) := by
  intro m
  have hsame := hx m
  rcases hresult : x m with ⟨exit | a, m'⟩
  · rw [hresult] at hsame
    rw [bind_of_error hresult]
    exact hsame
  · rw [hresult] at hsame
    rw [bind_of_ok hresult, hf a]
    exact hsame

theorem reads_get : Reads (get : Exec Machine) := fun _ => rfl

theorem reads_fail (fault : Fault) : Reads (fail fault : Exec α) := fun _ => rfl

/-- A step that is made of operations without an update changes nothing: the frame that a call takes
up is gone afterwards. -/
theorem Uses.reads (h : Uses (fun _ => False) x) : Reads x := by
  induction h with
  | pure a => exact fun _ => rfl
  | throw exit => exact fun _ => rfl
  | read hg => exact fun _ => rfl
  | update hu => exact hu.elim
  | bind _ _ ihx ihf => exact ihx.bind ihf
  | @inFrame f x _ ih =>
    intro m
    have hinner := ih { m with frames := f :: m.frames }
    show { (x { m with frames := f :: m.frames }).2 with
      frames := (x { m with frames := f :: m.frames }).2.frames.tail } = m
    rw [hinner]
    rfl

/-! ### Steps of one update -/

/-- The step leaves the state as it is, or else it succeeds and its only update is one of `A`. -/
def Atomic (A : Update → Prop) (x : Exec α) : Prop :=
  ∀ m, (x m).2 = m ∨ ∃ a u, A u ∧ x m = (.ok a, u.apply m)

theorem Reads.atomic (h : Reads x) : Atomic A x := fun m => .inl (h m)

theorem atomic_update {u : Update} (hu : A u) : Atomic A (update u) :=
  fun _ => .inr ⟨(), u, hu, rfl⟩

theorem Reads.bind_atomic (hx : Reads x) (hf : ∀ a, Atomic A (f a)) : Atomic A (x >>= f) := by
  intro m
  have hsame := hx m
  rcases hresult : x m with ⟨exit | a, m'⟩
  · rw [hresult] at hsame
    exact .inl ((congrArg Prod.snd (bind_of_error hresult)).trans hsame)
  · rw [hresult] at hsame
    obtain rfl : m' = m := hsame
    rw [bind_of_ok hresult]
    exact hf a m'

theorem Atomic.bind_pure (hx : Atomic A x) (g : α → β) :
    Atomic A (x >>= fun a => pure (g a)) := by
  intro m
  obtain hsame | ⟨a, u, hu, hresult⟩ := hx m
  · rcases hresult : x m with ⟨exit | a, m'⟩
    · rw [hresult] at hsame
      exact .inl ((congrArg Prod.snd (bind_of_error hresult)).trans hsame)
    · rw [hresult] at hsame
      exact .inl ((congrArg Prod.snd (bind_of_ok hresult)).trans hsame)
  · exact .inr ⟨g a, u, hu, bind_of_ok hresult⟩

theorem atomic_warn (h : ∀ u, IsWarning u → A u) (text : String) : Atomic A (warn text) := by
  rw [warn_eq]
  refine reads_get.bind_atomic fun m => ?_
  unfold warnAt
  split
  · exact fun _ => .inl rfl
  · split
    · exact atomic_update (h _ trivial)
    · split
      · exact atomic_update (u := .print .error _) (h _ trivial)
      · exact (reads_fail _).atomic

end Exec

open Exec

namespace Builtin

variable {A : Update → Prop} {args : Args} {name : String}

/-! ### Functions with an update -/

theorem atomic_emit (h : ∀ u, IsOutput u → A u) (text : String) (destination : Option RValue)
    (append : Bool) : Atomic A (emit text destination append) := by
  have hprint : ∀ channel, Atomic A (Exec.print channel text) :=
    fun channel => atomic_update (u := .print channel text) (h _ trivial)
  unfold emit
  split
  · exact hprint _
  · exact hprint _
  · split
    · exact hprint _
    · rw [writeFile_eq]
      refine reads_get.bind_atomic fun m => ?_
      split
      · exact atomic_update (h _ trivial)
      · exact (reads_fail _).atomic
  · exact (reads_fail _).atomic

theorem atomic_cat (h : ∀ u, IsOutput u → A u) : Atomic A (cat args) :=
  (uses_textOr _ _).reads.bind_atomic fun _ => (uses_optional _).reads.bind_atomic fun _ =>
    (uses_flag _ _).reads.bind_atomic fun _ => (uses_values _).reads.bind_atomic fun _ =>
      (uses_mapM uses_catTexts).reads.bind_atomic fun _ => (atomic_emit h _ _ _).bind_pure _

theorem atomic_writeLines (h : ∀ u, IsOutput u → A u) : Atomic A (writeLines name args) :=
  (uses_required _ _).reads.bind_atomic fun _ => (uses_optional _).reads.bind_atomic fun _ =>
    (uses_textOr _ _).reads.bind_atomic fun _ => (uses_ofExcept _).reads.bind_atomic fun _ =>
      (atomic_emit h _ _ _).bind_pure _

theorem atomic_printValue (h : ∀ channel text, A (.print channel text)) : Atomic A (print args) :=
  (atomic_update (h _ _)).bind_pure _

theorem atomic_message (h : ∀ channel text, A (.print channel text)) : Atomic A (message args) :=
  (uses_flag _ _).reads.bind_atomic fun _ => uses_messageText.reads.bind_atomic fun _ =>
    (atomic_update (h _ _)).bind_pure _

theorem atomic_warning (h : ∀ u, IsWarning u → A u) : Atomic A (warning args) :=
  uses_messageText.reads.bind_atomic fun _ => (atomic_warn h _).bind_pure _

theorem atomic_changeDirectory (h : ∀ directory, A (.move directory)) :
    Atomic A (changeDirectory args) := by
  rw [changeDirectory_eq]
  refine (uses_textOr _ _).reads.bind_atomic fun path => reads_get.bind_atomic fun m => ?_
  split
  · exact (atomic_update (h _)).bind_pure _
  · exact (reads_fail _).atomic

/-! ### All functions -/

/-- The functions that may change the state by a single update. -/
def updatingNames : List String := ["cat", "writeLines", "print", "message", "warning", "setwd"]

theorem mem_updatingNames {u : Update} (h : MayUse name u) (hname : name ≠ "options") :
    name ∈ updatingNames := by
  cases u with
  | print channel text => exact List.mem_append_left ["setwd"] h
  | write path append text =>
    rcases h with rfl | rfl <;> decide
  | defer text =>
    obtain rfl : name = "warning" := h
    decide
  | move directory =>
    obtain rfl : name = "setwd" := h
    decide
  | setOption key x => exact absurd h hname
  | setVar n x global => exact h.elim
  | eraseVar n => exact h.elim

theorem atomic_call (args : Args) (hname : name ≠ "options") :
    Atomic (MayUse name) (call name args) := by
  by_cases hmem : name ∈ updatingNames
  · simp only [updatingNames, List.mem_cons, List.not_mem_nil, or_false] at hmem
    rcases hmem with rfl | rfl | rfl | rfl | rfl | rfl
    · exact atomic_cat (mayUse_output (.inl rfl))
    · exact atomic_writeLines (mayUse_output (.inr rfl))
    · exact atomic_printValue fun _ _ => by simp [MayUse]
    · exact atomic_message fun _ _ => by simp [MayUse]
    · exact (atomic_warning mayUse_warning).bind_pure _
    · exact (atomic_changeDirectory fun _ => rfl).bind_pure _
  · exact ((uses_call name args).mono fun u hu => hmem (mem_updatingNames hu hname)).reads.atomic

/-- The function `options` changes nothing but options, even if it fails half-way. -/
theorem options_snd (args : Args) (m : Machine) :
    ∃ options, (call "options" args m).2 = { m with options } := by
  suffices hkeeps : Keeps (fun m' => ∃ options, m' = { m with options }) (call "options" args) from
    hkeeps m ⟨m.options, rfl⟩
  have hoption : ∀ arg, Keeps (fun m' => ∃ options, m' = { m with options }) (option arg) := by
    rintro ⟨key | key, x⟩ m' ⟨options, rfl⟩
    · refine ⟨options, Uses.reads ?_ _⟩
      exact .bind (uses_data x) fun _ => .bind (uses_ofExcept _) fun _ =>
        uses_get_bind (fun _ _ _ => rfl) fun _ => .pure _
    · exact ⟨_, rfl⟩
  exact keeps_bind (keeps_bind (keeps_mapM hoption) fun _ => keeps_pure) fun _ => keeps_pure

/-! ### What is left as it was -/

/-- The second state is the first one but for what the built-in function of a name may change. What
is printed and written to files apart, that is a single part of the state for three names, and
nothing for all others. -/
structure LeftBy (name : String) (m m' : Machine) : Prop where
  globals : m'.globals = m.globals
  frames : m'.frames = m.frames
  lastError : m'.lastError = m.lastError
  handling : m'.handling = m.handling
  options : m'.options ≠ m.options → name = "options"
  directory : m'.directory ≠ m.directory → name = "setwd"
  warnings : m'.warnings ≠ m.warnings → name = "warning"

theorem LeftBy.refl (name : String) (m : Machine) : LeftBy name m m where
  globals := rfl
  frames := rfl
  lastError := rfl
  handling := rfl
  options h := absurd rfl h
  directory h := absurd rfl h
  warnings h := absurd rfl h

theorem leftBy_apply {u : Update} (h : MayUse name u) (m : Machine) :
    LeftBy name m (u.apply m) := by
  have hsame := LeftBy.refl name m
  cases u with
  | print channel text => exact { hsame with }
  | defer text => exact { hsame with warnings := fun _ => h }
  | setOption key x => exact { hsame with options := fun _ => h }
  | move directory => exact { hsame with directory := fun _ => h }
  | write path append text =>
    rw [Update.apply]
    cases hwrite : m.files.write (m.pathOf path) append text with
    | ok files =>
      rw [Machine.written_of_ok hwrite]
      exact { hsame with }
    | error e =>
      rw [Machine.written_of_error hwrite]
      exact hsame
  | setVar n x global => exact h.elim
  | eraseVar n => exact h.elim

/-- Whatever its name, its arguments and the state are, and however it ends, a built-in function
leaves the variables, the frames, the last error and the mark of a running handler as they were. The
options change by `options` only, the warnings that wait by `warning` only, and the directory by a
`setwd` that succeeds. A function that fails has changed nothing at all, unless it is `options`. -/
theorem call_frame (name : String) (args : Args) (m : Machine) :
    ∃ result m', call name args m = (result, m') ∧ LeftBy name m m' ∧
      (m'.directory ≠ m.directory → ∃ x, result = .ok x) ∧
      (∀ exit, result = .error exit → name ≠ "options" → m' = m) := by
  refine ⟨(call name args m).1, (call name args m).2, rfl, ?_⟩
  by_cases hname : name = "options"
  · subst hname
    obtain ⟨options, hoptions⟩ := options_snd args m
    rw [hoptions]
    have hleft : LeftBy "options" m { m with options } :=
      { LeftBy.refl "options" m with options := fun _ => rfl }
    exact ⟨hleft, fun h => absurd rfl h, fun _ _ h => absurd rfl h⟩
  · obtain hsame | ⟨x, u, hu, hcall⟩ := atomic_call args hname m
    · rw [hsame]
      exact ⟨.refl name m, fun h => absurd rfl h, fun _ _ _ => rfl⟩
    · rw [hcall]
      exact ⟨leftBy_apply hu m, fun _ => ⟨x, rfl⟩, fun exit hexit => nomatch hexit⟩

end Builtin

end ScriptBridge
