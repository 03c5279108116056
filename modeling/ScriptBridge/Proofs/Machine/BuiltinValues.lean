import ScriptBridge.Proofs.Machine.Builtins
import ScriptBridge.Proofs.Machine.WellFormed

/-!
# What built-in functions yield

Built-in functions are sound on well-formed arguments: they yield well-formed objects and leave the
state well formed (`Builtin.sound_call`). How long the arguments are matters only where a length
becomes an integer: for `length`, for `seq_along`, and for `nchar`, which counts the characters of
texts.
-/

namespace ScriptBridge

def Object.Short : Object → Prop
  | data x => x.length < 2147483648
  | closure _ _ => True

namespace Builtin

open Exec

variable {α : Type} {args : Args} {name : String} {P : Object → Prop} {x : Option Object}
  {xs : List Object} {vs : List RValue} {v : RValue}

/-! ### Arguments -/

namespace Args

theorem forall_find? {p : Option String × Object → Bool} (h : ∀ a ∈ args, P a.2) :
    ∀ y ∈ (args.find? p).map (·.2), P y := by
  intro y hy
  obtain ⟨a, ha, rfl⟩ := Option.map_eq_some_iff.mp hy
  exact h a (List.mem_of_find?_eq_some ha)

theorem forall_take (h : ∀ a ∈ args, P a.2) (n : String) : ∀ y ∈ (args.take n).1, P y := by
  have hnamed : ∀ y ∈ (args.named n).1, P y := forall_find? h
  unfold take
  split
  · next y rest heq =>
    rw [heq] at hnamed
    exact hnamed
  · exact forall_find? h

theorem forall_rest (h : ∀ a ∈ args, P a.2) (n : String) : ∀ a ∈ (args.take n).2, P a.2 := by
  have hpositional : ∀ a ∈ args.positional.2, P a.2 := fun a ha => h a (List.mem_of_mem_eraseP ha)
  have hnamed : ∀ a ∈ (args.named n).2, P a.2 := fun a ha => h a (List.mem_of_mem_eraseP ha)
  unfold take
  split
  · next y rest heq =>
    rw [heq] at hnamed
    exact hnamed
  · exact hpositional

theorem forall_unnamed (h : ∀ a ∈ args, P a.2) : ∀ y ∈ args.unnamed, P y := by
  intro y hy
  obtain ⟨a, ha, rfl⟩ := List.mem_map.mp hy
  exact h a (List.mem_filter.mp ha).1

end Args

theorem wellFormed_getD (h : ∀ y ∈ x, y.WellFormed) : (x.getD Object.null).WellFormed := by
  cases x with
  | none => exact Object.wellFormed_null
  | some y => exact h y rfl

theorem wellFormed_values (h : ∀ y ∈ xs, y.WellFormed) (heq : xs = vs.map .data) :
    ∀ v ∈ vs, v.WellFormed := by
  subst heq
  exact fun v hv => h (.data v) (List.mem_map_of_mem hv)

theorem sound_required (what : String) (x : Option Object) :
    Sound (fun v => x = some (.data v)) (required name what x) := by
  cases x with
  | none => exact sound_fail _
  | some y => exact (sound_data y).mono fun v hv => congrArg some hv

theorem sound_optional (x : Option Object) : Sound (fun _ => True) (optional x) :=
  (sound_optionMapM (P := fun _ => True) fun y _ => (sound_data y).mono fun _ _ => trivial).mono
    fun _ _ => trivial

theorem sound_flag (default : Bool) (x : Option Object) :
    Sound (fun _ => True) (flag default x) := by
  refine (sound_optional x).bind fun x _ => ?_
  cases x with
  | some x => exact sound_ofExcept fun _ _ => trivial
  | none => exact sound_pure trivial

theorem sound_texts (x : RValue) : Sound (fun _ => True) (ofExcept x.texts) :=
  sound_ofExcept fun _ _ => trivial

theorem sound_textOr (default : String) (x : Option Object) :
    Sound (fun _ => True) (textOr default x) := by
  refine (sound_optional x).bind fun x _ => ?_
  cases x with
  | some x => exact (sound_texts x).bind fun _ _ => sound_pure trivial
  | none => exact sound_pure trivial

theorem sound_values (xs : List Object) : Sound (fun vs => xs = vs.map .data) (values xs) := by
  induction xs with
  | nil => exact sound_pure rfl
  | cons x xs ih =>
    rw [values, List.mapM_cons]
    refine (sound_data x).bind fun v hv => ih.bind fun vs hvs => sound_pure ?_
    rw [hv, hvs]
    rfl

theorem sound_allTexts (vs : List RValue) : Sound (fun _ => True) (allTexts vs) :=
  (sound_mapM fun v _ => sound_texts v).bind fun _ _ => sound_pure trivial

theorem sound_messageText : Sound (fun _ => True) (messageText args) :=
  (sound_values _).bind fun _ _ => (sound_allTexts _).bind fun _ _ => sound_pure trivial

theorem sound_yields {y : Exec RValue} (h : Sound RValue.WellFormed y) :
    Sound Object.WellFormed (yields y) :=
  h.bind fun _ hv => sound_pure hv

/-! ### Vectors -/

section

variable (hargs : ∀ a ∈ args, a.2.WellFormed)

include hargs

theorem wellFormed_take {n : String} (h : (args.take n).1 = some (.data v)) : v.WellFormed :=
  Args.forall_take hargs n (.data v) h

theorem sound_onValue {f : RValue → Except Fault RValue}
    (hf : ∀ v w, v.WellFormed → (args.take "x").1 = some (.data v) → f v = .ok w → w.WellFormed) :
    Sound RValue.WellFormed (onValue f name args) :=
  (sound_required _ _).bind fun v hv =>
    sound_ofExcept fun w hw => hf v w (wellFormed_take hargs hv) hv hw

theorem wellFormed_all : ∀ y ∈ args.map (·.2), y.WellFormed := List.forall_mem_map.mpr hargs

theorem sound_combineAll : Sound RValue.WellFormed (combineAll args) :=
  (sound_values _).bind fun _ hvs => sound_ofExcept fun _ hw =>
    RValue.wellFormed_combine (wellFormed_values (wellFormed_all hargs) hvs) hw

theorem sound_makeList : Sound RValue.WellFormed (makeList args) := by
  refine (sound_values _).bind fun vs hvs => sound_pure ?_
  refine .list (wellFormed_values (wellFormed_all hargs) hvs) fun names hnames => ?_
  have hlength := congrArg List.length hvs
  rw [List.length_map, List.length_map] at hlength
  split at hnames
  · cases hnames
    rw [List.length_map, hlength]
  · cases hnames

end

theorem wellFormed_upTo {n : Nat} (hn : n < 2147483648) : (upTo n).WellFormed := by
  refine .integer (RValue.proper_map fun i hi k hk => ?_)
  cases hk
  have hlt := List.mem_range.mp hi
  exact RValue.ofNat_ne (by omega)

theorem sound_sequence : Sound RValue.WellFormed (sequence name args) := by
  refine (sound_required _ _).bind fun v _ => ?_
  refine (sound_ofExcept fun _ _ => trivial : Sound (fun _ => True) _).bind fun ns _ => ?_
  refine sound_pure (wellFormed_upTo ?_)
  have hle := Int32.toInt_le ((ns.headD none).getD 0)
  have hmax : Int32.maxValue.toInt = 2147483647 := rfl
  omega

theorem sound_positions (hshort : ∀ a ∈ args, a.2.Short) :
    Sound RValue.WellFormed (positions name args) :=
  (sound_required _ _).bind fun v hv =>
    sound_pure (wellFormed_upTo (Args.forall_take hshort "along.with" (.data v) hv))

theorem wellFormed_ofInt32 {n : Int32} (hn : n ≠ Int32.minValue) :
    (RValue.ofInt32 n).WellFormed := by
  refine .integer (RValue.proper_cons (fun k hk => ?_) RValue.proper_nil)
  cases hk
  exact hn

theorem wellFormed_namesOf (v : RValue) : (namesOf v).WellFormed := by
  unfold namesOf
  split
  · exact RValue.wellFormed_strings _
  · exact .null

theorem wellFormed_missingElements (v : RValue) : (missingElements v).WellFormed := by
  cases v <;> exact .logical _

theorem sound_isNull : Sound RValue.WellFormed (isNull args) := by
  unfold isNull
  split
  · exact sound_pure (.logical _)
  · exact sound_pure (.logical _)
  · exact sound_fail _

theorem sound_typeName : Sound RValue.WellFormed (typeName args) := by
  unfold typeName
  split
  · exact sound_pure (.character _)
  · exact sound_pure (.character _)
  · exact sound_fail _

theorem wellFormed_characterCounts {w : RValue}
    (h : ∀ texts, v.asCharacter = .ok texts → ∀ s, some s ∈ texts → s.length < 2147483648)
    (hw : characterCounts v = .ok w) : w.WellFormed := by
  obtain ⟨texts, htexts, hw⟩ := except_bind_eq_ok.mp hw
  cases hw
  refine .integer (RValue.proper_map fun s hs n hn => ?_)
  cases hn
  cases s with
  | none => exact RValue.ofNat_ne (by decide : 2 < 2147483648)
  | some s => exact RValue.ofNat_ne (h texts htexts s hs)

theorem wellFormed_sumOf (integral : Bool) (elements : List (Option Float)) :
    (sumOf integral elements).WellFormed := by
  unfold sumOf
  split
  · split
    · exact .integer (RValue.proper_cons (fun n hn => nomatch hn) RValue.proper_nil)
    · exact .double _
  · extract_lets total
    split
    · exact .integer (RValue.proper_cons (fun n hn => RValue.toInteger?_ne hn) RValue.proper_nil)
    · exact .double _

theorem sound_sum : Sound RValue.WellFormed (sum args) := by
  refine (sound_values _).bind fun vs _ => ?_
  refine (sound_mapM (P := fun _ => True) fun v _ => sound_ofExcept fun _ _ => trivial).bind ?_
  exact fun _ _ => sound_pure (wellFormed_sumOf _ _)

/-! ### Texts -/

theorem sound_paste {sep : Option Object → Exec String}
    (h : ∀ x, Sound (fun _ => True) (sep x)) : Sound RValue.WellFormed (paste sep args) := by
  refine (h _).bind fun _ _ => ?_
  refine (sound_optionMapM fun y _ => sound_textOr "" (some y)).bind fun collapse _ => ?_
  refine (sound_values _).bind fun vs _ => ?_
  refine (sound_mapM fun v _ => sound_texts v).bind fun _ _ => ?_
  cases collapse with
  | none => exact sound_pure (RValue.wellFormed_strings _)
  | some c => exact sound_pure (.character _)

theorem wellFormed_mapTexts {f : String → String} {w : RValue} (hw : mapTexts f v = .ok w) :
    w.WellFormed := by
  obtain ⟨texts, -, hw⟩ := except_bind_eq_ok.mp hw
  cases hw
  exact .character _

theorem sound_joinPath : Sound RValue.WellFormed (joinPath args) :=
  (sound_values _).bind fun _ _ => (sound_allTexts _).bind fun _ _ => sound_pure (.character _)

/-! ### Console -/

theorem sound_writeFile (path : String) (append : Bool) (text : String) :
    Sound (fun _ => True) (writeFile path append text) := by
  refine sound_get_bind fun m hm => ?_
  split
  · exact sound_set ⟨hm.globals, hm.frames, hm.options⟩
  · exact sound_fail _

theorem sound_emit (text : String) (destination : Option RValue) (append : Bool) :
    Sound (fun _ => True) (emit text destination append) := by
  unfold emit
  split
  · exact sound_print _ _
  · exact sound_print _ _
  · split
    · exact sound_print _ _
    · exact sound_writeFile _ _ _
  · exact sound_fail _

theorem sound_catTexts (v : RValue) : Sound (fun _ => True) (catTexts v) := by
  refine (sound_mapM (P := fun _ => True) fun item _ => ?_).bind fun _ _ => sound_pure trivial
  split
  · exact sound_fail _
  · exact sound_texts item

theorem sound_null : Sound Object.WellFormed (pure Object.null) := sound_pure Object.wellFormed_null

theorem sound_cat : Sound Object.WellFormed (cat args) :=
  (sound_textOr _ _).bind fun _ _ => (sound_optional _).bind fun _ _ =>
    (sound_flag _ _).bind fun _ _ => (sound_values _).bind fun _ _ =>
      (sound_mapM fun v _ => sound_catTexts v).bind fun _ _ => (sound_emit _ _ _).bind fun _ _ =>
        sound_null

theorem sound_writeLines : Sound Object.WellFormed (writeLines name args) :=
  (sound_required _ _).bind fun v _ => (sound_optional _).bind fun _ _ =>
    (sound_textOr _ _).bind fun _ _ => (sound_texts v).bind fun _ _ =>
      (sound_emit _ _ _).bind fun _ _ => sound_null

theorem sound_readLines : Sound RValue.WellFormed (readLines args) := by
  refine (sound_textOr _ _).bind fun path _ => sound_get_bind fun m _ => ?_
  split
  · exact sound_pure (RValue.wellFormed_strings _)
  · exact sound_fail _

theorem sound_printValue (hargs : ∀ a ∈ args, a.2.WellFormed) :
    Sound Object.WellFormed (print args) :=
  (sound_print _ _).bind fun _ _ => sound_pure (wellFormed_getD (Args.forall_take hargs "x"))

theorem sound_message : Sound Object.WellFormed (message args) :=
  (sound_flag _ _).bind fun _ _ => sound_messageText.bind fun _ _ =>
    (sound_print _ _).bind fun _ _ => sound_null

theorem sound_warning : Sound RValue.WellFormed (warning args) :=
  sound_messageText.bind fun _ _ => (sound_warn _).bind fun _ _ => sound_pure (.character _)

theorem sound_stop : Sound Object.WellFormed (stop args) :=
  (sound_flag _ _).bind fun _ _ => sound_messageText.bind fun _ _ =>
    sound_get_bind fun _ _ => sound_throw trivial

/-! ### Session -/

theorem wellFormed_current {m : Machine} (hm : m.WellFormed) (key : String) :
    (((m.options.get? key).map Object.readBack).getD .null).WellFormed := by
  cases hkey : m.options.get? key with
  | none => exact .null
  | some x => exact (hm.options.get? hkey).readBack

theorem sound_option {arg : Option String × Object} (harg : arg.2.WellFormed) :
    Sound (fun entries => ∀ e ∈ entries, e.2.WellFormed) (option arg) := by
  obtain ⟨key | _, x⟩ := arg
  · refine (sound_data x).bind fun v _ => (sound_texts v).bind fun keys _ => ?_
    refine sound_get_bind fun m hm => sound_pure (List.forall_mem_map.mpr fun key _ => ?_)
    exact wellFormed_current hm key
  · refine sound_get_bind fun m hm => (sound_set (hm.setOption harg)).bind fun _ _ => ?_
    exact sound_pure (List.forall_mem_singleton.mpr (wellFormed_current hm _))

theorem sound_options (hargs : ∀ a ∈ args, a.2.WellFormed) :
    Sound RValue.WellFormed (options args) := by
  refine (sound_mapM fun a ha => sound_option (hargs a ha)).bind fun entries hentries => ?_
  refine sound_pure (RValue.wellFormed_namedList fun e he => ?_)
  obtain ⟨es, hes, he⟩ := List.mem_flatten.mp he
  exact hentries es hes e he

theorem sound_getOption (hargs : ∀ a ∈ args, a.2.WellFormed) :
    Sound Object.WellFormed (getOption args) := by
  have hrest := Args.forall_take (Args.forall_rest hargs "x") "default"
  refine (sound_textOr _ _).bind fun key _ => sound_get_bind fun m hm => sound_pure ?_
  cases hkey : m.options.get? key with
  | none => exact wellFormed_getD hrest
  | some x => exact hm.options.get? hkey

theorem sound_nameExists : Sound RValue.WellFormed (nameExists args) :=
  (sound_textOr _ _).bind fun _ _ => sound_get_bind fun _ _ => sound_pure (.logical _)

theorem sound_globalNames : Sound RValue.WellFormed globalNames :=
  sound_get_bind fun _ _ => sound_pure (RValue.wellFormed_strings _)

theorem sound_errorMessage : Sound RValue.WellFormed errorMessage :=
  sound_get_bind fun _ _ => sound_pure (.character _)

theorem sound_workingDirectory : Sound RValue.WellFormed workingDirectory :=
  sound_get_bind fun _ _ => sound_pure (.character _)

theorem sound_changeDirectory : Sound RValue.WellFormed (changeDirectory args) := by
  refine (sound_textOr _ _).bind fun path _ => sound_get_bind fun m hm => ?_
  split
  · have hmoved : { m with directory := m.pathOf path }.WellFormed :=
      ⟨hm.globals, hm.frames, hm.options⟩
    exact (sound_set hmoved).bind fun _ _ => sound_pure (RValue.WellFormed.character _)
  · exact sound_fail _

theorem sound_testFiles (test : Files → String → Bool) :
    Sound RValue.WellFormed (testFiles test args) :=
  (sound_values _).bind fun _ _ => (sound_allTexts _).bind fun _ _ =>
    sound_get_bind fun _ _ => sound_pure (.logical _)

theorem sound_environmentValue : Sound RValue.WellFormed (environmentValue args) :=
  (sound_textOr _ _).bind fun _ _ => (sound_textOr _ _).bind fun _ _ =>
    sound_get_bind fun _ _ => sound_pure (.character _)

/-! ### All functions -/

theorem wellFormed_firstOrNull (hargs : ∀ a ∈ args, a.2.WellFormed) :
    (firstOrNull args).WellFormed :=
  wellFormed_getD (Args.forall_find? hargs)

/-- Where a built-in function makes an integer of a length there is one for it. -/
structure Countable (name : String) (args : Args) : Prop where
  short : ∀ a ∈ args, a.2.Short
  counted : name = "nchar" → ∀ v texts, (args.take "x").1 = some (.data v) →
    v.asCharacter = .ok texts → ∀ s, some s ∈ texts → s.length < 2147483648

theorem wellFormed_format {templates : List String} {parts : List RValue} {w : RValue}
    (hw : RValue.sprintf templates parts = .ok w) : w.WellFormed := by
  unfold RValue.sprintf at hw
  split at hw
  · cases hw
    exact .character _
  · obtain ⟨rows, -, rfl⟩ := except_map_eq_ok.mp hw
    exact RValue.wellFormed_strings _

theorem sound_format : Sound RValue.WellFormed (format name args) :=
  (sound_required _ _).bind fun v _ => (sound_values _).bind fun _ _ =>
    (sound_texts v).bind fun _ _ => sound_ofExcept fun _ hw => wellFormed_format hw

section

variable (hargs : ∀ a ∈ args, a.2.WellFormed)

include hargs

theorem sound_coerced {f : RValue → Except Fault (List α)} {make : List α → RValue}
    (h : ∀ v l, f v = .ok l → (make l).WellFormed) :
    Sound RValue.WellFormed (onValue (fun v => (f v).map make) name args) := by
  refine sound_onValue hargs fun v w _ _ hw => ?_
  obtain ⟨l, hl, rfl⟩ := except_map_eq_ok.mp hw
  exact h v l hl

/-- Built-in functions yield well-formed objects and leave the state well formed. -/
theorem sound_call (hcount : Countable name args) : Sound Object.WellFormed (call name args) := by
  have hunlist : Sound RValue.WellFormed (onValue RValue.unlist "unlist" args) :=
    sound_onValue hargs fun v w hv _ hw => RValue.wellFormed_unlist v hv hw
  have hrev : Sound RValue.WellFormed (onValue RValue.rev "rev" args) :=
    sound_onValue hargs fun v w hv _ hw => hv.rev hw
  have hlength : Sound RValue.WellFormed
      (onValue (fun v => .ok (.ofInt32 (Int32.ofNat v.length))) "length" args) := by
    refine sound_onValue hargs fun v w _ hx hw => ?_
    cases hw
    exact wellFormed_ofInt32 (RValue.ofNat_ne (Args.forall_take hcount.short "x" (.data v) hx))
  have hnames : Sound RValue.WellFormed (onValue (fun v => .ok (namesOf v)) "names" args) := by
    refine sound_onValue hargs fun v w _ _ hw => ?_
    cases hw
    exact wellFormed_namesOf v
  have hmissing : Sound RValue.WellFormed
      (onValue (fun v => .ok (missingElements v)) "is.na" args) := by
    refine sound_onValue hargs fun v w _ _ hw => ?_
    cases hw
    exact wellFormed_missingElements v
  have hnchar (hname : name = "nchar") :
      Sound RValue.WellFormed (onValue characterCounts "nchar" args) :=
    sound_onValue hargs fun v w _ hx hw =>
      wellFormed_characterCounts (fun texts => hcount.counted hname v texts hx) hw
  have hmapTexts (f : String → String) : Sound RValue.WellFormed (onValue (mapTexts f) name args) :=
    sound_onValue hargs fun v w _ _ hw => wellFormed_mapTexts hw
  have hinteger : Sound RValue.WellFormed
      (onValue (fun v => v.asInteger.map .integer) name args) :=
    sound_coerced hargs fun v l hl => .integer (RValue.proper_asInteger v hl)
  have hdouble : Sound RValue.WellFormed (onValue (fun v => v.asDouble.map .double) name args) :=
    sound_coerced hargs fun _ _ _ => .double _
  have hcharacter : Sound RValue.WellFormed
      (onValue (fun v => v.asCharacter.map .character) name args) :=
    sound_coerced hargs fun _ _ _ => .character _
  have hlogical : Sound RValue.WellFormed
      (onValue (fun v => v.asLogical.map .logical) name args) :=
    sound_coerced hargs fun _ _ _ => .logical _
  have hpaste : Sound RValue.WellFormed (paste (textOr " ") args) :=
    sound_paste fun x => sound_textOr " " x
  have hpaste0 : Sound RValue.WellFormed (paste (fun _ => return "") args) :=
    sound_paste fun _ => sound_pure trivial
  have houtput : Object.WellFormed (.data (.ofInt32 outputConnection)) :=
    wellFormed_ofInt32 (by decide)
  have herror : Object.WellFormed (.data (.ofInt32 errorConnection)) :=
    wellFormed_ofInt32 (by decide)
  have hreturned : Exit.WellFormed (.returned (firstOrNull args)) := wellFormed_firstOrNull hargs
  -- One case for each name; the functions differ only in what they yield.
  unfold call
  split
  all_goals simp [sound_yields, sound_pure, sound_throw, sound_fail, sound_combineAll hargs,
    sound_makeList hargs, sound_positions hcount.short, sound_sequence, sound_isNull,
    sound_typeName, sound_sum, sound_format, sound_joinPath, sound_cat, sound_writeLines,
    sound_readLines, sound_printValue hargs, sound_message, sound_warning, sound_stop,
    sound_options hargs, sound_getOption hargs, sound_nameExists, sound_errorMessage,
    sound_globalNames, sound_workingDirectory, sound_changeDirectory, sound_testFiles,
    sound_environmentValue, hunlist, hrev, hlength, hnames, hmissing, hnchar, hmapTexts, hinteger,
    hdouble, hcharacter, hlogical, hpaste, hpaste0, houtput, herror, hreturned,
    wellFormed_firstOrNull hargs]

end

end Builtin

end ScriptBridge
