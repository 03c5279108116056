import ScriptBridge.RValue.Format

/-!
# Templates turn by turn

A template is filled in from the front: a character that stands for itself (`fillWith_char`), two
percent signs (`fillWith_percent`), or a placeholder, which takes an argument
(`fillWith_placeholder`). What a placeholder consists of is `spec?_of_parts`.

A text that is escaped, each percent sign written twice, comes out as it is, whatever stands behind
it (`fillWith_escape`). So a template of escaped texts with `%s` between them gives the texts with
the arguments between them (`fill_textTemplate`): no character of an argument is looked at.
-/

namespace ScriptBridge

namespace Format

variable {template : String} {fuel : Nat} {c : Char} {cs flags digits rest after : List Char}
  {f : Format} {x : RValue} {args : List RValue} {text : String}

/-! ### One turn -/

@[simp] theorem fillWith_nil (template : String) (fuel : Nat) (args : List RValue) :
    fillWith template fuel [] args = .ok "" := by
  cases fuel <;> rfl

theorem fillWith_percent :
    fillWith template (fuel + 1) ('%' :: '%' :: rest) args =
      (fillWith template fuel rest args).map ("%" ++ ·) := rfl

theorem fillWith_char (hc : c ≠ '%') :
    fillWith template (fuel + 1) (c :: rest) args =
      (fillWith template fuel rest args).map (String.singleton c ++ ·) := by
  rw [fillWith]
  · rfl
  · exact fun _ h => absurd h hc
  · exact hc

theorem fillWith_placeholder (hrest : rest.head? ≠ some '%')
    (hspec : spec? rest = some (f, after)) (hbody : f.body x = .ok text) :
    fillWith template (fuel + 1) ('%' :: rest) (x :: args) =
      (fillWith template fuel after args).map (f.pad text ++ ·) := by
  have hne : ∀ cs, rest = '%' :: cs → False := fun _ h => hrest (congrArg List.head? h)
  rw [fillWith.eq_6 template fuel rest f after x args hne hspec, hbody]
  rfl

/-! ### Placeholders -/

theorem not_isFlag_of_isDigit (hc : c.isDigit = true) (hzero : c ≠ '0') : isFlag c = false := by
  refine Bool.eq_false_iff.mpr fun h => ?_
  simp only [isFlag, Bool.or_eq_true, decide_eq_true_eq] at h
  rcases h with (((rfl | rfl) | rfl) | rfl) | rfl
  · cases hc
  · cases hc
  · cases hc
  · exact hzero rfl
  · cases hc

/-- Flags, then digits that do not start like a flag, then the conversion. -/
theorem spec?_of_parts (hflags : ∀ d ∈ flags, isFlag d = true)
    (hdigits : ∀ d ∈ digits, d.isDigit = true) (hzero : digits.head? ≠ some '0')
    (hflag : isFlag c = false) (hdigit : c.isDigit = false) (hpoint : c ≠ '.') :
    spec? (flags ++ (digits ++ c :: rest)) =
      some ({ flags, width := wordOfDigits digits, precision := none, conversion := c }, rest) := by
  have htake : (digits ++ c :: rest).takeWhile isFlag = [] := by
    cases digits with
    | nil => exact List.takeWhile_cons_of_neg (Bool.eq_false_iff.mp hflag)
    | cons d digits =>
      have hd : d ≠ '0' := fun h => hzero (congrArg some h)
      exact List.takeWhile_cons_of_neg
        (Bool.eq_false_iff.mp (not_isFlag_of_isDigit (hdigits d List.mem_cons_self) hd))
  have hdrop : (digits ++ c :: rest).dropWhile isFlag = digits ++ c :: rest := by
    have happend := List.takeWhile_append_dropWhile (p := isFlag) (l := digits ++ c :: rest)
    rwa [htake] at happend
  have hconversion : (c :: rest).takeWhile Char.isDigit = [] :=
    List.takeWhile_cons_of_neg (Bool.eq_false_iff.mp hdigit)
  have hleft : (c :: rest).dropWhile Char.isDigit = c :: rest :=
    List.dropWhile_cons_of_neg (Bool.eq_false_iff.mp hdigit)
  simp only [spec?, List.takeWhile_append_of_pos hflags, List.dropWhile_append_of_pos hflags, htake,
    hdrop, List.takeWhile_append_of_pos hdigits, List.dropWhile_append_of_pos hdigits, hconversion,
    hleft, List.append_nil]
  simp [hpoint]

theorem body_text (s : String) : body ⟨[], 0, none, 's'⟩ (.string s) = .ok s := rfl

theorem pad_zero {f : Format} (hflags : f.flags = []) (hwidth : f.width = 0) (s : String) :
    f.pad s = s := by
  simp [pad, hflags, hwidth]

theorem fillWith_string (s : String) :
    fillWith template (fuel + 1) ('%' :: 's' :: rest) (.string s :: args) =
      (fillWith template fuel rest args).map (s ++ ·) := by
  have hspec : spec? ('s' :: rest) = some (⟨[], 0, none, 's'⟩, rest) := rfl
  have hrest : ('s' :: rest).head? ≠ some '%' := by simp
  rw [fillWith_placeholder hrest hspec (body_text s), pad_zero rfl rfl]

/-! ### Escaped texts -/

def escape (cs : List Char) : List Char := cs.flatMap fun c => if c = '%' then ['%', '%'] else [c]

theorem escape_cons (c : Char) (cs : List Char) :
    escape (c :: cs) = if c = '%' then '%' :: '%' :: escape cs else c :: escape cs := by
  rw [escape, List.flatMap_cons]
  split <;> rfl

theorem escape_of_not_mem (h : '%' ∉ cs) : escape cs = cs := by
  induction cs with
  | nil => rfl
  | cons c cs ih =>
    obtain ⟨hc, hcs⟩ := not_or.mp fun hmem => h (List.mem_cons.mpr hmem)
    rw [escape_cons, if_neg (Ne.symm hc), ih hcs]

theorem length_le_escape (cs : List Char) : cs.length ≤ (escape cs).length := by
  induction cs with
  | nil => exact Nat.le_refl _
  | cons c cs ih =>
    rw [escape_cons]
    split <;> simp only [List.length_cons] <;> omega

/-- Each character of an escaped text takes a turn and comes out as it is. -/
theorem fillWith_escape (cs : List Char) :
    fillWith template (fuel + cs.length) (escape cs ++ rest) args =
      (fillWith template fuel rest args).map (String.ofList cs ++ ·) := by
  induction cs with
  | nil => cases h : fillWith template fuel rest args <;> simp [escape, Except.map, h]
  | cons c cs ih =>
    have hturn : fillWith template (fuel + cs.length + 1) (escape (c :: cs) ++ rest) args =
        (fillWith template (fuel + cs.length) (escape cs ++ rest) args).map
          (String.singleton c ++ ·) := by
      rw [escape_cons]
      split
      · next hc =>
        subst hc
        exact fillWith_percent
      · next hc => exact fillWith_char hc
    rw [List.length_cons, ← Nat.add_assoc, hturn, ih]
    cases fillWith template fuel rest args with
    | error fault => rfl
    | ok s =>
      refine congrArg Except.ok (String.toList_inj.mp ?_)
      simp

/-! ### Templates of texts -/

/-- The template of a text and then of arguments that are texts, each with a text behind it. -/
def textTemplate (first : String) (parts : List (String × String)) : String :=
  String.ofList (escape first.toList ++ parts.flatMap fun p => '%' :: 's' :: escape p.2.toList)

theorem fillWith_parts (parts : List (String × String))
    (hfuel : (parts.flatMap fun p => '%' :: 's' :: escape p.2.toList).length < fuel) :
    fillWith template fuel (parts.flatMap fun p => '%' :: 's' :: escape p.2.toList)
        (parts.map fun p => .string p.1) =
      .ok (String.join (parts.map fun p => p.1 ++ p.2)) := by
  induction parts generalizing fuel with
  | nil => simp
  | cons p parts ih =>
    simp only [List.flatMap_cons, List.cons_append, List.length_cons, List.length_append] at hfuel
    have hlength := length_le_escape p.2.toList
    obtain ⟨k, rfl⟩ : ∃ k, fuel = k + p.2.toList.length + 1 :=
      ⟨fuel - p.2.toList.length - 1, by omega⟩
    rw [List.flatMap_cons, List.map_cons, List.cons_append, List.cons_append, fillWith_string,
      fillWith_escape, ih (by omega), List.map_cons, String.join_cons]
    refine congrArg Except.ok (String.toList_inj.mp ?_)
    simp

/-- Escaped texts with placeholders between them give the texts with the arguments between them. -/
theorem fill_textTemplate (first : String) (parts : List (String × String)) :
    fill (textTemplate first parts) (parts.map fun p => .string p.1) =
      .ok (first ++ String.join (parts.map fun p => p.1 ++ p.2)) := by
  have hlength := length_le_escape first.toList
  rw [fill, textTemplate, String.toList_ofList, List.length_append]
  generalize hparts : (parts.flatMap fun p => '%' :: 's' :: escape p.2.toList) = spelt
  obtain ⟨k, hk, hlt⟩ : ∃ k, (escape first.toList).length + spelt.length + 1 =
      k + first.toList.length ∧ spelt.length < k :=
    ⟨(escape first.toList).length + spelt.length + 1 - first.toList.length, by omega, by omega⟩
  subst hparts
  rw [hk, fillWith_escape, fillWith_parts parts hlt]
  refine congrArg Except.ok (String.toList_inj.mp ?_)
  simp

theorem fillWith_text (pre : List Char) (hpre : '%' ∉ pre) (hfuel : pre.length + 1 < fuel)
    (s : String) :
    fillWith template fuel (pre ++ ['%', 's']) [.string s] = .ok (String.ofList pre ++ s) := by
  obtain ⟨k, rfl⟩ : ∃ k, fuel = k + 1 + pre.length := ⟨fuel - pre.length - 1, by omega⟩
  have hescape : fillWith template (k + 1 + pre.length) (escape pre ++ ['%', 's'])
      [.string s] = _ := fillWith_escape pre
  rw [escape_of_not_mem hpre] at hescape
  rw [hescape, fillWith_string, fillWith_nil]
  refine congrArg Except.ok (String.toList_inj.mp ?_)
  simp

end Format

end ScriptBridge
