import ScriptBridge.Proofs.RValue.WellFormed
import ScriptBridge.Proofs.Syntax.Words

/-!
# Constants of programs

A number with a capital L after it is an integer only if its digits spell one that is not negative,
so no token is the integer that stands for a missing one (`Token.proper_of_scan`). Hence all
constants of a program are well formed (`Expr.wellFormed_readProgram`).
-/

namespace ScriptBridge

/-! ### Tokens -/

namespace Token

def Proper (t : Token) : Prop := ∀ n, t = .integer n → n ≠ Int32.minValue

variable {t : Token} {toks : List Token} {cs rest : List Char} {v : RValue}

theorem readInteger?_ne {n : Int32} (h : readInteger? cs = some n) : n ≠ Int32.minValue := by
  unfold readInteger? at h
  split at h
  · next hsmall =>
    cases h
    exact RValue.ofNat_ne (by omega)
  · cases h

theorem proper_readNumber (first : Char) (cs : List Char) : (readNumber first cs).1.Proper := by
  intro n hn
  unfold readNumber at hn
  simp only at hn
  split at hn
  · generalize hread : readInteger? _ = read at hn
    cases read with
    | none => cases hn
    | some k =>
      cases hn
      exact readInteger?_ne hread
  · cases hn

theorem proper_readSign (c : Char) (rest : List Char) : (readSign c rest).1.Proper := by
  intro n hn
  unfold readSign at hn
  split at hn
  all_goals cases hn

theorem proper_ofWord (word : String) : (ofWord word).Proper := by
  intro n hn
  unfold ofWord at hn
  split at hn
  all_goals cases hn

theorem proper_of_next? (h : next? cs = .ok (some (t, rest))) : t.Proper := by
  unfold next? at h
  split at h
  · cases h
  · next c cs' heq =>
    split at h
    · have hnumber := proper_readNumber c cs'
      simp only [Except.ok.injEq, Option.some.injEq] at h
      rwa [h] at hnumber
    · split at h
      · split at h
        · cases h
        · cases h
          intro n hn
          split at hn
          all_goals cases hn
      · split at h
        · cases h
          exact proper_ofWord _
        · have hsign := proper_readSign c cs'
          simp only [Except.ok.injEq, Option.some.injEq] at h
          rwa [h] at hsign

theorem proper_of_scanWith {fuel : Nat} (h : scanWith fuel cs = .ok toks) :
    ∀ t ∈ toks, t.Proper := by
  induction fuel generalizing cs toks with
  | zero => cases h
  | succ fuel ih =>
    obtain ⟨found, hnext, h⟩ := except_bind_eq_ok.mp h
    cases found with
    | none =>
      cases h
      exact fun t ht => nomatch ht
    | some found =>
      obtain ⟨t, rest⟩ := found
      obtain ⟨tail, htail, h⟩ := except_bind_eq_ok.mp h
      cases h
      exact List.forall_mem_cons.mpr ⟨proper_of_next? hnext, ih htail⟩

theorem proper_of_scan {source : String} (h : scan source = .ok toks) : ∀ t ∈ toks, t.Proper :=
  proper_of_scanWith h

theorem wellFormed_constant? (ht : t.Proper) (h : t.constant? = some v) : v.WellFormed := by
  cases t <;> cases h
  case integer n =>
    refine .integer (RValue.proper_cons (fun k hk => ?_) RValue.proper_nil)
    cases hk
    exact ht n rfl
  all_goals first
    | exact .double _
    | exact .character _
    | exact .logical _
    | exact .null

end Token

/-! ### Expressions -/

def Word.WellFormed : Word → Prop
  | name _ => True
  | const v => v.WellFormed

theorem Token.StandsFor.wellFormed {t : Token} {w : Word} (h : t.StandsFor w) (ht : t.Proper) :
    w.WellFormed := by
  cases h with
  | name s => trivial
  | label s => trivial
  | const hv => exact wellFormed_constant? ht hv

theorem wellFormed_of_standsFor {toks : List Token} {ws : List Word}
    (h : List.Forall₂ Token.StandsFor toks ws) (htoks : ∀ t ∈ toks, t.Proper) :
    ∀ w ∈ ws, w.WellFormed := by
  induction h with
  | nil => exact fun w hw => nomatch hw
  | cons hstands _ ih =>
    rw [List.forall_mem_cons] at htoks ⊢
    exact ⟨hstands.wellFormed htoks.1, ih htoks.2⟩

namespace Expr

def WellFormed (e : Expr) : Prop := ∀ w ∈ e.words, w.WellFormed

variable {e f x i y target value body test yes items : Expr} {args : List (Option String × Expr)}
  {params : List (String × Option Expr)} {statements : List Expr} {no preset : Option Expr}

/-! The parts of a well-formed expression are well formed. -/

theorem wellFormed_const {v : RValue} (h : (const v).WellFormed) : v.WellFormed :=
  h (.const v) (List.mem_singleton_self _)

theorem wellFormed_argWords (h : ∀ w ∈ argWords args, w.WellFormed) :
    ∀ a ∈ args, a.2.WellFormed := by
  induction args with
  | nil => exact fun a ha => nomatch ha
  | cons a args ih =>
    rw [argWords, List.forall_mem_append, List.forall_mem_append] at h
    exact List.forall_mem_cons.mpr ⟨h.1.2, ih h.2⟩

theorem wellFormed_paramWords (h : ∀ w ∈ paramWords params, w.WellFormed) :
    ∀ p ∈ params, ∀ preset ∈ p.2, preset.WellFormed := by
  induction params with
  | nil => exact fun p hp => nomatch hp
  | cons p params ih =>
    obtain ⟨s, preset⟩ := p
    rw [paramWords, List.forall_mem_append, List.forall_mem_cons] at h
    refine List.forall_mem_cons.mpr ⟨fun x hx => ?_, ih h.2⟩
    cases hx
    exact h.1.2

theorem wellFormed_blockWords (h : ∀ w ∈ blockWords statements, w.WellFormed) :
    ∀ x ∈ statements, x.WellFormed := by
  induction statements with
  | nil => exact fun x hx => nomatch hx
  | cons x xs ih =>
    rw [blockWords, List.forall_mem_append] at h
    exact List.forall_mem_cons.mpr ⟨h.1, ih h.2⟩

theorem wellFormed_call (h : (call f args).WellFormed) :
    f.WellFormed ∧ ∀ a ∈ args, a.2.WellFormed := by
  rw [WellFormed, words, List.forall_mem_append] at h
  exact ⟨h.1, wellFormed_argWords h.2⟩

theorem wellFormed_index (h : (index x i).WellFormed) : x.WellFormed ∧ i.WellFormed :=
  List.forall_mem_append.mp h

theorem wellFormed_element (h : (element x i).WellFormed) : x.WellFormed ∧ i.WellFormed :=
  List.forall_mem_append.mp h

theorem wellFormed_dollar {s : String} (h : (dollar x s).WellFormed) : x.WellFormed :=
  (List.forall_mem_append.mp h).1

theorem wellFormed_binary {op : BinaryOp} (h : (binary op x y).WellFormed) :
    x.WellFormed ∧ y.WellFormed :=
  List.forall_mem_append.mp h

theorem wellFormed_assign {global : Bool} (h : (assign target value global).WellFormed) :
    target.WellFormed ∧ value.WellFormed :=
  List.forall_mem_append.mp h

theorem wellFormed_function (h : (function params body).WellFormed) :
    (∀ p ∈ params, ∀ preset ∈ p.2, preset.WellFormed) ∧ body.WellFormed := by
  rw [WellFormed, words, List.forall_mem_append] at h
  exact ⟨wellFormed_paramWords h.1, h.2⟩

theorem wellFormed_cond (h : (cond test yes no).WellFormed) :
    test.WellFormed ∧ yes.WellFormed ∧ ∀ x ∈ no, x.WellFormed := by
  rw [WellFormed, words, List.forall_mem_append, List.forall_mem_append] at h
  refine ⟨h.1.1, h.1.2, fun x hx => ?_⟩
  cases hx
  exact h.2

theorem wellFormed_loop {s : String} (h : (loop s items body).WellFormed) :
    items.WellFormed ∧ body.WellFormed := by
  rw [WellFormed, words, List.cons_append, List.forall_mem_cons, List.forall_mem_append] at h
  exact h.2

theorem wellFormed_readProgram {source : String} {program : List Expr}
    (h : readProgram source = .ok program) : ∀ e ∈ program, e.WellFormed := by
  obtain ⟨toks, hscan, -, hwords, -⟩ := spelled_readProgram h
  refine wellFormed_blockWords (wellFormed_of_standsFor hwords fun t ht => ?_)
  exact Token.proper_of_scan hscan t (List.mem_filter.mp ht).1

end Expr

end ScriptBridge
