import ScriptBridge.Proofs.Syntax.Words

/-!
# Reading on after a program

What a parser reads does not change when more tokens follow, unless it looks at them: it does so
where all tokens that are left are newlines. There a separator ends what is read, and no alternative
of a condition may stand after the newlines (`Ends`, `Reads.append`). A program that has been read
never asks for the tokens of another after it (`reads_program_append`).
-/

namespace ScriptBridge.Expr

variable {toks rest mid more : List Token} {n : Bool} {t : Token} {x : Expr}

/-! ### What stands first -/

/-- After newlines there is a token, and it is no alternative of a condition. -/
def Starts (toks : List Token) : Prop :=
  ∃ t, (skipNewlines toks).head? = some t ∧ t ≠ .kwElse

theorem skipNewlines_idem (toks : List Token) :
    skipNewlines (skipNewlines toks) = skipNewlines toks :=
  settle_settle true toks

theorem skipNewlines_cons (h : t.isNewline = false) : skipNewlines (t :: rest) = t :: rest :=
  List.dropWhile_cons_of_neg (by rw [h]; exact Bool.false_ne_true)

theorem skipNewlines_settle (n : Bool) (toks : List Token) :
    skipNewlines (settle n toks) = skipNewlines toks := by
  cases n with
  | false => rfl
  | true => exact skipNewlines_idem toks

theorem skipSeparators_skipNewlines (toks : List Token) :
    skipSeparators (skipNewlines toks) = skipSeparators toks := by
  induction toks with
  | nil => rfl
  | cons t toks ih =>
    by_cases ht : t.isNewline = true
    · have hsep : t.isSeparator = true := by cases t <;> first | rfl | cases ht
      have hnewlines : skipNewlines (t :: toks) = skipNewlines toks :=
        List.dropWhile_cons_of_pos ht
      have hseparators : skipSeparators (t :: toks) = skipSeparators toks :=
        List.dropWhile_cons_of_pos hsep
      rw [hnewlines, hseparators, ih]
    · rw [skipNewlines_cons (Bool.not_eq_true _ ▸ ht)]

theorem starts_of_settle (h : settle n toks = t :: rest) (ht : t.isNewline = false)
    (helse : t ≠ .kwElse) : Starts toks := by
  refine ⟨t, ?_, helse⟩
  rw [← skipNewlines_settle n, h, skipNewlines_cons ht]
  rfl

theorem Starts.of_settle (h : Starts (settle n toks)) : Starts toks := by
  rw [Starts, skipNewlines_settle] at h
  exact h

theorem Starts.of_skipSeparators (h : Starts (skipSeparators toks)) : Starts toks := by
  rw [← skipSeparators_skipNewlines] at h
  cases hs : skipNewlines toks with
  | nil =>
    rw [hs] at h
    obtain ⟨t, ht, -⟩ := h
    cases ht
  | cons t rest =>
    refine ⟨t, by rw [hs]; rfl, ?_⟩
    rintro rfl
    rw [hs] at h
    obtain ⟨t, ht, hne⟩ := h
    exact hne (Option.some.inj ht).symm

theorem Starts.of_takeLabel {label : Option String}
    (hlabel : takeLabel (settle true toks) = (label, mid)) (h : Starts mid) : Starts toks := by
  unfold takeLabel at hlabel
  split at hlabel
  · next heq => exact starts_of_settle heq rfl (by simp)
  · next heq => exact starts_of_settle heq rfl (by simp)
  · cases hlabel
    exact h.of_settle

/-- What is read, where it starts, is some token that is no newline, and not the word `else`. -/
theorem Reads.starts {g : Sought} {a : g.Result} (h : Reads g toks a rest) (hg : g.spare = 0) :
    Starts toks := by
  induction h with
  | expr _ _ hlhs _ => exact hlhs rfl
  | arrowStop | arrow | tierStop | tierMore | selectionStop | call | index | element | dollar
  | presetNone | preset | programNil | programMore => cases hg
  | equalStop _ _ hx => exact hx rfl
  | equal _ _ _ _ hlhs _ => exact hlhs rfl
  | tier _ _ hlhs _ => exact hlhs rfl
  | operandTier _ _ hx => exact hx rfl
  | operandNot _ hx => exact hx rfl
  | operandSigned _ hx => exact hx rfl
  | not hbang _ _ => exact starts_of_settle hbang rfl nofun
  | notStop _ _ hx => exact (hx rfl).of_settle
  | minus hminus _ _ => exact starts_of_settle hminus rfl nofun
  | plus hplus _ _ => exact starts_of_settle hplus rfl nofun
  | signedStop _ _ _ hx => exact (hx rfl).of_settle
  | powerStop _ _ hx => exact hx rfl
  | power _ _ _ hbase _ => exact hbase rfl
  | selection _ _ hx _ => exact hx rfl
  | argsNil hclose => exact starts_of_settle hclose rfl nofun
  | args _ _ hargs => exact (hargs rfl).of_settle
  | argsLast hlabel _ _ hx => exact (hx rfl).of_takeLabel hlabel
  | argsMore hlabel _ _ _ hx _ => exact (hx rfl).of_takeLabel hlabel
  | argValue _ _ hlhs _ => exact hlhs rfl
  | paramsNil hopen _ => exact starts_of_settle hopen rfl nofun
  | params hopen _ _ _ => exact starts_of_settle hopen rfl nofun
  | paramsLast hname _ _ _ => exact starts_of_settle hname rfl nofun
  | paramsMore hname _ _ _ _ _ => exact starts_of_settle hname rfl nofun
  | @const _ _ t _ _ hsettle ht =>
    exact starts_of_settle hsettle (by cases t <;> cases ht <;> rfl)
      (by cases t <;> cases ht <;> nofun)
  | name hsettle => exact starts_of_settle hsettle rfl nofun
  | group hopen _ _ _ => exact starts_of_settle hopen rfl nofun
  | block hopen _ _ => exact starts_of_settle hopen rfl nofun
  | function hword _ _ _ _ => exact starts_of_settle hword rfl nofun
  | cond hword _ _ _ _ _ _ _ => exact starts_of_settle hword rfl nofun
  | condElse hword _ _ _ _ _ _ _ _ _ => exact starts_of_settle hword rfl nofun
  | loop hword _ _ _ _ _ _ _ _ => exact starts_of_settle hword rfl nofun
  | blockNil hclose =>
    refine Starts.of_skipSeparators ?_
    rw [hclose]
    exact ⟨.closeBrace, rfl, nofun⟩
  | blockMore _ _ _ _ hx _ => exact (hx rfl).of_skipSeparators

/-! ### What is left -/

theorem skipNewlines_suffix (toks : List Token) : skipNewlines toks <:+ toks :=
  List.dropWhile_suffix _

theorem skipSeparators_suffix (toks : List Token) : skipSeparators toks <:+ toks :=
  List.dropWhile_suffix _

theorem settle_suffix (n : Bool) (toks : List Token) : settle n toks <:+ toks := by
  cases n with
  | false => exact List.suffix_refl toks
  | true => exact skipNewlines_suffix toks

theorem suffix_of_settle (h : settle n toks = t :: rest) : rest <:+ toks :=
  (List.suffix_cons t rest).trans (h ▸ settle_suffix n toks)

theorem takeLabel_suffix (toks : List Token) : (takeLabel toks).2 <:+ toks := by
  unfold takeLabel
  split
  · exact ⟨[_, _], rfl⟩
  · exact ⟨[_, _], rfl⟩
  · exact List.suffix_refl _

theorem suffix_of_takeLabel {label : Option String}
    (h : takeLabel (settle true toks) = (label, mid)) : mid <:+ toks := by
  have hmid := (takeLabel_suffix (settle true toks)).trans (settle_suffix true toks)
  rw [h] at hmid
  exact hmid

theorem Reads.suffix {g : Sought} {a : g.Result} (h : Reads g toks a rest) : rest <:+ toks := by
  induction h with
  | expr _ _ hlhs hx => exact hx.trans ((settle_suffix _ _).trans hlhs)
  | arrowStop | selectionStop => exact List.suffix_refl _
  | arrow _ _ _ hrhs =>
    exact hrhs.trans ((skipNewlines_suffix _).trans (List.suffix_cons _ _))
  | equalStop _ _ hx | powerStop _ _ hx => exact (settle_suffix _ _).trans hx
  | equal _ hsign _ _ hlhs hrhs | power _ hsign _ hlhs hrhs =>
    exact hrhs.trans ((skipNewlines_suffix _).trans ((suffix_of_settle hsign).trans hlhs))
  | tier _ _ hlhs hx | selection _ _ hlhs hx => exact hx.trans hlhs
  | tierStop | presetNone => exact settle_suffix _ _
  | tierMore hsettle _ _ _ hrhs hx =>
    exact hx.trans (hrhs.trans ((skipNewlines_suffix _).trans (suffix_of_settle hsettle)))
  | operandTier _ _ hx => exact hx
  | operandNot _ hx | operandSigned _ hx => exact hx
  | not hsign _ hx | minus hsign _ hx | plus hsign _ hx | block hsign _ hx | preset hsign _ hx =>
    exact hx.trans (suffix_of_settle hsign)
  | notStop _ _ hx => exact hx.trans (settle_suffix _ _)
  | signedStop _ _ _ hx => exact hx.trans (settle_suffix _ _)
  | call _ _ hargs hy => exact hy.trans (hargs.trans (List.suffix_cons _ _))
  | index _ hclose _ hi hy =>
    exact hy.trans ((suffix_of_settle hclose).trans (hi.trans (List.suffix_cons _ _)))
  | element _ hclose hclose' _ hi hy =>
    exact hy.trans ((suffix_of_settle hclose').trans ((suffix_of_settle hclose).trans
      (hi.trans (List.suffix_cons _ _))))
  | dollar hsettle _ _ hy =>
    exact hy.trans ((suffix_of_settle hsettle).trans (List.suffix_cons _ _))
  | argsNil hclose => exact suffix_of_settle hclose
  | args _ _ hargs => exact hargs.trans (settle_suffix _ _)
  | argsLast hlabel _ hclose hx =>
    exact (suffix_of_settle hclose).trans (hx.trans (suffix_of_takeLabel hlabel))
  | argsMore hlabel _ hcomma _ hx hargs =>
    exact hargs.trans ((suffix_of_settle hcomma).trans (hx.trans (suffix_of_takeLabel hlabel)))
  | argValue _ _ hlhs hx => exact hx.trans ((settle_suffix _ _).trans hlhs)
  | paramsNil hopen hclose => exact (suffix_of_settle hclose).trans (suffix_of_settle hopen)
  | params hopen _ _ hparams =>
    exact hparams.trans ((settle_suffix _ _).trans (suffix_of_settle hopen))
  | paramsLast hname _ hclose hpreset =>
    exact (suffix_of_settle hclose).trans (hpreset.trans (suffix_of_settle hname))
  | paramsMore hname _ hcomma _ hpreset hparams =>
    exact hparams.trans ((suffix_of_settle hcomma).trans (hpreset.trans (suffix_of_settle hname)))
  | const hsettle _ => exact suffix_of_settle hsettle
  | name hsettle => exact suffix_of_settle hsettle
  | group hopen _ hclose hx =>
    exact (suffix_of_settle hclose).trans (hx.trans (suffix_of_settle hopen))
  | function hword _ _ hparams hbody =>
    exact hbody.trans ((skipNewlines_suffix _).trans (hparams.trans (suffix_of_settle hword)))
  | cond hword hopen _ hclose _ _ htest hyes =>
    exact hyes.trans ((skipNewlines_suffix _).trans ((suffix_of_settle hclose).trans
      (htest.trans ((suffix_of_settle hopen).trans (suffix_of_settle hword)))))
  | condElse hword hopen _ hclose _ helse _ htest hyes hno =>
    exact hno.trans ((skipNewlines_suffix _).trans ((suffix_of_settle (n := true) helse).trans
      (hyes.trans ((skipNewlines_suffix _).trans ((suffix_of_settle hclose).trans
        (htest.trans ((suffix_of_settle hopen).trans (suffix_of_settle hword))))))))
  | loop hword hopen hname hin _ hclose _ hitems hbody =>
    exact hbody.trans ((skipNewlines_suffix _).trans ((suffix_of_settle hclose).trans
      (hitems.trans ((suffix_of_settle hin).trans ((suffix_of_settle hname).trans
        ((suffix_of_settle hopen).trans (suffix_of_settle hword)))))))
  | blockNil hclose =>
    exact (List.suffix_cons _ _).trans (hclose ▸ skipSeparators_suffix _)
  | blockMore _ _ _ _ hx hxs => exact hxs.trans (hx.trans (skipSeparators_suffix _))
  | programNil | programMore => exact List.nil_suffix

/-! ### What may follow -/

/-- Where there are only newlines left, a separator follows and no alternative of a condition. -/
def Ends (n : Bool) (toks more : List Token) : Prop :=
  skipNewlines toks ≠ [] ∨
    n = false ∧ (∃ t, more.head? = some t ∧ t.isSeparator = true) ∧
      (skipNewlines more).head? ≠ some .kwElse

theorem skipNewlines_append (h : skipNewlines toks ≠ []) :
    skipNewlines (toks ++ more) = skipNewlines toks ++ more := by
  rw [skipNewlines, List.dropWhile_append, if_neg]
  · rfl
  · rwa [List.isEmpty_iff]

theorem Ends.of_suffix (h : Ends n rest more) (hsuffix : rest <:+ toks) : Ends n toks more := by
  refine h.imp_left fun hne => ?_
  intro hnil
  refine hne (List.dropWhile_eq_nil_iff.mpr fun t ht => ?_)
  exact List.dropWhile_eq_nil_iff.mp hnil t (hsuffix.subset ht)

theorem Ends.settle_append (h : Ends n toks more) :
    settle n (toks ++ more) = settle n toks ++ more := by
  cases n with
  | false => rfl
  | true =>
    obtain hne | ⟨hn, -⟩ := h
    · exact skipNewlines_append hne
    · cases hn

theorem Ends.settle (h : Ends n toks more) : Ends n (settle n toks) more := by
  refine h.imp_left fun hne => ?_
  rw [skipNewlines_settle]
  exact hne

theorem Ends.head? (h : Ends n toks more) :
    (toks ++ more).head? = toks.head? ∨
      toks = [] ∧ ∃ t, (toks ++ more).head? = some t ∧ t.isSeparator = true := by
  cases toks with
  | cons t toks => exact .inl rfl
  | nil =>
    obtain hne | ⟨-, hmore, -⟩ := h
    · exact absurd rfl hne
    · exact .inr ⟨rfl, hmore⟩

/-- A token that is no separator is not next, if it was not before. -/
theorem Ends.head?_ne (h : Ends n toks more) (hne : toks.head? ≠ some t)
    (ht : t.isSeparator = false) : (toks ++ more).head? ≠ some t := by
  obtain heq | ⟨-, s, hs, hsep⟩ := h.head?
  · rw [heq]
    exact hne
  · rw [hs]
    rintro h
    cases h
    rw [ht] at hsep
    cases hsep

theorem Ends.bind_head? {α : Type} {f : Token → Option α} (h : Ends n toks more)
    (hnone : toks.head?.bind f = none) (hf : ∀ t, t.isSeparator = true → f t = none) :
    (toks ++ more).head?.bind f = none := by
  obtain heq | ⟨-, s, hs, hsep⟩ := h.head?
  · rw [heq, hnone]
  · rw [hs]
    exact hf s hsep

theorem ends_of_settle (h : settle n toks = t :: rest) (ht : t.isNewline = false) (m : Bool) :
    Ends m toks more := by
  left
  rw [← skipNewlines_settle n, h, skipNewlines_cons ht]
  exact List.cons_ne_nil t rest

theorem settle_append_of_eq (h : settle n toks = t :: rest) (ht : t.isNewline = false) :
    settle n (toks ++ more) = t :: (rest ++ more) := by
  rw [(ends_of_settle h ht n).settle_append, h, List.cons_append]

theorem Starts.ends (h : Starts toks) (n : Bool) : Ends n toks more := by
  left
  obtain ⟨t, ht, -⟩ := h
  intro hnil
  rw [hnil] at ht
  cases ht

theorem Reads.skipNewlines_append {g : Sought} {a : g.Result}
    (h : Reads g (skipNewlines toks) a rest) (hg : g.spare = 0) :
    skipNewlines (toks ++ more) = skipNewlines toks ++ more := by
  have hstarts : Starts toks := (h.starts hg).of_settle (n := true)
  exact (hstarts.ends true).settle_append

theorem Reads.settle_append {g : Sought} {a : g.Result} (h : Reads g (settle n toks) a rest)
    (hg : g.spare = 0) :
    settle n (toks ++ more) = settle n toks ++ more ∧ Expr.Ends n (settle n toks) more := by
  have hends : Expr.Ends n toks more := (h.starts hg).of_settle.ends n
  exact ⟨hends.settle_append, hends.settle⟩

theorem skipSeparators_append (h : skipSeparators toks ≠ []) :
    skipSeparators (toks ++ more) = skipSeparators toks ++ more := by
  rw [skipSeparators, List.dropWhile_append, if_neg]
  · rfl
  · rwa [List.isEmpty_iff]

theorem takeLabel_append {label : Option String} (h : takeLabel toks = (label, mid))
    (hlength : 2 ≤ mid.length) : takeLabel (toks ++ more) = (label, mid ++ more) := by
  unfold takeLabel at h
  split at h
  · cases h
    rfl
  · cases h
    rfl
  · next hname htext =>
    cases h
    obtain ⟨t, t', rest, rfl⟩ : ∃ t t' rest, toks = t :: t' :: rest := by
      rcases toks with _ | ⟨t, _ | ⟨t', rest⟩⟩
      · cases hlength
      · rw [List.length_singleton] at hlength
        omega
      · exact ⟨t, t', rest, rfl⟩
    cases t
    case name =>
      cases t'
      case assign => exact absurd rfl (hname _ _)
      all_goals rfl
    case text =>
      cases t'
      case assign => exact absurd rfl (htext _ _)
      all_goals rfl
    all_goals rfl

/-- The value of an argument is followed by a sign, so its label is found before it. -/
theorem Reads.takeLabel_append {label : Option String} {mid' : List Token}
    (h : Reads .argValue mid x mid') (hlabel : takeLabel (settle true toks) = (label, mid))
    (hsign : settle true mid' = t :: rest) :
    takeLabel (settle true (toks ++ more)) = (label, mid ++ more) := by
  have hmid : mid'.length < mid.length := h.yields.length_lt
  have hmid' := length_lt_of_settle hsign
  have hstarts := (h.starts rfl).of_takeLabel hlabel
  rw [(hstarts.ends true).settle_append]
  exact Expr.takeLabel_append hlabel (by omega)

theorem Ends.head?_ne_else (h : Ends n rest more) (hne : (skipNewlines rest).head? ≠ some .kwElse) :
    (skipNewlines (rest ++ more)).head? ≠ some .kwElse := by
  by_cases hnil : skipNewlines rest = []
  · obtain hne' | ⟨-, -, hmore⟩ := h
    · exact absurd hnil hne'
    · rw [skipNewlines, List.dropWhile_append, if_pos]
      · exact hmore
      · rw [← skipNewlines, hnil]
        rfl
  · rw [skipNewlines_append hnil, List.head?_append_of_ne_nil _ hnil]
    exact hne

/-- What may follow what is read, so that it stays the same. -/
def Sought.Ends : Sought → List Token → List Token → Prop
  | args, _, _ | argsFrom, _, _ | params _, _, _ | paramsFrom, _, _ | block, _, _ => True
  | program, _, _ => False
  | argValue, rest, more | preset, rest, more => Expr.Ends true rest more
  | expr n, rest, more | arrow n _, rest, more | equal n, rest, more | tier _ n, rest, more
  | tierRest _ n _, rest, more | operand _ n, rest, more | not n, rest, more | signed n, rest, more
  | power n, rest, more | selection n, rest, more | selectionRest n _, rest, more
  | primary n, rest, more => Expr.Ends n rest more

theorem Reads.append {g : Sought} {a : g.Result} (h : Reads g toks a rest)
    (hends : g.Ends rest more) : Reads g (toks ++ more) a (rest ++ more) := by
  induction h with
  | @expr n _ lhs mid x rest _ hread hlhs hx =>
    have hmid : Ends n mid more := Ends.of_suffix hends (hread.suffix.trans (settle_suffix _ _))
    refine .expr (hlhs hmid) ?_
    rw [hmid.settle_append]
    exact hx hends
  | arrowStop hstop =>
    exact .arrowStop (Ends.bind_head? hends hstop fun t ht => by cases t <;> first | rfl | cases ht)
  | arrow ht hread hx hrhs =>
    rw [List.cons_append]
    refine .arrow ht ?_ hx
    rw [hread.skipNewlines_append rfl]
    exact hrhs hends
  | @equalStop n _ x mid hread hstop hx =>
    have hmid : Ends n mid more := Ends.of_suffix hends (settle_suffix _ _)
    rw [← hmid.settle_append]
    refine .equalStop (hx hmid) ?_
    rw [hmid.settle_append]
    exact hmid.settle.head?_ne hstop rfl
  | equal _ hassign hread hx hlhs hrhs =>
    refine .equal (hlhs (ends_of_settle hassign rfl _)) (settle_append_of_eq hassign rfl) ?_ hx
    rw [hread.skipNewlines_append rfl]
    exact hrhs hends
  | tier _ hread hlhs hx => exact .tier (hlhs (Ends.of_suffix hends hread.suffix)) (hx hends)
  | @tierStop t n lhs toks hstop =>
    have htoks : Ends n toks more := Ends.of_suffix hends (settle_suffix _ _)
    rw [← htoks.settle_append]
    refine .tierStop ?_
    rw [htoks.settle_append]
    exact htoks.settle.bind_head? hstop fun s hs => by
      cases t <;> cases s <;> first | rfl | cases hs
  | @tierMore t _ _ _ s _ _ _ _ _ _ hsettle hop hread hread' hrhs hx =>
    have hs : s.isNewline = false := by cases t <;> cases s <;> first | rfl | cases hop
    refine .tierMore (settle_append_of_eq hsettle hs) hop ?_ (hx hends)
    rw [hread.skipNewlines_append rfl]
    exact hrhs (Ends.of_suffix hends hread'.suffix)
  | operandTier ht _ hx => exact .operandTier ht (hx hends)
  | operandNot _ hx => exact .operandNot (hx hends)
  | operandSigned _ hx => exact .operandSigned (hx hends)
  | not hbang _ hx => exact .not (settle_append_of_eq hbang rfl) (hx hends)
  | notStop hstop hread hx =>
    obtain ⟨hsettle, hsettled⟩ := hread.settle_append rfl
    refine .notStop ?_ ?_
    · rw [hsettle]
      exact hsettled.head?_ne hstop rfl
    · rw [hsettle]
      exact hx hends
  | minus hminus _ hx => exact .minus (settle_append_of_eq hminus rfl) (hx hends)
  | plus hplus _ hx => exact .plus (settle_append_of_eq hplus rfl) (hx hends)
  | signedStop hminus hplus hread hx =>
    obtain ⟨hsettle, hsettled⟩ := hread.settle_append rfl
    refine .signedStop ?_ ?_ ?_
    · rw [hsettle]
      exact hsettled.head?_ne hminus rfl
    · rw [hsettle]
      exact hsettled.head?_ne hplus rfl
    · rw [hsettle]
      exact hx hends
  | @powerStop n _ _ mid _ hstop hx =>
    have hmid : Ends n mid more := Ends.of_suffix hends (settle_suffix _ _)
    rw [← hmid.settle_append]
    refine .powerStop (hx hmid) ?_
    rw [hmid.settle_append]
    exact hmid.settle.head?_ne hstop rfl
  | power _ hcaret hread hbase hexponent =>
    refine .power (hbase (ends_of_settle hcaret rfl _)) (settle_append_of_eq hcaret rfl) ?_
    rw [hread.skipNewlines_append rfl]
    exact hexponent hends
  | selection _ hread hx hy =>
    exact .selection (hx (Ends.of_suffix hends hread.suffix)) (hy hends)
  | selectionStop hstop =>
    refine .selectionStop ?_
    obtain heq | ⟨-, t, ht, hsep⟩ := Ends.head? hends
    · rw [heq, hstop]
    · rw [ht]
      cases t <;> first | rfl | cases hsep
  | call _ hread hargs hy => exact .call (hargs trivial) (hy hends)
  | index _ hclose _ hi hy =>
    exact .index (hi (ends_of_settle hclose rfl _)) (settle_append_of_eq hclose rfl) (hy hends)
  | element _ hclose hclose' _ hi hy =>
    exact .element (hi (ends_of_settle hclose rfl _)) (settle_append_of_eq hclose rfl)
      (settle_append_of_eq hclose' rfl) (hy hends)
  | @dollar n _ _ t _ _ _ _ hsettle ht _ hy =>
    have hnewline : t.isNewline = false := by cases t <;> first | rfl | cases ht
    exact .dollar (settle_append_of_eq hsettle hnewline) ht (hy hends)
  | argsNil hclose => exact .argsNil (settle_append_of_eq hclose rfl)
  | args hstop hread hargs =>
    obtain ⟨hsettle, hsettled⟩ := hread.settle_append rfl
    refine .args ?_ ?_
    · rw [hsettle]
      exact hsettled.head?_ne hstop rfl
    · rw [hsettle]
      exact hargs trivial
  | argsLast hlabel hread hclose hx =>
    exact .argsLast (hread.takeLabel_append hlabel hclose) (hx (ends_of_settle hclose rfl _))
      (settle_append_of_eq hclose rfl)
  | argsMore hlabel hread hcomma _ hx hargs =>
    exact .argsMore (hread.takeLabel_append hlabel hcomma) (hx (ends_of_settle hcomma rfl _))
      (settle_append_of_eq hcomma rfl) (hargs trivial)
  | @argValue _ lhs mid x rest _ hread hlhs hx =>
    have hmid : Ends true mid more :=
      Ends.of_suffix hends (hread.suffix.trans (settle_suffix _ _))
    refine .argValue (hlhs hmid) ?_
    rw [hmid.settle_append]
    exact hx hends
  | paramsNil hopen hclose =>
    exact .paramsNil (settle_append_of_eq hopen rfl) (settle_append_of_eq hclose rfl)
  | params hopen hstop hread hparams =>
    obtain ⟨hsettle, hsettled⟩ := hread.settle_append rfl
    refine .params (settle_append_of_eq hopen rfl) ?_ ?_
    · rw [hsettle]
      exact hsettled.head?_ne hstop rfl
    · rw [hsettle]
      exact hparams trivial
  | paramsLast hname _ hclose hpreset =>
    exact .paramsLast (settle_append_of_eq hname rfl) (hpreset (ends_of_settle hclose rfl _))
      (settle_append_of_eq hclose rfl)
  | paramsMore hname _ hcomma _ hpreset hparams =>
    exact .paramsMore (settle_append_of_eq hname rfl) (hpreset (ends_of_settle hcomma rfl _))
      (settle_append_of_eq hcomma rfl) (hparams trivial)
  | @presetNone toks hstop =>
    have htoks : Ends true toks more := Ends.of_suffix hends (settle_suffix _ _)
    rw [← htoks.settle_append]
    refine .presetNone ?_
    rw [htoks.settle_append]
    exact htoks.settle.head?_ne hstop rfl
  | preset hassign _ hx => exact .preset (settle_append_of_eq hassign rfl) (hx hends)
  | @const _ _ t _ _ hsettle ht =>
    have hnewline : t.isNewline = false := by cases t <;> first | rfl | cases ht
    exact .const (settle_append_of_eq hsettle hnewline) ht
  | name hsettle => exact .name (settle_append_of_eq hsettle rfl)
  | group hopen _ hclose hx =>
    exact .group (settle_append_of_eq hopen rfl) (hx (ends_of_settle hclose rfl _))
      (settle_append_of_eq hclose rfl)
  | block hopen _ hbody => exact .block (settle_append_of_eq hopen rfl) (hbody trivial)
  | function hword _ hread hparams hbody =>
    refine .function (settle_append_of_eq hword rfl) (hparams trivial) ?_
    rw [hread.skipNewlines_append rfl]
    exact hbody hends
  | cond hword hopen _ hclose hread hstop htest hyes =>
    refine .cond (settle_append_of_eq hword rfl) (settle_append_of_eq hopen rfl)
      (htest (ends_of_settle hclose rfl _)) (settle_append_of_eq hclose rfl) ?_ ?_
    · rw [hread.skipNewlines_append rfl]
      exact hyes hends
    · exact Ends.head?_ne_else hends hstop
  | @condElse n toks m₁ m₂ test m₃ m₄ yes m₅ m₆ no rest hword hopen _ hclose hread helse hread'
      htest hyes hno =>
    have helse' : skipNewlines (m₅ ++ more) = .kwElse :: (m₆ ++ more) :=
      settle_append_of_eq (n := true) helse rfl
    refine .condElse (settle_append_of_eq hword rfl) (settle_append_of_eq hopen rfl)
      (htest (ends_of_settle hclose rfl _)) (settle_append_of_eq hclose rfl) ?_ helse' ?_
    · rw [hread.skipNewlines_append rfl]
      exact hyes (ends_of_settle (n := true) helse rfl _)
    · rw [hread'.skipNewlines_append rfl]
      exact hno hends
  | loop hword hopen hname hin _ hclose hread hitems hbody =>
    refine .loop (settle_append_of_eq hword rfl) (settle_append_of_eq hopen rfl)
      (settle_append_of_eq hname rfl) (settle_append_of_eq hin rfl)
      (hitems (ends_of_settle hclose rfl _)) (settle_append_of_eq hclose rfl) ?_
    rw [hread.skipNewlines_append rfl]
    exact hbody hends
  | @blockNil toks rest hclose =>
    refine .blockNil ?_
    rw [skipSeparators_append (by rw [hclose]; exact List.cons_ne_nil _ _), hclose,
      List.cons_append]
  | @blockMore toks x mid xs rest hne hread hstop hreads hx hxs =>
    have hmid : Ends false mid more := (hreads.starts rfl).ends false
    have hnil : skipSeparators toks ≠ [] := by
      intro hnil
      rw [hnil] at hread
      obtain ⟨t, ht, -⟩ := hread.starts rfl
      cases ht
    have hhead : (skipSeparators toks ++ more).head? = (skipSeparators toks).head? :=
      List.head?_append_of_ne_nil _ hnil
    refine .blockMore ?_ ?_ ?_ (hxs trivial)
    · rw [skipSeparators_append hnil, hhead]
      exact hne
    · rw [skipSeparators_append hnil]
      exact hx hmid
    · cases mid with
      | nil => cases hstop
      | cons t mid => exact hstop
  | programNil | programMore => exact hends.elim

/-! ### Programs -/

theorem reads_program_of_separators {ys : List Expr} (hnil : skipSeparators toks = [])
    (h : Reads .program more ys []) : Reads .program (toks ++ more) ys [] := by
  have hskip : skipSeparators (toks ++ more) = skipSeparators more := by
    rw [skipSeparators, List.dropWhile_append, if_pos]
    · rfl
    · rw [← skipSeparators, hnil]
      rfl
  cases h with
  | programNil hmore => exact .programNil (by rw [hskip, hmore])
  | programMore hx hends hxs => exact .programMore (by rw [hskip]; exact hx) hends hxs

theorem head?_ne_else_of_program {ys : List Expr} (h : Reads .program toks ys []) :
    (skipNewlines toks).head? ≠ some .kwElse := by
  intro helse
  obtain ⟨rest, hrest⟩ := List.head?_eq_some_iff.mp helse
  have hskip : skipSeparators toks = .kwElse :: rest := by
    rw [← skipSeparators_skipNewlines, hrest]
    rfl
  cases h with
  | programNil hnil =>
    rw [hnil] at hskip
    cases hskip
  | programMore hx _ _ =>
    rw [hskip] at hx
    obtain ⟨t, ht, hne⟩ := hx.starts rfl
    exact hne (Option.some.inj ht).symm

theorem reads_program_append {xs ys : List Expr} (h : Reads .program toks xs [])
    (hsep : more.head?.any Token.isSeparator = true) (hmore : Reads .program more ys []) :
    Reads .program (toks ++ more) (xs ++ ys) [] := by
  induction xs generalizing toks with
  | nil =>
    cases h with
    | programNil hnil => exact reads_program_of_separators hnil hmore
  | cons x xs ih =>
    cases h with
    | @programMore _ _ mid _ hx hends hxs =>
      have hmid : Ends false mid more := by
        refine .inr ⟨rfl, ?_, head?_ne_else_of_program hmore⟩
        cases more with
        | nil => cases hsep
        | cons t more => exact ⟨t, rfl, hsep⟩
      have hnil : skipSeparators toks ≠ [] := by
        intro hnil
        rw [hnil] at hx
        obtain ⟨t, ht, -⟩ := hx.starts rfl
        cases ht
      refine .programMore ?_ ?_ (ih hxs)
      · rw [skipSeparators_append hnil]
        exact hx.append hmid
      · cases mid with
        | nil =>
          cases more with
          | nil => rfl
          | cons t more => exact hsep
        | cons t mid => exact hends

end ScriptBridge.Expr
