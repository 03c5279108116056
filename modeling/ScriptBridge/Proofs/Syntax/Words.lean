import Mathlib.Data.List.Forall2
import ScriptBridge.Proofs.Syntax.Complete
import ScriptBridge.Proofs.Syntax.Regions

/-!
# The words of a program

The names and constants of a program are the words among its tokens, one for one and in their order.
-/

namespace ScriptBridge

/-- A name or a constant of an expression. -/
inductive Word where
  | name (s : String)
  | const (v : RValue)

/-- What a word of a text may be in an expression: a text stands for itself or for a name. -/
inductive Token.StandsFor : Token → Word → Prop where
  | name (s : String) : StandsFor (.name s) (.name s)
  | label (s : String) : StandsFor (.text s) (.name s)
  | const {t : Token} {v : RValue} : t.constant? = some v → StandsFor t (.const v)

def Token.isWord : Token → Bool
  | name _ => true
  | t => t.constant?.isSome

/-- Whether the token is a keyword or a sign of the language. -/
def Token.isSign : Token → Bool
  | unknown _ => false
  | t => !t.isWord

namespace Expr

mutual

/-- The names and constants of an expression, from left to right. -/
def words : Expr → List Word
  | const v => [.const v]
  | name s => [.name s]
  | call f args => words f ++ argWords args
  | index x i => words x ++ words i
  | element x i => words x ++ words i
  | dollar x s => words x ++ [.name s]
  | unary _ x => words x
  | binary _ x y => words x ++ words y
  | assign target value _ => words target ++ words value
  | function params body => paramWords params ++ words body
  | block body => blockWords body
  | cond test yes no => words test ++ words yes ++ presetWords no
  | loop s items body => .name s :: words items ++ words body

def argWords : List (Option String × Expr) → List Word
  | [] => []
  | (label, x) :: args => (label.map Word.name).toList ++ words x ++ argWords args

def paramWords : List (String × Option Expr) → List Word
  | [] => []
  | (s, preset) :: params => .name s :: presetWords preset ++ paramWords params

def presetWords : Option Expr → List Word
  | none => []
  | some x => words x

def blockWords : List Expr → List Word
  | [] => []
  | x :: xs => words x ++ blockWords xs

end

def Sought.words : (g : Sought) → g.Result → List Word
  | args, a | argsFrom, a => argWords a
  | params _, a | paramsFrom, a => paramWords a
  | preset, a => presetWords a
  | block, a | program, a => blockWords a
  | expr _, x | arrow _ _, x | equal _, x | tier _ _, x | tierRest _ _ _, x | operand _ _, x
  | not _, x | signed _, x | power _, x | selection _, x | selectionRest _ _, x | argValue, x
  | primary _, x => x.words

/-- The words before the tokens that are left to read, given those before all of what is sought. -/
def Sought.before (ws : List Word) : Sought → List Word
  | arrow _ x | tierRest _ _ x | selectionRest _ x => ws ++ x.words
  | _ => ws

/-! ### Tokens that spell words -/

/-- The tokens of `start` before `rest` stand for the words, one for one, and all are known. -/
def Spelled (start : List Token) (words : List Word) (rest : List Token) : Prop :=
  ∃ used, start = used ++ rest ∧
    List.Forall₂ Token.StandsFor (used.filter Token.isWord) words ∧ ∀ c, .unknown c ∉ used

variable {start rest mid toks : List Token} {ws : List Word} {n : Bool} {t : Token}

theorem spelled_nil (toks : List Token) : Spelled toks [] toks :=
  ⟨[], rfl, .nil, fun _ => List.not_mem_nil⟩

theorem isWord_of_isSign (h : t.isSign = true) : t.isWord = false := by
  cases t <;> first | rfl | cases h

theorem Spelled.pass (mid : List Token) (h : Spelled start ws (mid ++ rest))
    (hmid : ∀ t ∈ mid, t.isSign = true) : Spelled start ws rest := by
  obtain ⟨used, hstart, hwords, hused⟩ := h
  refine ⟨used ++ mid, by rw [hstart, List.append_assoc], ?_, fun c hc => ?_⟩
  · have hfilter : mid.filter Token.isWord = [] := List.filter_eq_nil_iff.mpr fun t ht => by
      rw [isWord_of_isSign (hmid t ht)]
      exact Bool.false_ne_true
    rw [List.filter_append, hfilter, List.append_nil]
    exact hwords
  · rcases List.mem_append.mp hc with hc | hc
    · exact hused c hc
    · cases hmid _ hc

theorem Spelled.sign (h : Spelled start ws (t :: rest)) (ht : t.isSign = true) :
    Spelled start ws rest := by
  refine h.pass [t] fun t' ht' => ?_
  rw [List.mem_singleton.mp ht', ht]

theorem Spelled.word {w : Word} (h : Spelled start ws (t :: rest)) (ht : t.StandsFor w) :
    Spelled start (ws ++ [w]) rest := by
  have hword : t.isWord = true := by
    cases ht with
    | name s => rfl
    | label s => rfl
    | const hv => cases t <;> cases hv <;> rfl
  have hknown : ∀ c, t ≠ .unknown c := by
    rintro c rfl
    cases hword
  obtain ⟨used, hstart, hwords, hused⟩ := h
  refine ⟨used ++ [t], by rw [hstart, List.append_assoc]; rfl, ?_, fun c hc => ?_⟩
  · rw [List.filter_append, List.filter_singleton, hword]
    exact List.rel_append hwords (.cons ht .nil)
  · rcases List.mem_append.mp hc with hc | hc
    · exact hused c hc
    · exact hknown c (List.mem_singleton.mp hc).symm

theorem Spelled.dropWhile {p : Token → Bool} (h : Spelled start ws toks)
    (hp : ∀ t, p t = true → t.isSeparator = true) : Spelled start ws (toks.dropWhile p) := by
  rw [← List.takeWhile_append_dropWhile (p := p) (l := toks)] at h
  refine h.pass _ fun t ht => ?_
  have hseparator := hp t (List.mem_takeWhile_imp ht)
  cases t <;> first | rfl | cases hseparator

theorem Spelled.skipNewlines (h : Spelled start ws toks) : Spelled start ws (skipNewlines toks) :=
  h.dropWhile fun t ht => by cases t <;> first | rfl | cases ht

theorem Spelled.skipSeparators (h : Spelled start ws toks) :
    Spelled start ws (skipSeparators toks) :=
  h.dropWhile fun _ ht => ht

theorem Spelled.settle (n : Bool) (h : Spelled start ws toks) :
    Spelled start ws (settle n toks) := by
  cases n with
  | false => exact h
  | true => exact h.skipNewlines

theorem Spelled.settleSign (h : Spelled start ws toks) (heq : Expr.settle n toks = t :: rest)
    (ht : t.isSign = true) : Spelled start ws rest := by
  have hsettle := h.settle n
  rw [heq] at hsettle
  exact hsettle.sign ht

theorem Spelled.settleWord {w : Word} (h : Spelled start ws toks)
    (heq : Expr.settle n toks = t :: rest) (ht : t.StandsFor w) :
    Spelled start (ws ++ [w]) rest := by
  have hsettle := h.settle n
  rw [heq] at hsettle
  exact hsettle.word ht

theorem standsFor_label {s : String} (h : t.label? = some s) : t.StandsFor (.name s) := by
  cases t <;> cases h
  · exact .label _
  · exact .name _

theorem standsFor_target {s : Option String} (h : t.StandsFor (.const (.character [s]))) :
    t.StandsFor (.name (s.getD "")) := by
  cases h with
  | const h =>
    cases t <;> cases h
    exact .label _

theorem forall₂_concat {α β : Type} {R : α → β → Prop} {w w' : β} (h : ∀ a, R a w → R a w') :
    ∀ {l : List α} {ws : List β}, List.Forall₂ R l (ws ++ [w]) → List.Forall₂ R l (ws ++ [w'])
  | _, [], .cons hw .nil => .cons (h _ hw) .nil
  | _, _ :: _, .cons hv hl => .cons hv (forall₂_concat h hl)

theorem Spelled.target {lhs rhs x : Expr} {global : Bool}
    (hx : makeAssign lhs rhs global = .ok x) (h : Spelled start (ws ++ lhs.words) toks) :
    ∃ ws', x.words = ws' ++ rhs.words ∧ Spelled start (ws ++ ws') toks := by
  unfold makeAssign at hx
  split at hx
  case h_5 s =>
    cases hx
    obtain ⟨used, hstart, hwords, hused⟩ := h
    refine ⟨[.name (s.getD "")], rfl, used, hstart, ?_, hused⟩
    exact forall₂_concat (fun t ht => standsFor_target ht) hwords
  case h_6 => cases hx
  all_goals
    cases hx
    exact ⟨_, rfl, h⟩

/-- The words of what is read come after those of what has been read before. -/
def Spells (g : Sought) (toks : List Token) (a : g.Result) (rest : List Token) : Prop :=
  ∀ start ws, Spelled start (g.before ws) toks → Spelled start (ws ++ g.words a) rest

theorem spelled_takeLabel {label : Option String} (h : Spelled start ws (settle true toks))
    (hlabel : takeLabel (settle true toks) = (label, rest)) :
    Spelled start (ws ++ (label.map Word.name).toList) rest := by
  unfold takeLabel at hlabel
  split at hlabel
  · next s mid heq =>
    cases hlabel
    rw [heq] at h
    exact (h.word (.name s)).sign rfl
  · next s mid heq =>
    cases hlabel
    rw [heq] at h
    exact (h.word (.label s)).sign rfl
  · cases hlabel
    rw [Option.map_none, Option.toList_none, List.append_nil]
    exact h

theorem isSign_of_operator? {tier : Tier} {op : BinaryOp} (h : tier.operator? t = some op) :
    t.isSign = true := by
  cases tier <;> cases t <;> first | rfl | cases h

theorem Spelled.nil (h : Spelled start ws rest) : Spelled start (ws ++ []) rest := by
  rw [List.append_nil]
  exact h

theorem Spelled.assoc {as bs : List Word} (h : Spelled start (ws ++ as ++ bs) rest) :
    Spelled start (ws ++ (as ++ bs)) rest := by
  rw [← List.append_assoc]
  exact h

theorem Reads.spells {g : Sought} {a : g.Result} (h : Reads g toks a rest) :
    Spells g toks a rest := by
  induction h with
  | expr _ _ hlhs hx => exact fun start ws h => hx start ws ((hlhs start ws h).settle _)
  | arrowStop _ => exact fun _ _ h => h
  | @arrow _ _ t _ _ _ _ _ ht _ hx ih =>
    intro start ws h
    have h := h.sign (by cases t <;> cases ht <;> rfl)
    obtain ⟨ws', hwords, h⟩ := h.skipNewlines.target hx
    show Spelled start (ws ++ words _) _
    rw [hwords]
    exact (ih start _ h).assoc
  | equalStop _ _ hx => exact fun start ws h => (hx start ws h).settle _
  | equal _ hassign _ hx hlhs hrhs =>
    intro start ws h
    have h := (hlhs start ws h).settleSign hassign rfl
    obtain ⟨ws', hwords, h⟩ := h.skipNewlines.target hx
    show Spelled start (ws ++ words _) _
    rw [hwords]
    exact (hrhs start _ h).assoc
  | tier _ _ hlhs hx => exact fun start ws h => hx start ws (hlhs start ws h)
  | tierStop _ => exact fun _ _ h => h.settle _
  | @tierMore t _ _ _ s _ _ _ _ _ _ hsettle hop _ _ hrhs hx =>
    intro start ws h
    have h := h.settleSign hsettle (isSign_of_operator? hop)
    exact hx start ws (hrhs start _ h.skipNewlines).assoc
  | operandTier _ _ hx => exact hx
  | operandNot _ hx => exact hx
  | operandSigned _ hx => exact hx
  | not hbang _ hx => exact fun start ws h => hx start ws (h.settleSign hbang rfl)
  | notStop _ _ hx => exact fun start ws h => hx start ws (h.settle _)
  | minus hminus _ hx => exact fun start ws h => hx start ws (h.settleSign hminus rfl)
  | plus hplus _ hx => exact fun start ws h => hx start ws (h.settleSign hplus rfl)
  | signedStop _ _ _ hx => exact fun start ws h => hx start ws (h.settle _)
  | powerStop _ _ hx => exact fun start ws h => (hx start ws h).settle _
  | power _ hcaret _ hbase hexponent =>
    intro start ws h
    have h := (hbase start ws h).settleSign hcaret rfl
    exact (hexponent start _ h.skipNewlines).assoc
  | selection _ _ hx hy => exact fun start ws h => hy start ws (hx start ws h)
  | selectionStop _ => exact fun _ _ h => h
  | call _ _ hargs hy =>
    intro start ws h
    exact hy start ws (hargs start _ (h.sign rfl)).assoc
  | index _ hclose _ hi hy =>
    intro start ws h
    have h := hi start _ (h.sign rfl)
    exact hy start ws (h.settleSign hclose rfl).assoc
  | element _ hclose hclose' _ hi hy =>
    intro start ws h
    have h := (hi start _ (h.sign rfl)).settleSign hclose rfl
    exact hy start ws (h.settleSign hclose' rfl).assoc
  | dollar hsettle ht _ hy =>
    intro start ws h
    have h := (h.sign rfl).settleWord hsettle (standsFor_label ht)
    exact hy start ws h.assoc
  | argsNil hclose => exact fun _ _ h => (h.settleSign hclose rfl).nil
  | args _ _ hargs => exact fun start ws h => hargs start ws (h.settle _)
  | argsLast hlabel _ hclose hx =>
    intro start ws h
    have h := (hx start _ (spelled_takeLabel (h.settle _) hlabel)).settleSign hclose rfl
    exact h.assoc.nil.assoc
  | argsMore hlabel _ hcomma _ hx hargs =>
    intro start ws h
    have h := (hx start _ (spelled_takeLabel (h.settle _) hlabel)).settleSign hcomma rfl
    exact (hargs start _ h.assoc).assoc
  | argValue _ _ hlhs hx => exact fun start ws h => hx start ws ((hlhs start ws h).settle _)
  | paramsNil hopen hclose =>
    exact fun _ _ h => ((h.settleSign hopen rfl).settleSign hclose rfl).nil
  | params hopen _ _ hparams =>
    exact fun start ws h => hparams start ws ((h.settleSign hopen rfl).settle _)
  | @paramsLast _ s _ _ _ _ hname _ hclose hpreset =>
    intro start ws h
    have h := hpreset start _ (h.settleWord hname (.name s))
    exact (h.settleSign hclose rfl).assoc.nil.assoc
  | @paramsMore _ s _ _ _ _ _ _ hname _ hcomma _ hpreset hparams =>
    intro start ws h
    have h := hpreset start _ (h.settleWord hname (.name s))
    exact (hparams start _ (h.settleSign hcomma rfl).assoc).assoc
  | presetNone _ => exact fun _ _ h => (h.settle _).nil
  | preset hassign _ hx => exact fun start ws h => hx start ws (h.settleSign hassign rfl)
  | const hsettle ht => exact fun _ _ h => h.settleWord hsettle (.const ht)
  | name hsettle => exact fun _ _ h => h.settleWord hsettle (.name _)
  | group hopen _ hclose hx =>
    intro start ws h
    exact (hx start ws (h.settleSign hopen rfl)).settleSign hclose rfl
  | block hopen _ hbody => exact fun start ws h => hbody start ws (h.settleSign hopen rfl)
  | function hword _ _ hparams hbody =>
    intro start ws h
    have h := hparams start ws (h.settleSign hword rfl)
    exact (hbody start _ h.skipNewlines).assoc
  | cond hword hopen _ hclose _ _ htest hyes =>
    intro start ws h
    have h := htest start ws ((h.settleSign hword rfl).settleSign hopen rfl)
    exact (hyes start _ (h.settleSign hclose rfl).skipNewlines).assoc.nil.assoc
  | condElse hword hopen _ hclose _ helse _ htest hyes hno =>
    intro start ws h
    have h := htest start ws ((h.settleSign hword rfl).settleSign hopen rfl)
    have h := hyes start _ (h.settleSign hclose rfl).skipNewlines
    have h := Spelled.settleSign (n := true) h helse rfl
    exact (hno start _ h.skipNewlines.assoc).assoc
  | loop hword hopen hname hin _ hclose _ hitems hbody =>
    intro start ws h
    have h := (h.settleSign hword rfl).settleSign hopen rfl
    have h := (h.settleWord hname (.name _)).settleSign hin rfl
    have h := (hitems start _ h).settleSign hclose rfl
    exact (hbody start _ h.skipNewlines.assoc).assoc
  | blockNil hclose =>
    intro start ws h
    have h := h.skipSeparators
    rw [hclose] at h
    exact (h.sign rfl).nil
  | blockMore _ _ _ _ hx hxs =>
    exact fun start ws h => (hxs start _ (hx start ws h.skipSeparators)).assoc
  | programNil hnil =>
    intro start ws h
    have h := h.skipSeparators
    rw [hnil] at h
    exact h.nil
  | programMore _ _ _ hx hxs =>
    exact fun start ws h => (hxs start _ (hx start ws h.skipSeparators)).assoc

/-! ### Programs -/

theorem readProgram_eq_ok {source : String} {program : List Expr} :
    readProgram source = .ok program ↔
      ∃ toks, Token.scan source = .ok toks ∧ Reads .program toks program [] := by
  rw [readProgram, except_bind_eq_ok]
  simp only [ofTokens_eq_ok]

theorem spelled_readProgram {source : String} {program : List Expr}
    (h : readProgram source = .ok program) :
    ∃ toks, Token.scan source = .ok toks ∧ Reads .program toks program [] ∧
      List.Forall₂ Token.StandsFor (toks.filter Token.isWord) (blockWords program) ∧
      ∀ c, .unknown c ∉ toks := by
  obtain ⟨toks, hscan, hreads⟩ := readProgram_eq_ok.mp h
  obtain ⟨used, hused, hwords, hknown⟩ := hreads.spells toks [] (spelled_nil toks)
  rw [List.append_nil] at hused
  subst hused
  exact ⟨toks, hscan, hreads, hwords, hknown⟩

theorem exists_error_of_not_ok {source : String}
    (h : ∀ program, readProgram source ≠ .ok program) : ∃ e, readProgram source = .error e := by
  cases hread : readProgram source with
  | error e => exact ⟨e, rfl⟩
  | ok program => exact absurd hread (h program)

/-- The parser drops, invents and moves nothing: it reads all tokens of a text, and the names and
constants of the program are the words among them, one for one and in their order. A text with a
character outside comments and quotes that belongs to no token is no program. -/
theorem readProgram_words (source : String) :
    (∀ program, readProgram source = .ok program →
      ∃ toks, Token.scan source = .ok toks ∧ Reads .program toks program [] ∧
        List.Forall₂ Token.StandsFor (toks.filter Token.isWord) (blockWords program)) ∧
    (∀ toks c, Token.scan source = .ok toks → .unknown c ∈ toks →
      ∃ e, readProgram source = .error e) ∧
    (∀ pre c post, source.toList = pre ++ c :: post → Region.after pre = .code →
      Token.isAlien c = true → ∃ e, readProgram source = .error e) := by
  refine ⟨fun program h => ?_, fun toks c hscan hc => ?_, fun pre c post hsource hpre hc => ?_⟩
  · obtain ⟨toks, hscan, hreads, hwords, -⟩ := spelled_readProgram h
    exact ⟨toks, hscan, hreads, hwords⟩
  · refine exists_error_of_not_ok fun program h => ?_
    obtain ⟨toks', hscan', -, -, hknown⟩ := spelled_readProgram h
    rw [hscan] at hscan'
    cases hscan'
    exact hknown c hc
  · refine exists_error_of_not_ok fun program h => ?_
    obtain ⟨toks, hscan, -, -, hknown⟩ := spelled_readProgram h
    have hhomely := Token.homely_of_scanWith hscan hknown pre c post hsource hpre
    rw [hhomely] at hc
    cases hc

theorem readProgram_words_label :
    (∃ toks, Token.scan "'x' <- f(y = NA) # ?" = .ok toks ∧
      Reads .program toks
        [.assign (.name "x") (.call (.name "f") [(some "y", .const (.logical [none]))]) false] [] ∧
      List.Forall₂ Token.StandsFor (toks.filter Token.isWord)
        [.name "x", .name "f", .name "y", .const (.logical [none])]) ∧
    ∃ e, readProgram "x <- ?" = .error e := by
  have hread : readProgram "'x' <- f(y = NA) # ?" = .ok
      [.assign (.name "x") (.call (.name "f") [(some "y", .const (.logical [none]))]) false] := by
    have hscan : Token.scan "'x' <- f(y = NA) # ?" = .ok
        [.text "x", .leftAssign, .name "f", .openParen, .name "y", .assign, .kwNA, .closeParen] :=
      rfl
    rw [readProgram, hscan]
    rfl
  exact ⟨(readProgram_words _).1 _ hread,
    (readProgram_words _).2.2 "x <- ".toList '?' [] rfl (by decide) (by decide)⟩

end Expr

end ScriptBridge
