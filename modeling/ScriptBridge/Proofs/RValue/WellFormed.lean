import ScriptBridge.Proofs.Except
import ScriptBridge.Proofs.RValue.Lengths
import ScriptBridge.Proofs.RValue.Range
import ScriptBridge.RValue.Replace

/-!
# Well-formed values

A value is well formed if every list in it that has names has one for each element, and no integer
in it is the one that stands for a missing integer elsewhere (`RValue.WellFormed`). All operations
on values make well-formed values of well-formed ones; a range does so if it is short enough
(`WellFormed.operate`).
-/

namespace ScriptBridge.RValue

/-- No element is the number that stands for a missing integer. -/
def Proper (v : List (Option Int32)) : Prop := ∀ n, some n ∈ v → n ≠ Int32.minValue

/-- Every list has as many names as elements, if it has names, and no integer is the number that
stands for a missing one. -/
inductive WellFormed : RValue → Prop
  | null : WellFormed .null
  | logical (v : List (Option Bool)) : WellFormed (.logical v)
  | integer {v : List (Option Int32)} (hv : Proper v) : WellFormed (.integer v)
  | double (v : List (Option Float)) : WellFormed (.double v)
  | character (v : List (Option String)) : WellFormed (.character v)
  | list {values : List RValue} {names : Option (List String)}
      (hvalues : ∀ x ∈ values, WellFormed x) (hnames : ∀ ns ∈ names, ns.length = values.length) :
      WellFormed (.list values names)
  | unsupported (typeName : String) : WellFormed (.unsupported typeName)

variable {x y z index : RValue} {xs parts values : List RValue} {names : Option (List String)}
  {v w : List (Option Int32)} {n : Int32}

/-! ### Integers of scripts -/

theorem proper_nil : Proper [] := fun _ hn => nomatch hn

theorem proper_cons {e : Option Int32} (he : ∀ n ∈ e, n ≠ Int32.minValue) (hv : Proper v) :
    Proper (e :: v) := by
  intro n hn
  rcases List.mem_cons.mp hn with rfl | hn
  · exact he n rfl
  · exact hv n hn

theorem Proper.append (hv : Proper v) (hw : Proper w) : Proper (v ++ w) := by
  intro n hn
  rcases List.mem_append.mp hn with hn | hn
  · exact hv n hn
  · exact hw n hn

theorem Proper.headD (hv : Proper v) : ∀ n ∈ v.headD none, n ≠ Int32.minValue := by
  cases v with
  | nil => exact fun n hn => nomatch hn
  | cons e v => exact fun n hn => hv n (by rw [← Option.mem_def.mp hn]; exact List.mem_cons_self)

theorem proper_map {α : Type} {f : α → Option Int32} {l : List α}
    (h : ∀ a ∈ l, ∀ n ∈ f a, n ≠ Int32.minValue) : Proper (l.map f) := by
  intro n hn
  obtain ⟨a, ha, hfa⟩ := List.mem_map.mp hn
  exact h a ha n hfa

theorem toInt_minValue : Int32.minValue.toInt = -2147483648 := rfl

theorem ne_minValue_of_lt (h : -2147483648 < n.toInt) : n ≠ Int32.minValue := by
  rintro rfl
  rw [toInt_minValue] at h
  omega

theorem toInt_ofInt {k : Int} (hlow : -2147483648 ≤ k) (hhigh : k ≤ 2147483647) :
    (Int32.ofInt k).toInt = k :=
  Int32.toInt_ofInt_of_le (by omega) (by omega)

theorem fit?_ne {k : Int} (h : fit? k = some n) : n ≠ Int32.minValue := by
  unfold fit? at h
  split at h
  · next hk =>
    cases h
    refine ne_minValue_of_lt ?_
    rw [toInt_ofInt (by omega) hk.2]
    exact hk.1
  · cases h

theorem toInteger?_ne {d : Float} (h : toInteger? d = some n) : n ≠ Int32.minValue := by
  obtain ⟨k, -, hk⟩ := Option.bind_eq_some_iff.mp h
  exact fit?_ne hk

theorem boolToInt_ne (b : Bool) : boolToInt b ≠ Int32.minValue := by cases b <;> decide

theorem ofNat_ne {k : Nat} (hk : k < 2147483648) : Int32.ofNat k ≠ Int32.minValue := by
  refine ne_minValue_of_lt ?_
  rw [Int32.toInt_ofNat_of_lt (by omega)]
  omega

mutual

/-- Reading a value as integers yields no number that stands for a missing one. -/
theorem proper_asInteger : ∀ (x : RValue) {v : List (Option Int32)}, asInteger x = .ok v → Proper v
  | .null, v, h => by
    cases h
    exact proper_nil
  | .logical u, v, h => by
    cases h
    refine proper_map fun e _ n hn => ?_
    obtain ⟨b, -, rfl⟩ := Option.map_eq_some_iff.mp hn
    exact boolToInt_ne b
  | .integer u, v, h => by
    cases h
    refine proper_map fun e _ n hn => ?_
    have hproper := (Option.filter_eq_some_iff.mp hn).2
    exact of_decide_eq_true hproper
  | .double u, v, h => by
    cases h
    refine proper_map fun e _ n hn => ?_
    obtain ⟨d, -, hd⟩ := Option.bind_eq_some_iff.mp hn
    exact toInteger?_ne hd
  | .character u, v, h => by
    cases h
    refine proper_map fun e _ n hn => ?_
    obtain ⟨s, -, hs⟩ := Option.bind_eq_some_iff.mp hn
    obtain ⟨d, -, hd⟩ := Option.bind_eq_some_iff.mp hs
    exact toInteger?_ne hd
  | .list values _, v, h => proper_singleIntegers values h
  | .unsupported _, v, h => nomatch h

theorem proper_singleIntegers : ∀ (xs : List RValue) {v : List (Option Int32)},
    singleIntegers xs = .ok v → Proper v
  | [], v, h => by
    cases h
    exact proper_nil
  | x :: xs, v, h => by
    rw [singleIntegers] at h
    split at h
    · obtain ⟨u, hu, h⟩ := except_bind_eq_ok.mp h
      obtain ⟨us, hus, h⟩ := except_bind_eq_ok.mp h
      cases h
      exact proper_cons (proper_asInteger x hu).headD (proper_singleIntegers xs hus)
    · cases h

end

theorem proper_integers? (hx : x.WellFormed) (h : integers? x = some v) : Proper v := by
  cases hx with
  | logical u =>
    cases h
    refine proper_map fun e _ n hn => ?_
    obtain ⟨b, -, rfl⟩ := Option.map_eq_some_iff.mp hn
    exact boolToInt_ne b
  | integer hu =>
    cases h
    exact hu
  | _ => cases h

/-! ### Parts of values -/

theorem wellFormed_getElem? {i : Nat} (hxs : ∀ x ∈ xs, WellFormed x) (h : xs[i]? = some x) :
    x.WellFormed :=
  hxs x (List.mem_of_getElem? h)

theorem WellFormed.split (hx : x.WellFormed) : ∀ y ∈ x.split, y.WellFormed := by
  intro y hy
  cases hx with
  | null => cases hy
  | unsupported t => cases hy
  | list hvalues _ => exact hvalues y hy
  | @integer v hv =>
    obtain ⟨e, he, rfl⟩ := List.mem_map.mp hy
    refine .integer fun n hn => hv n ?_
    rw [List.mem_singleton.mp hn]
    exact he
  | _ =>
    obtain ⟨e, -, rfl⟩ := List.mem_map.mp hy
    constructor

theorem WellFormed.namesEach (hx : x.WellFormed) : NamesEach x := by
  cases hx with
  | list _ hnames => exact hnames
  | _ => exact fun _ hnames => nomatch hnames

theorem wellFormed_lookup {name : String} {ns : List String} (hxs : ∀ x ∈ xs, WellFormed x)
    (h : lookup name ns xs = some x) : x.WellFormed := by
  induction ns generalizing xs with
  | nil => cases h
  | cons n ns ih =>
    cases xs with
    | nil => cases h
    | cons y ys =>
      rw [List.forall_mem_cons] at hxs
      rw [lookup] at h
      split at h
      · cases h
        exact hxs.1
      · exact ih hxs.2 h

/-! ### Vectors put together -/

theorem wellFormed_strings (texts : List String) : (strings texts).WellFormed := .character _

theorem wellFormed_namedList {entries : List (String × RValue)}
    (h : ∀ e ∈ entries, e.2.WellFormed) : (namedList entries).WellFormed := by
  refine .list (fun x hx => ?_) fun ns hns => ?_
  · obtain ⟨e, he, rfl⟩ := List.mem_map.mp hx
    exact h e he
  · cases hns
    rw [List.length_map, List.length_map]

theorem wellFormed_combineLists (h : ∀ x ∈ parts, WellFormed x) :
    (combineLists parts).WellFormed := by
  refine .list (fun y hy => ?_) fun ns hns => ?_
  · obtain ⟨x, hx, hy⟩ := List.mem_flatMap.mp hy
    exact (h x hx).split y hy
  · exact namesEach_combineLists (fun x hx => (h x hx).namesEach) ns hns

theorem proper_flatten (h : flatten asInteger parts = .ok v) : Proper v := by
  induction parts generalizing v with
  | nil =>
    cases h
    exact proper_nil
  | cons x parts ih =>
    have hcons : ∀ v, (asInteger x >>= fun u => flatten asInteger parts >>= fun us =>
        pure (u ++ us)) = .ok v → Proper v := by
      intro v h
      obtain ⟨u, hu, h⟩ := except_bind_eq_ok.mp h
      obtain ⟨us, hus, h⟩ := except_bind_eq_ok.mp h
      cases h
      exact (proper_asInteger x hu).append (ih hus)
    cases x with
    | unsupported t => exact ih h
    | _ => exact hcons v h

theorem wellFormed_combine (h : ∀ x ∈ parts, WellFormed x) (hy : combine parts = .ok y) :
    y.WellFormed := by
  unfold combine at hy
  split at hy
  · cases hy
    exact .null
  · cases hy
    exact wellFormed_combineLists h
  · obtain ⟨v, -, rfl⟩ := except_map_eq_ok.mp hy
    exact .character v
  · obtain ⟨v, -, rfl⟩ := except_map_eq_ok.mp hy
    exact .double v
  · obtain ⟨v, hv, rfl⟩ := except_map_eq_ok.mp hy
    exact .integer (proper_flatten hv)
  · obtain ⟨v, -, rfl⟩ := except_map_eq_ok.mp hy
    exact .logical v

mutual

theorem wellFormed_unlist : ∀ (x : RValue) {y : RValue}, x.WellFormed → unlist x = .ok y →
    y.WellFormed
  | .list values _, y, hx, h => by
    obtain ⟨parts, hparts, hy⟩ := except_bind_eq_ok.mp h
    cases hx with
    | list hvalues _ => exact wellFormed_combine (wellFormed_unlistAll values hvalues hparts) hy
  | .null, _, hx, h | .logical _, _, hx, h | .integer _, _, hx, h | .double _, _, hx, h
  | .character _, _, hx, h | .unsupported _, _, hx, h => by
    cases h
    exact hx

theorem wellFormed_unlistAll : ∀ (xs : List RValue) {ys : List RValue}, (∀ x ∈ xs, WellFormed x) →
    unlistAll xs = .ok ys → ∀ y ∈ ys, y.WellFormed
  | [], ys, _, h => by
    cases h
    exact fun y hy => nomatch hy
  | x :: xs, ys, hxs, h => by
    obtain ⟨y, hy, h⟩ := except_bind_eq_ok.mp h
    obtain ⟨ys', hys', h⟩ := except_bind_eq_ok.mp h
    cases h
    rw [List.forall_mem_cons] at hxs ⊢
    exact ⟨wellFormed_unlist x hxs.1 hy, wellFormed_unlistAll xs hxs.2 hys'⟩

end

theorem WellFormed.rev (hx : x.WellFormed) (h : rev x = .ok y) : y.WellFormed :=
  wellFormed_combine (fun z hz => hx.split z (List.mem_reverse.mp hz)) h

/-! ### Operators -/

theorem mem_recycle {α β γ : Type} {f : α → β → γ} {as : List α} {bs : List β} {c : γ}
    (h : c ∈ recycle f as bs) : ∃ a b, c = f a b := by
  unfold recycle at h
  split at h
  · cases h
  · cases h
  · obtain ⟨i, -, rfl⟩ := List.mem_map.mp h
    exact ⟨_, _, rfl⟩

theorem wellFormed_arith {op : BinaryOp} (h : arith op x y = .ok z) : z.WellFormed := by
  unfold arith at h
  split at h
  · cases h
    refine .integer fun n hn => ?_
    obtain ⟨a, b, hab⟩ := mem_recycle hn
    unfold both at hab
    split at hab
    · exact fit?_ne hab.symm
    · cases hab
  · unfold doubleArith at h
    obtain ⟨as, -, h⟩ := except_bind_eq_ok.mp h
    obtain ⟨bs, -, h⟩ := except_bind_eq_ok.mp h
    cases h
    exact .double _

/-- A range is well formed if it has fewer elements than there are numbers above zero. -/
theorem wellFormed_range (h : range x y = .ok z) (hz : z.length < 2147483648) : z.WellFormed := by
  unfold range at h
  obtain ⟨first, -, h⟩ := except_bind_eq_ok.mp h
  obtain ⟨last, -, h⟩ := except_bind_eq_ok.mp h
  split at h
  · cases h
  · split at h
    · next n hstart =>
      cases h
      rw [length, List.length_map, List.length_range] at hz
      refine .integer (proper_map fun i hi k hk => ?_)
      cases hk
      exact rangeItem_ne hstart (Nat.lt_succ_iff.mp (List.mem_range.mp hi)) hz
    · cases h
      exact .double _

theorem wellFormed_compare {op : BinaryOp} (h : compare op x y = .ok z) : z.WellFormed := by
  unfold compare at h
  split at h
  · cases h
  · split at h
    · obtain ⟨as, -, h⟩ := except_bind_eq_ok.mp h
      obtain ⟨bs, -, h⟩ := except_bind_eq_ok.mp h
      cases h
      exact .logical _
    · obtain ⟨as, -, h⟩ := except_bind_eq_ok.mp h
      obtain ⟨bs, -, h⟩ := except_bind_eq_ok.mp h
      cases h
      exact .logical _

theorem wellFormed_logic {f : Option Bool → Option Bool → Option Bool} (h : logic f x y = .ok z) :
    z.WellFormed := by
  obtain ⟨as, -, h⟩ := except_bind_eq_ok.mp h
  obtain ⟨bs, -, h⟩ := except_bind_eq_ok.mp h
  cases h
  exact .logical _

theorem wellFormed_operate {op : BinaryOp} (h : operate op x y = .ok z)
    (hz : z.length < 2147483648) : z.WellFormed := by
  cases op with
  | range => exact wellFormed_range h hz
  | add | sub | mul | div | pow => exact wellFormed_arith h
  | eq | ne | lt | le | gt | ge => exact wellFormed_compare h
  | and | andAnd | or | orOr => exact wellFormed_logic h

theorem lt_toInt_of_ne (h : n ≠ Int32.minValue) : -2147483648 < n.toInt := by
  have hle : -2147483648 ≤ n.toInt := n.le_toInt
  have hne : n.toInt ≠ -2147483648 := fun heq => h (Int32.toInt_inj.mp heq)
  omega

theorem toInt_neg (h : n ≠ Int32.minValue) : (-n).toInt = -n.toInt := by
  have hlow := lt_toInt_of_ne h
  have hhigh := n.toInt_lt
  rw [Int32.toInt_neg]
  exact Int.bmod_eq_of_le (by omega) (by omega)

theorem neg_ne (h : n ≠ Int32.minValue) : -n ≠ Int32.minValue := by
  have hhigh := n.toInt_lt
  refine ne_minValue_of_lt ?_
  rw [toInt_neg h]
  omega

theorem WellFormed.negate (hx : x.WellFormed) (h : negate x = .ok y) : y.WellFormed := by
  unfold RValue.negate at h
  split at h
  · next v hv =>
    cases h
    refine .integer (proper_map fun e he n hn => ?_)
    obtain ⟨k, rfl, rfl⟩ := Option.map_eq_some_iff.mp hn
    exact neg_ne (proper_integers? hx hv k he)
  · cases h
    exact .double _
  · cases h

theorem wellFormed_complement (h : complement x = .ok y) : y.WellFormed := by
  unfold complement at h
  split at h
  · cases h
  · obtain ⟨v, -, rfl⟩ := except_map_eq_ok.mp h
    exact .logical _

theorem WellFormed.operateUnary {op : UnaryOp} (hx : x.WellFormed) (h : operateUnary op x = .ok y) :
    y.WellFormed := by
  cases op with
  | neg => exact hx.negate h
  | not => exact wellFormed_complement h

/-! ### Selections -/

theorem at?_mem {α : Type} {l : List α} {p : Option Nat} {a : α} (h : at? l.toArray p = some a) :
    a ∈ l := by
  obtain ⟨i, -, hi⟩ := Option.bind_eq_some_iff.mp h
  rw [List.getElem?_toArray] at hi
  exact List.mem_of_getElem? hi

theorem proper_gather {ps : List (Option Nat)} (hv : Proper v) : Proper (gather v ps) := by
  refine proper_map fun p _ n hn => ?_
  obtain ⟨e, he, rfl⟩ : ∃ e, at? v.toArray p = some e ∧ e = some n := by
    simpa [Option.join_eq_some_iff] using hn
  exact hv n (at?_mem he)

theorem WellFormed.subset (hx : x.WellFormed) (h : subset x index = .ok y) : y.WellFormed := by
  obtain ⟨ps, -, h⟩ := except_bind_eq_ok.mp h
  cases hx with
  | unsupported t => cases h
  | null =>
    cases h
    exact .null
  | integer hv =>
    cases h
    exact .integer (proper_gather hv)
  | @list values names hvalues hnames =>
    cases h
    refine .list (fun z hz => ?_) fun ns hns => ?_
    · obtain ⟨p, -, rfl⟩ := List.mem_map.mp hz
      cases hp : at? values.toArray p with
      | none => exact .null
      | some z => exact hvalues z (at?_mem hp)
    · obtain ⟨ns', -, rfl⟩ := Option.map_eq_some_iff.mp hns
      rw [List.length_map, List.length_map]
  | _ =>
    cases h
    constructor

theorem WellFormed.element (hx : x.WellFormed) (h : element x index = .ok y) : y.WellFormed := by
  have hsplit := hx.split
  cases hx with
  | unsupported t => cases h
  | null =>
    cases h
    exact .null
  | _ =>
    obtain ⟨p, -, h⟩ := except_bind_eq_ok.mp h
    split at h
    · split at h
      · next z hz =>
        cases h
        exact wellFormed_getElem? hsplit hz
      · cases h
    · split at h
      · cases h
        exact .null
      · cases h

theorem WellFormed.dollar {name : String} (hx : x.WellFormed) (h : dollar x name = .ok y) :
    y.WellFormed := by
  cases hx with
  | null =>
    cases h
    exact .null
  | @list values names hvalues _ =>
    cases h
    cases hfound : getNamed? (.list values names) name with
    | none => exact .null
    | some z =>
      cases names with
      | none => cases hfound
      | some ns => exact wellFormed_lookup hvalues hfound
  | _ => cases h

/-! ### Replacements -/

theorem WellFormed.setNamed_names {ns : List String} {name : String}
    (hx : (RValue.list values (some ns)).WellFormed) (hy : y.WellFormed)
    (h : RValue.setNamed (.list values (some ns)) name y = .ok z) : z.WellFormed := by
  cases hx with
  | list hvalues hnames =>
    have hns : ns.length = values.length := hnames ns rfl
    unfold RValue.setNamed at h
    cases h
    dsimp only
    split
    · refine .list (fun x hx => hvalues x (List.mem_of_mem_eraseIdx hx)) fun ns' hns' => ?_
      cases hns'
      rw [List.length_eraseIdx, List.length_eraseIdx, hns]
    · exact .list hvalues hnames
    · refine .list (fun x hx => ?_) fun ns' hns' => ?_
      · rcases List.mem_or_eq_of_mem_set hx with hx | rfl
        · exact hvalues x hx
        · exact hy
      · cases hns'
        rw [List.length_set, hns]
    · refine .list (fun x hx => ?_) fun ns' hns' => ?_
      · rcases List.mem_append.mp hx with hx | hx
        · exact hvalues x hx
        · rw [List.mem_singleton.mp hx]
          exact hy
      · cases hns'
        rw [List.length_append, List.length_append, hns, List.length_singleton,
          List.length_singleton]

theorem WellFormed.setNamed {name : String} (hx : x.WellFormed) (hy : y.WellFormed)
    (h : setNamed x name y = .ok z) : z.WellFormed := by
  cases hx with
  | null =>
    have hempty : (RValue.list [] (some [])).WellFormed :=
      .list (fun x hx => nomatch hx) fun ns hns => by
        cases hns
        rfl
    exact hempty.setNamed_names hy h
  | @list values names hvalues hnames =>
    cases names with
    | some ns => exact (WellFormed.list hvalues hnames).setNamed_names hy h
    | none =>
      have hunnamed : (RValue.list values (some (values.map fun _ => ""))).WellFormed :=
        .list hvalues fun ns hns => by
          cases hns
          exact List.length_map _
      exact hunnamed.setNamed_names hy h
  | _ => cases h

theorem wellFormed_putAt {fill : RValue} {i : Nat} (hfill : fill.WellFormed)
    (hxs : ∀ x ∈ xs, WellFormed x) (hy : y.WellFormed) : ∀ x ∈ putAt fill xs i y, x.WellFormed := by
  intro x hx
  rcases List.mem_or_eq_of_mem_set hx with hx | rfl
  · rcases List.mem_append.mp hx with hx | hx
    · exact hxs x hx
    · rw [List.eq_of_mem_replicate hx]
      exact hfill
  · exact hy

theorem wellFormed_foldl_putAt {fill : RValue} {items : List RValue} {es : List (Nat × Nat)}
    (hfill : fill.WellFormed) (hitems : ∀ x ∈ items, WellFormed x) (hxs : ∀ x ∈ xs, WellFormed x) :
    ∀ x ∈ es.foldl (fun xs e => putAt fill xs e.1 (items.getD (e.2 % items.length) .null)) xs,
      x.WellFormed := by
  induction es generalizing xs with
  | nil => exact hxs
  | cons e es ih =>
    refine ih (wellFormed_putAt hfill hxs ?_)
    rw [List.getD_eq_getElem?_getD]
    cases hitem : items[e.2 % items.length]? with
    | none => exact .null
    | some x => exact wellFormed_getElem? hitems hitem

theorem length_padTo_take {ns : List String} (n : Nat) :
    (padTo "" n (ns.take n)).length = n := by
  rw [padTo, List.length_append, List.length_replicate, List.length_take]
  omega

theorem WellFormed.replaceAt {ps : List Nat} {items : List RValue} (hx : x.WellFormed)
    (hitems : ∀ z ∈ items, WellFormed z) (h : replaceAt x ps items = .ok y) : y.WellFormed := by
  have hvector : ∀ elements : List RValue, (∀ z ∈ elements, WellFormed z) →
      (if elements.any (·.length ≠ 1) then .error .longReplacement else combine elements) = .ok y →
        y.WellFormed := by
    intro elements helements h
    split at h
    · cases h
    · exact wellFormed_combine helements h
  have hfill : (RValue.logical [none]).WellFormed := .logical _
  have hsplit := hx.split
  cases hx with
  | @list values names hvalues hnames =>
    cases h
    refine .list (wellFormed_foldl_putAt .null hitems hsplit) fun ns hns => ?_
    obtain ⟨ns', -, rfl⟩ := Option.map_eq_some_iff.mp hns
    exact length_padTo_take _
  | _ => exact hvector _ (wellFormed_foldl_putAt hfill hitems hsplit) h

theorem WellFormed.setElement (hx : x.WellFormed) (hy : y.WellFormed)
    (h : setElement x index y = .ok z) : z.WellFormed := by
  unfold RValue.setElement at h
  split at h
  · next name hname =>
    cases hx with
    | null => exact WellFormed.null.setNamed hy h
    | list hvalues hnames => exact (WellFormed.list hvalues hnames).setNamed hy h
    | _ => cases h
  · obtain ⟨p, -, h⟩ := except_bind_eq_ok.mp h
    split at h
    · refine hx.replaceAt (fun u hu => ?_) h
      rw [List.mem_singleton.mp hu]
      exact hy
    · cases h

theorem WellFormed.setSubset (hx : x.WellFormed) (hy : y.WellFormed)
    (h : setSubset x index y = .ok z) : z.WellFormed := by
  obtain ⟨ps, -, h⟩ := except_bind_eq_ok.mp h
  split at h
  · cases h
  · cases h
    exact hx
  · split at h
    · cases h
    · exact hx.replaceAt hy.split h

end ScriptBridge.RValue
