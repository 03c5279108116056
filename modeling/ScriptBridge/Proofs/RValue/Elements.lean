import ScriptBridge.Proofs.RValue.Paths
import ScriptBridge.Proofs.RValue.Placement

/-!
# Elements read back

What `x[[i]] <- v` wrote into a list is what `x[[i]]` reads (`element_setElement`), provided that
the index has a single element. The writer takes the first of several names for the index, where the
reader refuses more than one (`element_of_several_names`).
-/

namespace ScriptBridge.RValue

variable {x y v index : RValue} {values : List RValue} {names : Option (List String)}
  {name : String} {others : List (Option String)} {p : Option Nat} {i : Nat}

/-! ### Indices of single elements -/

theorem exists_of_asString? (h : index.asString? = some name) :
    ∃ others, index = character (some name :: others) := by
  unfold asString? at h
  split at h
  · next s others =>
    cases h
    exact ⟨others, rfl⟩
  · cases h

theorem length_of_singlePosition (h : singlePosition x index = .ok p) : index.length = 1 := by
  unfold singlePosition at h
  split at h
  · cases h
  · split at h
    · cases h
    · next hlength => exact Decidable.not_not.mp hlength

/-- The position that an index other than a name tells is the same in all values. -/
theorem singlePosition_of_number (hname : index.asString? = none)
    (h : singlePosition x index = .ok (some i)) (y : RValue) :
    singlePosition y index = .ok (some i) := by
  cases index with
  | character keys =>
    -- Without a first name there is no position.
    have hkey : keys.headD none = none := by
      cases keys with
      | nil => rfl
      | cons key keys =>
        cases key with
        | none => rfl
        | some name => cases hname
    have hlength := length_of_singlePosition h
    rw [singlePosition, if_neg (by rw [isEmpty, hlength]; decide), if_neg (by simpa using hlength),
      hkey] at h
    cases h
  | _ => exact h

theorem singlePosition_ofFloat {d : Float} (hd : ¬d < 1) (hi : position d = .ok i) (x : RValue) :
    singlePosition x (ofFloat d) = .ok (some i) := by
  show (if d < 1 then Except.error Fault.invalidSubscript
    else do return some (← position d)) = _
  rw [if_neg hd, hi]
  rfl

/-! ### Writing -/

theorem setElement_of_asString? (hname : index.asString? = some name) :
    (list values names).setElement index v = (list values names).setNamed name v := by
  rw [setElement, hname]

theorem exists_of_setNamed (hnames : ∀ ns ∈ names, ns.length = values.length) (hv : v ≠ null)
    (h : (list values names).setNamed name v = .ok y) :
    ∃ es, y = namedList (putEntry name v es) := by
  obtain ⟨es, hes⟩ := exists_hasEntries_list hnames
  have hwrite : (list values names).setNamed name v = _ := hes.write (.dollar name) hv
  rw [hwrite] at h
  cases h
  exact ⟨es, rfl⟩

theorem setElement_of_position (hname : index.asString? = none)
    (hp : singlePosition x index = .ok (some i)) : x.setElement index v = x.replaceAt [i] [v] := by
  rw [setElement, hname]
  simp only [hp, bind, Except.bind]

theorem exists_of_setElement (hnames : ∀ ns ∈ names, ns.length = values.length)
    (hname : index.asString? = none) (h : (list values names).setElement index v = .ok y) :
    ∃ i new names', singlePosition (list values names) index = .ok (some i) ∧ new[i]? = some v ∧
      y = list new names' := by
  obtain ⟨i, hp⟩ : ∃ i, singlePosition (list values names) index = .ok (some i) := by
    rw [setElement, hname] at h
    obtain ⟨p, hp, h⟩ := except_bind_eq_ok.mp h
    cases p with
    | none => cases h
    | some i => exact ⟨i, hp⟩
  rw [setElement_of_position hname hp] at h
  obtain ⟨new, hnew, -, rfl⟩ := exists_of_replaceAt_list (List.cons_ne_nil v []) hnames h
  have hi : new[i]? = some v := hnew.getElem?_of_nodup (List.nodup_singleton i) (k := 0) rfl
  exact ⟨i, new, _, hp, hi, rfl⟩

/-! ### Reading -/

theorem element_of_position {new : List RValue} {names' : Option (List String)}
    (hp : singlePosition (list new names') index = .ok (some i)) (hi : new[i]? = some v) :
    (list new names').element index = .ok v := by
  simp only [element, hp, bind, Except.bind, split, hi]
  rfl

theorem element_putEntry (name : String) (v : RValue) (es : List (String × RValue)) :
    (namedList (putEntry name v es)).element (.string name) = .ok v := by
  rw [element_string, dollar_namedList, get?_putEntry, if_pos rfl, Option.getD_some]

theorem element_of_several_names (name : String) (other : Option String)
    (others : List (Option String)) (es : List (String × RValue)) :
    (namedList es).element (character (some name :: other :: others)) = .error .manySubscripts :=
  rfl

/-! ### What was written is read -/

/-- After a value other than null was written to an element of a list, with a name for each element
or none, an index of a single element reads it. Any other index that could be written to is several
names: the first one alone reads the value, and all of them are refused. -/
theorem element_setElement (hnames : ∀ ns ∈ names, ns.length = values.length) (hv : v ≠ null)
    (h : (list values names).setElement index v = .ok y) :
    (index.length = 1 → y.element index = .ok v) ∧
      (index.length ≠ 1 → ∃ name others, others ≠ [] ∧ index = character (some name :: others) ∧
        y.element (.string name) = .ok v ∧ y.element index = .error .manySubscripts) := by
  cases hname : index.asString? with
  | none =>
    obtain ⟨i, new, names', hp, hi, rfl⟩ := exists_of_setElement hnames hname h
    refine ⟨fun _ => ?_, fun hlength => absurd (length_of_singlePosition hp) hlength⟩
    exact element_of_position (singlePosition_of_number hname hp _) hi
  | some name =>
    obtain ⟨others, rfl⟩ := exists_of_asString? hname
    rw [setElement_of_asString? hname] at h
    obtain ⟨es, rfl⟩ := exists_of_setNamed hnames hv h
    have hread := element_putEntry name v es
    cases others with
    | nil => exact ⟨fun _ => hread, fun hlength => absurd rfl hlength⟩
    | cons other others =>
      have hseveral := element_of_several_names name other others (putEntry name v es)
      refine ⟨fun hlength => ?_, fun _ => ⟨name, other :: others, List.cons_ne_nil _ _, rfl, hread,
        hseveral⟩⟩
      rw [length, List.length_cons, List.length_cons] at hlength
      omega

/-- By a number behind the end of a named list, and by the empty name in a list of two. -/
theorem element_setElement_grown :
    let grown := list [ofInt32 1, null, string "v"] (some ["a", "", ""])
    let unnamed := list [ofInt32 1, strings ["u", "w"]] (some ["x", ""])
    ((list [ofInt32 1] (some ["a"])).setElement (ofFloat 3.9) (string "v") = .ok grown ∧
      grown.element (ofFloat 3.9) = .ok (string "v")) ∧
    (list [ofInt32 1, null] (some ["x", ""])).setElement (string "") (strings ["u", "w"]) =
      .ok unnamed ∧ unnamed.element (string "") = .ok (strings ["u", "w"]) := by
  intro grown unnamed
  have hgrown : (list [ofInt32 1] (some ["a"])).setElement (ofFloat 3.9) (string "v") =
      .ok grown := by
    have hposition : singlePosition (list [ofInt32 1] (some ["a"])) (ofFloat 3.9) =
        .ok (some 2) := singlePosition_ofFloat (by decide +kernel) (by decide +kernel) _
    rw [setElement_of_position rfl hposition]
    rfl
  have hunnamed : (list [ofInt32 1, null] (some ["x", ""])).setElement (string "")
      (strings ["u", "w"]) = .ok unnamed := rfl
  have hnames {n : Nat} {s : List String} (h : s.length = n) :
      ∀ ns ∈ some s, ns.length = n := fun ns hns => by
    cases hns
    exact h
  exact ⟨⟨hgrown, (element_setElement (hnames rfl) RValue.noConfusion hgrown).1 rfl⟩,
    hunnamed, (element_setElement (hnames rfl) RValue.noConfusion hunnamed).1 rfl⟩

/-- Two names write the element of the first one, and do not read it. -/
theorem element_not_read :
    let names := strings ["a", "b"]
    let y := list [ofInt32 1] (some ["a"])
    (list [] none).setElement names (ofInt32 1) = .ok y ∧ ofInt32 1 ≠ null ∧
    y.element names = .error .manySubscripts ∧ y.element names ≠ .ok (ofInt32 1) :=
  ⟨rfl, RValue.noConfusion, rfl, fun h => nomatch h⟩

end ScriptBridge.RValue
