import ScriptBridge.Proofs.RValue.Combination
import ScriptBridge.RValue.Select

/-!
# Elements that are taken without looking

A coercion keeps the number of elements (`KeepsLength`). So where the first element is taken from
what a value was coerced to, because the value has an element or just one, there is one to take
(`FirstElements`): in a condition, in the elements of a list that is coerced, and in the index of a
single element. Values can always be put together; then they have as many elements as they had
apart, and one name each if they had one each (`elements_counted`).
-/

namespace ScriptBridge.RValue

variable {α : Type} {read : RValue → Except Fault (List (Option α))} {x : RValue}
  {v : List (Option α)}

/-- What a value is read as has as many elements as the value. -/
def KeepsLength (read : RValue → Except Fault (List (Option α))) : Prop :=
  ∀ x v, read x = .ok v → v.length = x.length

theorem KeepsLength.exists_first (h : KeepsLength read) (hx : x.isEmpty = false)
    (hv : read x = .ok v) : ∃ e rest, v = e :: rest := by
  refine List.exists_cons_of_ne_nil fun hnil => ?_
  have hlength : x.length = 0 := by rw [← h x v hv, hnil, List.length_nil]
  rw [isEmpty, hlength] at hx
  cases hx

theorem KeepsLength.exists_single (h : KeepsLength read) (hx : x.length = 1)
    (hv : read x = .ok v) : ∃ e, v = [e] :=
  List.length_eq_one_iff.mp ((h x v hv).trans hx)

/-- A single element of a list is a text by itself, unless it is a list. -/
theorem asCharacter_of_single (hx : x.length = 1) (hlist : x.mode? ≠ some .list) :
    asCharacter x = .ok [elementText x] := by
  have hatoms : asCharacter x = .ok x.atomTexts := by
    cases x with
    | list values names => exact absurd rfl hlist
    | null => cases hx
    | unsupported t => cases hx
    | _ => rfl
  obtain ⟨s, hs⟩ := KeepsLength.exists_single (fun _ _ => length_asCharacter) hx hatoms
  rw [hatoms, elementText, if_pos ⟨hx, hlist⟩, hs]
  rfl

theorem exists_position (x : RValue) {keys : List (Option String)}
    (h : (character keys).length = 1) : ∃ p, positions x (character keys) = .ok [p] := by
  obtain ⟨key, rfl⟩ := List.length_eq_one_iff.mp h
  exact ⟨namePosition? (x.names?.getD []) key, rfl⟩

/-- Wherever the first element is taken, there is one. -/
structure FirstElements : Prop where
  /-- A condition that is not empty has a first text, and a first truth value if it has any. -/
  condition (x : RValue) : x.isEmpty = false →
    (∀ v, x = character v → ∃ s rest, v = s :: rest) ∧
      ∀ v, asLogical x = .ok v → ∃ b rest, v = b :: rest
  /-- A single element of a list that is no list has one text, which the list is read as there. -/
  element (x : RValue) : x.length = 1 →
    (x.mode? ≠ some .list → asCharacter x = .ok [elementText x]) ∧
      (∀ v, asDouble x = .ok v → ∃ d, v = [d]) ∧
      (∀ v, asInteger x = .ok v → ∃ n, v = [n]) ∧
      ∀ v, asLogical x = .ok v → ∃ b, v = [b]
  /-- A single index has one position by name and is one number. -/
  index (x index : RValue) : index.length = 1 →
    (∀ keys, index = character keys → ∃ p, positions x index = .ok [p]) ∧
      ∀ v, numeric index = .ok v → ∃ d, v = [d]

theorem firstElements : FirstElements where
  condition x hx := by
    refine ⟨fun v hv => ?_, fun v => KeepsLength.exists_first (fun _ _ => length_asLogical) hx⟩
    subst hv
    exact KeepsLength.exists_first (fun _ _ => length_asCharacter) hx rfl
  element x hx :=
    ⟨asCharacter_of_single hx,
      fun _ => KeepsLength.exists_single (fun _ _ => length_asDouble) hx,
      fun _ => KeepsLength.exists_single (fun _ _ => length_asInteger) hx,
      fun _ => KeepsLength.exists_single (fun _ _ => length_asLogical) hx⟩
  index x index hindex := by
    refine ⟨fun keys hkeys => ?_,
      fun _ => KeepsLength.exists_single (fun _ _ => length_numeric) hindex⟩
    subst hkeys
    exact exists_position x hindex

/-- Names are as many as elements when values are put together, if they are in each of them. -/
theorem namesEach_combine {parts : List RValue} {y : RValue} (h : ∀ x ∈ parts, NamesEach x)
    (hy : combine parts = .ok y) : NamesEach y := by
  unfold combine at hy
  split at hy
  · cases hy
    exact fun _ hnames => nomatch hnames
  · cases hy
    exact namesEach_combineLists h
  all_goals
    obtain ⟨v, -, rfl⟩ := except_map_eq_ok.mp hy
    exact fun _ hnames => nomatch hnames

/-- A coercion that succeeds keeps the number of elements, so there is a first element wherever one
is taken. Values can always be put together. They have as many elements together as apart, and if
they have names then one for each element, given that the names of each were as many as its
elements. -/
theorem elements_counted (parts : List RValue) :
    (KeepsLength asCharacter ∧ KeepsLength asDouble ∧ KeepsLength asInteger ∧
      KeepsLength asLogical) ∧
    FirstElements ∧
    ∃ y, combine parts = .ok y ∧ y.length = (parts.map length).sum ∧
      ((∀ x ∈ parts, NamesEach x) → NamesEach y) := by
  have hcombine := combine_eq parts
  exact ⟨⟨fun _ _ => length_asCharacter, fun _ _ => length_asDouble,
      fun _ _ => length_asInteger, fun _ _ => length_asLogical⟩,
    firstElements, joined parts, hcombine, length_combine hcombine,
    fun h => namesEach_combine h hcombine⟩

end ScriptBridge.RValue
