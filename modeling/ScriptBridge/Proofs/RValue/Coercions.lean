import ScriptBridge.Proofs.RValue.Combination
import ScriptBridge.Proofs.RValue.NumberText
import ScriptBridge.Proofs.RValue.Parts

/-!
# One coercion after the other

Values put together are read once more when they are put together with others. Up to doubles that
makes no difference (`truthElements_joined`, `wholeElements_joined`, `doubleElements_joined`). As
texts the elements are those of the values apart if there is no truth value among numbers, and only
then (`atomTexts_joined_iff`): truth values turn into numbers first, whose texts are digits.
-/

namespace ScriptBridge.RValue

variable {α β : Type} {f : RValue → List α} {x : RValue} {parts : List RValue}

/-- There is a truth value, not a missing one, among values that are put together as numbers. -/
def TruthAmongNumbers (parts : List RValue) : Prop :=
  (topMode? parts = some .integer ∨ topMode? parts = some .double) ∧
    ∃ v b, logical v ∈ parts ∧ some b ∈ v

/-- The elements of an atomic vector as texts, truth values as the numbers they turn into. -/
def digitTexts : RValue → List (Option String)
  | logical v => v.map (·.map fun b => toString (boolToInt b).toInt)
  | x => x.atomTexts

/-! ### Elements of one vector -/

theorem elements_of_mode?_eq_none (h : x.mode? = none) : x.truthElements = [] ∧
    x.wholeElements = [] ∧ x.doubleElements = [] ∧ x.atomTexts = [] := by
  cases x with
  | null => exact ⟨rfl, rfl, rfl, rfl⟩
  | unsupported t => exact ⟨rfl, rfl, rfl, rfl⟩
  | _ => cases h

theorem map_map_option {γ : Type} {h : β → γ} {k : α → β} {l : α → γ} (heq : ∀ a, h (k a) = l a)
    (v : List (Option α)) : (v.map (·.map k)).map (·.map h) = v.map (·.map l) := by
  rw [List.map_map]
  refine List.map_congr_left fun a _ => ?_
  rw [Function.comp_apply, Option.map_map]
  exact congrArg (a.map ·) (funext heq)

theorem wholeElements_of_truths (h : UpTo .logical x) :
    x.wholeElements = x.truthElements.map (·.map boolToInt) := by
  cases x with
  | integer v => exact absurd (h _ rfl) (by decide)
  | _ => rfl

theorem doubleElements_of_truths (h : UpTo .logical x) :
    x.doubleElements = x.truthElements.map (·.map boolToFloat) := by
  cases x with
  | integer v => exact absurd (h _ rfl) (by decide)
  | double v => exact absurd (h _ rfl) (by decide)
  | _ => rfl

theorem atomTexts_of_truths (h : UpTo .logical x) :
    x.atomTexts = x.truthElements.map (·.map logicalText) := by
  cases x with
  | integer v => exact absurd (h _ rfl) (by decide)
  | double v => exact absurd (h _ rfl) (by decide)
  | character v => exact absurd (h _ rfl) (by decide)
  | _ => rfl

theorem proper_wholeElements (x : RValue) : Proper x.wholeElements := by
  cases x with
  | logical v =>
    refine proper_map fun b _ n hn => ?_
    obtain ⟨b, -, rfl⟩ := Option.map_eq_some_iff.mp hn
    exact boolToInt_ne b
  | integer v =>
    refine proper_map fun e _ n hn => ?_
    exact of_decide_eq_true (Option.filter_eq_some_iff.mp hn).2
  | _ => exact proper_nil

theorem wholeElements_of_genuine {v : List (Option Int32)} (h : Genuine (integer v)) :
    (integer v).wholeElements = v := filter_isProper (genuine_integer.mp h)

theorem doubleElements_of_wholes (hx : x.Genuine) (h : UpTo .integer x) :
    x.doubleElements = x.wholeElements.map (·.map intToFloat) := by
  cases x with
  | logical v => exact (map_map_option intToFloat_boolToInt v).symm
  | integer v =>
    rw [wholeElements_of_genuine hx]
    rfl
  | double v => exact absurd (h _ rfl) (by decide)
  | _ => rfl

theorem digitTexts_of_wholes (hx : x.Genuine) (h : UpTo .integer x) :
    x.digitTexts = x.wholeElements.map (·.map fun n => toString n.toInt) := by
  cases x with
  | logical v =>
    exact (map_map_option (h := fun n : Int32 => toString n.toInt) (fun _ => rfl) v).symm
  | integer v =>
    rw [wholeElements_of_genuine hx]
    rfl
  | double v => exact absurd (h _ rfl) (by decide)
  | character v => exact absurd (h _ rfl) (by decide)
  | _ => rfl

theorem digitTexts_of_doubles (h : UpTo .double x) :
    x.digitTexts = x.doubleElements.map (·.map numberText) := by
  cases x with
  | logical v =>
    refine (map_map_option (fun b => ?_) v).symm
    rw [← intToFloat_boolToInt, numberText_intToFloat]
  | integer v => exact (map_map_option numberText_intToFloat v).symm
  | character v => exact absurd (h _ rfl) (by decide)
  | _ => rfl

theorem logicalText_ne (b : Bool) : toString (boolToInt b).toInt ≠ logicalText b := by
  cases b <;> decide

/-- The texts of truth values are never those of the numbers they turn into. -/
theorem digitTexts_eq_atomTexts_iff :
    x.digitTexts = x.atomTexts ↔ ∀ v b, x = logical v → some b ∉ v := by
  cases x with
  | logical v =>
    rw [digitTexts, atomTexts, List.map_inj_left]
    refine ⟨fun heq w b hw hb => ?_, fun hnone e he => ?_⟩
    · cases hw
      exact logicalText_ne b (Option.some.inj (heq (some b) hb))
    · cases e with
      | none => rfl
      | some b => exact absurd he (hnone v b rfl)
  | _ => exact iff_of_true rfl fun _ _ h => nomatch h

/-! ### Elements of vectors put together -/

/-- What holds of values put together at their last type holds of them if they have no type, too:
they have no elements then. -/
theorem elements_joined (hnone : ∀ x, x.mode? = none → f x = [])
    (h : ∀ t, topMode? parts = some t → f (together t parts) = parts.flatMap f) :
    f (joined parts) = parts.flatMap f := by
  cases ht : topMode? parts with
  | none =>
    have hnil : parts.flatMap f = [] :=
      List.flatMap_eq_nil_iff.mpr fun x hx => hnone x (topMode?_eq_none.mp ht x hx)
    rw [joined_of_topMode?_eq_none ht, hnone null rfl, hnil]
  | some t =>
    rw [joined_of_topMode? ht]
    exact h t ht

theorem map_flatMap_eq {g : RValue → List β} {k : α → β}
    (h : ∀ x ∈ parts, g x = (f x).map k) : (parts.flatMap f).map k = parts.flatMap g := by
  rw [List.map_flatMap]
  exact (List.flatMap_congr h).symm

theorem truthElements_joined (h : UpTo .logical (joined parts)) :
    (joined parts).truthElements = parts.flatMap truthElements := by
  refine elements_joined (fun x hx => (elements_of_mode?_eq_none hx).1) fun t ht => ?_
  have hle := h t ((mode?_joined parts).trans ht)
  cases t with
  | logical => rfl
  | _ => exact absurd hle (by decide)

theorem wholeElements_joined (h : UpTo .integer (joined parts)) :
    (joined parts).wholeElements = parts.flatMap wholeElements := by
  refine elements_joined (fun x hx => (elements_of_mode?_eq_none hx).2.1) fun t ht => ?_
  have hle := h t ((mode?_joined parts).trans ht)
  have hparts := upTo_topMode? ht
  cases t with
  | logical => exact map_flatMap_eq fun x hx => wholeElements_of_truths (hparts x hx)
  | integer => exact map_flatMap_eq fun x _ => (filter_isProper (proper_wholeElements x)).symm
  | _ => exact absurd hle (by decide)

section

variable (hgenuine : ∀ x ∈ parts, Genuine x)

include hgenuine

theorem doubleElements_joined (h : UpTo .double (joined parts)) :
    (joined parts).doubleElements = parts.flatMap doubleElements := by
  refine elements_joined (fun x hx => (elements_of_mode?_eq_none hx).2.2.1) fun t ht => ?_
  have hle := h t ((mode?_joined parts).trans ht)
  have hparts := upTo_topMode? ht
  cases t with
  | logical => exact map_flatMap_eq fun x hx => doubleElements_of_truths (hparts x hx)
  | integer =>
    exact map_flatMap_eq fun x hx => doubleElements_of_wholes (hgenuine x hx) (hparts x hx)
  | double => rfl
  | _ => exact absurd hle (by decide)

theorem atomTexts_joined_numbers
    (ht : topMode? parts = some .integer ∨ topMode? parts = some .double) :
    (joined parts).atomTexts = parts.flatMap digitTexts := by
  rcases ht with ht | ht
  · rw [joined_of_topMode? ht]
    exact map_flatMap_eq fun x hx => digitTexts_of_wholes (hgenuine x hx) (upTo_topMode? ht x hx)
  · rw [joined_of_topMode? ht]
    exact map_flatMap_eq fun x hx => digitTexts_of_doubles (upTo_topMode? ht x hx)

end

theorem atomTexts_joined (hlist : topMode? parts ≠ some .list)
    (hnumbers : ¬(topMode? parts = some .integer ∨ topMode? parts = some .double)) :
    (joined parts).atomTexts = parts.flatMap atomTexts := by
  refine elements_joined (fun x hx => (elements_of_mode?_eq_none hx).2.2.2) fun t ht => ?_
  cases t with
  | logical => exact map_flatMap_eq fun x hx => atomTexts_of_truths (upTo_topMode? ht x hx)
  | integer => exact absurd (.inl ht) hnumbers
  | double => exact absurd (.inr ht) hnumbers
  | character => rfl
  | list => exact absurd ht hlist

theorem length_digitTexts (x : RValue) : x.digitTexts.length = x.atomTexts.length := by
  cases x with
  | logical v => rw [digitTexts, atomTexts, List.length_map, List.length_map]
  | _ => rfl

/-- Two ways to read values agree on all of them together if they agree on each. -/
theorem flatMap_inj_of_length {xs : List β} {f g : β → List α}
    (h : ∀ x ∈ xs, (f x).length = (g x).length) :
    xs.flatMap f = xs.flatMap g ↔ ∀ x ∈ xs, f x = g x := by
  rw [List.flatMap_def, List.flatMap_def, ← List.map_inj_left, List.eq_iff_flatten_eq, List.map_map,
    List.map_map]
  exact (and_iff_left (List.map_inj_left.mpr h)).symm

theorem atomTexts_joined_iff (hgenuine : ∀ x ∈ parts, Genuine x)
    (hlist : topMode? parts ≠ some .list) :
    (joined parts).atomTexts = parts.flatMap atomTexts ↔ ¬TruthAmongNumbers parts := by
  by_cases ht : topMode? parts = some .integer ∨ topMode? parts = some .double
  · rw [atomTexts_joined_numbers hgenuine ht, flatMap_inj_of_length fun x _ => length_digitTexts x]
    refine ⟨fun heq htruth => ?_, fun htruth x hx => ?_⟩
    · obtain ⟨-, v, b, hv, hb⟩ := htruth
      exact digitTexts_eq_atomTexts_iff.mp (heq _ hv) v b rfl hb
    · refine digitTexts_eq_atomTexts_iff.mpr fun v b hv hb => htruth ⟨ht, v, b, ?_, hb⟩
      rwa [← hv]
  · exact iff_of_true (atomTexts_joined hlist ht) fun htruth => ht htruth.1

end ScriptBridge.RValue
