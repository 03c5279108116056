import ScriptBridge.Proofs.RValue.Coercions

/-!
# Lists without their nesting

`unlist` puts the elements of a list together after it did so for each list among them. What it
yields has the type and the number of elements of the values at any depth put together at once
(`mode?_flat`, `length_flat`), but not always the same elements: a truth value next to numbers in an
inner list is a number already when a text further out makes it a text (`Digitized`). There is no
other case (`joined_leaves_iff`).
-/

namespace ScriptBridge.RValue

variable {α : Type} {x y : RValue} {xs values : List RValue} {names : Option (List String)}

/-! ### Definitions -/

mutual

/-- The values at any depth that are no lists, in order. -/
def leaves : RValue → List RValue
  | list values _ => leavesAll values
  | null => [null]
  | logical v => [logical v]
  | integer v => [integer v]
  | double v => [double v]
  | character v => [character v]
  | unsupported t => [unsupported t]

def leavesAll : List RValue → List RValue
  | [] => []
  | x :: xs => leaves x ++ leavesAll xs

end

/-- What `unlist` yields. -/
def flat (x : RValue) : RValue := (unlist x).toOption.getD null

/-! ### Leaves -/

theorem leavesAll_eq (xs : List RValue) : leavesAll xs = xs.flatMap leaves := by
  induction xs with
  | nil => rfl
  | cons x xs ih => rw [leavesAll, ih, List.flatMap_cons]

theorem leaves_list (values : List RValue) (names : Option (List String)) :
    leaves (list values names) = values.flatMap leaves := leavesAll_eq values

theorem mode?_ne_list_of_mem_leaves (h : y ∈ leaves x) : y.mode? ≠ some .list := by
  induction x using byElements with
  | list values names ih =>
    rw [leaves_list] at h
    obtain ⟨z, hz, hy⟩ := List.mem_flatMap.mp h
    exact ih z hz hy
  | _ =>
    rw [List.mem_singleton.mp h]
    nofun

theorem leaves_subset_of_partOf (h : PartOf y x) : leaves y ⊆ leaves x := by
  induction h with
  | self => exact List.Subset.refl _
  | element mem _ ih =>
    intro z hz
    rw [leaves_list]
    exact List.mem_flatMap.mpr ⟨_, mem, ih hz⟩

theorem topMode?_leaves_ne_list (x : RValue) : topMode? (leaves x) ≠ some .list := by
  intro ht
  obtain ⟨y, hy, hlist⟩ := exists_of_topMode? ht
  exact mode?_ne_list_of_mem_leaves hy hlist

theorem genuine_iff_leaves : x.Genuine ↔ ∀ y ∈ leaves x, y.Genuine := by
  induction x using byElements with
  | list values names ih =>
    rw [genuine_list, leaves_list]
    constructor
    · intro hvalues y hy
      obtain ⟨z, hz, hy⟩ := List.mem_flatMap.mp hy
      exact (ih z hz).mp (hvalues z hz) y hy
    · exact fun h z hz => (ih z hz).mpr fun y hy => h y (List.mem_flatMap.mpr ⟨z, hz, hy⟩)
  | _ => exact List.forall_mem_singleton.symm

/-! ### What `unlist` yields -/

theorem unlistAll_eq (h : ∀ x ∈ xs, unlist x = .ok (flat x)) :
    unlistAll xs = .ok (xs.map flat) := by
  induction xs with
  | nil => rfl
  | cons x xs ih =>
    rw [List.forall_mem_cons] at h
    rw [unlistAll, h.1, ih h.2]
    rfl

theorem unlist_list (names : Option (List String)) (h : ∀ x ∈ values, unlist x = .ok (flat x)) :
    unlist (list values names) = .ok (joined (values.map flat)) := by
  rw [unlist, unlistAll_eq h]
  exact combine_eq _

theorem unlist_eq (x : RValue) : unlist x = .ok (flat x) := by
  induction x using byElements with
  | list values names ih =>
    rw [flat, unlist_list names ih]
    rfl
  | _ => rfl

theorem flat_list (values : List RValue) (names : Option (List String)) :
    flat (list values names) = joined (values.map flat) := by
  rw [flat, unlist_list names fun x _ => unlist_eq x]
  rfl

/-! ### Type and number of elements -/

theorem topMode?_map_flat (h : ∀ x ∈ xs, (flat x).mode? = topMode? (leaves x)) :
    topMode? (xs.map flat) = topMode? (xs.flatMap leaves) := by
  induction xs with
  | nil => rfl
  | cons x xs ih =>
    rw [List.forall_mem_cons] at h
    rw [List.map_cons, topMode?_cons, List.flatMap_cons, topMode?_append, h.1, ih h.2]

theorem mode?_flat (x : RValue) : (flat x).mode? = topMode? (leaves x) := by
  induction x using byElements with
  | list values names ih => rw [flat_list, mode?_joined, leaves_list, topMode?_map_flat ih]
  | _ => rfl

theorem topMode?_values (values : List RValue) (names : Option (List String)) :
    topMode? (values.map flat) = topMode? (leaves (list values names)) := by
  rw [← mode?_flat, flat_list, mode?_joined]

theorem length_flat (x : RValue) : (flat x).length = ((leaves x).map length).sum := by
  induction x using byElements with
  | list values names ih =>
    have hmap : (values.map flat).map length = values.map fun x => ((leaves x).map length).sum := by
      rw [List.map_map]
      exact List.map_congr_left ih
    rw [flat_list, length_combine (combine_eq _), hmap, leaves_list, List.map_flatMap,
      List.flatMap_def, List.sum_flatten, List.map_map]
    rfl
  | _ => rfl

/-! ### Elements -/

/-- What `unlist` yields is no list, and its integers are genuine. -/
theorem genuine_flat (hx : x.Genuine) : (flat x).Genuine := by
  cases x with
  | list values names =>
    have hlist := topMode?_leaves_ne_list (list values names)
    rw [← topMode?_values] at hlist
    rw [flat_list]
    cases ht : topMode? (values.map flat) with
    | none =>
      rw [joined_of_topMode?_eq_none ht]
      exact genuine_null
    | some t =>
      rw [joined_of_topMode? ht]
      cases t with
      | logical => exact genuine_logical _
      | integer =>
        refine genuine_integer.mpr fun n hn => ?_
        obtain ⟨y, -, hn⟩ := List.mem_flatMap.mp hn
        exact proper_wholeElements y n hn
      | double => exact genuine_double _
      | character => exact genuine_character _
      | list => exact absurd ht hlist
  | _ => exact hx

theorem flatMap_map_flat {f : RValue → List α} (names : Option (List String))
    (h : ∀ x ∈ values, f (flat x) = (leaves x).flatMap f) :
    (values.map flat).flatMap f = (leaves (list values names)).flatMap f := by
  rw [leaves_list, List.flatMap_map, List.flatMap_assoc]
  exact List.flatMap_congr h

/-- Read as a vector of a type up to doubles, the value has the elements of all the parts. -/
structure Gathers (y : RValue) (parts : List RValue) : Prop where
  truths : UpTo .logical y → y.truthElements = parts.flatMap truthElements
  wholes : UpTo .integer y → y.wholeElements = parts.flatMap wholeElements
  doubles : UpTo .double y → y.doubleElements = parts.flatMap doubleElements

theorem gathers_flat (hx : x.Genuine) : Gathers (flat x) (leaves x) := by
  induction x using byElements with
  | list values names ih =>
    have hvalues := genuine_list.mp hx
    have hparts : ∀ y ∈ values.map flat, y.Genuine := by
      intro y hy
      obtain ⟨v, hv, rfl⟩ := List.mem_map.mp hy
      exact genuine_flat (hvalues v hv)
    have hupTo : ∀ {m}, UpTo m (joined (values.map flat)) → ∀ v ∈ values, UpTo m (flat v) :=
      fun h v hv => upTo_of_joined h _ (List.mem_map_of_mem hv)
    rw [flat_list]
    refine ⟨fun h => ?_, fun h => ?_, fun h => ?_⟩
    · rw [truthElements_joined h]
      exact flatMap_map_flat names fun v hv => (ih v hv (hvalues v hv)).truths (hupTo h v hv)
    · rw [wholeElements_joined h]
      exact flatMap_map_flat names fun v hv => (ih v hv (hvalues v hv)).wholes (hupTo h v hv)
    · rw [doubleElements_joined hparts h]
      exact flatMap_map_flat names fun v hv => (ih v hv (hvalues v hv)).doubles (hupTo h v hv)
  | _ =>
    refine ⟨fun _ => ?_, fun _ => ?_, fun _ => ?_⟩ <;> exact (List.flatMap_singleton _ _).symm

/-- Unless there is a text among them, the values at any depth go together at once to the same
vector. -/
theorem flat_eq_joined (hx : (list values names).Genuine)
    (htext : topMode? (leaves (list values names)) ≠ some .character) :
    flat (list values names) = joined (leaves (list values names)) := by
  have hgathers : ∀ v ∈ values, Gathers (flat v) (leaves v) :=
    fun v hv => gathers_flat (genuine_list.mp hx v hv)
  have hlist := topMode?_leaves_ne_list (list values names)
  have htop := topMode?_values values names
  rw [flat_list]
  cases ht : topMode? (leaves (list values names)) with
  | none => rw [joined_of_topMode?_eq_none ht, joined_of_topMode?_eq_none (htop.trans ht)]
  | some t =>
    have hupTo : ∀ v ∈ values, UpTo t (flat v) :=
      fun v hv => upTo_topMode? (htop.trans ht) _ (List.mem_map_of_mem hv)
    rw [joined_of_topMode? ht, joined_of_topMode? (htop.trans ht)]
    cases t with
    | logical =>
      exact congrArg logical (flatMap_map_flat names fun v hv =>
        (hgathers v hv).truths (hupTo v hv))
    | integer =>
      exact congrArg integer (flatMap_map_flat names fun v hv =>
        (hgathers v hv).wholes (hupTo v hv))
    | double =>
      exact congrArg double (flatMap_map_flat names fun v hv =>
        (hgathers v hv).doubles (hupTo v hv))
    | character => exact absurd ht htext
    | list => exact absurd ht hlist

/-! ### Texts -/

/-- Truth values among the numbers of a part are among the numbers of the whole, if that has no
text. -/
theorem TruthAmongNumbers.whole (h : TruthAmongNumbers (leaves y)) (hpart : PartOf y x)
    (htext : topMode? (leaves x) ≠ some .character) : TruthAmongNumbers (leaves x) := by
  obtain ⟨hnumbers, v, b, hv, hb⟩ := h
  have hsubset := leaves_subset_of_partOf hpart
  refine ⟨?_, v, b, hsubset hv, hb⟩
  obtain ⟨m, hm, hrank⟩ : ∃ m, topMode? (leaves y) = some m ∧ Mode.integer.rank ≤ m.rank := by
    rcases hnumbers with hm | hm
    · exact ⟨_, hm, by decide⟩
    · exact ⟨_, hm, by decide⟩
  obtain ⟨z, hz, hzmode⟩ := exists_of_topMode? hm
  cases ht : topMode? (leaves x) with
  | none =>
    rw [topMode?_eq_none.mp ht z (hsubset hz)] at hzmode
    cases hzmode
  | some t =>
    have hle := Nat.le_trans hrank (le_topMode? (hsubset hz) hzmode ht)
    cases t with
    | logical => exact absurd hle (by decide)
    | integer => exact .inl rfl
    | double => exact .inr rfl
    | character => exact absurd ht htext
    | list => exact absurd ht (topMode?_leaves_ne_list x)

theorem not_truthAmongNumbers_singleton (x : RValue) : ¬TruthAmongNumbers [x] := by
  rintro ⟨hnumber, v, b, hv, -⟩
  rw [← List.mem_singleton.mp hv] at hnumber
  rcases hnumber with h | h <;> cases h

theorem length_atomTexts (h : x.mode? ≠ some .list) : x.atomTexts.length = x.length := by
  cases x with
  | list values names => exact absurd rfl h
  | null => rfl
  | unsupported t => rfl
  | character v => rfl
  | _ => exact List.length_map _

theorem length_texts_flat (x : RValue) :
    (flat x).atomTexts.length = ((leaves x).flatMap atomTexts).length := by
  have hlist : (flat x).mode? ≠ some .list := mode?_flat x ▸ topMode?_leaves_ne_list x
  rw [length_atomTexts hlist, length_flat, List.length_flatMap]
  refine congrArg List.sum (List.map_congr_left fun y hy => ?_)
  exact (length_atomTexts (mode?_ne_list_of_mem_leaves hy)).symm

/-- The texts of a list are those of the values in it if no part of it has truth values among
numbers. -/
theorem texts_flat_iff (hx : x.Genuine) : (flat x).atomTexts = (leaves x).flatMap atomTexts ↔
    ∀ part, PartOf part x → ¬TruthAmongNumbers (leaves part) := by
  induction x using byElements with
  | list values names ih =>
    -- Next to a text the vectors of the elements become texts one by one, so only a part of one of
    -- them matters. Without a text the leaves go together at once, and the whole list is the part.
    by_cases htext : topMode? (leaves (list values names)) = some .character
    · have hflat : (flat (list values names)).atomTexts = (values.map flat).flatMap atomTexts := by
        rw [flat_list, joined_of_topMode? ((topMode?_values values names).trans htext)]
        rfl
      have heach : ∀ v ∈ values, (flat v).atomTexts = (leaves v).flatMap atomTexts ↔
          ∀ part, PartOf part v → ¬TruthAmongNumbers (leaves part) :=
        fun v hv => ih v hv (genuine_list.mp hx v hv)
      rw [hflat, leaves_list, List.flatMap_map, List.flatMap_assoc,
        flatMap_inj_of_length fun v _ => length_texts_flat v]
      refine ⟨fun heq part hpart => ?_, fun hnone v hv => ?_⟩
      · rcases partOf_list.mp hpart with rfl | ⟨v, hv, hpart⟩
        · rintro ⟨hnumber, -⟩
          rw [htext] at hnumber
          rcases hnumber with h | h <;> cases h
        · exact (heach v hv).mp (heq v hv) part hpart
      · exact (heach v hv).mpr fun part hpart => hnone part (.element hv hpart)
    · rw [flat_eq_joined hx htext,
        atomTexts_joined_iff (genuine_iff_leaves.mp hx) (topMode?_leaves_ne_list _)]
      exact ⟨fun hnone part hpart htruth => hnone (htruth.whole hpart htext),
        fun hnone => hnone _ .self⟩
  | _ =>
    refine iff_of_true (List.flatMap_singleton _ _).symm fun part hpart => ?_
    cases hpart
    exact not_truthAmongNumbers_singleton _

/-- There is a text at some depth, and some part has truth values among numbers: as texts these are
digits. -/
def Digitized (x : RValue) : Prop :=
  topMode? (leaves x) = some .character ∧
    ∃ part, PartOf part x ∧ TruthAmongNumbers (leaves part)

theorem joined_leaves_iff (hx : (list values names).Genuine) :
    joined (leaves (list values names)) = flat (list values names) ↔
      ¬Digitized (list values names) := by
  by_cases htext : topMode? (leaves (list values names)) = some .character
  · have hflat : flat (list values names) = character (flat (list values names)).atomTexts := by
      rw [flat_list, joined_of_topMode? ((topMode?_values values names).trans htext)]
      rfl
    rw [joined_of_topMode? htext, hflat, together, character.injEq, eq_comm, texts_flat_iff hx,
      Digitized]
    simp only [htext, true_and, not_exists, not_and]
  · exact iff_of_true (flat_eq_joined hx htext).symm fun h => htext h.1

/-! ### Lists without their nesting -/

/-- From every list `unlist` yields a vector that is no list, of the type that the values at any
depth have together and with as many elements as they have together. It is what these values go
together to at once if the list is not digitized, and only then; such lists yield the same vector
however the same values are nested. -/
theorem unlist_flattens (values : List RValue) (names : Option (List String)) :
    ∃ y, unlist (list values names) = .ok y ∧
      y.mode? ≠ some .list ∧
      y.mode? = topMode? (leaves (list values names)) ∧
      y.length = ((leaves (list values names)).map length).sum ∧
      ((list values names).Genuine →
        (combine (leaves (list values names)) = .ok y ↔ ¬Digitized (list values names)) ∧
        (¬Digitized (list values names) → ∀ values' names',
          leaves (list values' names') = leaves (list values names) →
            ¬Digitized (list values' names') → unlist (list values' names') = .ok y)) := by
  refine ⟨flat (list values names), unlist_eq _, mode?_flat _ ▸ topMode?_leaves_ne_list _,
    mode?_flat _, length_flat _, fun hx => ⟨?_, fun hplain values' names' hleaves hplain' => ?_⟩⟩
  · rw [combine_eq, Except.ok.injEq]
    exact joined_leaves_iff hx
  · have hx' : (list values' names').Genuine := by
      rw [genuine_iff_leaves, hleaves]
      exact genuine_iff_leaves.mp hx
    have hsame : joined (leaves (list values' names')) = flat (list values' names') :=
      (joined_leaves_iff hx').mpr hplain'
    rw [unlist_eq, ← hsame, hleaves, (joined_leaves_iff hx).mpr hplain]

/-- A missing truth value next to a number is no digit as a text. -/
theorem unlist_flattens_missing :
    let x := list [list [logical [none], ofInt32 7] none, string "a"] (some ["", "b"])
    x.Genuine ∧ ¬Digitized x ∧
      unlist x = .ok (character [none, some "7", some "a"]) ∧
      combine (leaves x) = .ok (character [none, some "7", some "a"]) := by
  intro x
  have hgenuine : x.Genuine := by
    refine genuine_iff_leaves.mpr fun y hy v hv n hn => ?_
    simp only [x, leaves, leavesAll, ofInt32, string, List.append_nil, List.cons_append,
      List.nil_append, List.mem_cons, List.not_mem_nil, or_false] at hy
    rcases hy with rfl | rfl | rfl
    · cases hv
    · cases hv
      obtain rfl := Option.some.inj (List.mem_singleton.mp hn)
      decide
    · cases hv
  have hplain : ¬Digitized x := by
    rintro ⟨-, part, hpart, -, v, b, hv, hb⟩
    have hleaf := leaves_subset_of_partOf hpart hv
    simp only [x, leaves, leavesAll, ofInt32, string, List.append_nil, List.cons_append,
      List.nil_append, List.mem_cons, List.not_mem_nil, or_false, logical.injEq, reduceCtorEq]
      at hleaf
    subst hleaf
    cases List.mem_singleton.mp hb
  have hy : unlist x = .ok (character [none, some "7", some "a"]) := rfl
  obtain ⟨y, hy', -, -, -, hjoined⟩ :=
    unlist_flattens [list [logical [none], ofInt32 7] none, string "a"] (some ["", "b"])
  obtain rfl := Except.ok.inj (hy'.symm.trans hy)
  exact ⟨hgenuine, hplain, hy, (hjoined hgenuine).1.mpr hplain⟩

/-- A truth value is a digit if it stands in an inner list next to a number, else it is a word. -/
theorem unlist_depends_on_nesting :
    let nested := list [list [ofBool true, ofInt32 1] none, string "a"] none
    let once := list [ofBool true, ofInt32 1, string "a"] none
    leaves nested = leaves once ∧
      unlist nested = .ok (strings ["1", "1", "a"]) ∧
      unlist once = .ok (strings ["TRUE", "1", "a"]) ∧
      combine (leaves nested) = .ok (strings ["TRUE", "1", "a"]) ∧
      combine (leaves nested) ≠ unlist nested := by
  intro nested once
  refine ⟨rfl, rfl, rfl, rfl, fun heq => ?_⟩
  have htexts : strings ["TRUE", "1", "a"] = strings ["1", "1", "a"] := Except.ok.inj heq
  exact absurd (character.inj htexts) (by decide)

end ScriptBridge.RValue
