import ScriptBridge.Proofs.RValue.WellFormed

/-!
# Lookups that never miss

Printing a list looks up the name of each element by its position, replacing an element under a name
puts it where the name stands, and replacing it at a position puts it there after the value has
grown. The operations below do so and yield nothing if there is nothing at that position. On
well-formed values they yield what the operations of the same names do, so no lookup misses
(`WellFormed.safe`); nor does the negation of an integer overflow.
-/

namespace ScriptBridge.RValue

/-- The name of the element at a position, empty in a list without names; nothing if there are names
but none for the element. -/
def label? : Option (List String) → Nat → Option String
  | none, _ => some ""
  | some names, i => names[i]?

mutual

/-- A value as it is printed, the names of elements looked up by position. -/
def printed? : RValue → Option String
  | null => some null.printed
  | logical v => some (logical v).printed
  | integer v => some (integer v).printed
  | double v => some (double v).printed
  | character v => some (character v).printed
  | list values names =>
    if values = [] then some (list [] names).printed else printedElements? 0 names values
  | unsupported t => some (unsupported t).printed

def printedElements? (i : Nat) (names : Option (List String)) : List RValue → Option String
  | [] => some ""
  | x :: xs => do
    let name ← label? names i
    let text ← printed? x
    let rest ← printedElements? (i + 1) names xs
    return (if name = "" then s!"[[{i + 1}]]\n" else "$" ++ name ++ "\n") ++ text ++ "\n" ++ rest

end

mutual

/-- A value in one line, the names of elements looked up by position. -/
def deparse? : RValue → Option String
  | null => some null.deparse
  | logical v => some (logical v).deparse
  | integer v => some (integer v).deparse
  | double v => some (double v).deparse
  | character v => some (character v).deparse
  | list values names => do
    return "list(" ++ ", ".intercalate (← deparseElements? 0 names values) ++ ")"
  | unsupported t => some (unsupported t).deparse

def deparseElements? (i : Nat) (names : Option (List String)) :
    List RValue → Option (List String)
  | [] => some []
  | x :: xs => do
    let name ← label? names i
    let text ← deparse? x
    let rest ← deparseElements? (i + 1) names xs
    return (if name = "" then text else name ++ " = " ++ text) :: rest

end

/-- A list with an element under a name, which is put or removed where the name stands. -/
def setNamed? (x : RValue) (name : String) (v : RValue) : Option (Except Fault RValue) :=
  let replaced? (values : List RValue) (names : List String) : Option (Except Fault RValue) :=
    match names.findIdx? (· = name) with
    | some i =>
      if i < values.length then some (setNamed (list values (some names)) name v) else none
    | none => some (setNamed (list values (some names)) name v)
  match x with
  | null => replaced? [] []
  | list values (some names) => replaced? values names
  | list values none => replaced? values (values.map fun _ => "")
  | x => some (setNamed x name v)

/-- Elements with `v` at a position, which must be there once `fill` stands for the ones before
it. -/
def putAt? (fill : RValue) (xs : List RValue) (i : Nat) (v : RValue) : Option (List RValue) :=
  let grown := padTo fill (i + 1) xs
  if i < grown.length then some (grown.set i v) else none

/-- A value with items at positions; each item is looked up by its index. -/
def replaceAt? (x : RValue) (ps : List Nat) (items : List RValue) :
    Option (Except Fault RValue) :=
  let put? (xs : List RValue) (e : Nat × Nat) : Option (List RValue) :=
    items[e.2 % items.length]?.bind (putAt? x.fill xs e.1)
  (ps.zipIdx.foldlM put? x.split).map x.withElements

/-- The replacement `x[[i]] <- v`, by name as `setNamed?` does it and at a position as `replaceAt?`
does. -/
def setElement? (x index v : RValue) : Option (Except Fault RValue) :=
  match index.asString? with
  | some name =>
    match x with
    | null => setNamed? x name v
    | list _ _ => setNamed? x name v
    | _ => some (.error .outOfBounds)
  | none =>
    match singlePosition x index with
    | .ok (some i) => replaceAt? x [i] [v]
    | .ok none => some (.error .outOfBounds)
    | .error fault => some (.error fault)

/-- The negation of the value does not overflow, and no name, element or item that is looked up by
its position is missing. -/
structure Safe (x : RValue) : Prop where
  negate : ∀ v, integers? x = some v → ∀ n, some n ∈ v → (-n).toInt = -n.toInt
  printed : printed? x = some x.printed
  deparse : deparse? x = some x.deparse
  setNamed : ∀ name y, setNamed? x name y = some (setNamed x name y)
  setElement : ∀ index y, setElement? x index y = some (setElement x index y)

variable {x : RValue} {xs values : List RValue} {names : Option (List String)} {i : Nat}

/-! ### Printing -/

theorem label?_eq (h : ∀ ns ∈ names, i < ns.length) :
    label? names i = some (((names.getD []).drop i).headD "") := by
  cases names with
  | none =>
    rw [label?, Option.getD_none, List.drop_nil]
    rfl
  | some ns =>
    rw [label?, Option.getD_some, List.headD_eq_head?_getD, List.head?_drop,
      List.getElem?_eq_getElem (h ns rfl), Option.getD_some]

mutual

theorem printed?_eq : ∀ x : RValue, x.WellFormed → printed? x = some x.printed
  | .list values names, h => by
    cases h with
    | list hvalues hnames =>
      rw [printed?]
      cases values with
      | nil => rw [if_pos rfl]
      | cons x xs =>
        rw [if_neg (List.cons_ne_nil x xs), RValue.printed]
        exact printedElements?_eq 0 (x :: xs) names hvalues fun ns hns => by
          rw [hnames ns hns, Nat.zero_add]
  | .null, _ | .logical _, _ | .integer _, _ | .double _, _ | .character _, _
  | .unsupported _, _ => rfl

theorem printedElements?_eq : ∀ (i : Nat) (xs : List RValue) (names : Option (List String)),
    (∀ x ∈ xs, WellFormed x) → (∀ ns ∈ names, ns.length = i + xs.length) →
    printedElements? i names xs =
      some (printedElements (i + 1) ((names.getD []).drop i) xs)
  | i, [], names, _, _ => rfl
  | i, x :: xs, names, hxs, hnames => by
    rw [List.forall_mem_cons] at hxs
    rw [List.length_cons] at hnames
    have hlabel : label? names i = _ := label?_eq fun ns hns => by
      rw [hnames ns hns]
      omega
    have hrest := printedElements?_eq (i + 1) xs names hxs.2 fun ns hns => by
      rw [hnames ns hns]
      omega
    rw [printedElements?, hlabel, printed?_eq x hxs.1, hrest, printedElements, List.tail_drop]
    rfl

end

mutual

theorem deparse?_eq : ∀ x : RValue, x.WellFormed → deparse? x = some x.deparse
  | .list values names, h => by
    cases h with
    | list hvalues hnames =>
      have helements := deparseElements?_eq 0 values names hvalues fun ns hns => by
        rw [hnames ns hns, Nat.zero_add]
      rw [deparse?, helements, RValue.deparse]
      rfl
  | .null, _ | .logical _, _ | .integer _, _ | .double _, _ | .character _, _
  | .unsupported _, _ => rfl

theorem deparseElements?_eq : ∀ (i : Nat) (xs : List RValue) (names : Option (List String)),
    (∀ x ∈ xs, WellFormed x) → (∀ ns ∈ names, ns.length = i + xs.length) →
    deparseElements? i names xs = some (deparseElements ((names.getD []).drop i) xs)
  | i, [], names, _, _ => rfl
  | i, x :: xs, names, hxs, hnames => by
    rw [List.forall_mem_cons] at hxs
    rw [List.length_cons] at hnames
    have hlabel : label? names i = _ := label?_eq fun ns hns => by
      rw [hnames ns hns]
      omega
    have hrest := deparseElements?_eq (i + 1) xs names hxs.2 fun ns hns => by
      rw [hnames ns hns]
      omega
    rw [deparseElements?, hlabel, deparse?_eq x hxs.1, hrest, deparseElements, List.tail_drop]
    rfl

end

/-! ### Replacing -/

theorem WellFormed.setNamed?_eq (h : x.WellFormed) (name : String) (y : RValue) :
    setNamed? x name y = some (RValue.setNamed x name y) := by
  have hfound : ∀ (values : List RValue) (names : List String), names.length = values.length →
      (match names.findIdx? (· = name) with
        | some i => if i < values.length then
            some (RValue.setNamed (.list values (some names)) name y) else none
        | none => some (RValue.setNamed (.list values (some names)) name y)) =
      some (RValue.setNamed (.list values (some names)) name y) := by
    intro values names hlength
    split
    · next i hi =>
      obtain ⟨hlt, -⟩ := List.findIdx?_eq_some_iff_getElem.mp hi
      rw [if_pos (by omega)]
    · rfl
  cases h with
  | null => exact hfound [] [] rfl
  | @list values names hvalues hnames =>
    cases names with
    | none => exact hfound values _ (List.length_map _)
    | some names => exact hfound values names (hnames names rfl)
  | _ => rfl

theorem putAt?_eq (fill : RValue) (xs : List RValue) (i : Nat) (v : RValue) :
    putAt? fill xs i v = some (putAt fill xs i v) := by
  have hlt : i < (padTo fill (i + 1) xs).length := by
    rw [padTo, List.length_append, List.length_replicate]
    omega
  exact if_pos hlt

theorem replaceAt?_eq {items : List RValue} (hitems : items ≠ []) (ps : List Nat) :
    replaceAt? x ps items = some (replaceAt x ps items) := by
  have hput (xs : List RValue) (e : Nat × Nat) :
      items[e.2 % items.length]?.bind (putAt? x.fill xs e.1) =
        some (putAt x.fill xs e.1 (items.getD (e.2 % items.length) null)) := by
    have hlt : e.2 % items.length < items.length :=
      Nat.mod_lt _ (List.length_pos_of_ne_nil hitems)
    rw [List.getD_eq_getElem?_getD, List.getElem?_eq_getElem hlt, Option.getD_some,
      Option.bind_some, putAt?_eq]
  simp only [replaceAt?, hput]
  exact congrArg (Option.map x.withElements) List.foldlM_pure

theorem WellFormed.setElement?_eq (h : x.WellFormed) (index y : RValue) :
    setElement? x index y = some (RValue.setElement x index y) := by
  unfold setElement? RValue.setElement
  cases index.asString? with
  | some name =>
    cases x with
    | null | list => exact h.setNamed?_eq name y
    | _ => rfl
  | none =>
    rcases singlePosition x index with fault | _ | i
    · rfl
    · rfl
    · exact replaceAt?_eq (List.cons_ne_nil y []) [i]

/-- On well-formed values no lookup misses and no negation overflows. -/
theorem WellFormed.safe (h : x.WellFormed) : x.Safe where
  negate _ hv n hn := toInt_neg (proper_integers? h hv n hn)
  printed := printed?_eq x h
  deparse := deparse?_eq x h
  setNamed := h.setNamed?_eq
  setElement := h.setElement?_eq

end ScriptBridge.RValue
