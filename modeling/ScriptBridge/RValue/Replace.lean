import ScriptBridge.RValue.Select

/-!
# Replacing elements

- `RValue.setNamed`: `x$name <- v`; null removes the element.
- `RValue.setElement`: `x[[i]] <- v`.
- `RValue.setSubset`: `x[i] <- v`, the elements of `v` repeated over the positions.
-/

namespace ScriptBridge.RValue

/-- A list with an element under a name; null removes the element. -/
def setNamed (x : RValue) (name : String) (v : RValue) : Except Fault RValue :=
  let replaced (values : List RValue) (names : List String) : RValue :=
    match names.findIdx? (· = name), v with
    | some i, null => list (values.eraseIdx i) (some (names.eraseIdx i))
    | none, null => list values (some names)
    | some i, v => list (values.set i v) (some names)
    | none, v => list (values ++ [v]) (some (names ++ [name]))
  match x with
  | null => .ok (replaced [] [])
  | list values (some names) => .ok (replaced values names)
  | list values none => .ok (replaced values (values.map fun _ => ""))
  | _ => .error .dollarOnVector

/-- A list of at least `length` elements, `fill` standing for new ones. -/
def padTo {α : Type} (fill : α) (length : Nat) (xs : List α) : List α :=
  xs ++ List.replicate (length - xs.length) fill

/-- Elements with `v` at a position, `fill` standing for the ones before it. -/
def putAt {α : Type} (fill : α) (xs : List α) (i : Nat) (v : α) : List α :=
  (padTo fill (i + 1) xs).set i v

/-- What stands for a new element before it has got a value. -/
def fill : RValue → RValue
  | list _ _ => null
  | _ => logical [none]

/-- A value with other elements. New ones have no name; a vector is put together anew. -/
def withElements (x : RValue) (elements : List RValue) : Except Fault RValue :=
  match x with
  | list _ names =>
    .ok (list elements (names.map fun ns => padTo "" elements.length (ns.take elements.length)))
  | _ => if elements.any (·.length ≠ 1) then .error .longReplacement else combine elements

/-- A value with items at positions, from left to right and repeated. -/
def replaceAt (x : RValue) (ps : List Nat) (items : List RValue) : Except Fault RValue :=
  let put (xs : List RValue) (e : Nat × Nat) : List RValue :=
    putAt x.fill xs e.1 (items.getD (e.2 % items.length) null)
  x.withElements (ps.zipIdx.foldl put x.split)

/-- The replacement `x[[i]] <- v`. -/
def setElement (x index v : RValue) : Except Fault RValue :=
  match index.asString? with
  | some name =>
    match x with
    | null => setNamed x name v
    | list _ _ => setNamed x name v
    | _ => .error .outOfBounds
  | none => do
    match ← singlePosition x index with
    | some i => replaceAt x [i] [v]
    | none => .error .outOfBounds

/-- The replacement `x[i] <- v`. -/
def setSubset (x index v : RValue) : Except Fault RValue := do
  match (← positions x index).mapM id with
  | none => .error .missingSubscript
  | some [] => return x
  | some ps =>
    if v.split = [] then .error .emptyReplacement else replaceAt x ps v.split

end ScriptBridge.RValue
