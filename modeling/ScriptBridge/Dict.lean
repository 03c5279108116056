/-!
# Dictionaries

A dictionary is a list of entries in strictly increasing order of their keys, keys being compared
code point by code point. `insert` keeps the order and replaces the entry of an equal key, so two
dictionaries with the same entries are the same list.
-/

namespace ScriptBridge

/-- Entries by key; the operations below keep them sorted. -/
abbrev Dict (α : Type) := List (String × α)

namespace Dict

variable {α : Type}

/-- The keys increase strictly. -/
def Sorted (d : Dict α) : Prop := d.Pairwise (fun a b => a.1 < b.1)

def get? (key : String) : Dict α → Option α
  | [] => none
  | (k, v) :: rest => if k = key then some v else get? key rest

/-- The dictionary with `value` under `key`. -/
def insert (key : String) (value : α) : Dict α → Dict α
  | [] => [(key, value)]
  | (k, v) :: rest =>
    if key < k then (key, value) :: (k, v) :: rest
    else if key = k then (key, value) :: rest
    else (k, v) :: insert key value rest

def erase (key : String) (d : Dict α) : Dict α := d.filter (fun e => e.1 ≠ key)

/-- `d` with the entries of `more` laid over it, from left to right. -/
def merge (d : Dict α) (more : List (String × α)) : Dict α :=
  more.foldl (fun acc e => insert e.1 e.2 acc) d

/-- The dictionary of some entries; the last entry of a key wins. -/
def ofList (entries : List (String × α)) : Dict α := merge [] entries

def contains (key : String) (d : Dict α) : Bool := (get? key d).isSome

end Dict

end ScriptBridge
