import ScriptBridge.Proofs.RValue.Lengths
import ScriptBridge.Proofs.RValue.WellFormed

/-!
# Values put together

The type of values that are put together is the last one in order that occurs among them
(`le_topMode?`, `exists_of_topMode?`). At that type the elements of all of them can be read, so they
go together whatever they are (`combine_eq`): a coercion fails only for values that `combine` does
not give to it.
-/

namespace ScriptBridge.RValue

variable {α : Type} {read : RValue → Except Fault (List α)} {x : RValue} {parts : List RValue}
  {m t : Mode}

/-! ### The last type in order -/

theorem laterMode_none (a : Option Mode) : laterMode a none = a := by
  cases a <;> rfl

theorem laterMode_assoc (a b c : Option Mode) :
    laterMode (laterMode a b) c = laterMode a (laterMode b c) := by
  rcases a with _ | a
  · rfl
  rcases b with _ | b
  · rfl
  rcases c with _ | c
  · rfl
  cases a <;> cases b <;> cases c <;> rfl

theorem foldl_laterMode (a : Option Mode) :
    parts.foldl (fun m x => laterMode m x.mode?) a = laterMode a (topMode? parts) := by
  induction parts generalizing a with
  | nil => exact (laterMode_none a).symm
  | cons x parts ih =>
    rw [topMode?, List.foldl_cons, List.foldl_cons, ih, ih (laterMode none x.mode?),
      laterMode_assoc]
    rfl

theorem topMode?_cons (x : RValue) (xs : List RValue) :
    topMode? (x :: xs) = laterMode x.mode? (topMode? xs) := foldl_laterMode x.mode?

theorem topMode?_append (xs ys : List RValue) :
    topMode? (xs ++ ys) = laterMode (topMode? xs) (topMode? ys) := by
  rw [topMode?, List.foldl_append]
  exact foldl_laterMode (topMode? xs)

theorem topMode?_eq_none : topMode? parts = none ↔ ∀ x ∈ parts, x.mode? = none :=
  (foldl_laterMode_eq_none none).trans (and_iff_right rfl)

theorem le_topMode? (hx : x ∈ parts) (hm : x.mode? = some m) (ht : topMode? parts = some t) :
    m.rank ≤ t.rank := by
  induction parts generalizing t with
  | nil => cases hx
  | cons z parts ih =>
    rw [topMode?_cons] at ht
    rcases List.mem_cons.mp hx with rfl | hx
    · rw [hm] at ht
      cases htop : topMode? parts with
      | none =>
        rw [htop] at ht
        cases ht
        exact Nat.le_refl _
      | some t' =>
        rw [htop] at ht
        cases ht
        split <;> omega
    · cases htop : topMode? parts with
      | none =>
        have hnone := topMode?_eq_none.mp htop x hx
        rw [hm] at hnone
        cases hnone
      | some t' =>
        have hle := ih hx htop
        rw [htop] at ht
        cases hz : z.mode? with
        | none =>
          rw [hz] at ht
          cases ht
          exact hle
        | some m' =>
          rw [hz] at ht
          cases ht
          split <;> omega

theorem exists_of_topMode? (ht : topMode? parts = some t) : ∃ x ∈ parts, x.mode? = some t := by
  induction parts with
  | nil => cases ht
  | cons z parts ih =>
    rw [topMode?_cons] at ht
    have hlater : z.mode? = some t ∨ topMode? parts = some t := by
      cases hz : z.mode? with
      | none => exact .inr (by rwa [hz] at ht)
      | some m =>
        cases htop : topMode? parts with
        | none => exact .inl (by rwa [hz, htop] at ht)
        | some t' =>
          rw [hz, htop] at ht
          cases ht
          split
          · exact .inr rfl
          · exact .inl rfl
    rcases hlater with hz | htop
    · exact ⟨z, List.mem_cons_self, hz⟩
    · obtain ⟨x, hx, hm⟩ := ih htop
      exact ⟨x, List.mem_cons_of_mem z hx, hm⟩

theorem topMode?_of_forall (hne : parts ≠ []) (h : ∀ x ∈ parts, x.mode? = some m) :
    topMode? parts = some m := by
  obtain ⟨x, xs, rfl⟩ := List.exists_cons_of_ne_nil hne
  cases ht : topMode? (x :: xs) with
  | none =>
    have hnone := topMode?_eq_none.mp ht x List.mem_cons_self
    rw [h x List.mem_cons_self] at hnone
    cases hnone
  | some t =>
    obtain ⟨y, hy, hm⟩ := exists_of_topMode? ht
    rw [← hm, h y hy]

/-! ### Elements of atomic vectors -/

/-- The value has no type, or one up to `m`. -/
def UpTo (m : Mode) (x : RValue) : Prop := ∀ t, x.mode? = some t → t.rank ≤ m.rank

theorem upTo_topMode? (ht : topMode? parts = some t) : ∀ x ∈ parts, UpTo t x :=
  fun _ hx _ hm => le_topMode? hx hm ht

def truthElements : RValue → List (Option Bool)
  | logical v => v
  | _ => []

def wholeElements : RValue → List (Option Int32)
  | integer v => v.map (·.filter isProper)
  | logical v => v.map (·.map boolToInt)
  | _ => []

def doubleElements : RValue → List (Option Float)
  | logical v => v.map (·.map boolToFloat)
  | integer v => v.map (·.map intToFloat)
  | double v => v
  | _ => []

theorem filter_isProper {v : List (Option Int32)} (hv : Proper v) :
    v.map (·.filter isProper) = v := by
  have hself : ∀ e ∈ v, e.filter isProper = id e := by
    intro e he
    cases e with
    | none => rfl
    | some n => exact Option.filter_some_pos (decide_eq_true (hv n he))
  rw [List.map_congr_left hself, List.map_id]

section

variable (hsupported : ∀ n, x ≠ unsupported n)

include hsupported

theorem asLogical_eq (h : UpTo .logical x) : x.asLogical = .ok x.truthElements := by
  cases x with
  | null => rw [asLogical, truthElements]; nofun
  | logical v => rw [asLogical, truthElements]
  | unsupported n => exact absurd rfl (hsupported n)
  | _ => exact absurd (h _ rfl) (by decide)

theorem asInteger_eq (h : UpTo .integer x) : x.asInteger = .ok x.wholeElements := by
  cases x with
  | null => rw [asInteger]; rfl
  | logical v => rw [asInteger, wholeElements]
  | integer v => rw [asInteger, wholeElements]
  | unsupported n => exact absurd rfl (hsupported n)
  | _ => exact absurd (h _ rfl) (by decide)

theorem asDouble_eq (h : UpTo .double x) : x.asDouble = .ok x.doubleElements := by
  cases x with
  | unsupported n => exact absurd rfl (hsupported n)
  | character v => exact absurd (h _ rfl) (by decide)
  | list values names => exact absurd (h _ rfl) (by decide)
  | _ => rw [asDouble]; rfl

theorem asCharacter_eq (h : UpTo .character x) : x.asCharacter = .ok x.atomTexts := by
  cases x with
  | unsupported n => exact absurd rfl (hsupported n)
  | list values names => exact absurd (h _ rfl) (by decide)
  | _ => rfl

end

/-! ### Vectors put together -/

/-- Values of which each has its elements to give have the elements of all of them together. -/
theorem flatten_eq {f : RValue → List α} (hunsupported : ∀ n, f (unsupported n) = [])
    (hread : ∀ x ∈ parts, (∀ n, x ≠ unsupported n) → read x = .ok (f x)) :
    flatten read parts = .ok (parts.flatMap f) := by
  induction parts with
  | nil => rfl
  | cons x parts ih =>
    rw [List.forall_mem_cons] at hread
    have hrest := ih hread.2
    cases x with
    | unsupported n => rw [flatten, hrest, List.flatMap_cons, hunsupported, List.nil_append]
    | _ =>
      rw [flatten, hread.1 nofun, hrest]
      · rfl
      · nofun

/-- Values as one vector of a type that is not before any of theirs. -/
def together : Mode → List RValue → RValue
  | .logical, parts => logical (parts.flatMap truthElements)
  | .integer, parts => integer (parts.flatMap wholeElements)
  | .double, parts => double (parts.flatMap doubleElements)
  | .character, parts => character (parts.flatMap atomTexts)
  | .list, parts => combineLists parts

/-- Values one after the other: at their last type, or as null if they have none. -/
def joined (parts : List RValue) : RValue := ((topMode? parts).map (together · parts)).getD null

theorem joined_of_topMode? (ht : topMode? parts = some t) : joined parts = together t parts := by
  rw [joined, ht]
  rfl

theorem joined_of_topMode?_eq_none (ht : topMode? parts = none) : joined parts = null := by
  rw [joined, ht]
  rfl

theorem mode?_joined (parts : List RValue) : (joined parts).mode? = topMode? parts := by
  cases ht : topMode? parts with
  | none =>
    rw [joined_of_topMode?_eq_none ht]
    rfl
  | some t =>
    rw [joined_of_topMode? ht]
    cases t <;> rfl

/-- What the values put together may be read as, each of them may. -/
theorem upTo_of_joined (h : UpTo m (joined parts)) : ∀ x ∈ parts, UpTo m x := by
  intro x hx a ha
  cases ht : topMode? parts with
  | none =>
    rw [topMode?_eq_none.mp ht x hx] at ha
    cases ha
  | some t => exact Nat.le_trans (le_topMode? hx ha ht) (h t ((mode?_joined parts).trans ht))

theorem combine_eq (parts : List RValue) : combine parts = .ok (joined parts) := by
  unfold combine
  cases ht : topMode? parts with
  | none => rw [joined_of_topMode?_eq_none ht]
  | some t =>
    have hupTo := upTo_topMode? ht
    rw [joined_of_topMode? ht]
    cases t with
    | list => rfl
    | character =>
      simp only [flatten_eq (fun _ => rfl) fun x hx hs => asCharacter_eq hs (hupTo x hx)]
      rfl
    | double =>
      simp only [flatten_eq (fun _ => rfl) fun x hx hs => asDouble_eq hs (hupTo x hx)]
      rfl
    | integer =>
      simp only [flatten_eq (fun _ => rfl) fun x hx hs => asInteger_eq hs (hupTo x hx)]
      rfl
    | logical =>
      simp only [flatten_eq (fun _ => rfl) fun x hx hs => asLogical_eq hs (hupTo x hx)]
      rfl

end ScriptBridge.RValue
