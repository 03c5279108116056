import ScriptBridge.Text.Cut

/-!
# Starts and lines of texts

A text goes on behind a start exactly if it is that start and what follows
(`Text.stripStart?_eq_some`); a text without a start, if it starts with it, is what stands behind
one of two starts (`Text.exists_dropStart`).

When texts are put one after the other, each with a newline behind it, the lines of the whole are
those of the texts (`Text.lines_ended`). So the texts are the lines again exactly if each of them is
one line (`Text.lines_ended_eq_iff`).
-/

namespace ScriptBridge.Text

/-! ### Starts -/

theorem stripStart?_append (start cs : List Char) : stripStart? start (start ++ cs) = some cs := by
  induction start with
  | nil => rfl
  | cons c start ih => rw [List.cons_append, stripStart?, if_pos rfl, ih]

theorem stripStart?_eq_some {start cs rest : List Char} :
    stripStart? start cs = some rest ↔ cs = start ++ rest := by
  constructor
  · intro h
    induction start generalizing cs with
    | nil => exact Option.some.inj h
    | cons p start ih =>
      cases cs with
      | nil => cases h
      | cons c cs =>
        rw [stripStart?] at h
        split at h
        · next hpc => rw [hpc, List.cons_append, ih h]
        · cases h
  · rintro rfl
    exact stripStart?_append start rest

theorem exists_dropStart (start cs : List Char) :
    ∃ dropped, (dropped = start ∨ dropped = []) ∧ cs = dropped ++ dropStart start cs := by
  rw [dropStart]
  cases h : stripStart? start cs with
  | none => exact ⟨[], .inr rfl, rfl⟩
  | some rest => exact ⟨start, .inl rfl, stripStart?_eq_some.mp h⟩

/-! ### Pieces -/

variable {sep : Char} {l : List Char}

theorem pieces_ne_nil (sep : Char) (cs : List Char) : pieces sep cs ≠ [] := by
  fun_cases pieces sep cs <;> exact List.cons_ne_nil _ _

/-- The pieces of two texts with a separator between them are those of the one and of the other. -/
theorem pieces_append (sep : Char) (l rest : List Char) :
    pieces sep (l ++ sep :: rest) = pieces sep l ++ pieces sep rest := by
  induction l with
  | nil =>
    exact if_pos rfl
  | cons c l ih =>
    rw [List.cons_append, pieces, pieces, ih]
    by_cases hc : c = sep
    · rw [if_pos hc, if_pos hc, List.cons_append]
    · rw [if_neg hc, if_neg hc]
      obtain ⟨p, ps, hps⟩ := List.exists_cons_of_ne_nil (pieces_ne_nil sep l)
      rw [hps]
      rfl

theorem pieces_of_not_mem (h : sep ∉ l) : pieces sep l = [l] := by
  induction l with
  | nil => rfl
  | cons c l ih =>
    rw [List.mem_cons, not_or] at h
    rw [pieces, if_neg (Ne.symm h.1), ih h.2]

theorem pieces_of_mem (h : sep ∈ l) : 1 < (pieces sep l).length := by
  obtain ⟨before, after, rfl⟩ := List.append_of_mem h
  rw [pieces_append, List.length_append]
  have hbefore := List.length_pos_iff.mpr (pieces_ne_nil sep before)
  have hafter := List.length_pos_iff.mpr (pieces_ne_nil sep after)
  omega

/-! ### Lines -/

/-- The characters are one line as it is read: no newline, and no carriage return at their end. -/
def IsLine (l : List Char) : Prop := '\n' ∉ l ∧ l.getLast? ≠ some '\r'

instance : DecidablePred IsLine := fun _ => inferInstanceAs (Decidable (_ ∧ _))

/-- The lines of a text that has a newline behind it. -/
def endedLines (l : List Char) : List (List Char) := (pieces '\n' l).map dropReturn

theorem endedLines_ne_nil (l : List Char) : endedLines l ≠ [] :=
  fun h => pieces_ne_nil '\n' l (List.map_eq_nil_iff.mp h)

theorem dropReturn_eq_self : dropReturn l = l ↔ l.getLast? ≠ some '\r' := by
  unfold dropReturn
  split
  · next hreturn =>
    have hne : l ≠ [] := by
      rintro rfl
      cases hreturn
    refine iff_of_false (fun heq => ?_) (fun h => h hreturn)
    have hlength := congrArg List.length heq
    rw [List.length_dropLast] at hlength
    have hpos := List.length_pos_iff.mpr hne
    omega
  · next hreturn => exact iff_of_true rfl hreturn

theorem endedLines_eq_singleton : endedLines l = [l] ↔ IsLine l := by
  by_cases hnewline : '\n' ∈ l
  · refine iff_of_false (fun heq => ?_) (fun h => h.1 hnewline)
    have hlength := congrArg List.length heq
    rw [endedLines, List.length_map, List.length_singleton] at hlength
    exact absurd (pieces_of_mem hnewline) (by omega)
  · rw [endedLines, pieces_of_not_mem hnewline, List.map_singleton, List.cons.injEq,
      and_iff_left rfl, dropReturn_eq_self, IsLine, and_iff_right hnewline]

theorem lines_ended (ls : List (List Char)) :
    lines (ls.flatMap (· ++ ['\n'])) = ls.flatMap endedLines := by
  have hpieces : pieces '\n' (ls.flatMap (· ++ ['\n'])) = ls.flatMap (pieces '\n') ++ [[]] := by
    induction ls with
    | nil => rfl
    | cons l ls ih =>
      rw [List.flatMap_cons, List.append_assoc, List.singleton_append, pieces_append, ih,
        List.flatMap_cons, List.append_assoc]
  rw [lines, hpieces, List.dropLast_concat, List.getLast?_concat, List.map_flatMap]
  exact List.append_nil _

/-- Where each of the texts gives a list with elements, the texts are those lists in a row exactly
if each of them gives itself alone. -/
theorem flatMap_eq_self_iff {α : Type} {f : α → List α} (hf : ∀ a, f a ≠ []) {as : List α} :
    as.flatMap f = as ↔ ∀ a ∈ as, f a = [a] := by
  have hlength (as : List α) : as.length ≤ (as.flatMap f).length := by
    induction as with
    | nil => exact Nat.le_refl _
    | cons a as ih =>
      have ha := List.length_pos_iff.mpr (hf a)
      rw [List.flatMap_cons, List.length_append, List.length_cons]
      omega
  induction as with
  | nil => simp
  | cons a as ih =>
    rw [List.flatMap_cons, List.forall_mem_cons]
    constructor
    · intro heq
      obtain ⟨b, bs, hb⟩ := List.exists_cons_of_ne_nil (hf a)
      rw [hb, List.cons_append, List.cons.injEq] at heq
      obtain ⟨rfl, hrest⟩ := heq
      have hsum := congrArg List.length hrest
      rw [List.length_append] at hsum
      have hle := hlength as
      obtain rfl : bs = [] := List.eq_nil_of_length_eq_zero (by omega)
      exact ⟨hb, ih.mp hrest⟩
    · rintro ⟨ha, has⟩
      rw [ha, ih.mpr has, List.singleton_append]

/-- The texts are the lines again exactly if each of them is one line. -/
theorem lines_ended_eq_iff (ls : List (List Char)) :
    lines (ls.flatMap (· ++ ['\n'])) = ls ↔ ∀ l ∈ ls, IsLine l := by
  rw [lines_ended, flatMap_eq_self_iff endedLines_ne_nil]
  exact forall₂_congr fun _ _ => endedLines_eq_singleton

end ScriptBridge.Text
