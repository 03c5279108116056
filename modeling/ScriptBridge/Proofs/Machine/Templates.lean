import ScriptBridge.Builtin
import ScriptBridge.Proofs.Machine.Exec
import ScriptBridge.Proofs.RValue.Format
import ScriptBridge.Proofs.RValue.Lengths

/-!
# Texts put into templates

Calls of `sprintf` with one template and arguments of one element each yield one text, the template
filled in once (`Builtin.formats_of_fill`). If the template is made of escaped texts with `%s`
between them, and the arguments are texts, that is the texts with the arguments between them
(`Builtin.formats_textTemplate`). Nothing is read into what was put in: an argument may hold percent
signs or be a placeholder itself, and a text may begin like the rest of a placeholder.
-/

namespace ScriptBridge

open Exec (bind_of_ok)

variable {template text : String} {args : List RValue}

/-- One template, and arguments that are one element each, are one row. -/
theorem RValue.sprintf_of_fill (hargs : ∀ x ∈ args, x.split = [x])
    (h : Format.fill template args = .ok text) : sprintf [template] args = .ok (string text) := by
  have hempty : args.any isEmpty = false := by
    refine List.any_eq_false.mpr fun x hx => ?_
    have hlength : x.length = 1 := by rw [← length_split, hargs x hx, List.length_singleton]
    simp [isEmpty, hlength]
  have hcolumns : args.map (fun x => x.split.toArray) = args.map fun x => #[x] :=
    List.map_congr_left fun x hx => by rw [hargs x hx]
  have hrows (xs : List RValue) : ((xs.map fun x => #[x]).map (·.size)).foldl max 1 = 1 := by
    induction xs with
    | nil => rfl
    | cons x xs ih => exact ih
  have hrow : (args.map fun x => #[x]).map (fun c => cyclic c null 0) = args := by
    rw [List.map_map]
    exact List.map_id args
  have hone : sprintf [template] args =
      (Format.fill template args >>= fun t => pure [t]).map strings := by
    simp only [sprintf, hempty, hcolumns]
    change Except.map strings (List.mapM _ (List.range (List.foldl max 1 _))) = _
    rw [hrows]
    change Except.map strings (Format.fill template _ >>= fun t => pure [t]) = _
    rw [hrow]
  rw [hone, h]
  rfl

namespace Builtin

/-- With a template and arguments in this order `sprintf` yields a text and does nothing else. -/
def Formats (template : String) (args : List RValue) (text : String) : Prop :=
  ∀ m, call "sprintf" ((none, .data (.string template)) :: args.map fun x => (none, .data x)) m =
    (.ok (.data (.string text)), m)

theorem formats_unique {text' : String} (h : Formats template args text)
    (h' : Formats template args text') : text = text' := by
  have heq := (h (.create {} [])).symm.trans (h' (.create {} []))
  injection heq with hresult
  injection hresult with hobject
  injection hobject with hvalue
  injection hvalue with hvector
  injection hvector with hcell
  exact Option.some.inj hcell

theorem values_data (xs : List RValue) (m : Machine) : values (xs.map .data) m = (.ok xs, m) := by
  induction xs with
  | nil => rfl
  | cons x xs ih =>
    have hstep : values ((x :: xs).map .data) m =
        (values (xs.map .data) >>= fun vs => pure (x :: vs)) m := by
      rw [List.map_cons, values, List.mapM_cons]
      rfl
    rw [hstep, bind_of_ok ih]
    rfl

theorem take_unnamed (name : String) (x : Object) (xs : List Object) :
    Args.take name ((none, x) :: xs.map (none, ·)) = (some x, xs.map (none, ·)) := by
  have hnone : ((none, x) :: xs.map (none, ·) : Args).find? (·.1 = some name) = none := by
    simp
  rw [Args.take, Args.named, hnone]
  rfl

theorem unnamed_unnamed (xs : List Object) : Args.unnamed (xs.map (none, ·)) = xs := by
  simp [Args.unnamed, List.filter_map, Function.comp_def]

theorem formats_of_fill (hargs : ∀ x ∈ args, x.split = [x])
    (h : Format.fill template args = .ok text) : Formats template args text := by
  intro m
  have hformat : format "sprintf" ((none, .data (.string template)) ::
      (args.map .data).map (none, ·)) m = (.ok (.string text), m) := by
    rw [format, take_unnamed]
    change (values (Args.unnamed ((args.map .data).map (none, ·))) >>= fun xs =>
      Exec.ofExcept (RValue.sprintf [template] xs)) m = _
    rw [unnamed_unnamed, bind_of_ok (values_data args m), RValue.sprintf_of_fill hargs h]
    rfl
  have hargs : (args.map fun x => ((none, .data x) : Option String × Object)) =
      (args.map .data).map (none, ·) := by
    rw [List.map_map]
    rfl
  rw [hargs]
  change yields (format "sprintf" _) m = _
  rw [yields, bind_of_ok hformat]
  rfl

/-- Escaped texts with `%s` between them yield the texts with the arguments between them. -/
theorem formats_textTemplate (first : String) (parts : List (String × String)) :
    Formats (Format.textTemplate first parts) (parts.map fun p => .string p.1)
      (first ++ String.join (parts.map fun p => p.1 ++ p.2)) := by
  refine formats_of_fill (fun x hx => ?_) (Format.fill_textTemplate first parts)
  obtain ⟨p, -, rfl⟩ := List.mem_map.mp hx
  rfl

example : Format.textTemplate "100% " [("%s", "%d"), ("", "5s")] = "100%% %s%%d%s5s" := by decide

end Builtin

end ScriptBridge
