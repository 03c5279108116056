import ScriptBridge.Proofs.Engine.StopHandler
import ScriptBridge.Proofs.Files
import ScriptBridge.Proofs.Text.Cut

/-!
# Lines written and read

`writeLines` writes the elements of a vector of texts to a file, each with a newline behind it and
`NA` for a missing one (`Builtin.call_writeLines`), and `readLines` reads the lines of a file
(`Builtin.call_readLines`). Both leave all else as it is and print nothing. What was written is read
again exactly if each text is one line, however many texts there are and however short they are
(`Builtin.readLines_writeLines`).
-/

namespace ScriptBridge

open Exec (bind_of_ok get_apply)

namespace Builtin

variable {m : Machine} {path : String} {files : Files} {x : List (Option String)}

/-! ### The text of a file -/

/-- Texts as one, each with a newline behind it. -/
def linesText (texts : List String) : String := String.join (texts.map (· ++ "\n"))

def linesOf (text : String) : List String := (Text.lines text.toList).map String.ofList

theorem toList_linesText (texts : List String) :
    (linesText texts).toList = (texts.map String.toList).flatMap (· ++ ['\n']) := by
  rw [linesText, String.toList_join, List.flatMap_map, List.flatMap_map]
  exact List.flatMap_congr fun s _ => String.toList_append

theorem linesOf_linesText_iff (texts : List String) :
    linesOf (linesText texts) = texts ↔ ∀ s ∈ texts, Text.IsLine s.toList := by
  have htexts : (texts.map String.toList).map String.ofList = texts := by
    rw [List.map_map]
    exact List.map_id'' (fun s => String.ofList_toList) texts
  have hinjective : Function.Injective String.ofList := fun _ _ h => String.ofList_injective h
  rw [linesOf, toList_linesText]
  nth_rewrite 2 [← htexts]
  rw [(List.map_injective_iff.mpr hinjective).eq_iff, Text.lines_ended_eq_iff,
    List.forall_mem_map]

theorem isLine_orNA_iff : (∀ s ∈ x.map RValue.orNA, Text.IsLine s.toList) ↔
    ∀ s, some s ∈ x → Text.IsLine s.toList := by
  rw [List.forall_mem_map]
  refine ⟨fun h s hs => h _ hs, fun h s hs => ?_⟩
  cases s with
  | none => exact (by decide : Text.IsLine "NA".toList)
  | some s => exact h s hs

/-! ### The two functions -/

theorem writeFile_of_ok {append : Bool} {text : String}
    (h : m.files.write (m.pathOf path) append text = .ok files) :
    writeFile path append text m = (.ok (), { m with files }) := by
  rw [writeFile, bind_of_ok get_apply, h]
  rfl

theorem call_writeLines (hpath : path ≠ "")
    (h : m.files.write (m.pathOf path) false (linesText (x.map RValue.orNA)) = .ok files) :
    call "writeLines" [(none, .data (.character x)), (none, .data (.string path))] m =
      (.ok Object.null, { m with files }) := by
  have hfile : emit (linesText (x.map RValue.orNA)) (some (.string path)) false =
      writeFile path false (linesText (x.map RValue.orNA)) :=
    if_neg fun heq => hpath (Option.some.inj (Option.some.inj heq))
  change (emit (linesText (x.map RValue.orNA)) (some (.string path)) false >>=
    fun _ => pure Object.null) m = _
  rw [hfile, bind_of_ok (writeFile_of_ok h)]
  rfl

theorem call_readLines {text : String} (h : m.files.read (m.pathOf path) = .ok text) :
    call "readLines" [(none, .data (.string path))] m =
      (.ok (.data (.strings (linesOf text))), m) := by
  have hread : readLines [(none, .data (.string path))] m = (.ok (.strings (linesOf text)), m) := by
    have hpath : textOr "" (Args.take "con" [(none, .data (.string path))]).1 = pure path := rfl
    rw [readLines, hpath, pure_bind, bind_of_ok get_apply, h]
    rfl
  change yields (readLines _) m = _
  rw [yields, bind_of_ok hread]
  rfl

/-! ### One after the other -/

/-- Texts are written to any path of a file, relative to the working directory or not, and nothing
but the files has changed then. What is read from the path, with no change at all, is each text
again and `NA` for a missing one, exactly if none of the texts has a newline in it or a carriage
return at its end. The same holds of the two calls in a script while no closure hides the functions,
whatever the expressions are that yield the texts and the path. -/
theorem readLines_writeLines (x : List (Option String)) (hpath : path ≠ "")
    (hwritable : m.files.Writable (m.pathOf path)) :
    ∃ files texts,
      call "writeLines" [(none, .data (.character x)), (none, .data (.string path))] m =
        (.ok Object.null, { m with files }) ∧
      call "readLines" [(none, .data (.string path))] { m with files } =
        (.ok (.data (.strings texts)), { m with files }) ∧
      (texts = x.map RValue.orNA ↔ ∀ s, some s ∈ x → Text.IsLine s.toList) ∧
      ∀ (caller : Caller) (m₀ : Machine) (e p : Expr),
        e.evalWith caller m₀ = (.ok (.data (.character x)), m) →
        (∀ files, p.evalWith caller { m with files } =
          (.ok (.data (.string path)), { m with files })) →
        (∀ params body, m₀.lookup? "writeLines" ≠ some (.closure params body)) →
        (∀ params body, m.lookup? "readLines" ≠ some (.closure params body)) →
        (Expr.call (.name "writeLines") [(none, e), (none, p)]).evalWith caller m₀ =
          (.ok Object.null, { m with files }) ∧
        (Expr.call (.name "readLines") [(none, p)]).evalWith caller { m with files } =
          (.ok (.data (.strings texts)), { m with files }) := by
  obtain ⟨files, hfiles⟩ := hwritable.exists_write (linesText (x.map RValue.orNA))
  have hwrite := call_writeLines hpath hfiles
  have hread : call "readLines" [(none, .data (.string path))] { m with files } =
      (.ok (.data (.strings (linesOf (linesText (x.map RValue.orNA))))), { m with files }) :=
    call_readLines (Files.read_write hfiles)
  refine ⟨files, _, hwrite, hread, (linesOf_linesText_iff _).trans isLine_orNA_iff, ?_⟩
  intro caller m₀ e p he hp hwriteLines hreadLines
  constructor
  · rw [Expr.evalWith_builtin hwriteLines (by decide), bind_of_ok
      (Expr.evalArgs_cons_of_ok he (Expr.evalArgs_cons_of_ok (hp m.files) Expr.evalArgs_nil))]
    exact hwrite
  · have hreadLines : ∀ params body,
        ({ m with files } : Machine).lookup? "readLines" ≠ some (.closure params body) := hreadLines
    rw [Expr.evalWith_builtin hreadLines (by decide), bind_of_ok
      (Expr.evalArgs_cons_of_ok (hp files) Expr.evalArgs_nil)]
    exact hread

def linked : Machine := Machine.create
  { nodes := [(["d"], .directory true), (["d", "old"], .link "new")], start := ["d"] } []

theorem readLines_writeLines_link :
    let x := [some "a\r b", none, some "", some ""]
    "old" ≠ "" ∧ linked.files.Writable (linked.pathOf "old") ∧
    ∃ files,
      call "writeLines" [(none, .data (.character x)), (none, .data (.string "old"))] linked =
        (.ok Object.null, { linked with files }) ∧
      call "readLines" [(none, .data (.string "old"))] { linked with files } =
        (.ok (.data (.strings ["a\r b", "NA", "", ""])), { linked with files }) := by
  intro x
  have hpath : "old" ≠ "" := by decide
  have hslot : linked.files.slot (linked.pathOf "old") = .ok ["d", "new"] := by decide +kernel
  have hwritable : linked.files.Writable (linked.pathOf "old") := ⟨["d", "new"], hslot⟩
  obtain ⟨files, texts, hwrite, hread, htexts, -⟩ := readLines_writeLines x hpath hwritable
  have hlines : ∀ s, some s ∈ x → Text.IsLine s.toList := by
    intro s hs
    simp only [x, List.mem_cons, Option.some.injEq, List.not_mem_nil, or_false] at hs
    rcases hs with rfl | hs | rfl | rfl
    · decide
    · cases hs
    · decide
    · decide
  rw [htexts.mpr hlines] at hread
  exact ⟨hpath, hwritable, files, hwrite, hread⟩

end Builtin

end ScriptBridge
