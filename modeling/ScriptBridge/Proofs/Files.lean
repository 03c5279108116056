import ScriptBridge.Files
import ScriptBridge.Proofs.Except
import ScriptBridge.Proofs.Text.Utf8

/-!
# What is written to a file, and what that leaves as it is

A text is written where no directory and no link stands (`Files.slot_free`). So directories and
links stay where they are (`Files.grown_write`), a path that leads somewhere leads there still
(`Files.Grown.resolve`), and what was a directory is one (`Files.Grown.isDirectory`).

A path that a text was written to leads to where it was written, over the same links
(`Files.resolve_put`), so the text is read there (`Files.read_write`).
-/

namespace ScriptBridge.Files

variable {fs : Files} {place q : Place} {n : FileNode}

/-! ### Nodes -/

theorem lookup_cons_of_ne {p : Place} {nodes : List (Place × FileNode)} (h : q ≠ p) :
    List.lookup q ((p, n) :: nodes) = nodes.lookup q := by
  rw [List.lookup_cons, beq_eq_false_iff_ne.mpr h]

theorem lookup_insertNode (nodes : List (Place × FileNode)) :
    (insertNode place n nodes).lookup q = if q = place then some n else nodes.lookup q := by
  induction nodes with
  | nil =>
    rw [insertNode]
    by_cases h : q = place
    · rw [if_pos h, h, List.lookup_cons_self]
    · rw [if_neg h, lookup_cons_of_ne h]
  | cons e rest ih =>
    obtain ⟨p, old⟩ := e
    unfold insertNode
    by_cases hp : place = p
    · rw [if_pos hp, ← hp]
      by_cases h : q = place
      · rw [if_pos h, h, List.lookup_cons_self]
      · rw [if_neg h, lookup_cons_of_ne h, lookup_cons_of_ne h]
    · rw [if_neg hp]
      by_cases hlt : place < p
      · rw [if_pos hlt]
        by_cases h : q = place
        · rw [if_pos h, h, List.lookup_cons_self]
        · rw [if_neg h, lookup_cons_of_ne h]
      · rw [if_neg hlt]
        by_cases h : q = p
        · rw [h, List.lookup_cons_self, List.lookup_cons_self, if_neg (Ne.symm hp)]
        · rw [lookup_cons_of_ne h, lookup_cons_of_ne h, ih]

theorem node?_put (hne : place ≠ []) :
    (fs.put place n).node? q = if q = place then some n else fs.node? q := by
  unfold node? put
  by_cases h : q = []
  · subst h
    simp [Ne.symm hne]
  · simp [h, lookup_insertNode]

/-- No directory and no link stands at the place. -/
def Free (fs : Files) (place : Place) : Prop :=
  fs.node? place = none ∨ ∃ octets, fs.node? place = some (.file octets)

theorem Free.ne_nil (h : fs.Free place) : place ≠ [] := by
  rintro rfl
  rcases h with h | ⟨octets, h⟩ <;> cases h

/-! ### Where a file is written -/

/-- A name other than those of the directory itself and of the one above. -/
def IsProper (name : String) : Prop := ¬(name = "" ∨ name = "." ∨ name = "..")

theorem step_proper {name : String} (hname : IsProper name) :
    (∀ next, fs.step place name = .ok (.toPlace next) →
      ∃ n, fs.node? next = some n ∧ ∀ target, n ≠ .link target) ∧
    (fs.step place name = .error .notFound → fs.node? (place ++ [name]) = none) := by
  obtain ⟨hempty, hdot, hdots⟩ : name ≠ "" ∧ name ≠ "." ∧ name ≠ ".." := by
    simpa only [IsProper, not_or] using hname
  unfold step
  rw [if_neg (by simp only [hempty, hdot, or_self, not_false_eq_true]), if_neg hdots]
  split
  · split
    · exact ⟨nofun, nofun⟩
    · split
      · next hnode => exact ⟨nofun, fun _ => hnode⟩
      · exact ⟨nofun, nofun⟩
      · next n hlink hnode =>
        refine ⟨fun next h => ?_, nofun⟩
        cases h
        exact ⟨n, hnode, hlink⟩
  · exact ⟨nofun, nofun⟩

theorem slotAt_free {jump : Place → List String → Located} {name : String}
    (hjump : ∀ p names slot, jump p names = .ok slot → fs.Free slot) {slot : Place}
    (h : fs.slotAt jump place name = .ok slot) : fs.Free slot := by
  unfold slotAt at h
  split at h
  · rcases hstep : fs.step place "." with e | s
    · rw [hstep] at h
      cases h
    · rw [hstep] at h
      cases h
  · next hname =>
    obtain ⟨hplace, hnotFound⟩ := fs.step_proper hname
    split at h
    · exact hjump _ _ _ h
    · next next hstep =>
      obtain ⟨n, hnode, hlink⟩ := hplace next hstep
      split at h
      · cases h
      · next hdirectory =>
        cases h
        cases n with
        | directory w => exact (hdirectory w hnode).elim
        | file octets => exact .inr ⟨octets, hnode⟩
        | link target => exact (hlink target rfl).elim
    · next hstep =>
      cases h
      exact .inl (hnotFound hstep)
    · cases h

theorem slotWith_free {jump : Place → List String → Located}
    (hjump : ∀ p names slot, jump p names = .ok slot → fs.Free slot) (names : List String)
    {slot : Place} (h : fs.slotWith jump place names = .ok slot) : fs.Free slot := by
  fun_induction slotWith fs jump place names with
  | case1 => exact slotAt_free hjump h
  | case2 => exact slotAt_free hjump h
  | case3 => exact slotAt_free hjump h
  | case4 place name rest _ _ next hstep ih => exact ih h
  | case5 place name rest _ _ next names hstep => exact hjump _ _ _ h
  | case6 => cases h

theorem slotOver_free (links : Nat) (names : List String) {slot : Place}
    (h : fs.slotOver links place names = .ok slot) : fs.Free slot := by
  induction links generalizing place names slot with
  | zero => exact slotWith_free (fun _ _ _ h => by cases h) names h
  | succ links ih => exact slotWith_free (fun p names slot hslot => ih names hslot) names h

theorem slot_free {path : String} {slot : Place} (h : fs.slot path = .ok slot) : fs.Free slot := by
  obtain ⟨-, -, h⟩ := except_bind_eq_ok.mp h
  exact slotOver_free maxLinks _ h

/-! ### What stays -/

/-- What stood somewhere stands there still, files possibly with other octets. -/
structure Grown (fs fs' : Files) : Prop where
  start : fs'.start = fs.start
  directory : ∀ q w, fs.node? q = some (.directory w) → fs'.node? q = some (.directory w)
  link : ∀ q target, fs.node? q = some (.link target) → fs'.node? q = some (.link target)
  file : ∀ q octets, fs.node? q = some (.file octets) →
    ∃ octets', fs'.node? q = some (.file octets')

theorem grown_put (h : fs.Free place) (octets : List UInt8) :
    fs.Grown (fs.put place (.file octets)) := by
  have hother {q : Place} {n : FileNode} (hq : fs.node? q = some n)
      (hn : ∀ octets, n ≠ .file octets) : q ≠ place := by
    rintro rfl
    rcases h with h | ⟨octets, h⟩
    · rw [h] at hq
      cases hq
    · rw [h] at hq
      exact hn octets (Option.some.inj hq).symm
  refine ⟨rfl, fun q w hq => ?_, fun q target hq => ?_, fun q octets' hq => ?_⟩
  all_goals rw [node?_put h.ne_nil]
  · rw [if_neg (hother hq nofun), hq]
  · rw [if_neg (hother hq nofun), hq]
  · by_cases hplace : q = place
    · exact ⟨octets, if_pos hplace⟩
    · exact ⟨octets', by rw [if_neg hplace, hq]⟩

namespace Grown

variable {fs' : Files} (h : fs.Grown fs')

include h

theorem step {name : String} {s : Step} (hstep : fs.step place name = .ok s) :
    fs'.step place name = .ok s := by
  unfold Files.step at hstep ⊢
  split at hstep
  · next w hplace =>
    rw [h.directory place w hplace]
    dsimp only
    split at hstep
    · next hname => rw [if_pos hname, hstep]
    · next hname =>
      rw [if_neg hname]
      split at hstep
      · next hname => rw [if_pos hname, hstep]
      · next hname =>
        rw [if_neg hname]
        split at hstep
        · cases hstep
        · next hlength =>
          rw [if_neg hlength]
          split at hstep
          · cases hstep
          · next target hnode =>
            rw [h.link _ _ hnode]
            exact hstep
          · next n hlink hnode =>
            rw [← hstep]
            cases n with
            | directory w => rw [h.directory _ _ hnode]
            | file octets =>
              obtain ⟨octets', hnode'⟩ := h.file _ _ hnode
              rw [hnode']
            | link target => exact (hlink target rfl).elim
  · cases hstep

theorem walkWith {jump jump' : Place → List String → Located}
    (hjump : ∀ p names q, jump p names = .ok q → jump' p names = .ok q) (names : List String)
    (hwalk : fs.walkWith jump place names = .ok q) : fs'.walkWith jump' place names = .ok q := by
  induction names generalizing place with
  | nil => exact hwalk
  | cons name rest ih =>
    rw [Files.walkWith] at hwalk ⊢
    split at hwalk
    · next next hstep =>
      rw [h.step hstep]
      exact ih hwalk
    · next next names hstep =>
      rw [h.step hstep]
      exact hjump _ _ _ hwalk
    · cases hwalk

theorem walkOver (links : Nat) (names : List String)
    (hwalk : fs.walkOver links place names = .ok q) : fs'.walkOver links place names = .ok q := by
  induction links generalizing place names q with
  | zero => exact h.walkWith (fun _ _ _ h => by cases h) names hwalk
  | succ links ih => exact h.walkWith (fun p names q hq => ih names hq) names hwalk

theorem resolve {path : String} (hpath : fs.resolve path = .ok q) : fs'.resolve path = .ok q := by
  obtain ⟨u, hcheck, hwalk⟩ := except_bind_eq_ok.mp hpath
  rw [Files.resolve, hcheck, h.start]
  exact h.walkOver maxLinks _ hwalk

theorem isDirectory {path : String} (hpath : fs.isDirectory path = true) :
    fs'.isDirectory path = true := by
  unfold Files.isDirectory look? at hpath ⊢
  rcases hplace : fs.resolve path with e | q
  · rw [hplace] at hpath
    cases hpath
  · rw [hplace] at hpath
    rw [h.resolve hplace]
    simp only [Except.toOption, Option.bind_some] at hpath ⊢
    split at hpath
    · next w hnode => rw [h.directory q w hnode]
    · cases hpath

end Grown

theorem grown_write {path : String} {append : Bool} {text : String} {fs' : Files}
    (h : fs.write path append text = .ok fs') : fs.Grown fs' := by
  obtain ⟨place, hslot, hput⟩ := except_bind_eq_ok.mp h
  cases hput
  exact grown_put (slot_free hslot) _

/-! ### What was written is read -/

section

variable {jump jump' : Place → List String → Located} {slot : Place}

/-- A name that led nowhere leads to the file that was put there. -/
theorem step_put_of_notFound {name : String} (hname : IsProper name)
    (h : fs.step place name = .error .notFound) (octets : List UInt8) :
    (fs.put (place ++ [name]) (.file octets)).step place name =
      .ok (.toPlace (place ++ [name])) := by
  obtain ⟨hempty, hdot, hdots⟩ : name ≠ "" ∧ name ≠ "." ∧ name ≠ ".." := by
    simpa only [IsProper, not_or] using hname
  have hself : ¬(name = "" ∨ name = ".") := not_or.mpr ⟨hempty, hdot⟩
  have hslot : place ++ [name] ≠ [] := List.append_ne_nil_of_right_ne_nil _ (List.cons_ne_nil _ _)
  have hother : place ≠ place ++ [name] := fun h =>
    List.cons_ne_nil _ _ (List.self_eq_append_right.mp h)
  unfold step at h ⊢
  rw [node?_put hslot, if_neg hother, node?_put hslot, if_pos rfl]
  split at h
  · rw [if_neg hself, if_neg hdots] at h ⊢
    split at h
    · cases h
    · next hlength => rw [if_neg hlength]
  · cases h

theorem walkWith_put_of_slotAt {name : String} (hfree : fs.Free slot) (octets : List UInt8)
    (hjump : ∀ p names, jump p names = .ok slot → jump' p names = .ok slot)
    (h : fs.slotAt jump place name = .ok slot) :
    (fs.put slot (.file octets)).walkWith jump' place [name] = .ok slot := by
  have hgrown := grown_put hfree octets
  unfold slotAt at h
  split at h
  · obtain ⟨-, -, h⟩ := except_bind_eq_ok.mp h
    cases h
  · next hname =>
    rw [walkWith]
    split at h
    · next next names hstep =>
      rw [hgrown.step hstep]
      dsimp only
      rw [List.append_nil]
      exact hjump _ _ h
    · next next hstep =>
      rw [hgrown.step hstep]
      split at h
      · cases h
      · cases h
        rfl
    · next hstep =>
      cases h
      rw [step_put_of_notFound hname hstep]
      rfl
    · cases h

theorem slotAt_empty_ne (h : fs.slotAt jump place "" = .ok slot) : False := by
  rw [slotAt, if_pos (.inl rfl)] at h
  obtain ⟨-, -, h⟩ := except_bind_eq_ok.mp h
  cases h

theorem walkWith_put_of_slotWith (hfree : fs.Free slot) (octets : List UInt8)
    (hjump : ∀ p names, jump p names = .ok slot → jump' p names = .ok slot)
    (names : List String) (h : fs.slotWith jump place names = .ok slot) :
    (fs.put slot (.file octets)).walkWith jump' place names = .ok slot := by
  have hgrown := grown_put hfree octets
  fun_induction slotWith fs jump place names with
  | case1 => exact (slotAt_empty_ne h).elim
  | case2 => exact walkWith_put_of_slotAt hfree octets hjump h
  | case3 => exact (slotAt_empty_ne h).elim
  | case4 place name rest _ _ next hstep ih =>
    rw [walkWith, hgrown.step hstep]
    exact ih h
  | case5 place name rest _ _ next names hstep =>
    rw [walkWith, hgrown.step hstep]
    exact hjump _ _ h
  | case6 => cases h

theorem walkOver_put_of_slotOver (hfree : fs.Free slot) (octets : List UInt8) (links : Nat)
    (names : List String) (h : fs.slotOver links place names = .ok slot) :
    (fs.put slot (.file octets)).walkOver links place names = .ok slot := by
  induction links generalizing place names with
  | zero => exact walkWith_put_of_slotWith hfree octets (fun _ _ h => by cases h) names h
  | succ links ih => exact walkWith_put_of_slotWith hfree octets (fun _ _ h => ih _ h) names h

theorem resolve_put {path : String} (h : fs.slot path = .ok slot) (octets : List UInt8) :
    (fs.put slot (.file octets)).resolve path = .ok slot := by
  have hfree := slot_free h
  obtain ⟨u, hcheck, hslot⟩ := except_bind_eq_ok.mp h
  rw [resolve, hcheck]
  exact walkOver_put_of_slotOver hfree octets maxLinks _ hslot

end

/-- The path is that of a file to which a text can be written; it need not be there yet. -/
def Writable (fs : Files) (path : String) : Prop := ∃ slot, fs.slot path = .ok slot

theorem Writable.exists_write {path : String} (h : fs.Writable path) (text : String) :
    ∃ fs', fs.write path false text = .ok fs' := by
  obtain ⟨slot, hslot⟩ := h
  exact ⟨_, by rw [write, hslot]; rfl⟩

theorem read_of_node? {path text : String} (hpath : fs.resolve path = .ok place)
    (hnode : fs.node? place = some (.file (Utf8.encode text))) : fs.read path = .ok text := by
  simp only [read, hpath, bind, Except.bind, hnode, Utf8.read?_encode]
  rfl

/-- The text that was written to a path in place of what was there is read from it. -/
theorem read_write {path text : String} {fs' : Files} (h : fs.write path false text = .ok fs') :
    fs'.read path = .ok text := by
  obtain ⟨slot, hslot, hput⟩ := except_bind_eq_ok.mp h
  have hfs' : fs' = fs.put slot (.file (Utf8.encode text)) := (Except.ok.inj hput).symm
  rw [hfs']
  refine read_of_node? (resolve_put hslot _) ?_
  rw [node?_put (slot_free hslot).ne_nil, if_pos rfl]

end ScriptBridge.Files
