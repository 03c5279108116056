import ScriptBridge.Console.Router

/-!
# What a writer holds

A writer that exists and refuses nothing holds the octets of all texts that were written to it, in
order (`Host.Holds`). A write adds the octets of its text to one writer and leaves the others as
they are (`Host.Holds.write`).
-/

namespace ScriptBridge

namespace Utf8

def encodeAll (texts : List String) : List UInt8 := encode (String.join texts)

@[simp] theorem encodeAll_nil : encodeAll [] = [] := rfl

theorem encodeAll_singleton (text : String) : encodeAll [text] = encode text := by
  simp [encodeAll]

theorem encodeAll_append (texts more : List String) :
    encodeAll (texts ++ more) = encodeAll texts ++ encodeAll more := by
  simp [encodeAll, encode]

end Utf8

namespace Host

/-- The writer exists, refuses nothing and has got these octets. -/
def Holds (h : Host) (i : Nat) (octets : List UInt8) : Prop :=
  ∃ w, h.writers[i]? = some w ∧ w.failing = false ∧ w.octets = octets

variable {h : Host} {i j : Nat} {octets : List UInt8} {text : String}

theorem Holds.octets_eq (hi : h.Holds i octets) : (h.writer i).octets = octets := by
  obtain ⟨w, hw, -, rfl⟩ := hi
  rw [writer, List.getD_eq_getElem?_getD, hw, Option.getD_some]

theorem Holds.write (hi : h.Holds i octets) : (h.write j text).Holds i
    (octets ++ Utf8.encodeAll (if j = i then [text] else [])) := by
  obtain ⟨w, hw, hfailing, rfl⟩ := hi
  by_cases hji : j = i
  · subst hji
    have hwritten : w.write text = (w.push (Utf8.encode text)).flush :=
      if_neg fun hrefused => by simp [hfailing] at hrefused
    refine ⟨w.write text, by simp [Host.write, hw], ?_, ?_⟩
    · rw [hwritten]
      exact hfailing
    · rw [hwritten, if_pos rfl, Utf8.encodeAll_singleton]
      rfl
  · refine ⟨w, by simp [Host.write, hji, hw], hfailing, ?_⟩
    rw [if_neg hji, Utf8.encodeAll_nil, List.append_nil]

theorem Holds.flush (hi : h.Holds i octets) : (h.flush j).Holds i octets := by
  obtain ⟨w, hw, hfailing, rfl⟩ := hi
  by_cases hji : j = i
  · subst hji
    exact ⟨w.flush, by simp [Host.flush, hw], hfailing, rfl⟩
  · exact ⟨w, by simp [Host.flush, hji, hw], hfailing, rfl⟩

theorem Holds.forward (hi : h.Holds i octets) (writer : Option Nat) :
    (Router.forward writer text h).Holds i
      (octets ++ Utf8.encodeAll (if writer = some i then [text] else [])) := by
  cases writer with
  | none => simpa [Router.forward] using hi
  | some j => simpa [Router.forward] using hi.write

end Host

end ScriptBridge
