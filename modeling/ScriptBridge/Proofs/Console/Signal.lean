import ScriptBridge.Machine
import ScriptBridge.Proofs.Text.Cut

/-!
# What texts on the error channel mean

The stop tag makes a stop signal of any text after it (`ofText_stopTag`). The texts that the
interpreter prints by itself are diagnostics: they start with no tag, whatever message stands in
them (`ofText_conditionText`, `ofText_warningsText`).
-/

namespace ScriptBridge

namespace Signal

theorem ofText_stopTag (message : String) : ofText (stopTag ++ message) = .stop message := by
  rw [ofText, String.toList_append, Text.stripStart?_append]
  simp

theorem ofText_of_head {text : String} {c : Char} {cs : List Char} (h : text.toList = c :: cs)
    (hc : c ≠ '<') : ofText text = .diagnostic := by
  have htag {tag : List Char} : Text.stripStart? ('<' :: tag) (c :: cs) = none :=
    if_neg hc.symm
  have hstop : stopTag.toList = '<' :: "PARError> ".toList := rfl
  have hprogress : progressTag.toList ++ ['='] = '<' :: ("PARProgress>".toList ++ ['=']) := rfl
  rw [ofText, h, hstop, htag, hprogress, htag]
  rfl

theorem ofText_conditionText (c : Condition) : ofText c.text = .diagnostic := by
  obtain ⟨fault, call⟩ := c
  cases call with
  | none =>
    have htext : (Condition.text ⟨fault, none⟩).toList =
        'E' :: ("rror: ".toList ++ (fault.message.toList ++ ['\n'])) := by
      change ("Error: " ++ fault.message ++ "\n").toList = _
      simp
    exact ofText_of_head htext (by decide)
  | some f =>
    have htext : (Condition.text ⟨fault, some f⟩).toList = 'E' :: ("rror in ".toList ++
        (f.toList ++ ("() : ".toList ++ (fault.message.toList ++ ['\n'])))) := by
      change ("Error in " ++ f ++ "() : " ++ fault.message ++ "\n").toList = _
      simp
    exact ofText_of_head htext (by decide)

theorem ofText_warningsText (ws : List String) :
    ofText (Machine.warningsText ws) = .diagnostic := by
  unfold Machine.warningsText
  split
  · next w =>
    have htext : ("Warning message:\n" ++ w ++ " \n").toList =
        'W' :: ("arning message:\n".toList ++ (w.toList ++ " \n".toList)) := by
      simp
    exact ofText_of_head htext (by decide)
  · next ws _ =>
    have htext (lines : String) : ("Warning messages:\n" ++ lines).toList =
        'W' :: ("arning messages:\n".toList ++ lines.toList) := by
      simp
    exact ofText_of_head (htext _) (by decide)

end Signal

end ScriptBridge
