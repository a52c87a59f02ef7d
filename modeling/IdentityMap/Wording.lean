/-!
# Wordings of faults

The wording of a fault is handed on as a text that a NUL character ends. Whatever a name or key
in it holds from its first NUL on is lost, together with the rest of the wording.
-/

namespace IdentityMap

/-- The part of a text before its first NUL character. -/
def upToNul (text : String) : String :=
  String.ofList (text.toList.takeWhile (· ≠ '\x00'))

@[simp] theorem toList_upToNul (text : String) :
    (upToNul text).toList = text.toList.takeWhile (· ≠ '\x00') := by
  simp [upToNul]

theorem upToNul_of_not_mem {text : String} (h : '\x00' ∉ text.toList) :
    upToNul text = text := by
  have hkept : ∀ c ∈ text.toList, decide (c ≠ '\x00') = true := by
    intro c hc
    exact decide_eq_true fun heq => h (heq ▸ hc)
  have htext : (text.toList ++ []).takeWhile (· ≠ '\x00') = text.toList ++ [] :=
    List.takeWhile_append_of_pos hkept
  rw [List.append_nil] at htext
  rw [upToNul, htext, String.ofList_toList]

theorem upToNul_append {front text : String} (hfront : '\x00' ∉ front.toList)
    (htext : '\x00' ∉ text.toList) : upToNul (front ++ text) = front ++ text := by
  apply upToNul_of_not_mem
  rw [String.toList_append, List.mem_append]
  exact not_or.2 ⟨hfront, htext⟩

end IdentityMap
