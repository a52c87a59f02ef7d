import IdentityMap.Records.Fields

/-!
# The faults of entries

An entry is refused for one of a few faults, and the keys that a fault names are fixed.  No
wording of a fault therefore holds a NUL, and the report of all errors of a map is never cut off.
-/

namespace IdentityMap

theorem bind_eq_error {α β ε : Type} {x : Except ε α} {f : α → Except ε β} {fault : ε}
    (h : x >>= f = .error fault) : x = .error fault ∨ ∃ a, x = .ok a ∧ f a = .error fault := by
  cases x with
  | error other => exact .inl (Except.error.inj h ▸ rfl)
  | ok a => exact .inr ⟨a, rfl, h⟩

namespace Entry

variable {pairs : List (String × Node)} {key : String} {index : Nat} {node : Node}
  {kind : Kind} {fault : EntryFault}

theorem optionalText_eq_error (h : optionalText pairs key = .error fault) :
    fault = .notText key := by
  unfold optionalText at h
  split at h <;> simp_all

theorem requiredText_eq_error (h : requiredText index pairs key = .error fault) :
    fault = .notText key ∨ fault = .missing index key := by
  rcases bind_eq_error h with htext | ⟨text, -, hempty⟩
  · exact .inl (optionalText_eq_error htext)
  · by_cases hnone : text = ""
    · rw [if_pos hnone] at hempty
      exact .inr (Except.error.inj hempty).symm
    · rw [if_neg hnone] at hempty
      cases hempty

theorem groupName_eq_error (h : groupName node = .error fault) : fault = .groupNotText := by
  unfold groupName at h
  split at h <;> simp_all

theorem mapM_groupName_eq_error {items : List Node}
    (h : items.mapM groupName = .error fault) : fault = .groupNotText := by
  induction items with
  | nil => cases h
  | cons item items ih =>
      rw [List.mapM_cons] at h
      rcases bind_eq_error h with hitem | ⟨_, -, hrest⟩
      · exact groupName_eq_error hitem
      · rcases bind_eq_error hrest with hitems | ⟨_, -, hnone⟩
        · exact ih hitems
        · cases hnone

theorem groups_eq_error (h : groups pairs = .error fault) :
    fault = .groupsNotList ∨ fault = .groupNotText := by
  unfold groups at h
  split at h
  · cases h
  · exact .inr (mapM_groupName_eq_error h)
  · exact .inl (Except.error.inj h).symm

theorem mapping_eq_error (h : mapping kind index node = .error fault) :
    fault ∈ [.notMapping index, .notText kind.arnKey, .missing index kind.arnKey,
      .notText "username", .groupsNotList, .groupNotText] := by
  unfold mapping at h
  split at h
  · rcases bind_eq_error h with harn | ⟨_, -, h⟩
    · rcases requiredText_eq_error harn with rfl | rfl <;> simp
    · rcases bind_eq_error h with husername | ⟨_, -, h⟩
      · simp [optionalText_eq_error husername]
      · rcases bind_eq_error h with hgroups | ⟨_, -, hnone⟩
        · rcases groups_eq_error hgroups with rfl | rfl <;> simp
        · cases hnone
  · simp [(Except.error.inj h).symm]

theorem account_eq_error (h : account index node = .error fault) : fault = .notAccount index := by
  unfold account at h
  split at h <;> simp_all

end Entry

/-! ## Wordings without a NUL -/

/-- A text that is handed on as a whole. -/
def Whole (text : String) : Prop :=
  '\x00' ∉ text.toList

instance (text : String) : Decidable (Whole text) :=
  inferInstanceAs (Decidable (¬ _))

namespace Whole

theorem append {first second : String} (h : Whole first) (hsecond : Whole second) :
    Whole (first ++ second) := by
  simp only [Whole, String.toList_append, List.mem_append, not_or]
  exact ⟨h, hsecond⟩

theorem toString_nat (n : Nat) : Whole (toString n) := by
  intro hmem
  have hdigits : '\x00' ∈ Nat.toDigits 10 n := by simpa using hmem
  have hdigit := Nat.isDigit_of_mem_toDigits (by decide) (by decide) hdigits
  simp at hdigit

theorem intercalate {separator : String} {texts : List String} (h : Whole separator)
    (htexts : ∀ text ∈ texts, Whole text) : Whole (separator.intercalate texts) := by
  induction texts with
  | nil => simp [Whole]
  | cons text texts ih =>
      obtain ⟨htext, htexts⟩ := List.forall_mem_cons.1 htexts
      cases texts with
      | nil => simpa using htext
      | cons other texts =>
          rw [String.intercalate_cons_cons]
          exact (htext.append h).append (ih htexts)

theorem upToNul {text : String} (h : Whole text) : IdentityMap.upToNul text = text :=
  upToNul_of_not_mem h

end Whole

theorem whole_arnKey (kind : Kind) : Whole kind.arnKey := by
  cases kind <;> decide

theorem whole_fieldName (field : Field) : Whole field.name := by
  cases field <;> decide

theorem whole_listFault (fault : ListFault) : Whole fault.message := by
  cases fault with
  | malformed cause => exact (by decide : Whole Node.faultText)
  | notList => decide

namespace EntryFault

variable {index : Nat} {key : String}

theorem whole_notText (h : Whole key) : Whole (notText key).message :=
  (Whole.append (by decide) h).append (by decide)

theorem whole_entry (index : Nat) : Whole ("entry " ++ toString index) :=
  Whole.append (by decide) (.toString_nat index)

theorem whole_missing (h : Whole key) : Whole (missing index key).message :=
  (((whole_entry index).append (by decide)).append h).append (by decide)

end EntryFault

namespace Entry

variable {index : Nat} {node : Node} {kind : Kind} {fault : EntryFault}

theorem whole_of_mapping (h : mapping kind index node = .error fault) : Whole fault.message := by
  have hfault := mapping_eq_error h
  simp only [List.mem_cons, List.not_mem_nil, or_false] at hfault
  rcases hfault with rfl | rfl | rfl | rfl | rfl | rfl
  · exact (EntryFault.whole_entry index).append (by decide)
  · exact EntryFault.whole_notText (whole_arnKey kind)
  · exact EntryFault.whole_missing (whole_arnKey kind)
  · exact EntryFault.whole_notText (by decide)
  · decide
  · decide

theorem whole_of_account (h : account index node = .error fault) : Whole fault.message := by
  rw [account_eq_error h]
  exact (EntryFault.whole_entry index).append (by decide)

end Entry

end IdentityMap
