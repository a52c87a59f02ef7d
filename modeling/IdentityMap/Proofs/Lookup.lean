import Mathlib.Data.List.Forall2
import IdentityMap.Tables

/-!
# Look-ups

What a look-up answers is told here from the lists that the tables were built of.  An ARN finds
the last mapping whose ARN is the same up to the case of ASCII letters, an account is found if it
is in its list as it stands.
-/

namespace IdentityMap

open Std (TreeMap TreeSet)

/-! ## The same text in another case -/

def SameLetter (c d : Char) : Prop :=
  c = d ∨ ('A' ≤ c ∧ c ≤ 'Z' ∧ d.toNat = c.toNat + 32) ∨
    ('A' ≤ d ∧ d ≤ 'Z' ∧ c.toNat = d.toNat + 32)

def SameUpToCase (first second : String) : Prop :=
  List.Forall₂ SameLetter first.toList second.toList

theorem isCapital_iff {c : Char} : 'A' ≤ c ∧ c ≤ 'Z' ↔ 65 ≤ c.toNat ∧ c.toNat ≤ 90 := by
  simp only [Char.le_def, UInt32.le_iff_toNat_le]
  exact Iff.rfl

theorem toNat_toLower (c : Char) :
    c.toLower.toNat = if 65 ≤ c.toNat ∧ c.toNat ≤ 90 then c.toNat + 32 else c.toNat := by
  unfold Char.toLower
  split
  · rename_i hcapital
    have hbounds := isCapital_iff.1 hcapital
    rw [if_pos hbounds]
    change (c.val + 32).toNat = c.toNat + 32
    rw [UInt32.toNat_add]
    exact Nat.mod_eq_of_lt (by change c.toNat + 32 < 2 ^ 32; omega)
  · rename_i hother
    rw [if_neg (mt isCapital_iff.2 hother)]

theorem toLower_eq_toLower_iff {c d : Char} : c.toLower = d.toLower ↔ SameLetter c d := by
  rw [← Char.toNat_inj, toNat_toLower, toNat_toLower, SameLetter, ← Char.toNat_inj]
  simp only [← and_assoc, isCapital_iff]
  split <;> split <;> omega

theorem map_toLower_eq_iff {first second : String} :
    first.toList.map Char.toLower = second.toList.map Char.toLower ↔
      SameUpToCase first second := by
  rw [← List.forall₂_eq_eq_eq, List.forall₂_map_left_iff, List.forall₂_map_right_iff, SameUpToCase]
  simp only [toLower_eq_toLower_iff]

instance (first second : String) : Decidable (SameUpToCase first second) :=
  decidable_of_iff _ map_toLower_eq_iff

/-- Folding brings together the texts that are equal up to case, and no others. -/
theorem foldCase_eq_foldCase_iff {first second : String} :
    foldCase first = foldCase second ↔ SameUpToCase first second := by
  rw [← String.toList_inj, toList_foldCase, toList_foldCase, map_toLower_eq_iff]

/-! ## Tables -/

namespace Mapping

def lastFor? (mappings : List Mapping) (arn : String) : Option Mapping :=
  (mappings.filter fun mapping => SameUpToCase mapping.arn arn).getLast?

theorem getElem?_foldl_insert (mappings : List Mapping) (table : TreeMap String Mapping)
    (key : String) :
    (mappings.foldl (fun table mapping => table.insert mapping.key mapping) table)[key]? =
      (mappings.filter fun mapping => mapping.key = key).getLast?.or table[key]? := by
  -- The table stands for the mappings that came before, which all those of the list overrule.
  induction mappings generalizing table with
  | nil => rfl
  | cons mapping mappings ih =>
      rw [List.foldl_cons, ih, TreeMap.getElem?_insert]
      by_cases hkey : mapping.key = key
      · rw [if_pos (by simpa using hkey), List.filter_cons_of_pos (by simpa using hkey),
          List.getLast?_cons]
        cases (mappings.filter fun mapping => mapping.key = key).getLast? <;> rfl
      · rw [if_neg (by simpa using hkey), List.filter_cons_of_neg (by simpa using hkey)]

theorem getElem?_table (mappings : List Mapping) (arn : String) :
    (table mappings)[foldCase arn]? = lastFor? mappings arn := by
  rw [table, getElem?_foldl_insert, lastFor?, TreeMap.getElem?_emptyc, Option.or_none]
  simp only [key, foldCase_eq_foldCase_iff]

end Mapping

namespace Tables

variable (users roles : List Mapping) (accounts : List String)

theorem find?_ofLists (kind : Kind) (arn : String) :
    (ofLists users roles accounts).find? kind arn =
      match kind with
      | .user => Mapping.lastFor? users arn
      | .role => Mapping.lastFor? roles arn := by
  cases kind with
  | user => exact Mapping.getElem?_table users arn
  | role => exact Mapping.getElem?_table roles arn

theorem mem_foldl_insert (set : TreeSet String) (account : String) :
    account ∈ accounts.foldl (fun set account => set.insert account) set ↔
      account ∈ accounts ∨ account ∈ set := by
  induction accounts generalizing set with
  | nil => simp
  | cons other accounts ih =>
      rw [List.foldl_cons, ih, TreeSet.mem_insert, Std.LawfulEqCmp.compare_eq_iff_eq,
        List.mem_cons]
      simp only [or_assoc, or_left_comm, eq_comm]

theorem hasAccount_ofLists (account : String) :
    (ofLists users roles accounts).hasAccount account = true ↔ account ∈ accounts := by
  rw [hasAccount, ← TreeSet.mem_iff_contains, ofLists, mem_foldl_insert]
  simp

end Tables

end IdentityMap
