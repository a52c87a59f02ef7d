import IdentityMap.Document.Text
import IdentityMap.Records.Reader

/-!
# Strict reading and collecting

A list may be read strictly or by collecting what reads.  The two ways differ only in what they
make of the faults of entries: strict reading gives the first of them in place of the records.
This holds for any way to read an entry, and so for users, roles and accounts alike.
-/

namespace IdentityMap.Reader

variable {α : Type}

theorem mapM_results (results : List (Except EntryFault α)) :
    results.mapM id =
      match (results.filterMap fault?).head? with
      | some fault => .error fault
      | none => .ok (results.filterMap Except.toOption) := by
  induction results with
  | nil => rfl
  | cons result results ih =>
      rw [List.mapM_cons, ih]
      cases result with
      | error fault => rfl
      | ok record =>
          -- A record in front adds no fault, so the rest decides.
          have hfaults : (Except.ok record :: results).filterMap fault? =
              results.filterMap fault? := rfl
          rw [hfaults]
          cases (results.filterMap fault?).head? <;> rfl

theorem read_eq [Dialect] (reader : Reader α) (text : String) :
    reader.read text =
      match reader.collect text with
      | .error fault => .error (.list fault)
      | .ok collected =>
        match collected.faults.head? with
        | some fault => .error (.entry fault)
        | none => .ok collected.records := by
  unfold read collect
  cases entriesOfText text with
  | error fault => rfl
  | ok nodes =>
      have hnodes : reader.readNodes nodes =
          match (reader.collectNodes nodes).faults.head? with
          | some fault => .error fault
          | none => .ok (reader.collectNodes nodes).records := mapM_results _
      change (reader.readNodes nodes).mapError ReadFault.entry =
        match (reader.collectNodes nodes).faults.head? with
        | some fault => .error (.entry fault)
        | none => .ok (reader.collectNodes nodes).records
      rw [hnodes]
      cases (reader.collectNodes nodes).faults.head? <;> rfl

/-- Strict reading succeeds just in case collecting finds no fault, with the same records.  It
gives an entry's fault, and so its message, just in case that is the first one collected.  Where
the text is no list, both give the same fault. -/
theorem read_iff_collect [Dialect] (reader : Reader α) (text : String) :
    (∀ records, reader.read text = .ok records ↔ reader.collect text = .ok ⟨records, []⟩) ∧
    (∀ fault, reader.read text = .error (.entry fault) ↔
      ∃ collected, reader.collect text = .ok collected ∧ collected.faults.head? = some fault) ∧
    (∀ message, (∃ fault, reader.read text = .error (.entry fault) ∧ fault.message = message) ↔
      ∃ collected, reader.collect text = .ok collected ∧
        (collected.faults.map EntryFault.message).head? = some message) ∧
    ∀ fault, reader.read text = .error (.list fault) ↔ reader.collect text = .error fault := by
  rw [read_eq]
  cases reader.collect text with
  | error fault => simp
  | ok collected =>
      obtain ⟨records, faults⟩ := collected
      cases faults with
      | nil => simp
      | cons fault faults => simp

/-- Of two bad entries the first decides, although a good one stands before it. -/
example :
    Reader.read Entry.account "[a, [], ~]" = .error (.entry (.notAccount 1)) ∧
      Reader.collect Entry.account "[a, [], ~]" = .ok ⟨["a"], [.notAccount 1, .notAccount 2]⟩ :=
  ⟨rfl, rfl⟩

end IdentityMap.Reader
