import IdentityMap.Document.Text
import IdentityMap.Proofs.Records.Faults

/-!
# Fields are read on their own

What the data of a resource gives under one field depends on the text of that field alone.  The
three fields are seen here through one view, so that each statement is made once for all of them.
-/

namespace IdentityMap

open Std (TreeMap)

/-! ## One view of the fields -/

def Field.Record : Field → Type
  | .users | .roles => Mapping
  | .accounts => String

def Field.reader : (field : Field) → Reader field.Record
  | .users => Entry.mapping .user
  | .roles => Entry.mapping .role
  | .accounts => Entry.account

theorem Field.name_inj {field other : Field} : field.name = other.name ↔ field = other := by
  cases field <;> cases other <;> decide

theorem Field.whole_of_reader (field : Field) {index : Nat} {node : Node} {fault : EntryFault}
    (h : field.reader index node = .error fault) : Whole fault.message := by
  cases field with
  | users | roles => exact Entry.whole_of_mapping h
  | accounts => exact Entry.whole_of_account h

namespace Parsed

def records (parsed : Parsed) : (field : Field) → List field.Record
  | .users => parsed.users
  | .roles => parsed.roles
  | .accounts => parsed.accounts

def errorsOf (parsed : Parsed) (field : Field) : List FieldError :=
  parsed.errors.filter fun error => error.field = field.name

def AgreeOn (field : Field) (parsed other : Parsed) : Prop :=
  parsed.records field = other.records field ∧ parsed.errorsOf field = other.errorsOf field

/-! ## What one field gives -/

section Field

variable {α : Type} {name : Field} {reader : Reader α} {text : String}

theorem field_eq [Dialect] (field : Field) (reader : Reader α) (text : String) :
    Parsed.field field reader (some text) =
      match Dialect.load text with
      | .error cause => ([], [⟨field.name, cause.message⟩])
      | .ok .null => ([], [])
      | .ok (.seq items) =>
        ((reader.collectNodes items).records,
          (reader.collectNodes items).faults.map fun fault => ⟨field.name, fault.message⟩)
      | .ok _ => ([], [⟨field.name, ListFault.notList.message⟩]) := by
  simp only [Parsed.field, Reader.collect, entriesOfText]
  cases Dialect.load text with
  | error cause => rfl
  | ok node => cases node <;> rfl

theorem field_of_mem [Dialect] {error : FieldError} {text : Option String}
    (h : error ∈ (Parsed.field name reader text).2) : error.field = name.name := by
  unfold Parsed.field at h
  split at h
  · simp at h
  · split at h
    · obtain ⟨fault, -, rfl⟩ := List.mem_map.1 h
      rfl
    · rw [List.mem_singleton.1 h]

theorem length_results (results : List (Except EntryFault α)) :
    (results.filterMap Except.toOption).length + (results.filterMap Reader.fault?).length =
      results.length := by
  induction results with
  | nil => rfl
  | cons result results ih =>
      cases result with
      | ok record | error fault =>
          simp only [List.filterMap_cons, Except.toOption, Reader.fault?, List.length_cons]
          omega

theorem length_collectNodes (reader : Reader α) (items : List Node) :
    (reader.collectNodes items).records.length + (reader.collectNodes items).faults.length =
      items.length := by
  have hlength := length_results (reader.results items)
  rwa [Reader.results, List.length_mapIdx] at hlength

theorem exists_entry_of_fault {items : List Node} {fault : EntryFault}
    (h : fault ∈ (reader.collectNodes items).faults) :
    ∃ index node, reader index node = .error fault := by
  obtain ⟨result, hresult, hfault⟩ := List.mem_filterMap.1 h
  obtain ⟨index, hindex, rfl⟩ := List.mem_mapIdx.1 hresult
  refine ⟨index, items[index], ?_⟩
  unfold Reader.fault? at hfault
  split at hfault
  · cases hfault
  · rename_i other hother
    rw [hother, Option.some.inj hfault]

theorem whole_of_field [Dialect] {field : Field} {text : Option String} {error : FieldError}
    (h : error ∈ (Parsed.field field field.reader text).2) : Whole error.text := by
  have htext : ∀ message, Whole message → Whole (FieldError.text ⟨field.name, message⟩) := by
    intro message hmessage
    exact ((whole_fieldName field).append (by decide)).append hmessage
  cases text with
  | none => simp [Parsed.field] at h
  | some text =>
      rw [field_eq] at h
      split at h
      · rename_i cause _
        rw [List.mem_singleton.1 h]
        exact htext _ (whole_listFault (.malformed cause))
      · simp at h
      · obtain ⟨fault, hfault, rfl⟩ := List.mem_map.1 h
        obtain ⟨index, node, hentry⟩ := exists_entry_of_fault hfault
        exact htext _ (field.whole_of_reader hentry)
      · rw [List.mem_singleton.1 h]
        exact htext _ (whole_listFault .notList)

end Field

/-! ## Data -/

section Data

variable [Dialect] (data : TreeMap String String) (field : Field)

theorem records_ofData :
    (ofData data).records field =
      (Parsed.field field field.reader data[field.name]?).1 := by
  cases field <;> rfl

theorem errors_ofData :
    (ofData data).errors =
      (Parsed.field .users Field.users.reader data[Field.users.name]?).2 ++
        (Parsed.field .roles Field.roles.reader data[Field.roles.name]?).2 ++
        (Parsed.field .accounts Field.accounts.reader data[Field.accounts.name]?).2 :=
  rfl

theorem filter_field (other : Field) (text : Option String) :
    (Parsed.field other other.reader text).2.filter (fun error => error.field = field.name) =
      if other = field then (Parsed.field other other.reader text).2 else [] := by
  by_cases hsame : other = field
  · rw [if_pos hsame, List.filter_eq_self]
    intro error herror
    rw [field_of_mem herror, hsame]
    exact decide_eq_true rfl
  · rw [if_neg hsame, List.filter_eq_nil_iff]
    intro error herror
    rw [field_of_mem herror]
    simpa [Field.name_inj] using hsame

theorem errorsOf_ofData :
    (ofData data).errorsOf field =
      (Parsed.field field field.reader data[field.name]?).2 := by
  -- The errors of the other two fields carry other names.
  rw [errorsOf, errors_ofData, List.filter_append, List.filter_append, filter_field,
    filter_field, filter_field]
  cases field <;> simp

theorem whole_of_mem_errors {error : FieldError} (h : error ∈ (ofData data).errors) :
    Whole error.text := by
  rw [errors_ofData] at h
  rcases List.mem_append.1 h with h | h
  · rcases List.mem_append.1 h with h | h
    · exact whole_of_field h
    · exact whole_of_field h
  · exact whole_of_field h

theorem report_ofData :
    FieldError.report (ofData data).errors =
      "error parsing config map: [" ++
        ", ".intercalate ((ofData data).errors.map FieldError.text) ++ "]" := by
  apply Whole.upToNul
  refine (Whole.append (by decide) ?_).append (by decide)
  apply Whole.intercalate (by decide)
  intro text htext
  obtain ⟨error, herror, rfl⟩ := List.mem_map.1 htext
  exact whole_of_mem_errors data herror

variable {data} in
/-- What a field gives depends on whether it is present and on its text. -/
theorem agreeOn_of_text {other : TreeMap String String}
    (h : other[field.name]? = data[field.name]?) :
    AgreeOn field (ofData other) (ofData data) := by
  constructor
  · rw [records_ofData, records_ofData, h]
  · rw [errorsOf_ofData, errorsOf_ofData, h]

/-- Reading data never fails, and it reads each field on its own.  What a field gives stays the
same whatever becomes of the other keys.  A field that is absent or null gives nothing, one that is
no list gives a single error, and in a list every entry is kept or has its own error.  The errors
stand in the order of the fields, and there is a report if there are any. -/
theorem ofData_field_by_field :
    (∀ field : Field,
      (∀ other : TreeMap String String, other[field.name]? = data[field.name]? →
        AgreeOn field (ofData other) (ofData data)) ∧
      (∀ key, key ≠ field.name →
        (∀ text, AgreeOn field (ofData (data.insert key text)) (ofData data)) ∧
          AgreeOn field (ofData (data.erase key)) (ofData data)) ∧
      match (data[field.name]?).map Dialect.load with
      | none | some (.ok .null) =>
        (ofData data).records field = [] ∧ (ofData data).errorsOf field = []
      | some (.error cause) =>
        (ofData data).records field = [] ∧
          (ofData data).errorsOf field = [⟨field.name, cause.message⟩]
      | some (.ok (.seq items)) =>
        ((ofData data).records field).length + ((ofData data).errorsOf field).length =
          items.length
      | some (.ok (.scalar _)) | some (.ok (.map _)) =>
        (ofData data).records field = [] ∧
          (ofData data).errorsOf field = [⟨field.name, "expected a list"⟩]) ∧
    (ofData data).errors =
      (ofData data).errorsOf .users ++ (ofData data).errorsOf .roles ++
        (ofData data).errorsOf .accounts ∧
    (ofData data).report? =
      if (ofData data).errors = [] then none
      else some ("error parsing config map: [" ++
        ", ".intercalate ((ofData data).errors.map FieldError.text) ++ "]") := by
  refine ⟨?_, ?_, ?_⟩
  · intro field
    refine ⟨fun other h => agreeOn_of_text field h, ?_, ?_⟩
    · intro key hkey
      have hother : compare key field.name ≠ .eq := by
        intro hcompare
        exact hkey (Std.LawfulEqCmp.eq_of_compare hcompare)
      constructor
      · intro text
        apply agreeOn_of_text
        rw [TreeMap.getElem?_insert, if_neg hother]
      · apply agreeOn_of_text
        rw [TreeMap.getElem?_erase, if_neg hother]
    · rw [records_ofData, errorsOf_ofData]
      cases htext : data[field.name]? with
      | none => exact ⟨rfl, rfl⟩
      | some text =>
          rw [field_eq, Option.map_some]
          cases Dialect.load text with
          | error cause => exact ⟨rfl, rfl⟩
          | ok node =>
              cases node with
              | null | scalar _ | map _ => exact ⟨rfl, rfl⟩
              | seq items => simpa using length_collectNodes field.reader items
  · rw [errorsOf_ofData, errorsOf_ofData, errorsOf_ofData, errors_ofData]
  · rw [report?, report_ofData]

end Data

/-- A list of users with an entry that does not read, next to a list of roles that is cut off. -/
def damaged : TreeMap String String :=
  .ofList [("mapUsers", "[{userarn: a}, b]"), ("mapRoles", "[")]

theorem ofData_damaged_field_by_field :
    ((ofData damaged).records .users).length + ((ofData damaged).errorsOf .users).length = 2 ∧
      (ofData damaged).records .roles = [] ∧
      (ofData damaged).errorsOf .roles = [⟨"mapRoles", "<yaml>"⟩] ∧
      AgreeOn .users (ofData (damaged.insert "mapRoles" "[]")) (ofData damaged) ∧
      (ofData damaged).report? = some ("error parsing config map: [" ++
        ", ".intercalate ((ofData damaged).errors.map FieldError.text) ++ "]") := by
  have husers : (damaged[Field.users.name]?).map Dialect.load =
      some (.ok (.seq [.map [("userarn", .scalar "a")], .scalar "b"])) := by rfl
  have hroles : (damaged[Field.roles.name]?).map Dialect.load =
      some (.error .unclosedCollection) := by rfl
  have hsome : (ofData damaged).errors ≠ [] := by decide +kernel
  obtain ⟨hfields, -, hreport⟩ := ofData_field_by_field damaged
  obtain ⟨-, hkeys, hkept⟩ := hfields .users
  obtain ⟨-, -, hlost⟩ := hfields .roles
  rw [husers] at hkept
  rw [hroles] at hlost
  rw [if_neg hsome] at hreport
  exact ⟨hkept, hlost.1, hlost.2, (hkeys "mapRoles" (by decide)).1 "[]", hreport⟩

end Parsed

end IdentityMap
