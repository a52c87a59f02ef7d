import IdentityMap.Document.Text
import IdentityMap.Proofs.Settings.Reading

/-!
# Which documents load

A document loads just in case it has no fault.  Its settings are then its own values, with the
defaults where it gives none, and they meet all constraints.  Otherwise the first of its faults is
reported, in the order in which the fields are read and the constraints are checked.
-/

namespace IdentityMap

/-! ## Unrecognised keys -/

namespace Node

variable {node : Node} {key : String}

def trim (kept? : String → Option (Node → Node)) : Node → Node
  | .map pairs =>
    .map (pairs.filterMap fun pair => (kept? pair.1).map fun keep => (pair.1, keep pair.2))
  | node => node

variable {kept? : String → Option (Node → Node)} {keep : Node → Node}

theorem trim_eq_null_iff : node.trim kept? = .null ↔ node = .null := by
  cases node <;> simp [trim]

theorem trim_eq_scalar_iff {text : String} :
    node.trim kept? = .scalar text ↔ node = .scalar text := by
  cases node <;> simp [trim]

theorem lookup_trim (hkey : kept? key = some keep) (pairs : List (String × Node)) :
    (pairs.filterMap fun pair => (kept? pair.1).map fun keep => (pair.1, keep pair.2)).lookup key =
      (pairs.lookup key).map keep := by
  induction pairs with
  | nil => rfl
  | cons pair pairs ih =>
      obtain ⟨other, node⟩ := pair
      by_cases hother : key = other
      · simp [← hother, hkey]
      · have hne : (key == other) = false := beq_eq_false_iff_ne.2 hother
        cases hkept : kept? other <;> simp [List.lookup_cons, hkept, hne, ih]

theorem field?_trim (hkey : kept? key = some keep)
    (hkeep : ∀ node, keep node = .null ↔ node = .null) :
    (node.trim kept?).field? key = (node.field? key).map keep := by
  cases node with
  | null | scalar _ | seq _ => rfl
  | map pairs =>
      rw [trim, field?, field?, value?, value?, lookup_trim hkey]
      cases pairs.lookup key with
      | none => rfl
      | some node =>
          rw [Option.map_some]
          -- What is kept of a value counts as absent just in case the value does.
          cases hkept : keep node with
          | null =>
              rw [(hkeep node).1 hkept]
              rfl
          | scalar _ | seq _ | map _ =>
              cases node with
              | null =>
                  rw [(hkeep .null).2 rfl] at hkept
                  cases hkept
              | scalar _ | seq _ | map _ => exact congrArg some hkept.symm

end Node

def Section.recognised (part : Section) : Node → Node :=
  Node.trim fun key => if key ∈ part.keys then some id else none

def Settings.recognised : Node → Node :=
  Node.trim fun
    | "app_name" | "version" | "report_interval_ms" => some id
    | "resource" => some Section.resource.recognised
    | "source" => some Section.source.recognised
    | "sync" => some Section.sync.recognised
    | "logging" => some Section.logging.recognised
    | _ => none

section Recognised

variable {α : Type} {root : Node}

theorem Section.field?_recognised (part : Section) (node : Node) {key : String}
    (hkey : key ∈ part.keys) : (part.recognised node).field? key = node.field? key := by
  have hkept : (part.recognised node).field? key = (node.field? key).map id :=
    Node.field?_trim (if_pos hkey) fun _ => .rfl
  rwa [Option.map_id_apply] at hkept

theorem Setting.key_mem {setting : Setting α} {part : Section}
    (h : setting.section? = some part) : setting.key ∈ part.keys := by
  cases setting <;> cases h <;> simp [Setting.key, Section.keys]

namespace Settings

theorem field?_recognised (part : Section) (root : Node) :
    (recognised root).field? part.key = (root.field? part.key).map part.recognised := by
  apply Node.field?_trim
  · cases part <;> rfl
  · exact fun _ => Node.trim_eq_null_iff

theorem given?_recognised (setting : Setting α) (root : Node) :
    setting.given? (recognised root) = setting.given? root := by
  unfold Setting.given?
  cases hpart : setting.section? with
  | none =>
      have hkept : (recognised root).field? setting.key = (root.field? setting.key).map id := by
        apply Node.field?_trim _ fun _ => Iff.rfl
        cases setting <;> first | rfl | cases hpart
      rw [hkept, Option.map_id_apply]
  | some part =>
      simp only [field?_recognised, Option.bind_map]
      congr 1
      funext node
      exact part.field?_recognised node (Setting.key_mem hpart)

theorem value?_recognised [Dialect] (setting : Setting α) (root : Node) :
    setting.value? (recognised root) = setting.value? root := by
  rw [Setting.value?, given?_recognised, Setting.value?]

theorem faults_recognised [Dialect] (root : Node) : faults (recognised root) = faults root := by
  have hsetting : ∀ {α : Type} (setting : Setting α),
      setting.faults (recognised root) = setting.faults root := by
    intro α setting
    rw [Setting.faults, given?_recognised, value?_recognised, Setting.faults]
  have hsection : ∀ part : Section, part.faults (recognised root) = part.faults root := by
    intro part
    rw [Section.faults, field?_recognised, Section.faults]
    cases root.field? part.key <;> rfl
  have hconstraint : Constraint.fails (recognised root) = Constraint.fails root := by
    funext constraint
    cases constraint <;> simp only [Constraint.fails, value?_recognised]
  simp only [faults, fieldFaults, hsetting, hsection, hconstraint]

theorem sectioned_recognised_iff : Sectioned (recognised root) ↔ Sectioned root := by
  have hdocument (text : String) : recognised root = .scalar text ↔ root = .scalar text :=
    Node.trim_eq_scalar_iff
  have hsections (part : Section) (text : String) :
      (recognised root).field? part.key = some (.scalar text) ↔
        root.field? part.key = some (.scalar text) := by
    rw [field?_recognised]
    cases root.field? part.key with
    | none => rfl
    | some node =>
        rw [Option.map_some, Option.some_inj, Option.some_inj]
        exact Node.trim_eq_scalar_iff
  constructor
  · intro h
    exact ⟨fun text => mt (hdocument text).2 (h.document text),
      fun part text => mt (hsections part text).2 (h.sections part text)⟩
  · intro h
    exact ⟨fun text => mt (hdocument text).1 (h.document text),
      fun part text => mt (hsections part text).1 (h.sections part text)⟩

end Settings

end Recognised

/-! ## Whole documents -/

namespace Settings

section Documents

variable [Dialect] {root : Node}

theorem ofNode_recognised (hroot : Sectioned root) : ofNode (recognised root) = ofNode root := by
  have hkept := reports_ofNode (sectioned_recognised_iff.2 hroot)
  have hread := reports_ofNode hroot
  rw [faults_recognised] at hkept
  apply hkept.unique hread
  rintro settings other ⟨-, hsettings⟩ ⟨-, hother⟩
  have hgiven : settings.Faithful root := by
    apply faithful_of_value?
    intro α setting
    rw [← value?_recognised, hsettings.value?]
  exact hgiven.unique hother

/-- Suppose that neither a document nor one of its sections is a scalar.  It loads just in case it
has no fault, and its settings are then sound, and faithful to it.  Otherwise the first of its
faults is reported, in the same words wherever the document is from.  Another document that differs
only in keys that are not recognised has the same result. -/
theorem loads_or_reports_first (hroot : Sectioned root) :
    (∀ settings, ofNode root = .ok settings → settings.Sound ∧ settings.Faithful root) ∧
    ((∃ settings, ofNode root = .ok settings) ↔ faults root = []) ∧
    (∀ fault rest, faults root = fault :: rest →
      ofNode root = .error fault ∧ ∀ path, fault.Says (fault.message path)) ∧
    (∀ other, recognised other = recognised root → ofNode other = ofNode root) ∧
    ∀ text, Dialect.load text = .ok root → ofFile? (some text) = ofNode root := by
  have hreports := reports_ofNode hroot
  refine ⟨?_, ?_, ?_, ?_, ?_⟩
  · intro settings hsettings
    rw [hsettings] at hreports
    exact hreports.2
  · cases hresult : ofNode root with
    | ok settings =>
        rw [hresult] at hreports
        exact iff_of_true ⟨settings, rfl⟩ hreports.1
    | error fault =>
        rw [hresult] at hreports
        refine iff_of_false nofun fun hnone => ?_
        rw [hnone] at hreports
        cases hreports
  · intro fault rest hfaults
    refine ⟨?_, says_message (hfaults ▸ List.mem_cons_self)⟩
    rw [hfaults] at hreports
    cases hresult : ofNode root with
    | ok settings =>
        rw [hresult] at hreports
        cases hreports.1
    | error other =>
        rw [hresult] at hreports
        exact congrArg Except.error (Option.some_inj.1 (Eq.symm hreports))
  · intro other hother
    have hsectioned : Sectioned other := by
      rwa [← sectioned_recognised_iff, hother, sectioned_recognised_iff]
    rw [← ofNode_recognised hsectioned, hother, ofNode_recognised hroot]
  · intro text htext
    rw [ofFile?, htext]

end Documents

/-- A document that gives an initial delay, leaves out the longest one, and has an odd key. -/
def delayed (initialDelay : String) : Node :=
  .map [("app_name", .scalar "a"), ("version", .scalar "1"),
    ("resource", .map [("namespace", .scalar "n"), ("name", .scalar "m")]),
    ("source", .map [("path", .scalar "p"), ("note", .seq [])]),
    ("sync", .map [("initial_delay_ms", .scalar initialDelay)]), ("logging", .null)]

/-- An initial delay is measured against the default of the longest delay. -/
theorem loads_or_reports_first_of_delayed :
    ofNode (delayed "40000") = .error (.violated .maxDelayNotLess) ∧
      ∃ settings, ofNode (delayed "300") = .ok settings ∧ settings.Sound ∧
        settings.sync.initialDelay = 300 ∧ settings.sync.maxDelay = 30000 := by
  have hdelayed (initialDelay : String) : Sectioned (delayed initialDelay) :=
    ⟨nofun, by rintro (_ | _ | _ | _) text ⟨⟩⟩
  obtain ⟨-, -, hreported, -⟩ := loads_or_reports_first (hdelayed "40000")
  obtain ⟨hread, hloads, -⟩ := loads_or_reports_first (hdelayed "300")
  obtain ⟨settings, hsettings⟩ := hloads.2 (by decide +kernel)
  obtain ⟨hsound, hfaithful⟩ := hread settings hsettings
  have hgiven : Node.uint32? (.scalar "300") = some settings.sync.initialDelay :=
    hfaithful.given .initialDelay rfl
  have hread : Node.uint32? (.scalar "300") = some 300 := by decide +kernel
  have habsent : some 30000 = some settings.sync.maxDelay := hfaithful.absent .maxDelay rfl
  exact ⟨(hreported _ [] (by decide +kernel)).1, settings, hsettings, hsound,
    Option.some_inj.1 (hgiven.symm.trans hread), (Option.some_inj.1 habsent).symm⟩

end Settings

end IdentityMap
