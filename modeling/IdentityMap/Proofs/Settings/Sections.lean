import IdentityMap.Document.Text
import IdentityMap.Proofs.Settings.Reading

/-!
# Sections that are no maps

A section that is given should be a map.  What becomes of a document that gives something else in
the place of one is told here.  A scalar refuses to be asked for a field: unless a fault is come
upon before, the reading breaks off there, and what is reported is no fault of the settings.  A list
has no fields.  A section that is required lacks its own then, which is a fault; one that may be
left out is read as if it had been.
-/

namespace IdentityMap

variable {α : Type} {root : Node}

theorem Node.field?_ne_null (root : Node) (key : String) : root.field? key ≠ some .null := by
  cases root with
  | map pairs =>
      rw [field?, value?]
      cases pairs.lookup key with
      | none => nofun
      | some node => cases node <;> nofun
  | null | scalar _ | seq _ => nofun

/-! ## Refusals among the obstacles -/

theorem Setting.notSection_not_mem_faults [Dialect] (setting : Setting α) :
    .notSection ∉ setting.faults root := by
  unfold Setting.faults
  split <;> simp

namespace Section

variable (part : Section)

theorem notSection_not_mem_faults : .notSection ∉ part.faults root := by
  unfold faults
  split <;> simp

variable [Dialect]

theorem notSection_not_mem_faultsAhead : .notSection ∉ part.faultsAhead root := by
  cases part <;>
    simp [faultsAhead, Setting.notSection_not_mem_faults, notSection_not_mem_faults]

theorem mem_obstacles_of_scalar {text : String} (h : root.field? part.key = some (.scalar text)) :
    .notSection ∈ Settings.obstacles root := by
  have hall : part ∈ all := by
    cases part <;> decide
  have hrefusal : .notSection ∈ part.refusals root := by
    rw [refusals_of_scalar h]
    exact List.mem_singleton_self _
  exact List.mem_append_left _ (List.mem_append_left _
    (List.mem_flatMap_of_mem hall (List.mem_append_right _ hrefusal)))

def faultsBefore (root : Node) (part : Section) : List SettingsFault :=
  (all.takeWhile (· ≠ part) ++ [part]).flatMap (faultsAhead root)

/-- A refusal comes first if a section refuses and no fault is ahead of it, or later on. -/
theorem head?_ahead_eq_notSection_iff (rest : List SettingsFault) :
    (part.faultsAhead root ++ (part.refusals root ++ rest)).head? = some .notSection ↔
      part.faultsAhead root = [] ∧
        ((∃ text, root.field? part.key = some (.scalar text)) ∨
          rest.head? = some .notSection) := by
  cases hahead : part.faultsAhead root with
  | nil =>
      by_cases hscalar : ∃ text, root.field? part.key = some (.scalar text)
      · obtain ⟨text, htext⟩ := hscalar
        simp [refusals_of_scalar htext, htext]
      · rw [refusals_of_not_scalar (not_exists.1 hscalar)]
        simp [hscalar]
  | cons fault faults =>
      have hfault : fault ≠ .notSection := by
        rintro rfl
        exact part.notSection_not_mem_faultsAhead (hahead ▸ List.mem_cons_self)
      simp [hfault]

end Section

namespace Settings

section Documents

variable [Dialect]

/-- Some section is a scalar, and no fault is come upon before it is asked for its fields. -/
def BreaksOff (root : Node) : Prop :=
  ∃ part : Section, (∃ text, root.field? part.key = some (.scalar text)) ∧
    part.faultsBefore root = []

theorem breaksOff_iff : BreaksOff root ↔ (obstacles root).head? = some .notSection := by
  have hrest : (Setting.level.faults root ++ (Setting.reportInterval.faults root ++
      (Constraint.all.filter (Constraint.fails root)).map SettingsFault.violated)).head? ≠
        some .notSection := by
    intro hhead
    have hmem := List.mem_of_head? hhead
    simp [Setting.notSection_not_mem_faults] at hmem
  -- The sections are asked one after another, so each of them is a step of its own.
  simp only [obstacles, fieldObstacles, Section.all, List.flatMap_cons, List.flatMap_nil,
    List.append_assoc, List.nil_append, Section.head?_ahead_eq_notSection_iff, hrest]
  constructor
  · rintro ⟨part, hscalar, hbefore⟩
    cases part <;> simp_all [Section.faultsBefore, Section.all]
  · rintro ⟨hresource,
      hscalar | ⟨hsource, hscalar | ⟨hsync, hscalar | ⟨hlogging, hscalar | hnone⟩⟩⟩⟩
    · exact ⟨.resource, hscalar, by simp [Section.faultsBefore, Section.all, hresource]⟩
    · exact ⟨.source, hscalar, by simp [Section.faultsBefore, Section.all, hresource, hsource]⟩
    · exact ⟨.sync, hscalar, by
        simp [Section.faultsBefore, Section.all, hresource, hsource, hsync]⟩
    · exact ⟨.logging, hscalar, by
        simp [Section.faultsBefore, Section.all, hresource, hsource, hsync, hlogging]⟩
    · exact hnone.elim

/-- The faults of a document are the obstacles in it that are not refusals. -/
theorem filter_obstacles : (obstacles root).filter (· ≠ .notSection) = faults root := by
  have hkept (faults : List SettingsFault) (h : .notSection ∉ faults) :
      faults.filter (· ≠ .notSection) = faults :=
    List.filter_eq_self.2 fun fault hmem => by simpa using ne_of_mem_of_not_mem hmem h
  have hsetting {α : Type} (setting : Setting α) :
      (setting.faults root).filter (· ≠ .notSection) = setting.faults root :=
    hkept _ setting.notSection_not_mem_faults
  have hsection (part : Section) :
      (part.faults root).filter (· ≠ .notSection) = part.faults root :=
    hkept _ part.notSection_not_mem_faults
  have hviolated (constraints : List Constraint) :
      (constraints.map SettingsFault.violated).filter (· ≠ .notSection) =
        constraints.map .violated :=
    hkept _ (by simp)
  have hrefusals (part : Section) : (part.refusals root).filter (· ≠ .notSection) = [] := by
    unfold Section.refusals
    split <;> rfl
  simp only [obstacles, fieldObstacles, Section.all, Section.faultsAhead, faults, fieldFaults,
    List.flatMap_cons, List.flatMap_nil, List.flatten_cons, List.flatten_nil, List.filter_append,
    hsetting, hsection, hviolated, hrefusals, List.append_assoc, List.append_nil, List.nil_append]

/-- Unless the reading breaks off, the faults of a document decide what becomes of it. -/
theorem reports_of_not_breaksOff (hroot : ∀ text, root ≠ .scalar text) (h : ¬ BreaksOff root) :
    Reports (ofNode root) (faults root)
      fun settings => settings.Sound ∧ settings.Faithful root := by
  apply (reports_obstacles hroot).of_head?
  rw [breaksOff_iff] at h
  rw [← filter_obstacles]
  cases hobstacles : obstacles root with
  | nil => rfl
  | cons first rest =>
      have hfirst : first ≠ .notSection := by simpa [hobstacles] using h
      simp [hfirst]

/-! ## Sections of the wrong type -/

variable {part : Section} {node : Node} {settings : Settings}

omit [Dialect] in
theorem given?_of_wrong {setting : Setting α} (hnode : root.field? part.key = some node)
    (hwrong : ∀ entries, node ≠ .map entries) (hpart : setting.section? = some part) :
    setting.given? root = none := by
  simp only [Setting.given?, hpart, hnode, Option.bind_some]
  cases node with
  | map entries => exact absurd rfl (hwrong entries)
  | null | scalar _ | seq _ => rfl

/-- What loads in spite of a section of the wrong type has a list there and the defaults. -/
theorem Faithful.of_wrong (h : settings.Faithful root) (hobstacles : obstacles root = [])
    (hnode : root.field? part.key = some node) (hwrong : ∀ entries, node ≠ .map entries) :
    (∃ items, node = .seq items) ∧ (part = .sync ∨ part = .logging) ∧
      ∀ {α : Type} (setting : Setting α), setting.section? = some part →
        setting.default? = some (setting.get settings) := by
  have hdefault {α : Type} (setting : Setting α) (hpart : setting.section? = some part) :
      setting.default? = some (setting.get settings) :=
    h.absent setting (given?_of_wrong hnode hwrong hpart)
  refine ⟨?_, ?_, hdefault⟩
  · cases node with
    | seq items => exact ⟨items, rfl⟩
    | map entries => exact absurd rfl (hwrong entries)
    | null => exact absurd hnode (root.field?_ne_null part.key)
    | scalar text => exact absurd (part.mem_obstacles_of_scalar hnode) (by simp [hobstacles])
  · cases part with
    | resource => exact absurd (hdefault .ns rfl) nofun
    | source => exact absurd (hdefault .path rfl) nofun
    | sync => exact .inl rfl
    | logging => exact .inr rfl

/-- Suppose that a document gives something else than a map in the place of a section.  The reading
breaks off if a section is a scalar and no fault comes before it.  Otherwise the first fault of the
document is reported if there is one; and if there is none, the section is a list that the document
need not have, and all of its settings are the defaults. -/
theorem wrong_section_is_reported_iff {pairs : List (String × Node)}
    (hnode : (Node.map pairs).field? part.key = some node)
    (hwrong : ∀ entries, node ≠ .map entries) :
    let root := Node.map pairs
    (∀ fault, (ofNode root = .error fault ∧ ∀ path, fault.Says (fault.message path)) ↔
      (faults root).head? = some fault ∧ ¬ BreaksOff root) ∧
    (ofNode root = .error .notSection ↔ BreaksOff root) ∧
    ((∃ settings, ofNode root = .ok settings) ↔ faults root = [] ∧ ¬ BreaksOff root) ∧
    (∀ settings, ofNode root = .ok settings →
      (∃ items, node = .seq items) ∧ (part = .sync ∨ part = .logging) ∧
        ∀ {α : Type} (setting : Setting α), setting.section? = some part →
          setting.default? = some (setting.get settings)) ∧
    ∀ text, Dialect.load text = .ok root → ofFile? (some text) = ofNode root := by
  intro root
  have hroot : ∀ text, root ≠ .scalar text := nofun
  have hbreaks : ofNode root = .error .notSection ↔ BreaksOff root := by
    rw [(reports_obstacles hroot).eq_error_iff, breaksOff_iff]
  refine ⟨fun fault => ⟨?_, ?_⟩, hbreaks, ⟨?_, ?_⟩, ?_, ?_⟩
  · rintro ⟨hfault, hsays⟩
    have hgoes : ¬ BreaksOff root := by
      intro hbreak
      obtain rfl := Except.error.inj (hfault.symm.trans (hbreaks.2 hbreak))
      cases hsays ""
    exact ⟨(reports_of_not_breaksOff hroot hgoes).eq_error_iff.1 hfault, hgoes⟩
  · rintro ⟨hfirst, hgoes⟩
    exact ⟨(reports_of_not_breaksOff hroot hgoes).eq_error_iff.2 hfirst,
      says_message (List.mem_of_head? hfirst)⟩
  · rintro ⟨settings, hsettings⟩
    have hgoes : ¬ BreaksOff root := by
      rw [← hbreaks, hsettings]
      nofun
    exact ⟨(reports_of_not_breaksOff hroot hgoes).exists_ok_iff.1 ⟨settings, hsettings⟩, hgoes⟩
  · rintro ⟨hfaults, hgoes⟩
    exact (reports_of_not_breaksOff hroot hgoes).exists_ok_iff.2 hfaults
  · intro settings hsettings
    have hreports := reports_obstacles hroot
    rw [hsettings] at hreports
    obtain ⟨hobstacles, -, hfaithful⟩ := hreports
    exact hfaithful.of_wrong hobstacles hnode hwrong
  · intro text htext
    rw [ofFile?, htext]

end Documents

/-- A document with what is required outside of its source. -/
def draft (source sync : Node) : Node :=
  .map [("app_name", .scalar "a"), ("version", .scalar "1"),
    ("resource", .map [("namespace", .scalar "n"), ("name", .scalar "m")]),
    ("source", source), ("sync", sync)]

/-- A list in the place of the source lacks the path. -/
theorem list_for_source_is_reported :
    ofNode (draft (.seq []) .null) = .error (.missing "source.path") ∧
      ∀ path, (SettingsFault.missing "source.path").Says
        ((SettingsFault.missing "source.path").message path) := by
  have hsource : (draft (.seq []) .null).field? Section.source.key = some (.seq []) := rfl
  obtain ⟨hreported, -⟩ := wrong_section_is_reported_iff hsource nofun
  refine (hreported _).2 ⟨by decide +kernel, ?_⟩
  rintro ⟨_ | _ | _ | _, ⟨text, ⟨⟩⟩, -⟩

/-- A list in the place of a section that may be left out is not reported, and a scalar there breaks
the reading off. -/
theorem wrong_sync_is_not_reported :
    let source : Node := .map [("path", .scalar "p")]
    (∃ settings, ofNode (draft source (.seq [])) = .ok settings ∧ settings.sync = {}) ∧
      ofNode (draft source (.scalar "fast")) = .error .notSection :=
  ⟨⟨_, rfl, rfl⟩, rfl⟩

end Settings

end IdentityMap
