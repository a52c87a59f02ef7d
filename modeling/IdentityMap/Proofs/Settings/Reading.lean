import IdentityMap.Proofs.Settings.Faults

/-!
# Reading settings

Each reader comes upon the faults of what it reads, and gives the values that the document or the
defaults give if there are none.  Readers one after another come upon their faults in that order.  A
section that is a scalar stops the readers of its fields before they come upon any fault.
-/

namespace IdentityMap

/-! ## Reports -/

section Reports

variable {α β : Type} {result : Except SettingsFault α} {faults more : List SettingsFault}
  {P : α → Prop} {Q : β → Prop}

/-- A result is a value with a property if there are no faults, and otherwise the first of them. -/
def Reports (result : Except SettingsFault α) (faults : List SettingsFault) (P : α → Prop) : Prop :=
  match result with
  | .ok value => faults = [] ∧ P value
  | .error fault => faults.head? = some fault

theorem Reports.pure {value : α} (h : P value) : Reports (.ok value) [] P :=
  ⟨rfl, h⟩

theorem Reports.of_eq (h : Reports result faults P) (heq : faults = more) :
    Reports result more P :=
  heq ▸ h

theorem Reports.of_head? (h : Reports result faults P) (hhead : faults.head? = more.head?) :
    Reports result more P := by
  cases result with
  | ok value =>
      obtain ⟨rfl, hvalue⟩ := h
      exact ⟨List.head?_eq_none_iff.1 hhead.symm, hvalue⟩
  | error fault => exact hhead.symm.trans h

theorem Reports.eq_error_iff (h : Reports result faults P) {fault : SettingsFault} :
    result = .error fault ↔ faults.head? = some fault := by
  cases result with
  | ok value => simp [h.1]
  | error other => simp [show faults.head? = some other from h]

theorem Reports.exists_ok_iff (h : Reports result faults P) :
    (∃ value, result = .ok value) ↔ faults = [] := by
  cases result with
  | ok value => simp [h.1]
  | error other =>
      have hhead : faults.head? = some other := h
      refine iff_of_false nofun ?_
      rintro rfl
      cases hhead

theorem Reports.bind {next : α → Except SettingsFault β} (h : Reports result faults P)
    (hnext : ∀ value, P value → Reports (next value) more Q) :
    Reports (result >>= next) (faults ++ more) Q := by
  cases result with
  | ok value =>
      obtain ⟨rfl, hvalue⟩ := h
      exact hnext value hvalue
  | error fault =>
      -- Nothing is read after a fault, so it stays the first.
      change (faults ++ more).head? = some fault
      rw [List.head?_append, show faults.head? = some fault from h]
      rfl

/-- Results that report the same faults are the same, if there is only one value to read. -/
theorem Reports.unique {other : Except SettingsFault α} {R : α → Prop} (h : Reports result faults P)
    (hother : Reports other faults R) (hvalue : ∀ value rival, P value → R rival → value = rival) :
    result = other := by
  cases result with
  | ok value =>
      obtain ⟨rfl, hread⟩ := h
      cases other with
      | ok rival => rw [hvalue value rival hread hother.2]
      | error fault => cases hother
  | error fault =>
      cases other with
      | ok rival =>
          obtain ⟨rfl, -⟩ := hother
          cases h
      | error rival => rw [Option.some_inj.1 (Eq.trans (Eq.symm h) hother)]

end Reports

/-! ## Fields -/

namespace Settings

structure Holds (root : Node) (part : Option Section) (parent : Node) : Prop where
  notScalar : ∀ text, parent ≠ .scalar text
  given : ∀ {α : Type} (setting : Setting α), setting.section? = part →
    setting.given? root = parent.field? setting.key

section Reading

variable {α : Type} {root parent : Node}

theorem holds_of_document (hroot : ∀ text, root ≠ .scalar text) : Holds root none root := by
  refine ⟨hroot, ?_⟩
  intro α setting hpart
  rw [Setting.given?, hpart]

theorem holds_of_section {part : Section} (hnode : (root.field? part.key).getD .null = parent)
    (hparent : ∀ text, parent ≠ .scalar text) : Holds root part parent := by
  refine ⟨hparent, ?_⟩
  intro α setting hpart
  simp only [Setting.given?, hpart, ← hnode]
  cases root.field? part.key <;> rfl

theorem value?_of_not_scalar (h : ∀ text, parent ≠ .scalar text) (key : String) :
    value? parent key = .ok (parent.field? key) := by
  cases parent with
  | scalar text => exact absurd rfl (h text)
  | _ => rfl

/-- A reader comes upon the fields of a section unless the section refuses to be asked for them. -/
theorem reports_section {part : Section} {read : Node → Except SettingsFault α}
    {faults : List SettingsFault} {P : α → Prop}
    (hscalar : ∀ text, read (.scalar text) = .error .notSection)
    (hread : ∀ {parent}, Holds root part parent → Reports (read parent) faults P)
    (hnode : (root.field? part.key).getD .null = parent) :
    Reports (read parent) (part.refusals root ++ faults) P := by
  by_cases hrefuses : ∃ text, root.field? part.key = some (.scalar text)
  · obtain ⟨text, htext⟩ := hrefuses
    obtain rfl : .scalar text = parent := by rw [← hnode, htext, Option.getD_some]
    rw [hscalar, Section.refusals_of_scalar htext]
    rfl
  · have hother : ∀ text, root.field? part.key ≠ some (.scalar text) :=
      fun text htext => hrefuses ⟨text, htext⟩
    rw [Section.refusals_of_not_scalar hother]
    apply hread (holds_of_section hnode _)
    rintro text rfl
    cases hfield : root.field? part.key with
    | none => simp [hfield] at hnode
    | some node => exact hother text (by rw [hfield, ← hnode, hfield, Option.getD_some])

theorem reports_requiredNode (hroot : ∀ text, root ≠ .scalar text) (part : Section) :
    Reports (requiredNode "" root part.key) (part.faults root)
      fun node => (root.field? part.key).getD .null = node := by
  rw [requiredNode, value?_of_not_scalar hroot, Section.faults]
  cases root.field? part.key with
  | none => cases part <;> rfl
  | some node => exact .pure rfl

theorem reports_optionalSection (hroot : ∀ text, root ≠ .scalar text) (part : Section) :
    Reports (optionalSection root part.key) []
      fun node => (root.field? part.key).getD .null = node := by
  rw [optionalSection, value?_of_not_scalar hroot]
  exact .pure rfl

variable [Dialect]

theorem reports_of_value? {setting : Setting α} {value : α} (h : setting.value? root = some value) :
    Reports (.ok value) (setting.faults root) fun value => setting.value? root = some value := by
  have hfaults : setting.faults root = [] := by
    rw [Setting.faults, h]
  rw [hfaults]
  exact .pure h

theorem reports_convert (setting : Setting α) {node : Node}
    (hgiven : setting.given? root = some node) :
    Reports (convert setting.read setting.field node) (setting.faults root)
      fun value => setting.value? root = some value := by
  have hvalue : setting.value? root = setting.read node := by
    rw [Setting.value?, hgiven]
  unfold convert
  cases hread : setting.read node with
  | none =>
      rw [Setting.faults, hgiven, hvalue, hread]
      rfl
  | some value => exact reports_of_value? (hvalue.trans hread)

theorem reports_required (setting : Setting α) (hdefault : setting.default? = none)
    (hparent : Holds root setting.section? parent) :
    Reports (required setting.read setting.sectionPath parent setting.key) (setting.faults root)
      fun value => setting.value? root = some value := by
  rw [required, requiredNode, value?_of_not_scalar hparent.notScalar, ← hparent.given setting rfl]
  cases hgiven : setting.given? root with
  | none =>
      rw [Setting.faults, Setting.value?, hgiven, hdefault]
      rfl
  | some node => exact reports_convert setting hgiven

theorem reports_optional (setting : Setting α) {default : α}
    (hdefault : setting.default? = some default) (hparent : Holds root setting.section? parent) :
    Reports (optional setting.read default setting.sectionPath parent setting.key)
      (setting.faults root) fun value => setting.value? root = some value := by
  rw [optional, value?_of_not_scalar hparent.notScalar, ← hparent.given setting rfl]
  cases hgiven : setting.given? root with
  | none =>
      have hvalue : setting.value? root = some default := by
        rw [Setting.value?, hgiven, hdefault]
      exact reports_of_value? hvalue
  | some node => exact reports_convert setting hgiven

theorem reports_resourceSection (hparent : Holds root Section.resource parent) :
    Reports (resourceSection parent) (Setting.ns.faults root ++ (Setting.name.faults root ++ []))
      fun resource => Setting.ns.value? root = some resource.ns ∧
        Setting.name.value? root = some resource.name := by
  apply (reports_required .ns rfl hparent).bind
  intro ns hns
  apply (reports_required .name rfl hparent).bind
  intro name hname
  exact .pure ⟨hns, hname⟩

theorem reports_sourceSection (hparent : Holds root Section.source parent) :
    Reports (sourceSection parent)
      (Setting.path.faults root ++ (Setting.pollInterval.faults root ++
        (Setting.watchTimeout.faults root ++ [])))
      fun source => Setting.path.value? root = some source.path ∧
        Setting.pollInterval.value? root = some source.pollInterval ∧
        Setting.watchTimeout.value? root = some source.watchTimeout := by
  apply (reports_required .path rfl hparent).bind
  intro path hpath
  apply (reports_optional .pollInterval rfl hparent).bind
  intro pollInterval hpollInterval
  apply (reports_optional .watchTimeout rfl hparent).bind
  intro watchTimeout hwatchTimeout
  exact .pure ⟨hpath, hpollInterval, hwatchTimeout⟩

theorem reports_syncSection (hparent : Holds root Section.sync parent) :
    Reports (syncSection parent)
      (Setting.initialDelay.faults root ++ (Setting.maxDelay.faults root ++
        (Setting.multiplier.faults root ++ (Setting.jitter.faults root ++
          (Setting.maxReopenAttempts.faults root ++ [])))))
      fun sync => Setting.initialDelay.value? root = some sync.initialDelay ∧
        Setting.maxDelay.value? root = some sync.maxDelay ∧
        Setting.multiplier.value? root = some sync.multiplier ∧
        Setting.jitter.value? root = some sync.jitter ∧
        Setting.maxReopenAttempts.value? root = some sync.maxReopenAttempts := by
  apply (reports_optional .initialDelay rfl hparent).bind
  intro initialDelay hinitialDelay
  apply (reports_optional .maxDelay rfl hparent).bind
  intro maxDelay hmaxDelay
  apply (reports_optional .multiplier rfl hparent).bind
  intro multiplier hmultiplier
  apply (reports_optional .jitter rfl hparent).bind
  intro jitter hjitter
  apply (reports_optional .maxReopenAttempts rfl hparent).bind
  intro maxReopenAttempts hmaxReopenAttempts
  exact .pure ⟨hinitialDelay, hmaxDelay, hmultiplier, hjitter, hmaxReopenAttempts⟩

theorem reports_readFields (hroot : ∀ text, root ≠ .scalar text) :
    Reports (readFields root) (fieldObstacles root) fun settings => settings.Faithful root := by
  apply Reports.of_eq
  case h =>
    apply (reports_required .appName rfl (holds_of_document hroot)).bind
    intro appName happName
    apply (reports_required .version rfl (holds_of_document hroot)).bind
    intro version hversion
    apply (reports_requiredNode hroot .resource).bind
    intro resourceNode hresourceNode
    apply (reports_section (fun _ => rfl) reports_resourceSection hresourceNode).bind
    intro resource hresource
    apply (reports_requiredNode hroot .source).bind
    intro sourceNode hsourceNode
    apply (reports_section (fun _ => rfl) reports_sourceSection hsourceNode).bind
    intro source hsource
    apply (reports_optionalSection hroot .sync).bind
    intro syncNode hsyncNode
    apply (reports_section (fun _ => rfl) reports_syncSection hsyncNode).bind
    intro sync hsync
    apply (reports_optionalSection hroot .logging).bind
    intro logging hlogging
    apply (reports_section (fun _ => rfl) (reports_optional .level rfl) hlogging).bind
    intro level hlevel
    apply (reports_optional .reportInterval rfl (holds_of_document hroot)).bind
    intro reportInterval hreportInterval
    refine .pure (faithful_of_value? ?_)
    intro α setting
    cases setting <;> grind [Setting.get]
  -- The obstacles come in the same order on both sides, but in groups on one of them.
  case heq => simp [fieldObstacles, Section.all, Section.faultsAhead]

end Reading

/-! ## Constraints -/

section Constraints

variable {settings : Settings} {root : Node}

theorem isNaN_of_le {x y : Float} (h : x ≤ y) : x.isNaN = false ∧ y.isNaN = false := by
  have hle : x.toModel.unpack.le y.toModel.unpack = true :=
    (of_decide_eq_true h : x.toModel ≤ y.toModel)
  change x.toModel.unpack.isNaN = false ∧ y.toModel.unpack.isNaN = false
  -- A comparison with not-a-number is false.
  cases hx : x.toModel.unpack <;> cases hy : y.toModel.unpack <;> rw [hx, hy] at hle <;>
    first | exact ⟨rfl, rfl⟩ | exact absurd hle Bool.false_ne_true

theorem sound_of_holds (h : ∀ constraint ∈ Constraint.all, constraint.holds settings = true) :
    settings.Sound := by
  simp only [Constraint.all, List.forall_mem_cons, Constraint.holds, decide_eq_true_eq] at h
  obtain ⟨hns, hname, hpath, hpollInterval, hinitialDelay, hmaxDelay, hmultiplier, hjitter,
    hreportInterval, hlevel, -⟩ := h
  exact
    { ns := hns
      name := hname
      path := hpath
      pollInterval := hpollInterval
      initialDelay := hinitialDelay
      maxDelay := hmaxDelay
      multiplier := ⟨hmultiplier, (isNaN_of_le hmultiplier).2⟩
      jitter := ⟨hjitter.1, hjitter.2, (isNaN_of_le hjitter.2).1⟩
      reportInterval := hreportInterval
      level := hlevel }

variable [Dialect]

theorem Faithful.fails_eq (h : settings.Faithful root) (constraint : Constraint) :
    constraint.fails root = !constraint.holds settings := by
  rw [Bool.eq_iff_iff]
  cases constraint <;>
    simp [Constraint.fails, Constraint.holds, Constraint.levels, h.value?, Setting.get,
      UInt32.le_zero_iff]

end Constraints

/-! ## Whole documents -/

section Documents

variable [Dialect] {settings : Settings} {root : Node}

theorem Faithful.reports_check (h : settings.Faithful root) :
    Reports (match settings.firstViolated? with
      | some constraint => throw (.violated constraint)
      | none => pure settings)
      ((Constraint.all.filter (Constraint.fails root)).map .violated)
      fun settings => settings.Sound ∧ settings.Faithful root := by
  have hviolated : settings.firstViolated? = Constraint.all.find? (Constraint.fails root) := by
    rw [firstViolated?, funext h.fails_eq]
  rw [hviolated]
  cases hfind : Constraint.all.find? (Constraint.fails root) with
  | some constraint =>
      change List.head? _ = _
      rw [List.head?_map, List.head?_filter, hfind]
      rfl
  | none =>
      rw [List.find?_eq_none] at hfind
      have hholds : ∀ constraint ∈ Constraint.all, constraint.holds settings = true := by
        intro constraint hmem
        simpa [h.fails_eq] using hfind constraint hmem
      rw [List.filter_eq_nil_iff.2 hfind]
      exact .pure ⟨sound_of_holds hholds, h⟩

theorem reports_obstacles (hroot : ∀ text, root ≠ .scalar text) :
    Reports (ofNode root) (obstacles root)
      fun settings => settings.Sound ∧ settings.Faithful root :=
  (reports_readFields hroot).bind fun _ hfaithful => hfaithful.reports_check

/-- The obstacles in a document without scalar sections are its faults. -/
theorem Sectioned.obstacles_eq_faults (hroot : Sectioned root) : obstacles root = faults root := by
  have hrefusals (part : Section) : part.refusals root = [] :=
    Section.refusals_of_not_scalar (hroot.sections part)
  simp [obstacles, fieldObstacles, faults, fieldFaults, Section.all, Section.faultsAhead, hrefusals]

theorem reports_ofNode (hroot : Sectioned root) :
    Reports (ofNode root) (faults root)
      fun settings => settings.Sound ∧ settings.Faithful root := by
  rw [← hroot.obstacles_eq_faults]
  exact reports_obstacles hroot.document

end Documents

end Settings

end IdentityMap
