import IdentityMap.Settings.Document

/-!
# Faults of settings

What a document gives each setting, and what is wrong with it, in the order in which a reader
comes upon it.  A constraint is judged by the values that the document and the defaults give.  A
scalar in the place of a section is in the way of a reader too, but it is not reported as a fault.
-/

namespace IdentityMap

/-- The value of a key in a node, where null counts as absent. -/
def Node.field? : Node → String → Option Node
  | .map pairs, key => Node.value? pairs key
  | _, _ => none

/-! ## Settings one by one -/

inductive Section where
  | resource
  | source
  | sync
  | logging
  deriving DecidableEq, Repr

/-- The settings in the order in which they are read, each with the type of its values. -/
inductive Setting : Type → Type where
  | appName : Setting String
  | version : Setting String
  | ns : Setting String
  | name : Setting String
  | path : Setting String
  | pollInterval : Setting UInt32
  | watchTimeout : Setting UInt32
  | initialDelay : Setting UInt32
  | maxDelay : Setting UInt32
  | multiplier : Setting Float
  | jitter : Setting Float
  | maxReopenAttempts : Setting UInt32
  | level : Setting String
  | reportInterval : Setting UInt32

namespace Section

def key : Section → String
  | resource => "resource"
  | source => "source"
  | sync => "sync"
  | logging => "logging"

def path : Section → String
  | resource => "resource."
  | source => "source."
  | sync => "sync."
  | logging => "logging."

def keys : Section → List String
  | resource => ["namespace", "name"]
  | source => ["path", "poll_interval_ms", "watch_timeout_ms"]
  | sync => ["initial_delay_ms", "max_delay_ms", "multiplier", "jitter", "max_reopen_attempts"]
  | logging => ["level"]

end Section

namespace Setting

variable {α : Type}

def section? : Setting α → Option Section
  | appName | version | reportInterval => none
  | ns | name => some .resource
  | path | pollInterval | watchTimeout => some .source
  | initialDelay | maxDelay | multiplier | jitter | maxReopenAttempts => some .sync
  | level => some .logging

def key : Setting α → String
  | appName => "app_name"
  | version => "version"
  | ns => "namespace"
  | name => "name"
  | path => "path"
  | pollInterval => "poll_interval_ms"
  | watchTimeout => "watch_timeout_ms"
  | initialDelay => "initial_delay_ms"
  | maxDelay => "max_delay_ms"
  | multiplier => "multiplier"
  | jitter => "jitter"
  | maxReopenAttempts => "max_reopen_attempts"
  | level => "level"
  | reportInterval => "report_interval_ms"

def sectionPath (setting : Setting α) : String :=
  match setting.section? with
  | none => ""
  | some part => part.path

def field (setting : Setting α) : String :=
  setting.sectionPath ++ setting.key

def read [Dialect] : Setting α → Node → Option α
  | appName | version | ns | name | path | level => Node.text?
  | pollInterval | watchTimeout | initialDelay | maxDelay | maxReopenAttempts | reportInterval =>
    Node.uint32?
  | multiplier | jitter => Node.float?

def default? : Setting α → Option α
  | appName | version | ns | name | path => none
  | pollInterval => some 500
  | watchTimeout => some 300000
  | initialDelay => some 100
  | maxDelay => some 30000
  | multiplier => some 2.0
  | jitter => some 0.2
  | maxReopenAttempts => some 5
  | level => some "info"
  | reportInterval => some 10000

def get (settings : Settings) : Setting α → α
  | appName => settings.appName
  | version => settings.version
  | ns => settings.resource.ns
  | name => settings.resource.name
  | path => settings.source.path
  | pollInterval => settings.source.pollInterval
  | watchTimeout => settings.source.watchTimeout
  | initialDelay => settings.sync.initialDelay
  | maxDelay => settings.sync.maxDelay
  | multiplier => settings.sync.multiplier
  | jitter => settings.sync.jitter
  | maxReopenAttempts => settings.sync.maxReopenAttempts
  | level => settings.level
  | reportInterval => settings.reportInterval

def given? (setting : Setting α) (root : Node) : Option Node :=
  match setting.section? with
  | none => root.field? setting.key
  | some part => (root.field? part.key).bind (·.field? setting.key)

def value? [Dialect] (setting : Setting α) (root : Node) : Option α :=
  match setting.given? root with
  | some node => setting.read node
  | none => setting.default?

end Setting

/-! ## Faults -/

def Setting.faults [Dialect] {α : Type} (setting : Setting α) (root : Node) : List SettingsFault :=
  match setting.given? root, setting.value? root with
  | _, some _ => []
  | none, none => [.missing setting.field]
  | some _, none => [.wrongType setting.field]

def Section.faults (part : Section) (root : Node) : List SettingsFault :=
  match root.field? part.key with
  | some _ => []
  | none => [.missing part.key]

/-- Whether the values of a document, with the defaults for what it leaves out, break a constraint.
No constraint is broken by a value that is no value of its setting: that is a fault of its own, and
it comes first. -/
def Constraint.fails [Dialect] (root : Node) : Constraint → Bool
  | namespacePresent => (Setting.ns.value? root).any (· = "")
  | namePresent => (Setting.name.value? root).any (· = "")
  | pathPresent => (Setting.path.value? root).any (· = "")
  | pollIntervalPositive => (Setting.pollInterval.value? root).any (· = 0)
  | initialDelayPositive => (Setting.initialDelay.value? root).any (· = 0)
  | maxDelayNotLess => (Setting.initialDelay.value? root).any fun initialDelay =>
    (Setting.maxDelay.value? root).any fun maxDelay => maxDelay < initialDelay
  | multiplierNotLess =>
    (Setting.multiplier.value? root).any fun multiplier => ¬ 1.0 ≤ multiplier
  | jitterInRange =>
    (Setting.jitter.value? root).any fun jitter => ¬ (0.0 ≤ jitter ∧ jitter ≤ 1.0)
  | reportIntervalPositive => (Setting.reportInterval.value? root).any (· = 0)
  | levelKnown =>
    (Setting.level.value? root).any (· ∉ ["trace", "debug", "info", "warn", "error"])

/-- A fault of a document and the text that is reported of it, wherever the document is from. -/
inductive SettingsFault.Says : SettingsFault → String → Prop where
  | missing {field : String} :
      Says (.missing field) ("Missing required config field: " ++ field)
  | wrongType {field : String} :
      Says (.wrongType field) ("Invalid type for config field: " ++ field)
  | violated {constraint : Constraint} :
      Says (.violated constraint) ("Invalid config value: " ++ constraint.message)

namespace Settings

def fieldFaults [Dialect] (root : Node) : List SettingsFault :=
  List.flatten
    [Setting.appName.faults root, Setting.version.faults root,
      Section.resource.faults root, Setting.ns.faults root, Setting.name.faults root,
      Section.source.faults root, Setting.path.faults root, Setting.pollInterval.faults root,
      Setting.watchTimeout.faults root, Setting.initialDelay.faults root,
      Setting.maxDelay.faults root, Setting.multiplier.faults root, Setting.jitter.faults root,
      Setting.maxReopenAttempts.faults root, Setting.level.faults root,
      Setting.reportInterval.faults root]

def faults [Dialect] (root : Node) : List SettingsFault :=
  fieldFaults root ++ (Constraint.all.filter (Constraint.fails root)).map .violated

end Settings

namespace Section

def all : List Section :=
  [resource, source, sync, logging]

def faultsAhead [Dialect] (root : Node) : Section → List SettingsFault
  | resource =>
    List.flatten [Setting.appName.faults root, Setting.version.faults root, resource.faults root]
  | source => List.flatten [Setting.ns.faults root, Setting.name.faults root, source.faults root]
  | sync =>
    List.flatten [Setting.path.faults root, Setting.pollInterval.faults root,
      Setting.watchTimeout.faults root]
  | logging =>
    List.flatten [Setting.initialDelay.faults root, Setting.maxDelay.faults root,
      Setting.multiplier.faults root, Setting.jitter.faults root,
      Setting.maxReopenAttempts.faults root]

/-- A scalar in the place of a section refuses to be asked for a field. -/
def refusals (root : Node) (part : Section) : List SettingsFault :=
  match root.field? part.key with
  | some (.scalar _) => [.notSection]
  | _ => []

theorem refusals_of_scalar {root : Node} {part : Section} {text : String}
    (h : root.field? part.key = some (.scalar text)) : part.refusals root = [.notSection] := by
  rw [refusals, h]

theorem refusals_of_not_scalar {root : Node} {part : Section}
    (h : ∀ text, root.field? part.key ≠ some (.scalar text)) : part.refusals root = [] := by
  unfold refusals
  split
  · rename_i text htext
    exact absurd htext (h text)
  · rfl

end Section

namespace Settings

/-- What a reader comes upon in the fields of a document: their faults, and the sections that refuse
to be asked for a field. -/
def fieldObstacles [Dialect] (root : Node) : List SettingsFault :=
  Section.all.flatMap (fun part => part.faultsAhead root ++ part.refusals root) ++
    (Setting.level.faults root ++ Setting.reportInterval.faults root)

/-- What a reader comes upon in a document that is not a scalar itself. -/
def obstacles [Dialect] (root : Node) : List SettingsFault :=
  fieldObstacles root ++ (Constraint.all.filter (Constraint.fails root)).map .violated

structure Sectioned (root : Node) : Prop where
  document : ∀ text, root ≠ .scalar text
  sections : ∀ (part : Section) text, root.field? part.key ≠ some (.scalar text)

/-- Every setting is what the document gives, or its default if the document gives nothing. -/
structure Faithful [Dialect] (settings : Settings) (root : Node) : Prop where
  /-- A value that is given is never replaced by a default. -/
  given : ∀ {α : Type} (setting : Setting α) {node : Node}, setting.given? root = some node →
    setting.read node = some (setting.get settings)
  /-- A setting that is required has no default, so it is given. -/
  absent : ∀ {α : Type} (setting : Setting α), setting.given? root = none →
    setting.default? = some (setting.get settings)

structure Sound (settings : Settings) : Prop where
  ns : settings.resource.ns ≠ ""
  name : settings.resource.name ≠ ""
  path : settings.source.path ≠ ""
  pollInterval : 0 < settings.source.pollInterval
  initialDelay : 0 < settings.sync.initialDelay
  maxDelay : settings.sync.initialDelay ≤ settings.sync.maxDelay
  multiplier : 1.0 ≤ settings.sync.multiplier ∧ settings.sync.multiplier.isNaN = false
  jitter : 0.0 ≤ settings.sync.jitter ∧ settings.sync.jitter ≤ 1.0 ∧
    settings.sync.jitter.isNaN = false
  reportInterval : 0 < settings.reportInterval
  level : settings.level ∈ ["trace", "debug", "info", "warn", "error"]

end Settings

/-! ## Values -/

namespace Settings

variable {α : Type} {settings other : Settings} {root : Node}

theorem ext_get
    (h : ∀ {α : Type} (setting : Setting α), setting.get settings = setting.get other) :
    settings = other := by
  obtain ⟨appName, version, ⟨ns, name⟩, ⟨path, pollInterval, watchTimeout⟩,
    ⟨initialDelay, maxDelay, multiplier, jitter, maxReopenAttempts⟩, level, reportInterval⟩ :=
    settings
  cases h .appName
  cases h .version
  cases h .ns
  cases h .name
  cases h .path
  cases h .pollInterval
  cases h .watchTimeout
  cases h .initialDelay
  cases h .maxDelay
  cases h .multiplier
  cases h .jitter
  cases h .maxReopenAttempts
  cases h .level
  cases h .reportInterval
  rfl

theorem Faithful.value? [Dialect] (h : settings.Faithful root) (setting : Setting α) :
    setting.value? root = some (setting.get settings) := by
  unfold Setting.value?
  cases hgiven : setting.given? root with
  | none => exact h.absent setting hgiven
  | some node => exact h.given setting hgiven

theorem faithful_of_value? [Dialect]
    (h : ∀ {α : Type} (setting : Setting α), setting.value? root = some (setting.get settings)) :
    settings.Faithful root := by
  constructor
  · intro α setting node hgiven
    rw [← h setting, Setting.value?, hgiven]
  · intro α setting hgiven
    rw [← h setting, Setting.value?, hgiven]

theorem Faithful.unique [Dialect] (h : settings.Faithful root) (hother : other.Faithful root) :
    settings = other := by
  apply ext_get
  intro α setting
  rw [← Option.some_inj, ← h.value? setting, hother.value? setting]

/-! ## What is reported -/

theorem says_of_wording {fault : SettingsFault} {front text path : String}
    (hwords : fault.Says (front ++ text)) (hmessage : fault.message path = upToNul (front ++ text))
    (hfront : '\x00' ∉ front.toList) (htext : '\x00' ∉ text.toList) :
    fault.Says (fault.message path) := by
  rw [hmessage, upToNul_append hfront htext]
  exact hwords

theorem says_missing {field : String} (h : '\x00' ∉ field.toList) (path : String) :
    (SettingsFault.missing field).Says ((SettingsFault.missing field).message path) :=
  says_of_wording .missing rfl (by decide +kernel) h

theorem says_wrongType {field : String} (h : '\x00' ∉ field.toList) (path : String) :
    (SettingsFault.wrongType field).Says ((SettingsFault.wrongType field).message path) :=
  says_of_wording .wrongType rfl (by decide +kernel) h

theorem says_violated (constraint : Constraint) (path : String) :
    (SettingsFault.violated constraint).Says
      ((SettingsFault.violated constraint).message path) := by
  have hnul : '\x00' ∉ constraint.message.toList := by
    cases constraint <;> decide +kernel
  exact says_of_wording .violated rfl (by decide +kernel) hnul

/-- The name of a field or constraint is not cut short in what is reported. -/
theorem says_message [Dialect] {fault : SettingsFault} (h : fault ∈ faults root) (path : String) :
    fault.Says (fault.message path) := by
  have hsetting {α : Type} (setting : Setting α) :
      ∀ fault ∈ setting.faults root, fault.Says (fault.message path) := by
    have hnul : '\x00' ∉ setting.field.toList := by
      cases setting <;> decide +kernel
    unfold Setting.faults
    split <;> simp [says_missing hnul, says_wrongType hnul]
  have hsection (part : Section) : ∀ fault ∈ part.faults root, fault.Says (fault.message path) := by
    have hnul : '\x00' ∉ part.key.toList := by
      cases part <;> decide +kernel
    unfold Section.faults
    split <;> simp [says_missing hnul]
  have hall : ∀ fault ∈ faults root, fault.Says (fault.message path) := by
    simp only [faults, fieldFaults, List.flatten_cons, List.flatten_nil, List.forall_mem_append,
      List.forall_mem_map]
    exact ⟨⟨hsetting _, hsetting _, hsection _, hsetting _, hsetting _, hsection _, hsetting _,
      hsetting _, hsetting _, hsetting _, hsetting _, hsetting _, hsetting _, hsetting _,
      hsetting _, hsetting _, nofun⟩, fun constraint _ => says_violated constraint path⟩
  exact hall fault h

end Settings

end IdentityMap
