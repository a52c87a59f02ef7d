import IdentityMap.Document.Text
import IdentityMap.Settings.Constraint
import IdentityMap.Wording

/-!
# Settings in a document

Fields are read in a fixed order, then the constraints are checked; the first fault decides. A
field that has a default may be absent or null, and so may a section all of whose fields have
defaults.
-/

namespace IdentityMap

/-- Why settings cannot be loaded. Fields are named with their section. -/
inductive SettingsFault where
  | notFound
  | malformed (cause : SyntaxError)
  | notSection
  | missing (field : String)
  | wrongType (field : String)
  | violated (constraint : Constraint)
  deriving DecidableEq, Repr

def SettingsFault.message (path : String) (fault : SettingsFault) : String :=
  upToNul <| match fault with
    | .notFound => "Config file not found: " ++ path
    | .malformed cause => "Failed to parse config " ++ path ++ ": " ++ cause.message
    | .notSection => Node.faultText
    | .missing field => "Missing required config field: " ++ field
    | .wrongType field => "Invalid type for config field: " ++ field
    | .violated constraint => "Invalid config value: " ++ constraint.message

namespace Settings

variable {α : Type}

/-! ## Fields -/

/-- The value of a key, where null counts as absent. Nulls and lists have no keys; a scalar
must not be asked for one. -/
def value? (parent : Node) (key : String) : Except SettingsFault (Option Node) :=
  match parent with
  | .map pairs => .ok (Node.value? pairs key)
  | .scalar _ => .error .notSection
  | _ => .ok none

def convert (read : Node → Option α) (field : String) (node : Node) :
    Except SettingsFault α :=
  match read node with
  | some value => .ok value
  | none => .error (.wrongType field)

def requiredNode (path : String) (parent : Node) (key : String) :
    Except SettingsFault Node := do
  match ← value? parent key with
  | some node => return node
  | none => throw (.missing (path ++ key))

def required (read : Node → Option α) (path : String) (parent : Node) (key : String) :
    Except SettingsFault α := do
  convert read (path ++ key) (← requiredNode path parent key)

def optional (read : Node → Option α) (default : α) (path : String) (parent : Node)
    (key : String) : Except SettingsFault α := do
  match ← value? parent key with
  | some node => convert read (path ++ key) node
  | none => return default

/-! ## Sections -/

/-- A section all of whose fields have defaults. An absent one is as good as a null. -/
def optionalSection (root : Node) (key : String) : Except SettingsFault Node := do
  return (← value? root key).getD .null

def resourceSection (node : Node) : Except SettingsFault ResourceSettings := do
  let ns ← required Node.text? "resource." node "namespace"
  let name ← required Node.text? "resource." node "name"
  return ⟨ns, name⟩

variable [Dialect]

def sourceSection (node : Node) : Except SettingsFault SourceSettings := do
  let path ← required Node.text? "source." node "path"
  let defaults : SourceSettings := { path }
  let pollInterval ←
    optional Node.uint32? defaults.pollInterval "source." node "poll_interval_ms"
  let watchTimeout ←
    optional Node.uint32? defaults.watchTimeout "source." node "watch_timeout_ms"
  return ⟨path, pollInterval, watchTimeout⟩

def syncSection (node : Node) : Except SettingsFault SyncSettings := do
  let defaults : SyncSettings := {}
  let initialDelay ←
    optional Node.uint32? defaults.initialDelay "sync." node "initial_delay_ms"
  let maxDelay ← optional Node.uint32? defaults.maxDelay "sync." node "max_delay_ms"
  let multiplier ← optional Node.float? defaults.multiplier "sync." node "multiplier"
  let jitter ← optional Node.float? defaults.jitter "sync." node "jitter"
  let maxReopenAttempts ←
    optional Node.uint32? defaults.maxReopenAttempts "sync." node "max_reopen_attempts"
  return ⟨initialDelay, maxDelay, multiplier, jitter, maxReopenAttempts⟩

def readFields (root : Node) : Except SettingsFault Settings := do
  let appName ← required Node.text? "" root "app_name"
  let version ← required Node.text? "" root "version"
  let resource ← resourceSection (← requiredNode "" root "resource")
  let source ← sourceSection (← requiredNode "" root "source")
  let defaults : Settings := { appName, version, resource, source }
  let sync ← syncSection (← optionalSection root "sync")
  let logging ← optionalSection root "logging"
  let level ← optional Node.text? defaults.level "logging." logging "level"
  let reportInterval ←
    optional Node.uint32? defaults.reportInterval "" root "report_interval_ms"
  return { appName, version, resource, source, sync, level, reportInterval }

/-! ## Whole documents -/

def ofNode (root : Node) : Except SettingsFault Settings := do
  let settings ← readFields root
  match settings.firstViolated? with
  | some constraint => throw (.violated constraint)
  | none => return settings

def ofFile? : Option String → Except SettingsFault Settings
  | none => .error .notFound
  | some text =>
    match Dialect.load text with
    | .ok root => ofNode root
    | .error cause => .error (.malformed cause)

end Settings

end IdentityMap
