import IdentityMap.Proofs.Handling
import IdentityMap.Proofs.Lookup
import IdentityMap.Proofs.Records.Independence

/-!
# Records that a document spells out are served

A document may spell a list of records in more than one way: an entry may hold further keys, and
what is empty may be left out or given as null.  Whichever way is taken, the records are read as
they are, and look-ups are answered from them once an event has brought the document.
-/

namespace IdentityMap

open Std (TreeMap)

/-! ## Entries -/

namespace Entry

/-- Whether a map gives no value for a key.  A null is no value. -/
def LeavesOut (pairs : List (String × Node)) (key : String) : Prop :=
  pairs.lookup key = none ∨ pairs.lookup key = some .null

def SpellsText (pairs : List (String × Node)) (key text : String) : Prop :=
  pairs.lookup key = some (.scalar text) ∨ (LeavesOut pairs key ∧ text = "")

def SpellsGroups (pairs : List (String × Node)) (groups : List String) : Prop :=
  pairs.lookup "groups" = some (.seq (groups.map .scalar)) ∨
    (LeavesOut pairs "groups" ∧ groups = [])

/-- Whether a node spells a mapping.  The node may hold any further keys. -/
inductive SpellsMapping (kind : Kind) (mapping : Mapping) : Node → Prop where
  | map {pairs : List (String × Node)}
      (arn : pairs.lookup kind.arnKey = some (.scalar mapping.arn))
      (arn_ne : mapping.arn ≠ "")
      (username : SpellsText pairs "username" mapping.username)
      (groups : SpellsGroups pairs mapping.groups) : SpellsMapping kind mapping (.map pairs)

inductive SpellsAccount (account : String) : Node → Prop where
  | scalar : SpellsAccount account (.scalar account)

variable {pairs : List (String × Node)} {key text : String}

theorem value?_of_leavesOut (h : LeavesOut pairs key) : Node.value? pairs key = none := by
  rcases h with h | h <;> rw [Node.value?, h]

theorem optionalText_of_spells (h : SpellsText pairs key text) :
    optionalText pairs key = .ok text := by
  rcases h with h | ⟨hout, rfl⟩
  · rw [optionalText, Node.value?, h]
  · rw [optionalText, value?_of_leavesOut hout]

theorem requiredText_of_lookup (index : Nat) (h : pairs.lookup key = some (.scalar text))
    (hne : text ≠ "") : requiredText index pairs key = .ok text := by
  rw [requiredText, optionalText_of_spells (.inl h)]
  exact if_neg hne

theorem mapM_groupName (groups : List String) :
    (groups.map Node.scalar).mapM groupName = .ok groups := by
  induction groups with
  | nil => rfl
  | cons group groups ih =>
      rw [List.map_cons, List.mapM_cons, ih]
      rfl

theorem groups_of_spells {groups : List String} (h : SpellsGroups pairs groups) :
    Entry.groups pairs = .ok groups := by
  rcases h with h | ⟨hout, rfl⟩
  · rw [Entry.groups, Node.value?, h]
    exact mapM_groupName groups
  · rw [Entry.groups, value?_of_leavesOut hout]

theorem mapping_of_spells {kind : Kind} {record : Mapping} {node : Node} (index : Nat)
    (h : SpellsMapping kind record node) : mapping kind index node = .ok record := by
  cases h with
  | map arn arn_ne username groups =>
      rw [mapping, requiredText_of_lookup index arn arn_ne, optionalText_of_spells username,
        groups_of_spells groups]
      rfl

theorem account_of_spells {record : String} {node : Node} (index : Nat)
    (h : SpellsAccount record node) : account index node = .ok record := by
  cases h with
  | scalar => rfl

end Entry

/-! ## Lists -/

namespace Reader

variable {α : Type} {spells : α → Node → Prop} {records : List α} {nodes : List Node}

theorem results_of_spells {reader : Reader α}
    (hreads : ∀ index record node, spells record node → reader index node = .ok record)
    (h : List.Forall₂ spells records nodes) : reader.results nodes = records.map .ok := by
  -- The entries after the first stand one position further on, so the reader changes with them.
  induction h generalizing reader with
  | nil => rfl
  | cons hnode _ ih =>
      rw [results, List.mapIdx_cons, hreads _ _ _ hnode, List.map_cons]
      congr 1
      exact ih fun index => hreads (index + 1)

theorem collectNodes_of_spells {reader : Reader α}
    (hreads : ∀ index record node, spells record node → reader index node = .ok record)
    (h : List.Forall₂ spells records nodes) : reader.collectNodes nodes = ⟨records, []⟩ := by
  rw [collectNodes, results_of_spells hreads h, List.filterMap_map, List.filterMap_map]
  congr
  · exact List.filterMap_some
  · exact List.filterMap_eq_nil_iff.2 fun _ _ => rfl

end Reader

/-! ## Fields -/

def Field.Spells : (field : Field) → field.Record → Node → Prop
  | .users => Entry.SpellsMapping .user
  | .roles => Entry.SpellsMapping .role
  | .accounts => Entry.SpellsAccount

theorem Field.reader_of_spells (field : Field) (index : Nat) (record : field.Record) (node : Node)
    (h : field.Spells record node) : field.reader index node = .ok record := by
  cases field with
  | users | roles => exact Entry.mapping_of_spells index h
  | accounts => exact Entry.account_of_spells index h

/-- Whether the text under a field loads as a list whose entries spell the records in order. -/
def Field.Submits [Dialect] (field : Field) (data : TreeMap String String)
    (records : List field.Record) : Prop :=
  ∃ text nodes, data[field.name]? = some text ∧ Dialect.load text = .ok (.seq nodes) ∧
    List.Forall₂ field.Spells records nodes

namespace Parsed

variable [Dialect] {data : TreeMap String String}

theorem field_of_submits {field : Field} {records : List field.Record}
    (h : field.Submits data records) :
    Parsed.field field field.reader data[field.name]? = (records, []) := by
  obtain ⟨text, nodes, htext, hnodes, hspells⟩ := h
  rw [htext, field_eq, hnodes]
  simp only [Reader.collectNodes_of_spells field.reader_of_spells hspells, List.map_nil]

variable {users roles : List Mapping} {accounts : List String}

theorem ofData_of_submits (husers : Field.users.Submits data users)
    (hroles : Field.roles.Submits data roles) (haccounts : Field.accounts.Submits data accounts) :
    ofData data = ⟨users, roles, accounts, []⟩ := by
  have hu : Parsed.field .users (Entry.mapping .user) data[Field.users.name]? = (users, []) :=
    field_of_submits husers
  have hr : Parsed.field .roles (Entry.mapping .role) data[Field.roles.name]? = (roles, []) :=
    field_of_submits hroles
  have ha : Parsed.field .accounts Entry.account data[Field.accounts.name]? = (accounts, []) :=
    field_of_submits haccounts
  rw [ofData, hu, hr, ha]
  rfl

end Parsed

/-! ## Events -/

namespace Event

section Submitted

variable [Dialect] {data : TreeMap String String} {users roles : List Mapping}
  {accounts : List String}

/-- Data without errors is installed whatever the sink refuses. -/
theorem tables_handle_of_no_errors {event : Event} {resource : Resource}
    (hkind : event.kind = .added ∨ event.kind = .modified) (hobject : event.object = some resource)
    (herrors : (Parsed.ofData resource.data).errors = []) (sink : Sink) (store : Store) :
    (event.handle sink resource.name store).store.tables = resource.tables := by
  obtain ⟨kind, object, message⟩ := event
  subst hobject
  rcases hkind with rfl | rfl <;>
    rw [store_handle] <;> simp [isFaulty, concerns, herrors] <;> rfl

/-- Lists of records that the data of a resource spells out are read as they are and without an
error.  An event that brings the resource, with whatever sink, makes them what is served: an ARN
finds the last record whose ARN is the same up to case, and an account is recognised if it was
submitted. -/
theorem serves_what_is_submitted (husers : Field.users.Submits data users)
    (hroles : Field.roles.Submits data roles) (haccounts : Field.accounts.Submits data accounts) :
    Parsed.ofData data = ⟨users, roles, accounts, []⟩ ∧ (Parsed.ofData data).report? = none ∧
    ∀ (event : Event) (resource : Resource) (sink : Sink) (store : Store),
      event.kind = .added ∨ event.kind = .modified → event.object = some resource →
      resource.data = data →
      ∀ key, let tables := (event.handle sink resource.name store).store.tables
        tables.find? .user key = Mapping.lastFor? users key ∧
          tables.find? .role key = Mapping.lastFor? roles key ∧
          (tables.hasAccount key = true ↔ key ∈ accounts) := by
  have hdata := Parsed.ofData_of_submits husers hroles haccounts
  refine ⟨hdata, by rw [hdata]; rfl, ?_⟩
  rintro event resource sink store hkind hobject rfl key
  have htables : (event.handle sink resource.name store).store.tables =
      Tables.ofLists users roles accounts := by
    rw [tables_handle_of_no_errors hkind hobject (by rw [hdata]), Resource.tables, hdata]
  rw [htables]
  exact ⟨Tables.find?_ofLists _ _ _ .user key, Tables.find?_ofLists _ _ _ .role key,
    Tables.hasAccount_ofLists _ _ _ key⟩

end Submitted

/-- One ARN twice, with a key that is not recognised, a user name left out and one given as null. -/
def spelled : TreeMap String String :=
  .ofList [("mapUsers", "[{userarn: A, username: x, note: [1]}, {userarn: a, groups: [g, h]}]"),
    ("mapRoles", "- rolearn: R\n  username: ~\n"), ("mapAccounts", "['1', two]")]

theorem serves_what_is_spelled :
    let event : Event := { kind := .added, object := some { name := "aws-auth", data := spelled } }
    let tables := (event.handle ⟨fun _ => true⟩ "aws-auth" .empty).store.tables
    (Parsed.ofData spelled).errors = [] ∧
      tables.find? .user "A" = some ⟨"a", "", ["g", "h"]⟩ ∧
      tables.find? .role "r" = some ⟨"R", "", []⟩ ∧
      tables.hasAccount "1" = true ∧ tables.hasAccount "TWO" = false := by
  intro event tables
  have husers : Field.users.Submits spelled [⟨"A", "x", []⟩, ⟨"a", "", ["g", "h"]⟩] :=
    ⟨_, _, rfl, rfl, .cons (.map rfl (by decide) (.inl rfl) (.inr ⟨.inl rfl, rfl⟩))
      (.cons (.map rfl (by decide) (.inr ⟨.inl rfl, rfl⟩) (.inl rfl)) .nil)⟩
  have hroles : Field.roles.Submits spelled [⟨"R", "", []⟩] :=
    ⟨_, _, rfl, rfl, .cons (.map rfl (by decide) (.inr ⟨.inr rfl, rfl⟩) (.inr ⟨.inl rfl, rfl⟩))
      .nil⟩
  have haccounts : Field.accounts.Submits spelled (["1", "two"] : List String) :=
    ⟨_, _, rfl, rfl, .cons .scalar (.cons .scalar .nil)⟩
  obtain ⟨hdata, -, hserved⟩ := serves_what_is_submitted husers hroles haccounts
  have hkey := hserved event _ ⟨fun _ => true⟩ .empty (.inl rfl) rfl rfl
  refine ⟨by rw [hdata], ?_, ?_, ?_, ?_⟩
  · exact (hkey "A").1.trans (by decide)
  · exact (hkey "r").2.1.trans (by decide)
  · exact (hkey "1").2.2.2 (by decide)
  · exact Bool.eq_false_iff.2 (mt (hkey "TWO").2.2.1 (by decide))

end Event

end IdentityMap
