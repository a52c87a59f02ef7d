import IdentityMap.Proofs.Records.Decoding

/-!
# Which entries are accepted

An entry of a list is accepted just in case it spells a record, and otherwise refused with the
message of the first check that it fails.  Whether it is does not depend on the entries around it,
nor on keys that are not recognised; and roles are read like users, but for the key of the ARN.
-/

namespace IdentityMap

/-! ## Refused entries -/

namespace Entry

/-- Whether a node is refused as a mapping, with the message of the first check that it fails.
Each case comes after the checks of the cases before it have passed. -/
inductive RefusesMapping (kind : Kind) (index : Nat) : Node → String → Prop where
  | notMap {node : Node} (hnode : ∀ pairs, node ≠ .map pairs) :
      RefusesMapping kind index node ("entry " ++ toString index ++ " is not a mapping")
  | arnNotText {pairs : List (String × Node)}
      (harn : ∀ text, ¬ SpellsText pairs kind.arnKey text) :
      RefusesMapping kind index (.map pairs) ("field '" ++ kind.arnKey ++ "' must be a string")
  | arnMissing {pairs : List (String × Node)} (harn : SpellsText pairs kind.arnKey "") :
      RefusesMapping kind index (.map pairs)
        ("entry " ++ toString index ++ " is missing '" ++ kind.arnKey ++ "'")
  | usernameNotText {pairs : List (String × Node)} {arn : String}
      (harn : SpellsText pairs kind.arnKey arn) (hne : arn ≠ "")
      (husername : ∀ text, ¬ SpellsText pairs "username" text) :
      RefusesMapping kind index (.map pairs) "field 'username' must be a string"
  | groupsNotList {pairs : List (String × Node)} {arn username : String} {node : Node}
      (harn : SpellsText pairs kind.arnKey arn) (hne : arn ≠ "")
      (husername : SpellsText pairs "username" username)
      (hgroups : pairs.lookup "groups" = some node) (hnull : node ≠ .null)
      (hnode : ∀ items, node ≠ .seq items) :
      RefusesMapping kind index (.map pairs) "field 'groups' must be a list"
  | groupNotText {pairs : List (String × Node)} {arn username : String} {items : List Node}
      {item : Node} (harn : SpellsText pairs kind.arnKey arn) (hne : arn ≠ "")
      (husername : SpellsText pairs "username" username)
      (hgroups : pairs.lookup "groups" = some (.seq items)) (hmem : item ∈ items)
      (hitem : ∀ text, item ≠ .scalar text) :
      RefusesMapping kind index (.map pairs) "field 'groups' must contain strings"

inductive RefusesAccount (index : Nat) (node : Node) : String → Prop where
  | notText (hnode : ∀ text, node ≠ .scalar text) :
      RefusesAccount index node ("entry " ++ toString index ++ " is not a string")

/-! ## The parts of an entry -/

variable {pairs : List (String × Node)} {key text : String} {kind : Kind} {index : Nat}
  {node : Node} {fault : EntryFault}

theorem optionalText_eq_ok_iff : optionalText pairs key = .ok text ↔ SpellsText pairs key text := by
  refine ⟨?_, optionalText_of_spells⟩
  intro h
  unfold optionalText Node.value? at h
  unfold SpellsText LeavesOut
  split at h <;> grind

theorem optionalText_of_not_spells (h : ∀ text, ¬ SpellsText pairs key text) :
    optionalText pairs key = .error (.notText key) := by
  cases htext : optionalText pairs key with
  | ok text => exact absurd (optionalText_eq_ok_iff.1 htext) (h text)
  | error fault => rw [optionalText_eq_error htext]

theorem requiredText_of_spells (h : SpellsText pairs key text) (hne : text ≠ "") :
    requiredText index pairs key = .ok text := by
  rw [requiredText, optionalText_of_spells h]
  exact if_neg hne

theorem mapM_groupName_of_mem {items : List Node} (hmem : node ∈ items)
    (hnode : ∀ text, node ≠ .scalar text) : items.mapM groupName = .error .groupNotText := by
  induction items with
  | nil => cases hmem
  | cons item items ih =>
      rw [List.mapM_cons]
      rcases List.mem_cons.1 hmem with rfl | hrest
      · cases node with
        | scalar text => exact absurd rfl (hnode text)
        | _ => rfl
      · rw [ih hrest]
        cases item <;> rfl

theorem mapM_groupName_cases (items : List Node) :
    (∃ groups : List String, items = groups.map .scalar) ∨
      ∃ item ∈ items, ∀ text, item ≠ .scalar text := by
  induction items with
  | nil => exact .inl ⟨[], rfl⟩
  | cons item items ih =>
      cases item with
      | scalar text =>
          rcases ih with ⟨groups, rfl⟩ | ⟨other, hmem, hother⟩
          · exact .inl ⟨text :: groups, rfl⟩
          · exact .inr ⟨other, List.mem_cons_of_mem _ hmem, hother⟩
      | null | seq _ | map _ => exact .inr ⟨_, List.mem_cons_self, nofun⟩

theorem groups_of_not_list (hgroups : pairs.lookup "groups" = some node) (hnull : node ≠ .null)
    (hnode : ∀ items, node ≠ .seq items) : groups pairs = .error .groupsNotList := by
  unfold groups Node.value?
  rw [hgroups]
  cases node with
  | null => exact absurd rfl hnull
  | seq items => exact absurd rfl (hnode items)
  | scalar _ | map _ => rfl

theorem groups_of_not_text {items : List Node} (hgroups : pairs.lookup "groups" = some (.seq items))
    (hmem : node ∈ items) (hnode : ∀ text, node ≠ .scalar text) :
    groups pairs = .error .groupNotText := by
  unfold groups Node.value?
  rw [hgroups]
  exact mapM_groupName_of_mem hmem hnode

theorem groups_cases (pairs : List (String × Node)) :
    (∃ groups, SpellsGroups pairs groups) ∨
      (∃ node, pairs.lookup "groups" = some node ∧ node ≠ .null ∧ ∀ items, node ≠ .seq items) ∨
      ∃ items, pairs.lookup "groups" = some (.seq items) ∧
        ∃ item ∈ items, ∀ text, item ≠ .scalar text := by
  cases hgroups : pairs.lookup "groups" with
  | none => exact .inl ⟨[], .inr ⟨.inl hgroups, rfl⟩⟩
  | some node =>
      cases node with
      | null => exact .inl ⟨[], .inr ⟨.inr hgroups, rfl⟩⟩
      | scalar _ | map _ => exact .inr (.inl ⟨_, rfl, nofun, nofun⟩)
      | seq items =>
          rcases mapM_groupName_cases items with ⟨groups, rfl⟩ | hitem
          · exact .inl ⟨groups, .inl hgroups⟩
          · exact .inr (.inr ⟨items, rfl, hitem⟩)

/-! ## One entry -/

theorem mapping_cases (kind : Kind) (index : Nat) (node : Node) :
    (∃ record, SpellsMapping kind record node) ∨
      ∃ message, RefusesMapping kind index node message := by
  cases node with
  | null | scalar _ | seq _ => exact .inr ⟨_, .notMap nofun⟩
  | map pairs =>
      by_cases harn : ∃ arn, SpellsText pairs kind.arnKey arn
      · obtain ⟨arn, harn⟩ := harn
        by_cases hne : arn = ""
        · exact .inr ⟨_, .arnMissing (hne ▸ harn)⟩
        by_cases husername : ∃ username, SpellsText pairs "username" username
        · obtain ⟨username, husername⟩ := husername
          rcases groups_cases pairs with
            ⟨groups, hgroups⟩ | ⟨node, hgroups, hnull, hnode⟩ | ⟨items, hgroups, item, hmem, hitem⟩
          · have hgiven := harn.resolve_right fun hout => hne hout.2
            exact .inl ⟨⟨arn, username, groups⟩, .map hgiven hne husername hgroups⟩
          · exact .inr ⟨_, .groupsNotList harn hne husername hgroups hnull hnode⟩
          · exact .inr ⟨_, .groupNotText harn hne husername hgroups hmem hitem⟩
        · exact .inr ⟨_, .usernameNotText harn hne (not_exists.1 husername)⟩
      · exact .inr ⟨_, .arnNotText (not_exists.1 harn)⟩

theorem mapping_of_refuses {message : String} (h : RefusesMapping kind index node message) :
    ∃ fault, mapping kind index node = .error fault ∧ fault.message = message := by
  cases h with
  | notMap hnode =>
      refine ⟨.notMapping index, ?_, rfl⟩
      cases node with
      | map pairs => exact absurd rfl (hnode pairs)
      | _ => rfl
  | arnNotText harn =>
      refine ⟨.notText kind.arnKey, ?_, rfl⟩
      rw [mapping, requiredText, optionalText_of_not_spells harn]
      rfl
  | arnMissing harn =>
      refine ⟨.missing index kind.arnKey, ?_, rfl⟩
      rw [mapping, requiredText, optionalText_of_spells harn]
      rfl
  | usernameNotText harn hne husername =>
      refine ⟨.notText "username", ?_, rfl⟩
      rw [mapping, requiredText_of_spells harn hne, optionalText_of_not_spells husername]
      rfl
  | groupsNotList harn hne husername hgroups hnull hnode =>
      refine ⟨.groupsNotList, ?_, rfl⟩
      rw [mapping, requiredText_of_spells harn hne, optionalText_of_spells husername,
        groups_of_not_list hgroups hnull hnode]
      rfl
  | groupNotText harn hne husername hgroups hmem hitem =>
      refine ⟨.groupNotText, ?_, rfl⟩
      rw [mapping, requiredText_of_spells harn hne, optionalText_of_spells husername,
        groups_of_not_text hgroups hmem hitem]
      rfl

theorem account_cases (index : Nat) (node : Node) :
    (∃ record, SpellsAccount record node) ∨ ∃ message, RefusesAccount index node message := by
  cases node with
  | scalar text => exact .inl ⟨text, .scalar⟩
  | null | seq _ | map _ => exact .inr ⟨_, .notText nofun⟩

theorem account_of_refuses {message : String} (h : RefusesAccount index node message) :
    ∃ fault, account index node = .error fault ∧ fault.message = message := by
  cases h with
  | notText hnode =>
      refine ⟨.notAccount index, ?_, rfl⟩
      cases node with
      | scalar text => exact absurd rfl (hnode text)
      | _ => rfl

end Entry

/-! ## One list -/

namespace Field

def Refuses : Field → Nat → Node → String → Prop
  | .users => Entry.RefusesMapping .user
  | .roles => Entry.RefusesMapping .role
  | .accounts => Entry.RefusesAccount

/-- How the entries of a list, counted from a position on, are told apart into records and
messages: each entry gives a record or a message, both in the order of the list. -/
inductive Sorts (field : Field) : Nat → List Node → List field.Record → List String → Prop where
  | nil {start : Nat} : Sorts field start [] [] []
  | accept {start : Nat} {node : Node} {nodes : List Node} {record : field.Record}
      {records : List field.Record} {messages : List String} (hnode : field.Spells record node)
      (hrest : Sorts field (start + 1) nodes records messages) :
      Sorts field start (node :: nodes) (record :: records) messages
  | refuse {start : Nat} {node : Node} {nodes : List Node} {records : List field.Record}
      {message : String} {messages : List String} (hnode : field.Refuses start node message)
      (hrest : Sorts field (start + 1) nodes records messages) :
      Sorts field start (node :: nodes) records (message :: messages)

theorem spells_or_refuses (field : Field) (index : Nat) (node : Node) :
    (∃ record, field.Spells record node) ∨ ∃ message, field.Refuses index node message := by
  cases field with
  | users | roles => exact Entry.mapping_cases _ index node
  | accounts => exact Entry.account_cases index node

theorem reader_of_refuses (field : Field) {index : Nat} {node : Node} {message : String}
    (h : field.Refuses index node message) :
    ∃ fault, field.reader index node = .error fault ∧ fault.message = message := by
  cases field with
  | users | roles => exact Entry.mapping_of_refuses h
  | accounts => exact Entry.account_of_refuses h

end Field

namespace Reader

variable {α : Type} {reader : Reader α} {node : Node} {record : α} {fault : EntryFault}

def startAt (reader : Reader α) (start : Nat) : Reader α :=
  fun index => reader (start + index)

@[simp] theorem startAt_zero (reader : Reader α) : reader.startAt 0 = reader := by
  funext index
  rw [startAt, Nat.zero_add]

theorem startAt_succ (reader : Reader α) (start : Nat) :
    (fun index => reader.startAt start (index + 1)) = reader.startAt (start + 1) := by
  funext index
  rw [startAt, startAt, Nat.add_assoc, Nat.add_comm 1]

theorem collectNodes_cons_of_ok (h : reader 0 node = .ok record) (nodes : List Node) :
    reader.collectNodes (node :: nodes) =
      let rest := Reader.collectNodes (fun index => reader (index + 1)) nodes
      ⟨record :: rest.records, rest.faults⟩ := by
  rw [collectNodes, results, List.mapIdx_cons, h]
  rfl

theorem collectNodes_cons_of_error (h : reader 0 node = .error fault) (nodes : List Node) :
    reader.collectNodes (node :: nodes) =
      let rest := Reader.collectNodes (fun index => reader (index + 1)) nodes
      ⟨rest.records, fault :: rest.faults⟩ := by
  rw [collectNodes, results, List.mapIdx_cons, h]
  rfl

theorem collect_of_seq [Dialect] {text : String} {nodes : List Node}
    (h : Dialect.load text = .ok (.seq nodes)) :
    reader.collect text = .ok (reader.collectNodes nodes) := by
  rw [collect, entriesOfText, h]
  rfl

end Reader

namespace Field

variable {field : Field} {start : Nat} {nodes : List Node} {records : List field.Record}
  {messages : List String}

/-- Collecting is one way to tell the entries of a list apart. -/
theorem sorts_collectNodes (field : Field) (start : Nat) (nodes : List Node) :
    let collected := (field.reader.startAt start).collectNodes nodes
    field.Sorts start nodes collected.records (collected.faults.map EntryFault.message) := by
  induction nodes generalizing start with
  | nil => exact .nil
  | cons node nodes ih =>
      have hrest := ih (start + 1)
      rw [← Reader.startAt_succ] at hrest
      rcases field.spells_or_refuses start node with ⟨record, hspells⟩ | ⟨message, hrefuses⟩
      · have hread : field.reader.startAt start 0 node = .ok record :=
          field.reader_of_spells start record node hspells
        rw [Reader.collectNodes_cons_of_ok hread]
        exact .accept hspells hrest
      · obtain ⟨fault, hfault, rfl⟩ := field.reader_of_refuses hrefuses
        have hread : field.reader.startAt start 0 node = .error fault := hfault
        rw [Reader.collectNodes_cons_of_error hread]
        exact .refuse hrefuses hrest

theorem Sorts.eq_collectNodes (h : field.Sorts start nodes records messages) :
    records = ((field.reader.startAt start).collectNodes nodes).records ∧
      messages =
        ((field.reader.startAt start).collectNodes nodes).faults.map EntryFault.message := by
  induction h with
  | nil => exact ⟨rfl, rfl⟩
  | @accept start node nodes record records messages hspells _ ih =>
      have hread : field.reader.startAt start 0 node = .ok record :=
        field.reader_of_spells start record node hspells
      rw [Reader.collectNodes_cons_of_ok hread, Reader.startAt_succ]
      exact ⟨congrArg (record :: ·) ih.1, ih.2⟩
  | @refuse start node nodes records message messages hrefuses _ ih =>
      obtain ⟨fault, hfault, rfl⟩ := field.reader_of_refuses hrefuses
      have hread : field.reader.startAt start 0 node = .error fault := hfault
      rw [Reader.collectNodes_cons_of_error hread, Reader.startAt_succ]
      exact ⟨ih.1, congrArg (fault.message :: ·) ih.2⟩

theorem sorts_iff :
    field.Sorts 0 nodes records messages ↔
      records = (field.reader.collectNodes nodes).records ∧
        messages = (field.reader.collectNodes nodes).faults.map EntryFault.message := by
  have hsorts := field.sorts_collectNodes 0 nodes
  rw [Reader.startAt_zero] at hsorts
  constructor
  · intro h
    simpa using h.eq_collectNodes
  · rintro ⟨rfl, rfl⟩
    exact hsorts

end Field

/-! ## Keys that are not recognised -/

/-- Whether two nodes are the same, or maps that hold the same under some keys. -/
inductive Node.AlikeOn (keys : List String) : Node → Node → Prop where
  | same {node : Node} : AlikeOn keys node node
  | maps {pairs others : List (String × Node)}
      (hkeys : ∀ key ∈ keys, pairs.lookup key = others.lookup key) :
      AlikeOn keys (.map pairs) (.map others)

def Field.keys : Field → List String
  | .users => ["userarn", "username", "groups"]
  | .roles => ["rolearn", "username", "groups"]
  | .accounts => []

namespace Entry

theorem mapping_of_alike (kind : Kind) {node other : Node}
    (h : Node.AlikeOn [kind.arnKey, "username", "groups"] node other) (index : Nat) :
    mapping kind index node = mapping kind index other := by
  cases h with
  | same => rfl
  | @maps pairs others hkeys =>
      have hvalue : ∀ key ∈ [kind.arnKey, "username", "groups"],
          Node.value? pairs key = Node.value? others key := by
        intro key hkey
        rw [Node.value?, Node.value?, hkeys key hkey]
      rw [mapping, mapping, requiredText, requiredText, optionalText, optionalText, optionalText,
        optionalText, groups, groups, hvalue _ (by simp), hvalue "username" (by simp),
        hvalue "groups" (by simp)]

end Entry

theorem Field.reader_of_alike (field : Field) (index : Nat) (node other : Node)
    (h : Node.AlikeOn field.keys node other) :
    field.reader index node = field.reader index other := by
  cases field with
  | users => exact Entry.mapping_of_alike .user h index
  | roles => exact Entry.mapping_of_alike .role h index
  | accounts => cases h <;> rfl

theorem Reader.collectNodes_congr {α : Type} {alike : Node → Node → Prop} {reader : Reader α}
    {nodes others : List Node}
    (hreads : ∀ index node other, alike node other → reader index node = reader index other)
    (h : List.Forall₂ alike nodes others) :
    reader.collectNodes nodes = reader.collectNodes others := by
  have hresults : reader.results nodes = reader.results others := by
    induction h generalizing reader with
    | nil => rfl
    | cons hnode _ ih =>
        rw [results, results, List.mapIdx_cons, List.mapIdx_cons, hreads 0 _ _ hnode]
        congr 1
        exact ih fun index => hreads (index + 1)
  rw [collectNodes, collectNodes, hresults]

/-! ## Roles in place of users -/

/-- A key of an entry of a list of users, as it stands in a list of roles. -/
def roleKey (key : String) : String :=
  if key = "userarn" then "rolearn" else key

def Node.renameKeys (rename : String → String) : Node → Node
  | .map pairs => .map (pairs.map fun pair => (rename pair.1, pair.2))
  | node => node

def EntryFault.renameKey (rename : String → String) : EntryFault → EntryFault
  | .notText key => .notText (rename key)
  | .missing index key => .missing index (rename key)
  | fault => fault

theorem roleKey_inj {key other : String} (hkey : key ≠ "rolearn") (hother : other ≠ "rolearn") :
    roleKey key = roleKey other ↔ key = other := by
  unfold roleKey
  split <;> split <;> grind

theorem lookup_renameKeys {pairs : List (String × Node)} (hfree : "rolearn" ∉ pairs.map Prod.fst)
    {key : String} (hkey : key ≠ "rolearn") :
    (pairs.map fun pair => (roleKey pair.1, pair.2)).lookup (roleKey key) = pairs.lookup key := by
  induction pairs with
  | nil => rfl
  | cons pair pairs ih =>
      obtain ⟨hpair, hrest⟩ := not_or.1 (mt List.mem_cons.2 hfree)
      have hsame : (roleKey key == roleKey pair.1) = (key == pair.1) := by
        rw [Bool.eq_iff_iff, beq_iff_eq, beq_iff_eq, roleKey_inj hkey (Ne.symm hpair)]
      rw [List.map_cons, List.lookup_cons, List.lookup_cons, hsame, ih hrest]

theorem mapError_bind {α β ε ε' : Type} (f : ε → ε') (x : Except ε α) (next : α → Except ε β) :
    (x >>= next).mapError f = x.mapError f >>= fun a => (next a).mapError f := by
  cases x <;> rfl

namespace Entry

section Rename

variable {pairs : List (String × Node)} (hfree : "rolearn" ∉ pairs.map Prod.fst) {key : String}

include hfree

theorem value?_renameKeys (hkey : key ≠ "rolearn") :
    Node.value? (pairs.map fun pair => (roleKey pair.1, pair.2)) (roleKey key) =
      Node.value? pairs key := by
  rw [Node.value?, lookup_renameKeys hfree hkey, Node.value?]

theorem optionalText_renameKeys (hkey : key ≠ "rolearn") :
    optionalText (pairs.map fun pair => (roleKey pair.1, pair.2)) (roleKey key) =
      (optionalText pairs key).mapError (EntryFault.renameKey roleKey) := by
  rw [optionalText, value?_renameKeys hfree hkey, optionalText]
  split <;> rfl

theorem requiredText_renameKeys (hkey : key ≠ "rolearn") (index : Nat) :
    requiredText index (pairs.map fun pair => (roleKey pair.1, pair.2)) (roleKey key) =
      (requiredText index pairs key).mapError (EntryFault.renameKey roleKey) := by
  rw [requiredText, optionalText_renameKeys hfree hkey, requiredText, mapError_bind]
  congr 1
  funext text
  by_cases hempty : text = ""
  · rw [if_pos hempty, if_pos hempty]
    rfl
  · rw [if_neg hempty, if_neg hempty]
    rfl

theorem groups_renameKeys :
    groups (pairs.map fun pair => (roleKey pair.1, pair.2)) =
      (groups pairs).mapError (EntryFault.renameKey roleKey) := by
  have hvalue := value?_renameKeys hfree (show "groups" ≠ "rolearn" by decide)
  have hsame : groups (pairs.map fun pair => (roleKey pair.1, pair.2)) = groups pairs := by
    rw [groups, groups, ← hvalue]
    rfl
  rw [hsame]
  cases hgroups : groups pairs with
  | ok _ => rfl
  | error fault => rcases groups_eq_error hgroups with rfl | rfl <;> rfl

end Rename

/-- A node is read as a role as it would be read as a user, but for the key of the ARN. -/
theorem mapping_renameKeys {node : Node}
    (hfree : ∀ pairs, node = .map pairs → "rolearn" ∉ pairs.map Prod.fst) (index : Nat) :
    mapping .role index (node.renameKeys roleKey) =
      (mapping .user index node).mapError (EntryFault.renameKey roleKey) := by
  cases node with
  | null | scalar _ | seq _ => rfl
  | map pairs =>
      have hfree := hfree pairs rfl
      have harn := requiredText_renameKeys hfree (show "userarn" ≠ "rolearn" by decide) index
      have husername := optionalText_renameKeys hfree (show "username" ≠ "rolearn" by decide)
      rw [Node.renameKeys, mapping, mapping, mapError_bind, Kind.arnKey, Kind.arnKey, ← harn]
      simp only [mapError_bind, ← husername, ← groups_renameKeys hfree]
      rfl

end Entry

namespace Reader

theorem filterMap_mapError {α : Type} (f : EntryFault → EntryFault)
    (results : List (Except EntryFault α)) :
    (results.map (Except.mapError f)).filterMap Except.toOption =
        results.filterMap Except.toOption ∧
      (results.map (Except.mapError f)).filterMap fault? = (results.filterMap fault?).map f := by
  induction results with
  | nil => exact ⟨rfl, rfl⟩
  | cons result results ih =>
      cases result with
      | ok record => exact ⟨congrArg (record :: ·) ih.1, ih.2⟩
      | error fault => exact ⟨ih.1, congrArg (f fault :: ·) ih.2⟩

theorem collectNodes_renameKeys {nodes : List Node}
    (hfree : ∀ pairs, .map pairs ∈ nodes → "rolearn" ∉ pairs.map Prod.fst) :
    Reader.collectNodes (Entry.mapping .role) (nodes.map (Node.renameKeys roleKey)) =
      let users := Reader.collectNodes (Entry.mapping .user) nodes
      ⟨users.records, users.faults.map (EntryFault.renameKey roleKey)⟩ := by
  have hresults : Reader.results (Entry.mapping .role) (nodes.map (Node.renameKeys roleKey)) =
      (Reader.results (Entry.mapping .user) nodes).map
        (Except.mapError (EntryFault.renameKey roleKey)) := by
    apply List.ext_getElem
    · simp [results]
    · intro index hindex _
      have hbound : index < nodes.length := by simpa [results] using hindex
      have hnode : ∀ pairs, nodes[index] = .map pairs → "rolearn" ∉ pairs.map Prod.fst :=
        fun pairs hpairs => hfree pairs (hpairs ▸ List.getElem_mem hbound)
      simpa [results] using Entry.mapping_renameKeys hnode index
  obtain ⟨hrecords, hfaults⟩ := filterMap_mapError (EntryFault.renameKey roleKey)
    (Reader.results (Entry.mapping .user) nodes)
  rw [collectNodes, hresults, hrecords, hfaults]
  rfl

end Reader

/-! ## Whole texts -/

/-- A text that loads as a list is told apart entry by entry: an entry that spells a record gives
that record, and any other the message of its first fault, with its position in the list.  Keys
that are not recognised make no difference.  A list of users that is turned into one of roles
gives the same records, and the same messages but for the key of the ARN. -/
theorem Field.entries_accepted_exactly [Dialect] {text : String} {nodes : List Node}
    (htext : Dialect.load text = .ok (.seq nodes)) :
    (∀ field : Field, ∃ collected, field.reader.collect text = .ok collected ∧
      ∀ records messages, field.Sorts 0 nodes records messages ↔
        records = collected.records ∧ messages = collected.faults.map EntryFault.message) ∧
    (∀ (field : Field) (other : String) (others : List Node),
      Dialect.load other = .ok (.seq others) → List.Forall₂ (Node.AlikeOn field.keys) nodes others →
        field.reader.collect other = field.reader.collect text) ∧
    (∀ other : String, Dialect.load other = .ok (.seq (nodes.map (Node.renameKeys roleKey))) →
      (∀ pairs, .map pairs ∈ nodes → "rolearn" ∉ pairs.map Prod.fst) →
        ∃ users, Field.users.reader.collect text = .ok users ∧
          Field.roles.reader.collect other =
            .ok ⟨users.records, users.faults.map (EntryFault.renameKey roleKey)⟩) := by
  refine ⟨?_, ?_, ?_⟩
  · intro field
    exact ⟨_, Reader.collect_of_seq htext, fun records messages => Field.sorts_iff⟩
  · intro field other others hother halike
    rw [Reader.collect_of_seq hother, Reader.collect_of_seq htext,
      Reader.collectNodes_congr field.reader_of_alike halike]
  · intro other hother hfree
    refine ⟨_, Reader.collect_of_seq htext, ?_⟩
    rw [Reader.collect_of_seq hother]
    exact congrArg Except.ok (Reader.collectNodes_renameKeys hfree)

/-- Two users with one ARN, and refused entries between them, one of which has two faults. -/
def mixed : List Node :=
  [.map [("userarn", .scalar "a"), ("note", .null)], .scalar "7", .map [("groups", .scalar "g")],
    .map [("userarn", .scalar "b"), ("groups", .seq [.null])], .map [("userarn", .scalar "a")]]

/-- The same entries with other keys that are not recognised. -/
def annotated : List Node :=
  [.map [("userarn", .scalar "a")], .scalar "7", .map [("x", .seq []), ("groups", .scalar "g")],
    .map [("groups", .seq [.null]), ("userarn", .scalar "b")], .map [("userarn", .scalar "a")]]

theorem Field.entries_accepted_exactly_of_mixed :
    ∃ users, Field.users.reader.collect
        "[{userarn: a, note: }, 7, {groups: g}, {userarn: b, groups: [~]}, {userarn: a}]" =
          .ok users ∧
      users.records = [⟨"a", "", []⟩, ⟨"a", "", []⟩] ∧
      users.faults.map EntryFault.message = ["entry 1 is not a mapping",
        "entry 2 is missing 'userarn'", "field 'groups' must contain strings"] ∧
      Field.users.reader.collect
          "[{userarn: a}, 7, {x: [], groups: g}, {groups: [~], userarn: b}, {userarn: a}]" =
        .ok users ∧
      Field.roles.reader.collect
          "[{rolearn: a, note: }, 7, {groups: g}, {rolearn: b, groups: [~]}, {rolearn: a}]" =
        .ok ⟨users.records, users.faults.map (EntryFault.renameKey roleKey)⟩ := by
  have htext : Dialect.load
      "[{userarn: a, note: }, 7, {groups: g}, {userarn: b, groups: [~]}, {userarn: a}]" =
        .ok (.seq mixed) := by rfl
  have hannotated : Dialect.load
      "[{userarn: a}, 7, {x: [], groups: g}, {groups: [~], userarn: b}, {userarn: a}]" =
        .ok (.seq annotated) := by rfl
  have halike : List.Forall₂ (Node.AlikeOn Field.users.keys) mixed annotated :=
    .cons (.maps (by simp [Field.keys, List.lookup_cons])) <| .cons .same <|
      .cons (.maps (by simp [Field.keys, List.lookup_cons])) <|
      .cons (.maps (by simp [Field.keys, List.lookup_cons])) <| .cons .same .nil
  have hsorted : Field.users.Sorts 0 mixed [⟨"a", "", []⟩, ⟨"a", "", []⟩]
      ["entry 1 is not a mapping", "entry 2 is missing 'userarn'",
        "field 'groups' must contain strings"] :=
    .accept (.map rfl (by decide) (.inr ⟨.inl rfl, rfl⟩) (.inr ⟨.inl rfl, rfl⟩)) <|
      .refuse (.notMap (by simp)) <| .refuse (.arnMissing (.inr ⟨.inl rfl, rfl⟩)) <|
      .refuse (.groupNotText (.inl rfl) (by decide) (.inr ⟨.inl rfl, rfl⟩) rfl
        List.mem_cons_self (by simp)) <|
      .accept (.map rfl (by decide) (.inr ⟨.inl rfl, rfl⟩) (.inr ⟨.inl rfl, rfl⟩)) .nil
  obtain ⟨hsorts, hkeys, hroles⟩ := entries_accepted_exactly htext
  obtain ⟨users, husers, hexact⟩ := hsorts .users
  obtain ⟨hrecords, hmessages⟩ := (hexact _ _).1 hsorted
  obtain ⟨others, hothers, hrenamed⟩ := hroles
    "[{rolearn: a, note: }, 7, {groups: g}, {rolearn: b, groups: [~]}, {rolearn: a}]" rfl
    (by simp [mixed])
  obtain rfl : users = others := Except.ok.inj (husers.symm.trans hothers)
  exact ⟨users, husers, hrecords.symm, hmessages.symm,
    (hkeys .users _ _ hannotated halike).trans husers, hrenamed⟩

end IdentityMap
