import IdentityMap.Document.Text
import IdentityMap.Proofs.Source.Following

/-!
# Documents of resources

A document holds a resource if it is a map whose metadata gives a name and whose data, if there
are any, are a map of texts.  The resource then has what the document gives and nothing else.
Every other document is reported with the first check that it fails, and a poll of the file tells
one or the other.
-/

namespace IdentityMap

open Std (TreeMap)

/-! ## Keys that differ -/

inductive Node.Distinct : Node → Prop
  | null : Distinct .null
  | scalar (text : String) : Distinct (.scalar text)
  | seq {items : List Node} (hitems : ∀ item ∈ items, Distinct item) : Distinct (.seq items)
  | map {pairs : List (String × Node)} (hkeys : (pairs.map Prod.fst).Nodup)
      (hvalues : ∀ pair ∈ pairs, Distinct pair.2) : Distinct (.map pairs)

def Node.IsScalar (node : Node) : Prop :=
  ∃ text, node = .scalar text

section Keys

variable {pairs : List (String × Node)} {key : String} {node : Node}

theorem lookup_eq_some_iff_mem (hkeys : (pairs.map Prod.fst).Nodup) :
    pairs.lookup key = some node ↔ (key, node) ∈ pairs := by
  induction pairs with
  | nil => simp
  | cons pair pairs ih =>
      obtain ⟨other, value⟩ := pair
      obtain ⟨hother, hrest⟩ := List.nodup_cons.1 hkeys
      rw [List.lookup_cons, List.mem_cons, Prod.mk.injEq]
      by_cases hkey : key = other
      · subst hkey
        have hnot : (key, node) ∉ pairs := fun h => hother (List.mem_map.2 ⟨_, h, rfl⟩)
        simp [hnot, eq_comm]
      · have hne : (key == other) = false := beq_false_of_ne hkey
        simp [hne, hkey, ih hrest]

theorem value?_eq_none_iff (hkeys : (pairs.map Prod.fst).Nodup) :
    Node.value? pairs key = none ↔ ∀ node, (key, node) ∈ pairs → node = .null := by
  simp only [← lookup_eq_some_iff_mem hkeys, Node.value?]
  cases pairs.lookup key with
  | none => simp
  | some node => cases node <;> simp

theorem value?_of_mem (hkeys : (pairs.map Prod.fst).Nodup) (hmem : (key, node) ∈ pairs)
    (hnull : node ≠ .null) : Node.value? pairs key = some node := by
  rw [Node.value?, (lookup_eq_some_iff_mem hkeys).2 hmem]
  cases node with
  | null => exact absurd rfl hnull
  | _ => rfl

end Keys

namespace Resource

/-! ## Documents that hold a resource -/

def Names (pairs : List (String × Node)) (name : String) : Prop :=
  ∃ metadata, ("metadata", .map metadata) ∈ pairs ∧ ("name", .scalar name) ∈ metadata

/-- The namespace that metadata give, if any; it is empty unless it is given as a scalar. -/
def Places (metadata : List (String × Node)) (ns : String) : Prop :=
  ("namespace", .scalar ns) ∈ metadata ∨
    (∀ text, ("namespace", .scalar text) ∉ metadata) ∧ ns = ""

/-- The entries of the data of a document.  Data that are absent or null have none. -/
inductive Lists (pairs : List (String × Node)) : List (String × Node) → Prop
  | absent (hnull : ∀ node, ("data", node) ∈ pairs → node = .null) : Lists pairs []
  | map {entries : List (String × Node)} (hdata : ("data", .map entries) ∈ pairs) :
      Lists pairs entries

def IsDocument (node : Node) : Prop :=
  ∃ pairs name entries, node = .map pairs ∧ Names pairs name ∧ Lists pairs entries ∧
    ∀ entry ∈ entries, entry.2.IsScalar

/-- The resource that a document holds: the name and the namespace in the metadata, and exactly
the keys of the data, each with its text. -/
inductive Describes : Node → Resource → Prop
  | map {pairs metadata entries : List (String × Node)} {resource : Resource}
      (hmetadata : ("metadata", .map metadata) ∈ pairs)
      (hname : ("name", .scalar resource.name) ∈ metadata)
      (hns : Places metadata resource.ns) (hlists : Lists pairs entries)
      (hscalars : ∀ entry ∈ entries, entry.2.IsScalar)
      (hdata : ∀ key text, resource.data[key]? = some text ↔ (key, .scalar text) ∈ entries) :
      Describes (.map pairs) resource

/-- The report about a file that holds no resource, given what was loaded from it.  It names the
first check that fails; entries of the data are checked in the order of the document. -/
inductive Complains (path : String) : Option (Except SyntaxError Node) → String → Prop
  | load {loaded : Option (Except SyntaxError Node)} (hload : ∀ node, loaded ≠ some (.ok node)) :
      Complains path loaded (upToNul ("failed to load resource " ++ path ++ ": " ++ Node.faultText))
  | root {node : Node} (hroot : ∀ pairs, node ≠ .map pairs) :
      Complains path (some (.ok node)) (upToNul ("resource " ++ path ++ " is not a mapping"))
  | name {pairs : List (String × Node)} (hname : ∀ name, ¬ Names pairs name) :
      Complains path (some (.ok (.map pairs)))
        (upToNul ("resource " ++ path ++ " has no metadata.name"))
  | data {pairs : List (String × Node)} {name : String} {node : Node} (hname : Names pairs name)
      (hdata : ("data", node) ∈ pairs) (hnull : node ≠ .null)
      (hmap : ∀ entries, node ≠ .map entries) :
      Complains path (some (.ok (.map pairs)))
        (upToNul ("resource " ++ path ++ " data is not a mapping"))
  | entry {pairs before after : List (String × Node)} {name key : String} {node : Node}
      (hname : Names pairs name) (hdata : ("data", .map (before ++ (key, node) :: after)) ∈ pairs)
      (hbefore : ∀ entry ∈ before, entry.2.IsScalar) (hnode : ¬ node.IsScalar) :
      Complains path (some (.ok (.map pairs)))
        (upToNul ("resource " ++ path ++ " data." ++ key ++ " is not a string"))

def ofLoaded (path : String) (loaded : Option (Except SyntaxError Node)) :
    Except String Resource :=
  Except.mapError (ResourceFault.message path) <|
    match loaded with
    | some (.ok node) => ofNode node
    | _ => .error .unreadable

theorem mapError_ofFile? [Dialect] (path : String) (text : Option String) :
    (ofFile? text).mapError (ResourceFault.message path) =
      ofLoaded path (text.map Dialect.load) :=
  rfl

variable {path : String} {pairs metadata entries : List (String × Node)} {name : String}

/-! ## Metadata -/

theorem documentName_of_mem (hkeys : (metadata.map Prod.fst).Nodup)
    (hname : ("name", .scalar name) ∈ metadata) : documentName metadata = .ok name := by
  rw [documentName, (lookup_eq_some_iff_mem hkeys).2 hname]

theorem documentName_of_unnamed (hkeys : (metadata.map Prod.fst).Nodup)
    (hname : ∀ name, ("name", .scalar name) ∉ metadata) :
    documentName metadata = .error .noName := by
  rw [documentName]
  split
  · rename_i text hlookup
    exact absurd ((lookup_eq_some_iff_mem hkeys).1 hlookup) (hname text)
  · rfl

theorem places_documentNamespace (hkeys : (metadata.map Prod.fst).Nodup) :
    Places metadata (documentNamespace metadata) := by
  rw [documentNamespace]
  split
  · rename_i text hlookup
    exact .inl ((lookup_eq_some_iff_mem hkeys).1 hlookup)
  · rename_i hlookup
    exact .inr ⟨fun text hmem => hlookup text ((lookup_eq_some_iff_mem hkeys).2 hmem), rfl⟩

theorem ofNode_of_unnamed (hdistinct : (Node.map pairs).Distinct)
    (hname : ∀ name, ¬ Names pairs name) : ofNode (.map pairs) = .error .noName := by
  cases hdistinct with
  | map hkeys hvalues =>
      rw [ofNode]
      cases hlookup : pairs.lookup "metadata" with
      | none => rfl
      | some node =>
          cases node with
          | map metadata =>
              have hmem := (lookup_eq_some_iff_mem hkeys).1 hlookup
              have hnone : ∀ name, ("name", .scalar name) ∉ metadata :=
                fun name hmeta => hname name ⟨metadata, hmem, hmeta⟩
              cases hvalues _ hmem with
              | map hmetakeys _ =>
                  simp only [documentName_of_unnamed hmetakeys hnone]
                  rfl
          | _ => rfl

theorem ofNode_of_named (hkeys : (pairs.map Prod.fst).Nodup)
    (hmetakeys : (metadata.map Prod.fst).Nodup) (hmetadata : ("metadata", .map metadata) ∈ pairs)
    (hname : ("name", .scalar name) ∈ metadata) :
    ofNode (.map pairs) =
      (documentData (Node.value? pairs "data")).map fun data =>
        ⟨documentNamespace metadata, name, data⟩ := by
  rw [ofNode, (lookup_eq_some_iff_mem hkeys).2 hmetadata]
  simp only [documentName_of_mem hmetakeys hname]
  cases documentData (Node.value? pairs "data") <;> rfl

/-! ## Data -/

/-- Entries that are all scalars are added one by one.  As their keys differ, none is added over
another. -/
theorem exists_foldlM_addEntry (hkeys : (entries.map Prod.fst).Nodup)
    (hscalars : ∀ entry ∈ entries, entry.2.IsScalar) (data : TreeMap String String) :
    ∃ result, entries.foldlM addEntry data = .ok result ∧
      ∀ key text, result[key]? = some text ↔
        (key, .scalar text) ∈ entries ∨ key ∉ entries.map Prod.fst ∧ data[key]? = some text := by
  induction entries generalizing data with
  | nil => exact ⟨data, rfl, by simp⟩
  | cons entry entries ih =>
      obtain ⟨other, node⟩ := entry
      obtain ⟨⟨value, rfl⟩, hothers⟩ := List.forall_mem_cons.1 hscalars
      obtain ⟨hother, hrest⟩ := List.nodup_cons.1 hkeys
      obtain ⟨result, hresult, hlookup⟩ := ih hrest hothers (data.insert other value)
      refine ⟨result, hresult, ?_⟩
      intro key text
      rw [hlookup, TreeMap.getElem?_insert, List.map_cons, List.mem_cons, List.mem_cons,
        Prod.mk.injEq]
      by_cases hkey : key = other
      · subst hkey
        have hnot : (key, .scalar text) ∉ entries := fun h => hother (List.mem_map.2 ⟨_, h, rfl⟩)
        simp [hnot, hother, eq_comm]
      · have hne : ¬ compare other key = .eq :=
          fun h => hkey (Std.LawfulEqCmp.compare_eq_iff_eq.1 h).symm
        simp [hkey, hne]

theorem foldlM_addEntry_of_notText {before after : List (String × Node)} {key : String}
    {node : Node} (hbefore : ∀ entry ∈ before, entry.2.IsScalar) (hnode : ¬ node.IsScalar)
    (data : TreeMap String String) :
    (before ++ (key, node) :: after).foldlM addEntry data = .error (.notText key) := by
  induction before generalizing data with
  | nil =>
      cases node with
      | scalar text => exact absurd ⟨text, rfl⟩ hnode
      | _ => rfl
  | cons entry before ih =>
      obtain ⟨other, node⟩ := entry
      obtain ⟨⟨value, rfl⟩, hothers⟩ := List.forall_mem_cons.1 hbefore
      exact ih hothers (data.insert other value)

theorem exists_documentData (hdistinct : (Node.map pairs).Distinct) (hlists : Lists pairs entries)
    (hscalars : ∀ entry ∈ entries, entry.2.IsScalar) :
    ∃ data, documentData (Node.value? pairs "data") = .ok data ∧
      ∀ key text, data[key]? = some text ↔ (key, .scalar text) ∈ entries := by
  cases hdistinct with
  | map hkeys hvalues =>
      cases hlists with
      | absent hnull =>
          rw [(value?_eq_none_iff hkeys).2 hnull]
          exact ⟨∅, rfl, by simp⟩
      | map hdata =>
          rw [value?_of_mem hkeys hdata nofun]
          cases hvalues _ hdata with
          | map hentries _ =>
              obtain ⟨data, hfold, hlookup⟩ := exists_foldlM_addEntry hentries hscalars ∅
              refine ⟨data, hfold, ?_⟩
              intro key text
              rw [hlookup, TreeMap.getElem?_emptyc]
              simp

/-! ## Whole documents -/

theorem exists_ofNode {node : Node} (hdistinct : node.Distinct) (hdocument : IsDocument node) :
    ∃ resource, ofNode node = .ok resource ∧ Describes node resource := by
  obtain ⟨pairs, name, entries, rfl, ⟨metadata, hmetadata, hname⟩, hlists, hscalars⟩ := hdocument
  obtain ⟨data, hdata, hlookup⟩ := exists_documentData hdistinct hlists hscalars
  cases hdistinct with
  | map hkeys hvalues =>
      cases hvalues _ hmetadata with
      | map hmetakeys _ =>
          refine ⟨⟨documentNamespace metadata, name, data⟩, ?_, ?_⟩
          · rw [ofNode_of_named hkeys hmetakeys hmetadata hname, hdata]
            rfl
          · exact .map hmetadata hname (places_documentNamespace hmetakeys) hlists hscalars hlookup

theorem ofLoaded_of_complains {loaded : Option (Except SyntaxError Node)} {message : String}
    (hdistinct : ∀ node, loaded = some (.ok node) → node.Distinct)
    (h : Complains path loaded message) : ofLoaded path loaded = .error message := by
  cases h with
  | load hload =>
      unfold ofLoaded
      split
      · exact absurd rfl (hload _)
      · rfl
  | @root node hroot =>
      cases node with
      | map pairs => exact absurd rfl (hroot pairs)
      | _ => rfl
  | name hname =>
      rw [ofLoaded, ofNode_of_unnamed (hdistinct _ rfl) hname]
      rfl
  | @data pairs name node hname hdata hnull hmap =>
      obtain ⟨metadata, hmetadata, hname⟩ := hname
      cases hdistinct _ rfl with
      | map hkeys hvalues =>
          cases hvalues _ hmetadata with
          | map hmetakeys _ =>
              rw [ofLoaded, ofNode_of_named hkeys hmetakeys hmetadata hname,
                value?_of_mem hkeys hdata hnull]
              cases node with
              | map entries => exact absurd rfl (hmap entries)
              | null => exact absurd rfl hnull
              | _ => rfl
  | entry hname hdata hbefore hnode =>
      obtain ⟨metadata, hmetadata, hname⟩ := hname
      cases hdistinct _ rfl with
      | map hkeys hvalues =>
          cases hvalues _ hmetadata with
          | map hmetakeys _ =>
              rw [ofLoaded, ofNode_of_named hkeys hmetakeys hmetadata hname,
                value?_of_mem hkeys hdata nofun, documentData,
                foldlM_addEntry_of_notText hbefore hnode]
              rfl

theorem exists_first_of_not_scalars (h : ¬ ∀ entry ∈ entries, entry.2.IsScalar) :
    ∃ before key node after, entries = before ++ (key, node) :: after ∧
      (∀ entry ∈ before, entry.2.IsScalar) ∧ ¬ node.IsScalar := by
  induction entries with
  | nil => simp at h
  | cons entry entries ih =>
      by_cases hentry : entry.2.IsScalar
      · have hrest : ¬ ∀ entry ∈ entries, entry.2.IsScalar :=
          fun hall => h (List.forall_mem_cons.2 ⟨hentry, hall⟩)
        obtain ⟨before, key, node, after, rfl, hbefore, hnode⟩ := ih hrest
        exact ⟨entry :: before, key, node, after, rfl,
          List.forall_mem_cons.2 ⟨hentry, hbefore⟩, hnode⟩
      · exact ⟨[], entry.1, entry.2, entries, rfl, by simp, hentry⟩

theorem isDocument_or_complains (path : String) (loaded : Option (Except SyntaxError Node)) :
    (∃ node, loaded = some (.ok node) ∧ IsDocument node) ∨
      ∃ message, Complains path loaded message := by
  rcases loaded with - | fault | node
  · exact .inr ⟨_, .load nofun⟩
  · exact .inr ⟨_, .load nofun⟩
  cases node with
  | map pairs =>
      by_cases hname : ∀ name, ¬ Names pairs name
      · exact .inr ⟨_, .name hname⟩
      obtain ⟨name, hname⟩ := Classical.not_forall_not.1 hname
      by_cases hnull : ∀ node, ("data", node) ∈ pairs → node = .null
      · exact .inl ⟨_, rfl, pairs, name, [], rfl, hname, .absent hnull, by simp⟩
      simp only [Classical.not_forall] at hnull
      obtain ⟨node, hdata, hnull⟩ := hnull
      by_cases hmap : ∀ entries, node ≠ .map entries
      · exact .inr ⟨_, .data hname hdata hnull hmap⟩
      obtain ⟨entries, rfl⟩ := Classical.not_forall_not.1 hmap
      by_cases hscalars : ∀ entry ∈ entries, entry.2.IsScalar
      · exact .inl ⟨_, rfl, pairs, name, entries, rfl, hname, .map hdata, hscalars⟩
      · obtain ⟨before, key, node, after, rfl, hbefore, hnode⟩ :=
          exists_first_of_not_scalars hscalars
        exact .inr ⟨_, .entry hname hdata hbefore hnode⟩
  | _ => exact .inr ⟨_, .root nofun⟩

/-! ## What is loaded -/

section Loaded

variable {loaded : Option (Except SyntaxError Node)}

theorem exists_ofLoaded (path : String) {node : Node} (hload : loaded = some (.ok node))
    (hdistinct : node.Distinct) (hdocument : IsDocument node) :
    ∃ resource, ofLoaded path loaded = .ok resource ∧ Describes node resource := by
  obtain ⟨resource, hresource, hdescribes⟩ := exists_ofNode hdistinct hdocument
  refine ⟨resource, ?_, hdescribes⟩
  rw [hload, ofLoaded, hresource]
  rfl

theorem ofLoaded_cases (path : String)
    (hdistinct : ∀ node, loaded = some (.ok node) → node.Distinct) :
    (∃ node resource, loaded = some (.ok node) ∧ IsDocument node ∧ Describes node resource ∧
        ofLoaded path loaded = .ok resource) ∨
      ∃ message, Complains path loaded message ∧ ofLoaded path loaded = .error message := by
  rcases isDocument_or_complains path loaded with ⟨node, hload, hdocument⟩ | ⟨message, hcomplains⟩
  · obtain ⟨resource, hresource, hdescribes⟩ :=
      exists_ofLoaded path hload (hdistinct node hload) hdocument
    exact .inl ⟨node, resource, hload, hdocument, hdescribes, hresource⟩
  · exact .inr ⟨message, hcomplains, ofLoaded_of_complains hdistinct hcomplains⟩

theorem document_of_ofLoaded (hdistinct : ∀ node, loaded = some (.ok node) → node.Distinct)
    {resource : Resource} (hresource : ofLoaded path loaded = .ok resource) :
    ∃ node, loaded = some (.ok node) ∧ IsDocument node ∧ Describes node resource := by
  rcases ofLoaded_cases path hdistinct with
    ⟨node, given, hload, hdocument, hdescribes, hgiven⟩ | ⟨message, -, herror⟩
  · obtain rfl := Except.ok.inj (hgiven.symm.trans hresource)
    exact ⟨node, hload, hdocument, hdescribes⟩
  · rw [herror] at hresource
    cases hresource

theorem ofLoaded_eq_error_iff (hdistinct : ∀ node, loaded = some (.ok node) → node.Distinct)
    (message : String) : ofLoaded path loaded = .error message ↔ Complains path loaded message := by
  refine ⟨fun hmessage => ?_, ofLoaded_of_complains hdistinct⟩
  rcases ofLoaded_cases path hdistinct with ⟨_, _, -, -, -, hok⟩ | ⟨other, hcomplains, hother⟩
  · rw [hok] at hmessage
    cases hmessage
  · obtain rfl := Except.error.inj (hother.symm.trans hmessage)
    exact hcomplains

end Loaded

/-! ## Files -/

/-- A poll that finds a version which its stream has not seen tells what was loaded from it. -/
theorem poll_of_unseen [Dialect] {watch : FileSource} {position : Nat} {stream : FileStream}
    {modified : Int} (text : String) (hstream : watch.streams[position]? = some stream)
    (hseen : stream.seen ≠ some modified) :
    watch.poll position (.present modified text) =
      match ofLoaded watch.path (some (Dialect.load text)) with
      | .ok resource =>
        (some { kind := if watch.present then .modified else .added, object := some resource },
          { watch with
            present := true
            streams := watch.streams.set position { stream with seen := some modified } })
      | .error message =>
        (some { kind := .error, message := message },
          { watch with
            streams := watch.streams.set position { stream with seen := some modified } }) := by
  rw [watch.poll_eq position _ hstream]
  cases hfile : ofFile? (some text) with
  | ok resource =>
      have hload : ofLoaded watch.path (some (Dialect.load text)) = .ok resource :=
        congrArg (Except.mapError (ResourceFault.message watch.path)) hfile
      simp [FileStream.poll, hseen, hfile, hload]
  | error fault =>
      have hload : ofLoaded watch.path (some (Dialect.load text)) =
          .error (fault.message watch.path) :=
        congrArg (Except.mapError (ResourceFault.message watch.path)) hfile
      simp [FileStream.poll, hseen, hfile, hload]

/-- A document with an entry that is no text. -/
def damaged : String :=
  "data: \x7bmapUsers: a, mapRoles: [b]\x7d\nmetadata: \x7bname: n\x7d"

end Resource

end IdentityMap
