import IdentityMap.Snapshot

/-!
# The store

The store holds the current snapshot. An update replaces it as a whole and raises the
generation by one; a snapshot taken earlier keeps answering from its own tables.
-/

namespace IdentityMap

structure Store where
  current : Snapshot

namespace Store

def empty : Store :=
  ⟨Snapshot.empty⟩

def replace (store : Store) (users roles : List Mapping) (accounts : List String) : Store :=
  ⟨Snapshot.build users roles accounts (store.current.generation + 1)⟩

def tables (store : Store) : Tables :=
  store.current.toTables

/-- The number of replacements so far, modulo `2 ^ 64`. -/
def generation (store : Store) : UInt64 :=
  store.current.generation

def stats (store : Store) : Stats :=
  store.current.stats

@[simp] theorem tables_empty : empty.tables = Tables.empty :=
  rfl

@[simp] theorem generation_empty : empty.generation = 0 :=
  rfl

@[simp] theorem tables_replace (store : Store) (users roles : List Mapping)
    (accounts : List String) :
    (store.replace users roles accounts).tables = Tables.ofLists users roles accounts :=
  rfl

@[simp] theorem generation_replace (store : Store) (users roles : List Mapping)
    (accounts : List String) :
    (store.replace users roles accounts).generation = store.generation + 1 :=
  rfl

end Store

end IdentityMap
