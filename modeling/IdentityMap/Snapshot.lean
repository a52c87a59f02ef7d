import IdentityMap.Tables

/-!
# Snapshots

A snapshot is a set of tables stamped with the generation that installed it. It never changes
once built.
-/

namespace IdentityMap

/-- How much a snapshot holds, counted after the removal of duplicates. -/
structure Stats where
  generation : UInt64
  users : Nat
  roles : Nat
  accounts : Nat
  deriving DecidableEq, Repr

structure Snapshot extends Tables where
  generation : UInt64

namespace Snapshot

def build (users roles : List Mapping) (accounts : List String) (generation : UInt64) :
    Snapshot where
  toTables := Tables.ofLists users roles accounts
  generation := generation

def empty : Snapshot :=
  build [] [] [] 0

def stats (snapshot : Snapshot) : Stats where
  generation := snapshot.generation
  users := snapshot.users.size
  roles := snapshot.roles.size
  accounts := snapshot.accounts.size

end Snapshot

end IdentityMap
