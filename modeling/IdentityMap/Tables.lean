import Std.Data.TreeMap
import Std.Data.TreeSet
import IdentityMap.Mapping

/-!
# Tables

What look-ups are answered from: a table of users, a table of roles and a set of accounts. The
tables are built as a whole from lists of records.
-/

namespace IdentityMap

open Std (TreeMap TreeSet)

/-- Mappings filed under their folded ARN. A later mapping takes the place of an earlier one. -/
def Mapping.table (mappings : List Mapping) : TreeMap String Mapping :=
  mappings.foldl (fun table mapping => table.insert mapping.key mapping) ∅

structure Tables where
  users : TreeMap String Mapping
  roles : TreeMap String Mapping
  accounts : TreeSet String

namespace Tables

def ofLists (users roles : List Mapping) (accounts : List String) : Tables where
  users := Mapping.table users
  roles := Mapping.table roles
  accounts := accounts.foldl (fun set account => set.insert account) ∅

def empty : Tables :=
  ofLists [] [] []

def mappings (tables : Tables) : Kind → TreeMap String Mapping
  | .user => tables.users
  | .role => tables.roles

/-- The mapping of an ARN, whatever the case of its ASCII letters. -/
def find? (tables : Tables) (kind : Kind) (arn : String) : Option Mapping :=
  (tables.mappings kind)[foldCase arn]?

def hasAccount (tables : Tables) (account : String) : Bool :=
  tables.accounts.contains account

end Tables

end IdentityMap
