import Std.Data.TreeMap
import IdentityMap.Records.Reader
import IdentityMap.Wording

/-!
# The fields of a configuration map

Users, roles and accounts stand in three fields of the watched data. Each field is read on
its own: one that is absent gives nothing, one that is no list gives nothing but an error, and
within a list only the entries that are refused are lost.
-/

namespace IdentityMap

open Std (TreeMap)

inductive Field where
  | users
  | roles
  | accounts
  deriving DecidableEq, Repr

def Field.name : Field → String
  | .users => "mapUsers"
  | .roles => "mapRoles"
  | .accounts => "mapAccounts"

structure FieldError where
  field : String
  message : String
  deriving DecidableEq, Repr

def FieldError.text (error : FieldError) : String :=
  error.field ++ ": " ++ error.message

def FieldError.report (errors : List FieldError) : String :=
  upToNul <|
    "error parsing config map: [" ++ ", ".intercalate (errors.map FieldError.text) ++ "]"

structure Parsed where
  users : List Mapping
  roles : List Mapping
  accounts : List String
  errors : List FieldError
  deriving DecidableEq, Repr

namespace Parsed

variable [Dialect] {α : Type}

def field (field : Field) (reader : Reader α) : Option String → List α × List FieldError
  | none => ([], [])
  | some text =>
    match reader.collect text with
    | .ok collected =>
      (collected.records, collected.faults.map fun fault => ⟨field.name, fault.message⟩)
    | .error fault => ([], [⟨field.name, fault.message⟩])

def ofData (data : TreeMap String String) : Parsed :=
  let (users, userErrors) := field .users (Entry.mapping .user) data[Field.users.name]?
  let (roles, roleErrors) := field .roles (Entry.mapping .role) data[Field.roles.name]?
  let (accounts, accountErrors) := field .accounts Entry.account data[Field.accounts.name]?
  ⟨users, roles, accounts, userErrors ++ roleErrors ++ accountErrors⟩

def report? (parsed : Parsed) : Option String :=
  if parsed.errors = [] then none else some (FieldError.report parsed.errors)

end Parsed

end IdentityMap
