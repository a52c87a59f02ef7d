import Mathlib.Data.Finset.Card
import IdentityMap.Proofs.Lookup
import IdentityMap.Store

/-!
# Sessions with a store

A writer replaces what a store holds, and readers keep snapshots of it.  What the store answers at
any point of a session, and what a kept snapshot answers ever after, is told here from the lists of
the replacements alone: the latest of those made until then decides, and their number is the
generation.
-/

namespace IdentityMap

open Std (TreeMap TreeSet)

/-! ## Sizes of tables -/

def distinct (texts : List String) : Nat :=
  texts.toFinset.card

theorem distinct_concat (texts : List String) (text : String) :
    distinct (texts ++ [text]) =
      if text ∈ texts then distinct texts else distinct texts + 1 := by
  have hset : (texts ++ [text]).toFinset = insert text texts.toFinset := by
    ext other
    simp
  rw [distinct, hset, Finset.card_insert_eq_ite]
  simp only [List.mem_toFinset, distinct]

namespace Mapping

theorem table_concat (mappings : List Mapping) (mapping : Mapping) :
    table (mappings ++ [mapping]) = (table mappings).insert mapping.key mapping :=
  List.foldl_append

theorem contains_table (mappings : List Mapping) (key : String) :
    (table mappings).contains key = true ↔ key ∈ mappings.map Mapping.key := by
  rw [← TreeMap.mem_iff_contains, TreeMap.mem_iff_isSome_getElem?, table, getElem?_foldl_insert]
  simp

theorem size_table (mappings : List Mapping) :
    (table mappings).size = distinct (mappings.map Mapping.key) := by
  induction mappings using List.reverseRecOn with
  | nil => rfl
  | append_singleton mappings mapping ih =>
      rw [table_concat, TreeMap.size_insert, List.map_append, List.map_singleton, distinct_concat,
        ih]
      simp only [contains_table]

end Mapping

theorem Tables.size_accounts_ofLists (users roles : List Mapping) (accounts : List String) :
    (ofLists users roles accounts).accounts.size = distinct accounts := by
  induction accounts using List.reverseRecOn with
  | nil => rfl
  | append_singleton accounts account ih =>
      have hinsert : (ofLists users roles (accounts ++ [account])).accounts =
          (ofLists users roles accounts).accounts.insert account := List.foldl_append
      have hmem := hasAccount_ofLists users roles accounts account
      rw [hinsert, TreeSet.size_insert, distinct_concat, ih]
      simp only [hasAccount] at hmem
      simp only [hmem]

/-! ## Answers from replacements -/

structure Batch where
  users : List Mapping := []
  roles : List Mapping := []
  accounts : List String := []

/-- The last of some replacements.  Before the first one it is as if nothing was given. -/
def latest (batches : List Batch) : Batch :=
  batches.getLast?.getD {}

@[simp] theorem latest_concat (batches : List Batch) (batch : Batch) :
    latest (batches ++ [batch]) = batch := by
  simp [latest]

structure Snapshot.Answers (snapshot : Snapshot) (batches : List Batch) : Prop where
  user : ∀ arn, snapshot.find? .user arn = Mapping.lastFor? (latest batches).users arn
  role : ∀ arn, snapshot.find? .role arn = Mapping.lastFor? (latest batches).roles arn
  account : ∀ account, snapshot.hasAccount account = true ↔ account ∈ (latest batches).accounts
  stats : snapshot.stats =
    { generation := UInt64.ofNat batches.length
      users := distinct ((latest batches).users.map Mapping.key)
      roles := distinct ((latest batches).roles.map Mapping.key)
      accounts := distinct (latest batches).accounts }

def Snapshot.ofBatches (batches : List Batch) : Snapshot :=
  build (latest batches).users (latest batches).roles (latest batches).accounts
    (UInt64.ofNat batches.length)

theorem Snapshot.answers_ofBatches (batches : List Batch) :
    (ofBatches batches).Answers batches where
  user := Tables.find?_ofLists _ _ _ .user
  role := Tables.find?_ofLists _ _ _ .role
  account := Tables.hasAccount_ofLists _ _ _
  stats := by
    simp only [stats, ofBatches, build, Stats.mk.injEq, true_and]
    exact ⟨Mapping.size_table _, Mapping.size_table _, Tables.size_accounts_ofLists _ _ _⟩

/-! ## Sessions -/

/-- A store with the snapshots that readers have kept, the oldest first. -/
structure Session where
  store : Store := .empty
  kept : List Snapshot := []

namespace Session

inductive Call where
  | replace (batch : Batch)
  | keep

namespace Call

def batch? : Call → Option Batch
  | replace batch => some batch
  | keep => none

def isKeep : Call → Bool
  | replace _ => false
  | keep => true

end Call

def call (session : Session) : Call → Session
  | .replace batch =>
    { session with store := session.store.replace batch.users batch.roles batch.accounts }
  | .keep => { session with kept := session.kept ++ [session.store.current] }

def run (calls : List Call) : Session :=
  calls.foldl call {}

def batches (calls : List Call) : List Batch :=
  calls.filterMap Call.batch?

def keeps (calls : List Call) : Nat :=
  calls.countP Call.isKeep

variable (calls later : List Call)

theorem run_concat (next : Call) : run (calls ++ [next]) = (run calls).call next :=
  List.foldl_append

theorem batches_concat (next : Call) :
    batches (calls ++ [next]) = batches calls ++ next.batch?.toList := by
  rw [batches, List.filterMap_append, List.filterMap_cons]
  cases next.batch? <;> rfl

theorem keeps_concat (next : Call) :
    keeps (calls ++ [next]) = keeps calls + if next.isKeep then 1 else 0 :=
  List.countP_append.trans (by rw [List.countP_singleton]; rfl)

/-- The current snapshot depends on the replacements made so far and on nothing else. -/
theorem current_run : (run calls).store.current = Snapshot.ofBatches (batches calls) := by
  induction calls using List.reverseRecOn with
  | nil => rfl
  | append_singleton calls next ih =>
      rw [run_concat, batches_concat]
      cases next with
      | keep => simpa [call, Call.batch?] using ih
      | replace batch =>
          have hgeneration : (run calls).store.current.generation + 1 =
              UInt64.ofNat ((batches calls).length + 1) := by
            rw [ih, UInt64.ofNat_add]
            rfl
          simp [call, Call.batch?, Store.replace, hgeneration, Snapshot.ofBatches]

theorem length_kept_run : (run calls).kept.length = keeps calls := by
  induction calls using List.reverseRecOn with
  | nil => rfl
  | append_singleton calls next ih =>
      rw [run_concat, keeps_concat]
      cases next <;> simpa [call, Call.isKeep] using ih

theorem kept_prefix_call (session : Session) (next : Call) :
    session.kept <+: (session.call next).kept := by
  cases next with
  | replace batch => exact List.prefix_refl _
  | keep => exact List.prefix_append _ _

theorem kept_prefix_run : (run calls).kept <+: (run (calls ++ later)).kept := by
  induction later using List.reverseRecOn with
  | nil => rw [List.append_nil]
  | append_singleton later next ih =>
      rw [← List.append_assoc, run_concat]
      exact ih.trans (kept_prefix_call _ next)

/-- A reader that keeps the current snapshot finds it again under the number of those kept
before. -/
theorem kept_run_keep :
    (run (calls ++ .keep :: later)).kept[keeps calls]? =
      some (Snapshot.ofBatches (batches calls)) := by
  have hkept : (run (calls ++ [.keep])).kept[keeps calls]? = some (run calls).store.current := by
    rw [run_concat, ← length_kept_run]
    exact List.getElem?_concat_length
  have hlater : calls ++ .keep :: later = (calls ++ [.keep]) ++ later := by simp
  obtain ⟨rest, hrest⟩ := kept_prefix_run (calls ++ [.keep]) later
  rw [hlater, ← hrest, ← current_run]
  exact (List.getElem?_append_left (List.getElem?_eq_some_iff.1 hkept).1).trans hkept

/-- At every point of a session the store answers from the latest replacement: the last mapping of
an ARN up to case, the accounts as they were listed, the sizes without duplicates and the number of
replacements.  A snapshot that was kept at some point goes on answering as the store did then,
whatever is called later. -/
theorem answers_of_latest_batch :
    (run calls).store.current.Answers (batches calls) ∧
      ∀ later, ∃ snapshot, (run (calls ++ .keep :: later)).kept[keeps calls]? = some snapshot ∧
        snapshot.Answers (batches calls) := by
  constructor
  · rw [current_run]
    exact Snapshot.answers_ofBatches _
  · intro later
    exact ⟨_, kept_run_keep calls later, Snapshot.answers_ofBatches _⟩

end Session

end IdentityMap
