import Mathlib.Data.Finset.Card
import Mathlib.Data.List.Induction
import IdentityMap.Registry

/-!
# Filing of gauges and counters

Those who report to a registry set gauges, increment counters and reset it, in any order.  What it
then shows is told here from the reports since the last reset.  A counter is filed under its name
and counts the increments of that name alone.  A gauge is filed under a text in which a brace parts
its name from its label, and a brace may stand in either of them too: the gauges that were set are
told apart just in case it stands in none of them.
-/

namespace IdentityMap

/-! ## Gauges -/

structure Gauge where
  name : String
  label : String
  deriving DecidableEq

namespace Gauge

variable {gauge other : Gauge}

def key (gauge : Gauge) : String :=
  Registry.gaugeKey gauge.name gauge.label

/-- The name of one gauge begins with that of the other and a brace, and what comes between that
brace and the label of the one begins the label of the other. -/
def RunsInto (gauge other : Gauge) : Prop :=
  ∃ between, gauge.name = other.name ++ "\x7b" ++ between ∧
    other.label = between ++ "\x7b" ++ gauge.label

def SharesPlace (gauge other : Gauge) : Prop :=
  gauge = other ∨ gauge.RunsInto other ∨ other.RunsInto gauge

def Unbraced (gauge : Gauge) : Prop :=
  '\x7b' ∉ gauge.name.toList ∧ '\x7b' ∉ gauge.label.toList

/-- A text is parted at a mark in two ways only if one of its parts has the mark as well. -/
theorem parts_of_append_cons_eq {α : Type} {mark : α} {front front' back back' : List α}
    (h : front ++ mark :: back = front' ++ mark :: back') :
    (front = front' ∧ back = back') ∨
      (∃ between, front = front' ++ mark :: between ∧ back' = between ++ mark :: back) ∨
      ∃ between, front' = front ++ mark :: between ∧ back = between ++ mark :: back' := by
  rcases List.append_eq_append_iff.1 h with ⟨rest, hfront, hback⟩ | ⟨rest, hfront, hback⟩
  · cases rest with
    | nil => exact .inl ⟨by simpa using hfront.symm, by simpa using hback⟩
    | cons first between =>
        rw [List.cons_append, List.cons_eq_cons] at hback
        obtain ⟨rfl, hback⟩ := hback
        exact .inr (.inr ⟨between, hfront, hback⟩)
  · cases rest with
    | nil => exact .inl ⟨by simpa using hfront, by simpa using hback.symm⟩
    | cons first between =>
        rw [List.cons_append, List.cons_eq_cons] at hback
        obtain ⟨rfl, hback⟩ := hback
        exact .inr (.inl ⟨between, hfront, hback⟩)

theorem key_eq_key_iff_append :
    gauge.key = other.key ↔
      gauge.name.toList ++ '\x7b' :: gauge.label.toList =
        other.name.toList ++ '\x7b' :: other.label.toList := by
  rw [key, Registry.gaugeKey, key, Registry.gaugeKey, String.append_left_inj, ← String.toList_inj]
  simp

theorem runsInto_iff :
    gauge.RunsInto other ↔
      ∃ between, gauge.name.toList = other.name.toList ++ '\x7b' :: between ∧
        other.label.toList = between ++ '\x7b' :: gauge.label.toList := by
  constructor
  · rintro ⟨between, hname, hlabel⟩
    exact ⟨between.toList, by simp [hname], by simp [hlabel]⟩
  · rintro ⟨between, hname, hlabel⟩
    refine ⟨.ofList between, ?_, ?_⟩ <;> rw [← String.toList_inj]
    · simp [hname]
    · simp [hlabel]

/-- Gauges are filed under the same text just in case they share a place. -/
theorem key_eq_key_iff : gauge.key = other.key ↔ gauge.SharesPlace other := by
  rw [key_eq_key_iff_append, SharesPlace, runsInto_iff, runsInto_iff]
  constructor
  · intro h
    rcases parts_of_append_cons_eq h with ⟨hname, hlabel⟩ | h | h
    · left
      cases gauge
      cases other
      simp_all [String.toList_inj]
    · exact .inr (.inl h)
    · exact .inr (.inr h)
  · rintro (rfl | ⟨between, hname, hlabel⟩ | ⟨between, hname, hlabel⟩)
    · rfl
    · simp [hname, hlabel]
    · simp [hname, hlabel]

instance (gauge other : Gauge) : Decidable (gauge.SharesPlace other) :=
  decidable_of_iff _ key_eq_key_iff

theorem Unbraced.sharesPlace_iff (h : gauge.Unbraced) :
    gauge.SharesPlace other ↔ gauge = other := by
  constructor
  · rintro (rfl | hinto | hinto)
    · rfl
    · obtain ⟨between, hname, -⟩ := runsInto_iff.1 hinto
      exact absurd (by simp [hname]) h.1
    · obtain ⟨between, -, hlabel⟩ := runsInto_iff.1 hinto
      exact absurd (by simp [hlabel]) h.2
  · exact .inl

theorem exists_sharesPlace_of_braced (h : ¬ gauge.Unbraced) :
    ∃ other, gauge.SharesPlace other ∧ gauge ≠ other := by
  rw [Unbraced, not_and_or, not_not, not_not] at h
  rcases h with hname | hlabel
  · obtain ⟨front, between, hname⟩ := List.append_of_mem hname
    refine ⟨⟨.ofList front, .ofList (between ++ '\x7b' :: gauge.label.toList)⟩, ?_, ?_⟩
    · exact .inr (.inl (runsInto_iff.2 ⟨between, by simp [hname], by simp⟩))
    · intro hsame
      have hfront : gauge.name.toList = front :=
        (congrArg (fun gauge => gauge.name.toList) hsame).trans String.toList_ofList
      simp [hname] at hfront
  · obtain ⟨between, back, hlabel⟩ := List.append_of_mem hlabel
    refine ⟨⟨.ofList (gauge.name.toList ++ '\x7b' :: between), .ofList back⟩, ?_, ?_⟩
    · exact .inr (.inr (runsInto_iff.2 ⟨between, by simp, by simp [hlabel]⟩))
    · intro hsame
      have hback : gauge.label.toList = back :=
        (congrArg (fun gauge => gauge.label.toList) hsame).trans String.toList_ofList
      have hlength := congrArg List.length (hlabel.symm.trans hback)
      simp at hlength
      omega

end Gauge

/-! ## Histories -/

namespace Registry

inductive Report where
  | set (gauge : Gauge) (value : Float)
  | increment (name : String)
  | reset

namespace Report

def isReset : Report → Bool
  | reset => true
  | _ => false

def setting? : Report → Option (Gauge × Float)
  | set gauge value => some (gauge, value)
  | _ => none

def counted? : Report → Option String
  | increment name => some name
  | _ => none

end Report

def after (registry : Registry) : Report → Registry
  | .set gauge value => registry.setGauge gauge.name gauge.label value
  | .increment name => registry.increment name
  | .reset => empty

def ofReports (reports : List Report) : Registry :=
  reports.foldl after empty

def sinceReset (reports : List Report) : List Report :=
  (reports.reverse.takeWhile fun report => !report.isReset).reverse

/-- The gauges that were set since the last reset, each with its value, in order. -/
def settings (reports : List Report) : List (Gauge × Float) :=
  (sinceReset reports).filterMap Report.setting?

def gaugesSet (reports : List Report) : Finset Gauge :=
  ((settings reports).map Prod.fst).toFinset

/-- The names that were incremented since the last reset, once for each time. -/
def increments (reports : List Report) : List String :=
  (sinceReset reports).filterMap Report.counted?

def lastValue? (settings : List (Gauge × Float)) (like : Gauge → Bool) : Option Float :=
  (settings.filter fun setting => like setting.1).getLast?.map Prod.snd

variable (reports : List Report) (last : Report) (gauge : Gauge) (name : String)

theorem ofReports_concat : ofReports (reports ++ [last]) = (ofReports reports).after last :=
  List.foldl_append

theorem settings_concat :
    settings (reports ++ [last]) =
      if last.isReset then [] else settings reports ++ last.setting?.toList := by
  cases last <;> simp [settings, sinceReset, Report.isReset, Report.setting?]

theorem increments_concat :
    increments (reports ++ [last]) =
      if last.isReset then [] else increments reports ++ last.counted?.toList := by
  cases last <;> simp [increments, sinceReset, Report.isReset, Report.counted?]

theorem lastValue?_concat (settings : List (Gauge × Float)) (value : Float)
    (like : Gauge → Bool) :
    lastValue? (settings ++ [(gauge, value)]) like =
      if like gauge then some value else lastValue? settings like := by
  by_cases hlike : like gauge <;> simp [lastValue?, List.filter_append, hlike]

/-! ## What one report changes -/

section After

variable (registry : Registry) (report : Report)

theorem getElem?_gauges_after (key : String) :
    (registry.after report).gauges[key]? =
      match report with
      | .set gauge value => if gauge.key = key then some value else registry.gauges[key]?
      | .increment _ => registry.gauges[key]?
      | .reset => none := by
  cases report with
  | set gauge value =>
      have hinsert : (registry.after (.set gauge value)).gauges =
          registry.gauges.insert gauge.key value := rfl
      rw [hinsert, Std.TreeMap.getElem?_insert]
      by_cases hkey : gauge.key = key <;> simp [hkey]
  | increment name => rfl
  | reset => rfl

theorem counter_after (name : String) :
    (registry.after report).counter name =
      match report with
      | .set _ _ => registry.counter name
      | .increment other =>
        if other = name then registry.counter name + 1 else registry.counter name
      | .reset => 0 := by
  cases report with
  | set gauge value => rfl
  | increment other =>
      by_cases hname : other = name
      · simp [after, counter, increment, hname]
      · simp [after, counter, increment, hname, Std.TreeMap.getElem?_insert]
  | reset => rfl

theorem mem_counters_after (name : String) :
    name ∈ (registry.after report).counters ↔
      match report with
      | .set _ _ => name ∈ registry.counters
      | .increment other => other = name ∨ name ∈ registry.counters
      | .reset => False := by
  cases report with
  | set gauge value => rfl
  | increment other => simp [after, increment, Std.TreeMap.mem_insert]
  | reset => simp [after, empty]

end After

/-! ## What reports leave behind -/

theorem getElem?_gauges (key : String) :
    (ofReports reports).gauges[key]? =
      lastValue? (settings reports) fun gauge => gauge.key = key := by
  induction reports using List.reverseRecOn with
  | nil => rfl
  | append_singleton reports last ih =>
      rw [ofReports_concat, settings_concat, getElem?_gauges_after]
      cases last with
      | set gauge value => simp [Report.isReset, Report.setting?, lastValue?_concat, ih]
      | increment name => simpa [Report.isReset, Report.setting?] using ih
      | reset => rfl

/-- A gauge has the value that was given last to a gauge in its place. -/
theorem gauge?_ofReports :
    (ofReports reports).gauge? gauge.name gauge.label =
      lastValue? (settings reports) (·.SharesPlace gauge) := by
  rw [gauge?, ← Gauge.key, getElem?_gauges]
  simp only [Gauge.key_eq_key_iff]

theorem counter_ofReports :
    (ofReports reports).counter name = UInt64.ofNat ((increments reports).count name) := by
  induction reports using List.reverseRecOn with
  | nil => rfl
  | append_singleton reports last ih =>
      rw [ofReports_concat, increments_concat, counter_after]
      cases last with
      | set gauge value => simpa [Report.isReset, Report.counted?] using ih
      | increment other =>
          by_cases hname : other = name <;>
            simp [Report.isReset, Report.counted?, List.count_append, hname, ih, UInt64.ofNat_add]
      | reset => rfl

theorem mem_counters : name ∈ (ofReports reports).counters ↔ name ∈ increments reports := by
  induction reports using List.reverseRecOn with
  | nil => simp [ofReports, empty, increments, sinceReset]
  | append_singleton reports last ih =>
      rw [ofReports_concat, increments_concat, mem_counters_after]
      cases last with
      | set gauge value => simpa [Report.isReset, Report.counted?] using ih
      | increment other => simp [Report.isReset, Report.counted?, ih, or_comm, eq_comm]
      | reset => simp [Report.isReset]

theorem mem_counters_toList (count : UInt64) :
    (name, count) ∈ (ofReports reports).counters.toList ↔
      name ∈ increments reports ∧ count = UInt64.ofNat ((increments reports).count name) := by
  rw [Std.TreeMap.mem_toList_iff_getElem?_eq_some, ← mem_counters, ← counter_ofReports, counter,
    Std.TreeMap.mem_iff_isSome_getElem?]
  cases (ofReports reports).counters[name]? <;> simp [eq_comm]

theorem lastValue?_eq_none_iff {settings : List (Gauge × Float)} {like : Gauge → Bool} :
    lastValue? settings like = none ↔ ∀ gauge ∈ settings.map Prod.fst, like gauge = false := by
  simp [lastValue?]

theorem mem_gauges (key : String) :
    key ∈ (ofReports reports).gauges ↔ key ∈ (gaugesSet reports).image Gauge.key := by
  rw [Std.TreeMap.mem_iff_isSome_getElem?, getElem?_gauges, Option.isSome_iff_ne_none, Ne,
    lastValue?_eq_none_iff]
  simp [gaugesSet]

theorem mem_gauges_toList (key : String) (value : Float) :
    (key, value) ∈ (ofReports reports).gauges.toList ↔
      ∃ gauge ∈ gaugesSet reports, gauge.key = key ∧
        (ofReports reports).gauge? gauge.name gauge.label = some value := by
  rw [Std.TreeMap.mem_toList_iff_getElem?_eq_some]
  constructor
  · intro hvalue
    have hkey : key ∈ (ofReports reports).gauges := by
      rw [Std.TreeMap.mem_iff_isSome_getElem?, hvalue]
      rfl
    obtain ⟨gauge, hset, rfl⟩ := Finset.mem_image.1 ((mem_gauges reports key).1 hkey)
    exact ⟨gauge, hset, rfl, hvalue⟩
  · rintro ⟨gauge, -, rfl, hvalue⟩
    exact hvalue

/-- A snapshot lists as many gauges as there are places in which one was set. -/
theorem length_gauges_toList :
    (ofReports reports).gauges.toList.length = ((gaugesSet reports).image Gauge.key).card := by
  have hkeys : (ofReports reports).gauges.keys.toFinset = (gaugesSet reports).image Gauge.key := by
    ext key
    rw [List.mem_toFinset, Std.TreeMap.mem_keys, mem_gauges]
  rw [← hkeys, List.toFinset_card_of_nodup Std.TreeMap.nodup_keys, Std.TreeMap.length_keys,
    Std.TreeMap.length_toList]

/-! ## Which gauges are told apart -/

/-- Every gauge has the value that it was given last itself, and a snapshot lists as many gauges as
were set. -/
structure TellsApart (reports : List Report) : Prop where
  value : ∀ gauge : Gauge, (ofReports reports).gauge? gauge.name gauge.label =
    lastValue? (settings reports) (· = gauge)
  listed : (ofReports reports).gauges.toList.length = (gaugesSet reports).card

/-- Gauges with braces are not told apart, whatever else was reported. -/
theorem TellsApart.unbraced (h : TellsApart reports) (hset : gauge ∈ gaugesSet reports) :
    gauge.Unbraced := by
  by_contra hbraced
  obtain ⟨other, hshares, hdiffer⟩ := Gauge.exists_sharesPlace_of_braced hbraced
  by_cases hother : other ∈ gaugesSet reports
  · -- Both of them were set, so one of them is missing in the list.
    have hinj : Set.InjOn Gauge.key (gaugesSet reports) := by
      rw [← Finset.card_image_iff, ← length_gauges_toList, h.listed]
    exact hdiffer (hinj hset hother (Gauge.key_eq_key_iff.2 hshares))
  · -- The other one was never set, and yet it has a value.
    have hunset : lastValue? (settings reports) (· = other) = none := by
      rw [lastValue?_eq_none_iff]
      intro candidate hmem
      have hne : candidate ≠ other := fun hsame => hother (hsame ▸ List.mem_toFinset.2 hmem)
      simpa using hne
    have hvalue := h.value other
    rw [hunset, gauge?_ofReports, lastValue?_eq_none_iff] at hvalue
    simpa [hshares] using hvalue gauge (List.mem_toFinset.1 hset)

theorem tellsApart_of_unbraced (h : ∀ gauge ∈ gaugesSet reports, gauge.Unbraced) :
    TellsApart reports := by
  have hshares : ∀ gauge ∈ gaugesSet reports, ∀ other,
      gauge.SharesPlace other ↔ gauge = other :=
    fun gauge hset other => (h gauge hset).sharesPlace_iff
  constructor
  · intro asked
    rw [gauge?_ofReports, lastValue?, lastValue?]
    congr 2
    apply List.filter_congr
    rintro ⟨gauge, value⟩ hmem
    have hset : gauge ∈ gaugesSet reports := List.mem_toFinset.2 (List.mem_map_of_mem hmem)
    simp only [hshares gauge hset]
  · rw [length_gauges_toList, Finset.card_image_iff]
    intro gauge hset other _ hkey
    exact (hshares gauge hset other).1 (Gauge.key_eq_key_iff.1 hkey)

/-- What a registry shows depends on the reports since the last reset alone.  Counters are those of
the names that were incremented, each with the number of times modulo `2 ^ 64`.  Gauges are those of
the places in which one was set, each with the value that was given last in its place.  All gauges
are told apart just in case none of those that were set has a brace in its name or label. -/
theorem tells_apart_iff_unbraced :
    (∀ name, (ofReports reports).counter name = UInt64.ofNat ((increments reports).count name)) ∧
    -- A snapshot lists one counter for every name that was incremented.
    ((ofReports reports).counters.toList.map Prod.fst).Nodup ∧
    (∀ name count, (name, count) ∈ (ofReports reports).counters.toList ↔
      name ∈ increments reports ∧ count = UInt64.ofNat ((increments reports).count name)) ∧
    (∀ gauge : Gauge, (ofReports reports).gauge? gauge.name gauge.label =
      lastValue? (settings reports) (·.SharesPlace gauge)) ∧
    -- A snapshot lists one gauge for every place in which a gauge was set.
    ((ofReports reports).gauges.toList.map Prod.fst).Nodup ∧
    (∀ key value, (key, value) ∈ (ofReports reports).gauges.toList ↔
      ∃ gauge ∈ gaugesSet reports, gauge.key = key ∧
        (ofReports reports).gauge? gauge.name gauge.label = some value) ∧
    (TellsApart reports ↔ ∀ gauge ∈ gaugesSet reports, gauge.Unbraced) := by
  refine ⟨counter_ofReports reports, ?_, mem_counters_toList reports, gauge?_ofReports reports, ?_,
    mem_gauges_toList reports, ?_⟩
  · rw [Std.TreeMap.map_fst_toList_eq_keys]
    exact Std.TreeMap.nodup_keys
  · rw [Std.TreeMap.map_fst_toList_eq_keys]
    exact Std.TreeMap.nodup_keys
  · exact ⟨fun h gauge hset => h.unbraced reports gauge hset, tellsApart_of_unbraced reports⟩

/-- A gauge that was never set has the value of one that runs into it. -/
theorem braced_gauge_is_taken_for_another :
    let asked : Gauge := ⟨"a", "b\x7bc"⟩
    let reports : List Report := [.set ⟨"a\x7bb", "c"⟩ 1.0]
    lastValue? (settings reports) (· = asked) = none ∧
      (ofReports reports).gauge? asked.name asked.label = some 1.0 :=
  ⟨rfl, rfl⟩

end Registry

end IdentityMap
