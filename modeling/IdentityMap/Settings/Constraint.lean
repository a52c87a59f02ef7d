import IdentityMap.Settings.Basic

/-!
# Constraints on settings

What is asked of settings beyond the types of their fields. The constraints are checked in a
fixed order, and the first that is not met is reported.
-/

namespace IdentityMap

inductive Constraint where
  | namespacePresent
  | namePresent
  | pathPresent
  | pollIntervalPositive
  | initialDelayPositive
  | maxDelayNotLess
  | multiplierNotLess
  | jitterInRange
  | reportIntervalPositive
  | levelKnown
  deriving DecidableEq, Repr

namespace Constraint

def all : List Constraint :=
  [namespacePresent, namePresent, pathPresent, pollIntervalPositive, initialDelayPositive,
    maxDelayNotLess, multiplierNotLess, jitterInRange, reportIntervalPositive, levelKnown]

def levels : List String :=
  ["trace", "debug", "info", "warn", "error"]

def holds (settings : Settings) : Constraint → Bool
  | namespacePresent => settings.resource.ns ≠ ""
  | namePresent => settings.resource.name ≠ ""
  | pathPresent => settings.source.path ≠ ""
  | pollIntervalPositive => 0 < settings.source.pollInterval
  | initialDelayPositive => 0 < settings.sync.initialDelay
  | maxDelayNotLess => settings.sync.initialDelay ≤ settings.sync.maxDelay
  | multiplierNotLess => 1.0 ≤ settings.sync.multiplier
  | jitterInRange => 0.0 ≤ settings.sync.jitter ∧ settings.sync.jitter ≤ 1.0
  | reportIntervalPositive => 0 < settings.reportInterval
  | levelKnown => settings.level ∈ levels

def message : Constraint → String
  | namespacePresent => "resource.namespace must not be empty"
  | namePresent => "resource.name must not be empty"
  | pathPresent => "source.path must not be empty"
  | pollIntervalPositive => "source.poll_interval_ms must be > 0"
  | initialDelayPositive => "sync.initial_delay_ms must be > 0"
  | maxDelayNotLess => "sync.max_delay_ms must be >= sync.initial_delay_ms"
  | multiplierNotLess => "sync.multiplier must be >= 1"
  | jitterInRange => "sync.jitter must be in [0, 1]"
  | reportIntervalPositive => "report_interval_ms must be > 0"
  | levelKnown => "logging.level must be one of trace, debug, info, warn, error"

end Constraint

def Settings.firstViolated? (settings : Settings) : Option Constraint :=
  Constraint.all.find? fun constraint => !constraint.holds settings

end IdentityMap
