/-!
# Settings

The settings of the service. Fields that may be left out have their defaults here.
-/

namespace IdentityMap

/-- The resource to watch. The field `ns` is its namespace. -/
structure ResourceSettings where
  ns : String
  name : String
  deriving DecidableEq, Repr

/-- The file to watch, with times in milliseconds. -/
structure SourceSettings where
  path : String
  pollInterval : UInt32 := 500
  watchTimeout : UInt32 := 300000
  deriving DecidableEq, Repr

/-- How to reopen a watch, with times in milliseconds. -/
structure SyncSettings where
  initialDelay : UInt32 := 100
  maxDelay : UInt32 := 30000
  multiplier : Float := 2.0
  jitter : Float := 0.2
  maxReopenAttempts : UInt32 := 5
  deriving Repr

structure Settings where
  appName : String
  version : String
  resource : ResourceSettings
  source : SourceSettings
  sync : SyncSettings := {}
  level : String := "info"
  reportInterval : UInt32 := 10000
  deriving Repr

end IdentityMap
