/-!
# What is counted

The counters and the health gauge that report how the watch fares, and the sink they are
reported to. A sink may refuse a counter; the report then fails and counts nothing.
-/

namespace IdentityMap

inductive Counter where
  | watchOpens
  | watchCloses
  | watchErrors
  | parseErrors
  | replaces
  deriving DecidableEq, Repr

def Counter.name : Counter → String
  | .watchOpens => "watch_opens"
  | .watchCloses => "watch_closes"
  | .watchErrors => "watch_errors"
  | .parseErrors => "parse_errors"
  | .replaces => "replaces"

inductive Health where
  | success
  | fail
  deriving DecidableEq, Repr

namespace Health

def gaugeName : String :=
  "watch_health"

def label : Health → String
  | .success => "success"
  | .fail => "fail"

def value : Health → Float
  | .success => 1.0
  | .fail => 0.0

end Health

/-- Where reports go, described by the counters it refuses to increment. -/
structure Sink where
  refuses : Counter → Bool

def Sink.accepting : Sink :=
  ⟨fun _ => false⟩

@[simp] theorem Sink.refuses_accepting (counter : Counter) :
    accepting.refuses counter = false :=
  rfl

end IdentityMap
