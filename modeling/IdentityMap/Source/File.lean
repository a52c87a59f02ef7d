import IdentityMap.Event

/-!
# Watches on a file

A source of events that polls a file. Whether the file was last seen as a resource is known to
the source and outlives its streams; the modification time seen last belongs to a stream, so a
new stream reports the file once more. Times are in milliseconds.
-/

namespace IdentityMap

/-- What a poll finds at the path: no file, or a file with a modification time and a text. -/
inductive FileView where
  | absent
  | present (modified : Int) (text : String)
  deriving DecidableEq, Repr

/-- A stream: the modification time it saw last, when it expires, and whether it is closed. -/
structure FileStream where
  seen : Option Int := none
  deadline : Option Int := none
  closed : Bool := false
  deriving DecidableEq, Repr

/-- The state of the source. Streams are known by their position. -/
structure FileSource where
  path : String
  timeout : Int := 0
  present : Bool := false
  streams : List FileStream := []
  deriving DecidableEq, Repr

namespace FileStream

/-- The event that a poll of the file at a path gives rise to, given whether the source knows
the file as a resource; then whether it knows it afterwards, and the stream. -/
def poll [Dialect] (stream : FileStream) (path : String) (known : Bool) :
    FileView → Option Event × Bool × FileStream
  | .absent =>
    (if known then some { kind := .deleted } else none, false, { stream with seen := none })
  | .present modified text =>
    if stream.seen = some modified then (none, known, stream)
    else
      let stream := { stream with seen := some modified }
      match Resource.ofFile? (some text) with
      | .ok resource =>
        let kind := if known then EventKind.modified else EventKind.added
        (some { kind := kind, object := some resource }, true, stream)
      | .error fault => (some { kind := .error, message := fault.message path }, known, stream)

end FileStream

namespace FileSource

def directory (path : String) : String :=
  let upToSlash := path.toList.reverse.dropWhile (· ≠ '/')
  let name := upToSlash.dropWhile (· = '/')
  if name ≠ [] then String.ofList name.reverse
  else if upToSlash ≠ [] then "/" else "."

/-- Opens a stream at a time, if the directory of the file exists. A timeout that is not
positive sets no deadline. -/
def openStream (watch : FileSource) (directoryExists : Bool) (now : Int) (ns name : String) :
    Except OpenFault Nat × FileSource :=
  if directoryExists then
    let deadline := if 0 < watch.timeout then some (now + watch.timeout) else none
    (.ok watch.streams.length,
      { watch with streams := watch.streams ++ [{ deadline := deadline }] })
  else (.error (.noDirectory ns name (directory watch.path)), watch)

variable [Dialect]

def poll (watch : FileSource) (position : Nat) (view : FileView) : Option Event × FileSource :=
  match watch.streams[position]? with
  | some stream =>
    let (event, present, stream) := stream.poll watch.path watch.present view
    (event, { watch with present := present, streams := watch.streams.set position stream })
  | none => (none, watch)

def close (watch : FileSource) (position : Nat) : FileSource :=
  { watch with
    streams := watch.streams.modify position fun stream => { stream with closed := true } }

/-- Asks a stream for its next event at a time. A stream past its deadline closes; one that is
open polls the file. -/
def next (watch : FileSource) (position : Nat) (now : Int) (view : FileView) :
    Answer × FileSource :=
  match watch.streams[position]? with
  | some stream =>
    if stream.closed then (.ended, watch)
    else if stream.deadline.any (· ≤ now) then (.ended, watch.close position)
    else
      let (event, watch) := watch.poll position view
      (match event with
        | some event => .event event
        | none => .blocked, watch)
  | none => (.ended, watch)

/-- Waits for the answer of a stream while the file stays as it is, and tells the time of the
answer. A stream that has nothing to report answers at its deadline, if it has one. -/
def await (watch : FileSource) (position : Nat) (now : Int) (view : FileView) :
    Answer × Int × FileSource :=
  match watch.next position now view with
  | (.blocked, watch) =>
    match (watch.streams[position]?).bind FileStream.deadline with
    | some deadline =>
      let (answer, watch) := watch.next position deadline view
      (answer, deadline, watch)
    | none => (.blocked, now, watch)
  | (answer, watch) => (answer, now, watch)

end FileSource

end IdentityMap
