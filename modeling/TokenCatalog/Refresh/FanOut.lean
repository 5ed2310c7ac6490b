import TokenCatalog.Fetch
import TokenCatalog.Manifest
import TokenCatalog.World

namespace TokenCatalog

/-!
# Fanning out — fetching every list of a manifest at once

Each entry has a task of its own: it asks for the list, then, if the entry names a schema and a body
came, for the schema, and keeps the body only if the schema accepts it.  A task that fails leaves the
others alone.  What arrived is written once every task has finished.

* `FanOut.ofEntries` — a task for every entry;
* `FanOut.poll?` — let a task ask for its list;
* `FanOut.answer?` — give a task the answer it waits for;
* `FanOut.persist` — write what arrived, in the order in which it did.
-/

namespace FanOut

/-- How far a task is. -/
inductive Stage where
  | ready
  | fetchingList
  /-- The list's body and etag have come. -/
  | fetchingSchema (body : Bytes) (etag : String)
  | finished
  deriving DecidableEq, Repr, Inhabited

/-- The task of an entry. -/
structure Task where
  entry : Manifest.Entry
  stage : Stage := .ready
  deriving DecidableEq, Repr, Inhabited

end FanOut

/-- The tasks of a manifest's entries, and what has arrived. -/
structure FanOut where
  tasks : List FanOut.Task
  /-- Contents by id, in the order in which their tasks finished. -/
  arrived : List (String × Content) := []
  deriving DecidableEq, Repr, Inhabited

namespace FanOut

/-- A task for every entry. -/
def ofEntries (es : List Manifest.Entry) : FanOut := { tasks := es.map ({ entry := · }) }

/-- Whether every task has finished. -/
def isFinished (f : FanOut) : Bool := f.tasks.all (·.stage = .finished)

/-- Put a task into a stage. -/
def setStage (f : FanOut) (i : Nat) (s : Stage) : FanOut :=
  { f with tasks := f.tasks.modify i ({ · with stage := s }) }

/-- Finish a task that brings a body. -/
def deliver (f : FanOut) (i : Nat) (e : Manifest.Entry) (body : Bytes) (etag : String)
    (now : Moment) : FanOut :=
  let content : Content := { sourceUrl := e.sourceUrl, etag, body, fetchedAt := now }
  { f.setStage i .finished with arrived := f.arrived ++ [(e.id, content)] }

/-- Let a task that is ready ask for its list. -/
def poll? (f : FanOut) (i : Nat) (w : World) : Option (FanOut × Request) :=
  match f.tasks[i]? with
  | some ⟨e, .ready⟩ => some (f.setStage i .fetchingList, ⟨e.sourceUrl, w.etagOf e.id⟩)
  | _ => none

/-- Give a task the answer it waits for, and let it ask for the schema if there is one. -/
def answer? (f : FanOut) (i : Nat) (v : Validator) (now : Moment) (a : Answer) :
    Option (FanOut × Option Request) :=
  match f.tasks[i]? with
  | some ⟨e, .fetchingList⟩ =>
    match a with
    | .ok ⟨some body, etag⟩ =>
      match e.schema? with
      | some url => some (f.setStage i (.fetchingSchema body etag), some ⟨url, ""⟩)
      | none => some (f.deliver i e body etag now, none)
    | _ => some (f.setStage i .finished, none)
  | some ⟨e, .fetchingSchema body etag⟩ =>
    match a with
    | .ok ⟨some schema, _⟩ =>
      match v.validate body schema with
      | .ok () => some (f.deliver i e body etag now, none)
      | .error _ => some (f.setStage i .finished, none)
    -- Without a schema nobody can tell whether the body is good.
    | _ => some (f.setStage i .finished, none)
  | _ => none

/-- Write contents in order. -/
def writeAll (w : World) (contents : List (String × Content)) : World :=
  contents.foldl (fun w (id, c) => w.write id c) w

/-- Write what arrived, and say how many lists were written. -/
def persist (f : FanOut) (w : World) : World × Nat :=
  (writeAll w f.arrived, f.arrived.countP fun (id, _) => w.canWrite id)

end FanOut

end TokenCatalog
