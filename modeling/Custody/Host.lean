import Custody.Session.Basic

/-!
# The host

The host has any number of runtimes, numbered in the order in which they were
started, and one registry for all of them.  A runtime can be abandoned; its
number is not used again.
-/

namespace Custody

/-- The registry and the runtimes, of which some may have been abandoned. -/
structure Host where
  registry : Registry
  embeddings : Array (Option Embedding)

namespace Embedding

/-- Start an interpreter without a table of exceptions. -/
def bare
    (number : Nat)
    (config : Config)
    (tracker : TrackerRef) :
    Embedding where
  number
  config
  interp := .initial
  table := .empty
  tracker
  finalizer := .new config.threshold config.validates
  isShutDown := false

/-- Look up the table of exceptions. -/
def withTable (embedding : Embedding) : Embedding :=
  let (table, interp) := ExceptionTable.resolve embedding.interp
  { embedding with table, interp }

/-- The diagnostic form of a runtime. -/
def describe (embedding : Embedding) (registry : Registry) : String :=
  Text.braced "BridgeRuntime"
    [ ("id", "#" ++ toString embedding.number),
      ("tracker", (registry.tracker embedding.tracker).describe),
      ("finalizer", embedding.finalizer.describe),
      ("shut_down", toString embedding.isShutDown) ]

end Embedding

namespace Host

/-- A host without runtimes. -/
def empty : Host where
  registry := .empty
  embeddings := #[]

/--
Add a runtime, with or without a table of exceptions.  The answer is its number.
-/
def add
    (host : Host)
    (config : Config)
    (hasTable : Bool) :
    Nat × Host :=
  let number := host.embeddings.size
  let (tracker, registry) := host.registry.addTracker config.defers
  let bare := Embedding.bare number config tracker
  let embedding := if hasTable then bare.withTable else bare
  (number, { registry, embeddings := host.embeddings.push (some embedding) })

/-- Start a runtime.  The answer is its number. -/
def start (host : Host) (config : Config) : Nat × Host :=
  host.add config true

/-- The runtime under a number, with its lock held. -/
def session? (host : Host) (number : Nat) : Option Session :=
  (host.embeddings[number]?.join).map fun embedding =>
    { embedding with registry := host.registry }

/-- Take back a session, whose lock is given up. -/
def store (host : Host) (session : Session) : Host where
  registry := session.registry
  embeddings := host.embeddings.setIfInBounds session.number (some session.toEmbedding)

/--
Abandon a runtime, which lets go of its tracker.  Unless it was shut down the
tracker is closed, and the references of its records are never given back.
-/
def abandon (host : Host) (number : Nat) : Option Host :=
  (host.session? number).map fun session =>
    { registry :=
        (if session.isShutDown then
          session.registry
        else
          session.registry.close session.tracker).letGo session.tracker
      embeddings := host.embeddings.setIfInBounds number none }

end Host

end Custody
