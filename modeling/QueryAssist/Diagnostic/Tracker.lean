import QueryAssist.Diagnostic.Basic
import QueryAssist.SortedMap

/-!
# Diagnostics of documents that change

A tracker keeps the diagnostics of the documents that are open. To scan a version of a document one
takes a ticket; its result counts as long as the ticket has not been superseded.

## Main definitions

* `Tracker` — the tracker
* `Tracker.Ticket` — the right to publish the result of a scan
* `Tracker.begin`, `Tracker.publish`, `Tracker.get?`, `Tracker.close` — its operations
-/

namespace QueryAssist

/-- What is known about a document. -/
structure Tracker.Document where
  /-- The latest version that has been taken up. -/
  latestVersion : Int := 0
  /-- The number of the ticket whose scan is going on. -/
  inFlight : Option Nat := none
  /-- The diagnostics last published. -/
  published : Option DiagnosticSet := none
deriving DecidableEq, Repr

/-- Whether a version of the document has been taken up: a scan is going on, or its result has been
published. -/
def Tracker.Document.isSeen (d : Document) : Bool := d.inFlight.isSome || d.published.isSome

/-- The right to publish the diagnostics of a version of a document. -/
structure Tracker.Ticket where
  /-- The number of the ticket. -/
  number : Nat
  /-- The document. -/
  uri : String
  /-- The version. -/
  version : Int
deriving DecidableEq, Repr

/-- The documents that are open, and the tickets handed out so far. -/
structure Tracker where
  /-- What is known about each document. -/
  documents : SortedMap Tracker.Document := ∅
  /-- How many tickets have been handed out; they are numbered from zero. -/
  issued : Nat := 0
  /-- The numbers of the tickets that have been cancelled. -/
  cancelled : List Nat := []

namespace Tracker

instance : EmptyCollection Tracker := ⟨{}⟩
instance : Inhabited Tracker := ⟨∅⟩

/-- Whether a ticket has been cancelled. -/
def isCancelled (t : Tracker) (number : Nat) : Bool := t.cancelled.contains number

/-- What is known about a document. -/
def document? (t : Tracker) (uri : String) : Option Document := t.documents.get? uri

/-- The tracker with `d` known about a document. -/
def setDocument (t : Tracker) (uri : String) (d : Document) : Tracker :=
  { t with documents := t.documents.insert uri d }

/-- The tracker with the ticket of a scan that is going on cancelled. -/
def cancelInFlight (t : Tracker) (d : Option Document) : Tracker :=
  match d.bind (·.inFlight) with
  | some number => { t with cancelled := number :: t.cancelled }
  | none => t

/-- What is known about a document, and the tracker with the document in it. A document that is not
tracked yet is entered with nothing known about it. -/
def enter (t : Tracker) (uri : String) : Document × Tracker :=
  match t.document? uri with
  | some d => (d, t)
  | none => ({}, t.setDocument uri {})

/-- Takes a ticket for a version of a document, unless a later version has been taken up. A scan
that is going on is cancelled. -/
def begin (t : Tracker) (uri : String) (version : Int) : Option Ticket × Tracker :=
  let (d, t) := t.enter uri
  -- the version of a document that has just been entered stands for nothing
  if d.isSeen && version < d.latestVersion then (none, t)
  else
    let ticket : Ticket := ⟨t.issued, uri, version⟩
    -- what was published stays in sight until the new result is there
    let t := (t.cancelInFlight d).setDocument uri ⟨version, some ticket.number, d.published⟩
    (some ticket, { t with issued := t.issued + 1 })

/-- Publishes the result of a scan. It is dropped if the ticket has been cancelled, or the
document has been closed or has another version by now. -/
def publish (t : Tracker) (ticket : Ticket) (diagnostics : List Diagnostic) : Bool × Tracker :=
  match t.document? ticket.uri with
  | none => (false, t)
  | some d =>
    if t.isCancelled ticket.number || ticket.version != d.latestVersion then (false, t)
    else
      let d := { d with inFlight := none, published := some ⟨ticket.version, diagnostics⟩ }
      (true, t.setDocument ticket.uri d)

/-- The diagnostics last published for a document. -/
def get? (t : Tracker) (uri : String) : Option DiagnosticSet :=
  (t.document? uri).bind (·.published)

/-- Forgets a document. A scan that is going on is cancelled. -/
def close (t : Tracker) (uri : String) : Tracker :=
  let t := t.cancelInFlight (t.document? uri)
  { t with documents := t.documents.erase uri }

end Tracker

end QueryAssist
