import QueryAssist.Catalog.Store
import QueryAssist.Completion.Offer
import QueryAssist.Diagnostic.Scan
import QueryAssist.Diagnostic.Tracker
import QueryAssist.Document.Call
import QueryAssist.Document.Layout
import QueryAssist.Document.TableScope
import QueryAssist.Hover.Session

/-!
# The assistant

Everything put together: an editor asks about a document and a position in it. A request that has
been cancelled is answered with nothing.

## Main definitions

* `Assistant` — a catalog in force, settings, and what is remembered between requests
* `Assistant.startWith`, `Assistant.start` — an assistant before the first request
* `Assistant.contextAt`, `completions`, `signatureAt`, `hoverAt` — requests at a position
* `Assistant.diagnostics`, `updateDocument`, `documentDiagnostics`, `closeDocument` — diagnostics
* `Assistant.reload`, `Assistant.replaceCatalog` — changes of the catalog
-/

namespace QueryAssist

/-- A catalog in force, settings, and what is remembered between requests. Samples are drawn by a
sampler whose states are of type `σ`. -/
structure Assistant (σ : Type := Nat) where
  /-- The catalog in force. -/
  store : Store
  /-- The settings. -/
  settings : Settings
  /-- What draws the samples. -/
  sampler : Hover.Sampler σ
  /-- What is remembered between hovers. -/
  session : Hover.Session σ
  /-- The diagnostics of the documents that are open. -/
  tracker : Tracker

namespace Assistant

variable {σ : Type}

/-- An assistant before the first request. Its samples are drawn by `sampler`, from `state` on. -/
def startWith (sampler : Hover.Sampler σ) (store : Store) (settings : Settings) (state : σ) :
    Assistant σ :=
  ⟨store, settings, sampler, .start state, ∅⟩

/-- An assistant before the first request whose samples follow a linear congruence. -/
def start (store : Store) (settings : Settings) (seed : Nat) : Assistant :=
  startWith .congruential store settings seed

/-- What is expected at a position. -/
def contextAt (text : String) (p : Position) : Context :=
  .ofLineStart (Cursor.locate text.toList p).lineStart

/-- The query for completions at a cursor. The table in force matters for resource types only. -/
def queryAt (c : Catalog) (cursor : Cursor) : Completion.Query :=
  let context := Context.ofLineStart cursor.lineStart
  { context
    tableScope := if context = .resourceTypeLiteral then c.tableScope? cursor.before else none
    partialWord := String.ofList (Context.partialWord cursor.lineStart context)
    insideQuotes := Literal.isOpenAfter cursor.lineStart }

/-- The completions at a position. -/
def completions (a : Assistant σ) (text : String) (p : Position) (cancelled : Bool) :
    List Completion.Item :=
  if cancelled then []
  else
    let c := a.store.catalog
    Completion.offer c a.settings.properties (queryAt c (Cursor.locate text.toList p))

/-- The signature of the call around a position. -/
def signatureAt (a : Assistant σ) (text : String) (p : Position) (cancelled : Bool) :
    Option Call.Signature :=
  if cancelled then none else a.store.catalog.signature? (Cursor.locate text.toList p).before

/-- The card for the token at a position. -/
def hoverAt (a : Assistant σ) (text : String) (p : Position) (cancelled : Bool) :
    Option String × Assistant σ :=
  if cancelled then (none, a)
  else
    let cursor := Cursor.locate text.toList p
    match Token.at? cursor.line cursor.column with
    | none => (none, a)
    | some token =>
      let (card, session) := a.session.hover a.sampler a.settings.hoverExampleCount
        a.store.catalog token.text (cursor.line.drop token.stop)
      (card, { a with session })

/-- The diagnostics of a document. -/
def diagnostics (a : Assistant σ) (text : String) (cancelled : Bool) : List Diagnostic :=
  (Diagnostic.scanUnless cancelled a.store.catalog a.settings text.toList).getD []

/-- Takes up a version of a document and publishes its diagnostics, unless a later version has
been taken up before. -/
def updateDocument (a : Assistant σ) (uri : String) (version : Int) (text : String) :
    Option DiagnosticSet × Assistant σ :=
  match a.tracker.begin uri version with
  | (none, tracker) => (none, { a with tracker })
  | (some ticket, tracker) =>
    match Diagnostic.scanUnless (tracker.isCancelled ticket.number) a.store.catalog a.settings
        text.toList with
    | none => (none, { a with tracker })
    | some found =>
      let (isPublished, tracker) := tracker.publish ticket found
      (if isPublished then tracker.get? uri else none, { a with tracker })

/-- The diagnostics last published for a document. -/
def documentDiagnostics (a : Assistant σ) (uri : String) : Option DiagnosticSet :=
  a.tracker.get? uri

/-- Forgets a document. -/
def closeDocument (a : Assistant σ) (uri : String) : Assistant σ :=
  { a with tracker := a.tracker.close uri }

/-- The text with every top-level pipe at the beginning of a line. -/
def alignPipes (text : String) : String := String.ofList (Layout.alignPipes text.toList)

/-- Loads the catalog again. -/
def reload (files : Catalog.Files) (a : Assistant σ) : Assistant σ :=
  { a with store := a.store.reload files }

/-- Puts another catalog in force. -/
def replaceCatalog (a : Assistant σ) (c : Catalog) : Assistant σ :=
  { a with store := a.store.replace c }

end Assistant

end QueryAssist
