import BracketTint.Document.Colors
import BracketTint.Document.Update
import BracketTint.Update.Backlog

/-!
# Workspaces

A workspace keeps the open documents of an editor scanned under one scheme. The texts belong to the
editor and are asked for when they are needed; a document whose text is gone is closed. Changes do
not have their effect at once, but wait in a backlog for each document.
-/

namespace BracketTint

/-- The name of a document. -/
abbrev DocumentId := String

/-- The texts that the editor has at the moment. -/
abbrev Texts := DocumentId → Option (List String)

/-- The open documents and the updates that wait for them. -/
structure Workspace where
  scheme : Scheme
  documents : Table DocumentId Document := ∅
  backlogs : Table DocumentId Backlog := ∅
  tickets : Tickets := {}
deriving DecidableEq

namespace Workspace

/-- Whether a document is open. -/
def isOpen (w : Workspace) (id : DocumentId) : Bool := w.documents.contains id

/-- Whether changes of a document wait. -/
def isWaiting (w : Workspace) (id : DocumentId) : Bool := (w.backlogs.get? id).any Backlog.isWaiting

/-- The ticket of the update that waits for a document. -/
def ticket? (w : Workspace) (id : DocumentId) : Option Ticket :=
  (w.backlogs.get? id).bind Backlog.ticket?

/-- Cancels a ticket from outside. -/
def cancel (w : Workspace) (ticket : Ticket) : Workspace :=
  { w with tickets := w.tickets.cancel ticket }

/-- The colored spans of a document; none if it is not open. -/
def colorMap (w : Workspace) (id : DocumentId) : ColorMap :=
  ((w.documents.get? id).map Document.colorMap).getD ∅

/-- The colored spans of a line of a document; none if it is not open. -/
def lineColorMap (w : Workspace) (id : DocumentId) (line : Nat) : ColorMap :=
  ((w.documents.get? id).map (·.lineColorMap line)).getD ∅

end Workspace

end BracketTint
