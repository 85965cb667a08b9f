import BracketTint.Workspace.Basic

/-!
# What Happens to a Workspace

The events that an editor sends, and the times at which waiting updates are carried out: `poll` for
those that are due, `flush` for all of them, `reset` to scan documents anew.

An update runs unless its ticket was cancelled; then its splice goes back to the backlog. Updates
are first taken out of all backlogs and then run one after another. The documents are gone through
in ascending order of their names, and any other order leads to the same end.
-/

namespace BracketTint

/-- What an editor tells a workspace. -/
inductive Event where
  /-- A document was opened, or is to be read anew. -/
  | opened (id : DocumentId)
  | closed (id : DocumentId)
  /-- Lines of a document were replaced. -/
  | changed (id : DocumentId) (splice : Splice)
  /-- These documents are visible now. -/
  | shown (ids : List DocumentId)
  /-- There is a new scheme. -/
  | configured (scheme : Scheme)
deriving DecidableEq, Repr

namespace Workspace

/-- Empties the backlog of a document. -/
def clearBacklog (w : Workspace) (id : DocumentId) : Workspace :=
  match w.backlogs.get? id with
  | none => w
  | some b =>
    let cleared := b.clear w.tickets
    { w with backlogs := w.backlogs.insert id cleared.1, tickets := cleared.2 }

/-- Closes a document; what waits for it is dropped. -/
def close (w : Workspace) (id : DocumentId) : Workspace :=
  let w := w.clearBacklog id
  { w with backlogs := w.backlogs.erase id, documents := w.documents.erase id }

/-- Scans the text of a document, or closes the document if there is none. What waits for it stays.
-/
def openDocument (w : Workspace) (texts : Texts) (id : DocumentId) : Workspace :=
  match texts id with
  | some lines => { w with documents := w.documents.insert id (.parse w.scheme lines) }
  | none => w.close id

/-- Opens a document unless it is open. -/
def ensureOpen (w : Workspace) (texts : Texts) (id : DocumentId) : Workspace :=
  if w.isOpen id then w else w.openDocument texts id

/-- Scans a document anew and drops what waits for it. -/
def refresh (w : Workspace) (texts : Texts) (id : DocumentId) : Workspace :=
  (w.clearBacklog id).openDocument texts id

/-- Scans a document anew, or all open documents. -/
def reset (w : Workspace) (texts : Texts) (id : Option DocumentId) : Workspace :=
  match id with
  | some id => w.refresh texts id
  | none => w.documents.keys.foldl (·.refresh texts ·) w

/-- Changes the scheme. All that waits is forgotten, and all open documents are scanned anew. -/
def configure (w : Workspace) (texts : Texts) (scheme : Scheme) : Workspace :=
  { w with scheme, backlogs := ∅ }.reset texts none

/-- Carries out an update, and says whether it was applied. -/
def run (w : Workspace) (texts : Texts) (id : DocumentId) (update : Update) :
    Except Fault (Bool × Workspace) :=
  if w.tickets.isCancelled update.ticket then
    match w.backlogs.get? id with
    | none => .ok (false, w)
    | some b => do
      let b ← b.carry update.splice
      return (false, { w with backlogs := w.backlogs.insert id b })
  else
    match texts id with
    | none => .ok (false, w.close id)
    | some lines =>
      match w.documents.get? id with
      | none => .ok (false, w)
      | some d => do
        let (d, _) ← d.update update.splice lines
        return (true, { w with documents := w.documents.insert id d })

/-- Takes a change of a document. Without a delay it is applied at once. -/
def change (w : Workspace) (texts : Texts) (id : DocumentId) (splice : Splice) (now : Nat) :
    Except Fault Workspace :=
  if w.isOpen id then do
    let b := (w.backlogs.get? id).getD (.ofDelay w.scheme.delay)
    let (b, tickets) ← b.schedule splice now w.tickets
    if w.scheme.delay = 0 then
      let taken := b.take tickets
      let w := { w with backlogs := w.backlogs.insert id taken.backlog, tickets := taken.tickets }
      match taken.update with
      | none => return w
      | some update => return (← w.run texts id update).2
    else return { w with backlogs := w.backlogs.insert id b, tickets }
  else .ok (w.openDocument texts id)

/-- Takes an event that arrives at a time. -/
def handle (w : Workspace) (texts : Texts) (event : Event) (now : Nat) : Except Fault Workspace :=
  match event with
  | .opened id => .ok (w.openDocument texts id)
  | .closed id => .ok (w.close id)
  | .changed id splice => w.change texts id splice now
  | .shown ids => .ok (ids.foldl (·.ensureOpen texts ·) w)
  | .configured scheme => .ok (w.configure texts scheme)

/-- Takes updates out of the backlogs of some documents. -/
def collect (take : Backlog → Tickets → Taken) :
    List DocumentId → Workspace → List (DocumentId × Update) × Workspace
  | [], w => ([], w)
  | id :: ids, w =>
    match w.backlogs.get? id with
    | none => collect take ids w
    | some b =>
      let taken := take b w.tickets
      let later := collect take ids
        { w with backlogs := w.backlogs.insert id taken.backlog, tickets := taken.tickets }
      (taken.update.toList.map (fun update => (id, update)) ++ later.1, later.2)

/-- Carries out updates one after another, and counts those that were applied. -/
def runAll (texts : Texts) :
    List (DocumentId × Update) → Workspace → Except Fault (Nat × Workspace)
  | [], w => .ok (0, w)
  | (id, update) :: rest, w => do
    let (applied, w) ← w.run texts id update
    let (count, w) ← runAll texts rest w
    return (if applied then count + 1 else count, w)

/-- Carries out the updates that are due, and counts those that were applied. -/
def poll (w : Workspace) (texts : Texts) (now : Nat) : Except Fault (Nat × Workspace) :=
  let collected := collect (·.takeReady now ·) w.backlogs.keys w
  runAll texts collected.1 collected.2

/-- Carries out all updates that wait, and counts those that were applied. -/
def flush (w : Workspace) (texts : Texts) : Except Fault (Nat × Workspace) :=
  let collected := collect Backlog.take w.backlogs.keys w
  runAll texts collected.1 collected.2

end Workspace

end BracketTint
