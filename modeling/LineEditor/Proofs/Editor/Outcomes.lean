import LineEditor.Proofs.Buffer.Edits
import LineEditor.Proofs.Command.Planning
import LineEditor.Proofs.PlainOutcome

/-!
# How a handler can end

The handlers of the editor's own commands end in one of four ways.  A handler
may decline, and then the buffer is as it was (`Editor.Declined`).  It may be
consulted, which leaves the document and the history alone
(`Editor.Consulted`); it may revise the document inside a transaction, by
primitive edits (`Editor.Revised`); and it may take the last change back
(`Editor.Undone`).

Each of the four says which parts of the session can differ afterwards, and all
of them leave the same parts of the editor alone (`Editor.Framed`).
-/

set_option autoImplicit false

namespace LineEditor

/-- The document and the history are the same, and so is what belongs to transactions; the current
line has moved at most to another line that can be addressed. -/
structure Buffer.SameText (before after : Buffer) : Prop where
  document : after.document = before.document
  history : after.history = before.history
  opened : after.opened? = before.opened?
  depth : after.depth = before.depth
  name : after.name = before.name
  encoding : after.encoding = before.encoding
  placed : before.Placed → after.Placed

theorem Buffer.SameText.refl (buffer : Buffer) : buffer.SameText buffer where
  document := rfl
  history := rfl
  opened := rfl
  depth := rfl
  name := rfl
  encoding := rfl
  placed := id

namespace Editor

/-- What no handler of the editor's own touches: the settings, the platform, the command table, the
modes, and what the host is told. -/
structure Framed (before after : Editor) : Prop where
  config : after.config = before.config
  platform : after.platform = before.platform
  registry : after.registry = before.registry
  modes : after.modes = before.modes
  events : after.events = before.events
  pending : after.pending = before.pending
  entered : after.entered = before.entered
  hosted : after.hosted = before.hosted

theorem Framed.refl (editor : Editor) : editor.Framed editor :=
  ⟨rfl, rfl, rfl, rfl, rfl, rfl, rfl, rfl⟩

/-- Changes of the buffer, the session, the disk and the journal stay within the frame. -/
theorem Framed.inside (editor : Editor) (buffer : Buffer) (session : Session) (disk : Disk)
    (journal : Telemetry.Journal) :
    editor.Framed { editor with buffer, session, disk, journal } :=
  ⟨rfl, rfl, rfl, rfl, rfl, rfl, rfl, rfl⟩

theorem Framed.trans {before middle after : Editor} (earlier : before.Framed middle)
    (later : middle.Framed after) : before.Framed after where
  config := later.config.trans earlier.config
  platform := later.platform.trans earlier.platform
  registry := later.registry.trans earlier.registry
  modes := later.modes.trans earlier.modes
  events := later.events.trans earlier.events
  pending := later.pending.trans earlier.pending
  entered := later.entered.trans earlier.entered
  hosted := later.hosted.trans earlier.hosted

theorem Sought.framed {before after : Editor} (sought : before.Sought after) :
    before.Framed after := by
  obtain ⟨_, _, rfl⟩ := sought
  exact .inside ..

/-- Whether quitting has been refused once, after a fault. -/
def quitStateAfter (before : Editor) (fault : Fault) : QuitState :=
  if fault = .refusal .unsavedChanges then .refusedOnce else before.session.quitState

/-- A handler has declined: the buffer is as before, and so is the session but for the remembered
search and a refused request to quit. -/
structure Declined (before : Editor) (fault : Fault) (after : Editor) : Prop where
  framed : before.Framed after
  buffer : after.buffer = before.buffer
  session : after.session =
    { before.session with
      lastSearch? := after.session.lastSearch?
      quitState := before.quitStateAfter fault }
  notMisuse : ¬fault.IsMisuse

/-- A handler has been consulted: the document and the history are as before, and no other mode is
asked for. -/
structure Consulted (before : Editor) (reply : Reply) (after : Editor) : Prop where
  framed : before.Framed after
  buffer : before.buffer.SameText after.buffer
  session : after.session =
    { before.session with
      lastSearch? := after.session.lastSearch?
      verboseErrors := after.session.verboseErrors
      promptVisible := after.session.promptVisible
      marks := after.session.marks
      quitState := after.session.quitState }
  succeeded : reply.status ≠ "error"
  stays : reply.switchTo? = none

/-- A handler has revised the document by primitive edits.  If it opens text entry, the text goes
behind a line that is there. -/
structure Revised (before : Editor) (reply : Reply) (after : Editor) : Prop where
  framed : before.Framed after
  buffer : ∃ count, before.buffer.Edited count after.buffer
  session : after.session =
    { before.session with
      lastSearch? := after.session.lastSearch?
      lastSubstitution? := after.session.lastSubstitution?
      insertAfter := after.session.insertAfter }
  succeeded : reply.status ≠ "error"
  goesOn : reply.ended = false
  switch : reply.switchTo? = none ∨
    reply.switchTo? = some Mode.text.name ∧ reply.output = [] ∧
      0 ≤ after.session.insertAfter ∧ after.session.insertAfter ≤ after.buffer.lineCount

/-- The last change has been taken back. -/
structure Undone (before : Editor) (reply : Reply) (after : Editor) : Prop where
  framed : before.Framed after
  buffer : before.buffer.undo? = some after.buffer
  session : after.session =
    { before.session with lastSearch? := after.session.lastSearch? }
  reply : reply = { status := "undo" }

/-! ## What comes before and after -/

section Around

variable {before middle inner : Editor} (sought : before.Sought middle)
  (change : Telemetry.Journal → Telemetry.Journal)
include sought

/-- A fault that comes up while a line is being planned. -/
theorem Sought.declined {fault : Fault} (plain : fault.IsPlain) :
    before.Declined fault middle := by
  refine ⟨sought.framed, sought.buffer, ?_, plain.1⟩
  obtain ⟨_, _, rfl⟩ := sought
  simp only [quitStateAfter, if_neg plain.2]

theorem Sought.framed_inner (framed : middle.Framed inner) :
    before.Framed (inner.updateJournal change) :=
  (sought.framed.trans framed).trans (.inside ..)

/-- What happened before, and the log afterwards, do not matter for a command that declines. -/
theorem Sought.declined_inner {fault : Fault} (declined : middle.Declined fault inner) :
    before.Declined fault (inner.updateJournal change) := by
  refine ⟨sought.framed_inner change declined.framed, declined.buffer.trans sought.buffer, ?_,
    declined.notMisuse⟩
  have session := declined.session
  obtain ⟨_, _, rfl⟩ := sought
  exact session

theorem Sought.consulted_inner {reply : Reply} (consulted : middle.Consulted reply inner) :
    before.Consulted reply (inner.updateJournal change) := by
  refine ⟨sought.framed_inner change consulted.framed, sought.buffer ▸ consulted.buffer, ?_,
    consulted.succeeded, consulted.stays⟩
  have session := consulted.session
  obtain ⟨_, _, rfl⟩ := sought
  exact session

theorem Sought.revised_inner {reply : Reply} (revised : middle.Revised reply inner) :
    before.Revised reply (inner.updateJournal change) := by
  refine ⟨sought.framed_inner change revised.framed, sought.buffer ▸ revised.buffer, ?_,
    revised.succeeded, revised.goesOn, revised.switch⟩
  have session := revised.session
  obtain ⟨_, _, rfl⟩ := sought
  exact session

theorem Sought.undone_inner {reply : Reply} (undone : middle.Undone reply inner) :
    before.Undone reply (inner.updateJournal change) := by
  refine ⟨sought.framed_inner change undone.framed, sought.buffer ▸ undone.buffer, ?_, undone.reply⟩
  have session := undone.session
  obtain ⟨_, _, rfl⟩ := sought
  exact session

end Around

end Editor

end LineEditor
