import LineEditor.Proofs.Editor.Opening
import LineEditor.Proofs.Editor.Remembering

/-!
# Lines that change the document

A line that invokes a command for changing the document comes down to the
handler of the command.  The handler works inside the transaction that has been
opened for it, with the search that the addresses in front of the letter leave
behind (`Editor.searchAhead`).  What it has done by the time it replies is
committed, and nothing of it is left if it refuses
(`EditorM.ensures_submit_changing`).

Opening a transaction does not change what an address means
(`Address.resolve_entered`).  A line may name its range by plain numbers
(`Editor.NamesRange`), which leave the remembered search alone.
-/

set_option autoImplicit false

namespace LineEditor

namespace Editor

/-- The search that is remembered when the addresses in front of the letter have been resolved. -/
def searchAhead (editor : Editor) (raw : String) : Option String :=
  [(CommandLine.scan (withoutLineEnd raw)).first,
    (CommandLine.scan (withoutLineEnd raw)).second].foldl Address.recalled
    editor.session.lastSearch?

/-- A line is answered with an error. -/
def FailsOn (editor : Editor) (raw : String) : Prop :=
  ∃ output, editor.answer raw = .ok output ∧ output.kind = .error

end Editor

/-- An address means the same line inside a transaction as before it. -/
theorem Address.resolve_entered {engine : Pattern.Engine} {buffer : Buffer}
    (closed : buffer.Closed) (label : String) (marks : Marks) (lastSearch? : Option String)
    (token : String) :
    resolve engine (buffer.enter label) marks lastSearch? token =
      resolve engine buffer marks lastSearch? token := by
  rw [Buffer.enter_closed closed]
  rfl

@[simp] theorem Buffer.commit_lines (buffer : Buffer) : buffer.commit.lines = buffer.lines :=
  congrArg Document.lines buffer.commit_document

/-- The transaction that a line runs in is open. -/
theorem Buffer.enter_isOpen {buffer : Buffer} (closed : buffer.Closed) (label : String) :
    (buffer.enter label).opened?.isSome := by
  rw [enter_opened? closed]
  rfl

namespace EditorM

variable {editor : Editor} {raw : String} {spec : CommandSpec} {invocation : Invocation}

/-- A line that invokes a command is dispatched to it, with what the addresses leave to be
remembered. -/
theorem ensures_dispatch_ahead (invokes : editor.Invokes raw spec invocation)
    {journal : Telemetry.Journal} {onResult : Reply → Editor → Prop}
    {onFault : Fault → Editor → Prop}
    (invoked : ∀ middle, (editor.told raw journal).Sought middle →
      middle.session.lastSearch? = editor.searchAhead raw →
      (invoke spec invocation).Ensures middle onResult onFault) :
    (dispatch (CommandLine.scan (withoutLineEnd raw))).Ensures (editor.told raw journal) onResult
      onFault := by
  rw [dispatch_eq, ensures_bind]
  have planned : ((plan (CommandLine.scan (withoutLineEnd raw))).runOn
      (editor.told raw journal)).1 = .ok (.invoke spec invocation) := by
    rw [plan_alike (withoutLineEnd raw) editor (editor.told raw journal) rfl rfl rfl rfl]
    exact invokes
  have sought := (ensures_plan_bound (withoutLineEnd raw) (editor.told raw journal)).traced
  have ahead := ensures_plan_recalled (CommandLine.scan (withoutLineEnd raw))
    (editor.told raw journal)
  refine sought.mono ?_ ?_
  · rintro request middle ⟨⟨sought, -⟩, run⟩
    have remembered := (ahead.result run).1
    rw [run] at planned
    cases planned
    exact invoked middle sought remembered
  · rintro fault middle ⟨-, run⟩
    rw [run] at planned
    cases planned

/-- **A line that changes the document comes down to the handler of its command**, which works
inside a transaction of its own. -/
theorem ensures_submit_changing (ready : editor.CommandReady)
    (goesOn : editor.session.ended = false) (invokes : editor.Invokes raw spec invocation)
    (mutates : spec.mutates = true) (onOutput : Output → Buffer → Session → Prop)
    (handled : ∀ middle : Editor, middle.platform = editor.platform →
      middle.buffer = editor.buffer.enter spec.letter.toString →
      middle.session = { editor.session with lastSearch? := editor.searchAhead raw } →
      (spec.handler.run invocation).Ensures middle
        (fun reply inner => reply.switchTo? = none ∧ reply.ended = false ∧
          onOutput reply.shown inner.buffer.commit inner.session)
        (fun fault inner => ∃ refusal, fault = .refusal refusal ∧
          onOutput { kind := .error, lines := inner.session.errorMarker refusal.message }
            inner.buffer.rollback
            { inner.session with
              lastSearch? := editor.session.lastSearch?
              lastError := refusal.message })) :
    (submit raw).Ensures editor
      (fun output after => onOutput output after.buffer after.session) (fun _ _ => False) := by
  have active := ready.modes.active_command ready.mode
  refine ensures_submit_dispatch ⟨active, goesOn⟩ fun journal =>
    ensures_dispatch_ahead invokes fun middle sought remembered => ?_
  obtain ⟨lastSearch?, journal, rfl⟩ := sought
  have session : ({ editor.session with lastSearch? } : Session) =
      { editor.session with lastSearch? := editor.searchAhead raw } := by
    rw [← remembered]
  rw [invoke, if_pos mutates, ensures_transaction, call, ensures_span]
  refine (handled _ (by rfl) rfl session).mono ?_ ?_
  · rintro reply inner ⟨stays, replyGoesOn, concluded⟩ journal
    have closes : opensText reply = false := by
      rw [opensText, stays]
      rfl
    rw [closes, ensures_conclude_shown stays replyGoesOn]
    simp only [Bool.false_eq_true, if_false, Editor.leaveTransaction_buffer,
      Editor.leaveTransaction_session]
    exact concluded
  · rintro fault inner ⟨refusal, rfl, refused⟩ journal
    refine ⟨?_, fun unforeseen => by cases unforeseen⟩
    rintro other ⟨⟩
    simp only [Editor.afterRefusal, Editor.refusalOutput, Editor.leaveTransaction_buffer,
      Editor.leaveTransaction_session]
    exact refused

/-- What is ensured of the answer and of the editor behind it. -/
theorem Ensures.answered_with {onOutput : Output → Editor → Prop}
    (ensured : (submit raw).Ensures editor onOutput (fun _ _ => False)) :
    ∃ output, editor.answer raw = .ok output ∧ onOutput output (editor.next raw) :=
  Ensures.run (fun outcome after => ∃ output, outcome = .ok output ∧ onOutput output after)
    (ensured.mono (fun output _ holds => ⟨output, rfl, holds⟩)
      (fun _ _ impossible => impossible.elim))

end EditorM

/-- What is known of the editor that the handler of a changing command is started in. -/
theorem Editor.entered_ready {editor : Editor} {raw : String} {spec : CommandSpec}
    {invocation : Invocation} (ready : editor.CommandReady)
    (invokes : editor.Invokes raw spec invocation) {middle : Editor}
    (buffer : middle.buffer = editor.buffer.enter spec.letter.toString) :
    middle.buffer.opened?.isSome ∧ invocation.Fits spec.arity middle.buffer.lastLine ∧
      middle.buffer.lines = editor.buffer.lines ∧
      middle.buffer.lineCount = editor.buffer.lineCount := by
  rw [buffer]
  refine ⟨Buffer.enter_isOpen ready.closed _, ?_, Buffer.enter_lines ready.closed _,
    Buffer.enter_lineCount ready.closed _⟩
  rw [Buffer.enter_lastLine ready.closed]
  exact (invokes.own ready).2

/-! ## Lines that name their lines by numbers -/

/-- The commands that change a range of lines take the lines and the arguments that they are
given. -/
theorem Registry.own_range_bound {letter : Char} (changes : letter ∈ ['m', 't', 'd', 's']) :
    ScanState.IsLetter letter ∧
      ∃ spec, own.find? letter = some spec ∧ spec.letter = letter ∧
        ∀ current args start stop, ∃ invocation,
          spec.bindLines current args (some start) (some stop) = .ok invocation ∧
            invocation.args = args ∧ invocation.start = start ∧ invocation.stop = stop := by
  simp only [List.mem_cons, List.not_mem_nil, or_false] at changes
  rcases changes with rfl | rfl | rfl | rfl
  · exact ⟨by decide, _, rfl, rfl, fun _ _ _ _ => ⟨_, rfl, rfl, rfl, rfl⟩⟩
  · exact ⟨by decide, _, rfl, rfl, fun _ _ _ _ => ⟨_, rfl, rfl, rfl, rfl⟩⟩
  · exact ⟨by decide, _, rfl, rfl, fun _ _ _ _ => ⟨_, rfl, rfl, rfl, rfl⟩⟩
  · exact ⟨by decide, _, rfl, rfl, fun _ _ _ _ => ⟨_, rfl, rfl, rfl, rfl⟩⟩

namespace Editor

/-- A line names a range of lines by two plain numbers that can be read, and a command with its
arguments. -/
structure NamesRange (raw : String) (start stop : Nat) (letter : Char) (args : String) : Prop where
  whole : withoutLineEnd raw =
    toString start ++ "," ++ toString stop ++ (letter.toString ++ args)
  shortStart : (toString start).length ≤ Text.digitLimit
  shortStop : (toString stop).length ≤ Text.digitLimit

variable {editor : Editor} {raw args : String} {start stop : Nat} {letter : Char}

/-- What is named by plain numbers is invoked for just these lines, if they can be addressed. -/
theorem NamesRange.invokes (names : NamesRange raw start stop letter args)
    (own : editor.registry = Registry.own) (changes : letter ∈ ['m', 't', 'd', 's'])
    (first : 1 ≤ start) (ordered : start ≤ stop) (last : stop ≤ editor.buffer.lastLine) :
    ∃ spec invocation, editor.Invokes raw spec invocation ∧ spec.letter = letter ∧
      invocation.args = args ∧ invocation.start = start ∧ invocation.stop = stop := by
  obtain ⟨isLetter, spec, found, same, binds⟩ := Registry.own_range_bound changes
  obtain ⟨invocation, bound, given⟩ := binds editor.buffer.current args start stop
  rw [← own] at found
  have chars : (letter.toString ++ args).toList = letter :: args.toList := by simp
  exact ⟨spec, invocation, invokes_numbers_rest chars isLetter found names.whole names.shortStart
    names.shortStop first ordered last bound, same, given⟩

/-- Plain numbers leave the remembered search as it is. -/
theorem NamesRange.searchAhead_eq (names : NamesRange raw start stop letter args)
    (isLetter : ScanState.IsLetter letter) (editor : Editor) :
    editor.searchAhead raw = editor.session.lastSearch? := by
  have kept : ∀ {number : Nat}, (toString number).length ≤ Text.digitLimit →
      Address.recalled editor.session.lastSearch? (toString number) =
        editor.session.lastSearch? := by
    intro number short
    have resolved := Address.resolve_number editor.platform.engine editor.buffer
      editor.session.marks editor.session.lastSearch? short
    have recalled := (Address.resolve_recalled (congrArg Prod.fst resolved)).1
    rw [resolved] at recalled
    exact recalled.symm
  have chars : (letter.toString ++ args).toList = letter :: args.toList := by simp
  rw [searchAhead, names.whole, CommandLine.scan_numbers_rest (isRest_starting chars isLetter).1]
  simp only [List.foldl_cons, List.foldl_nil, kept names.shortStart, kept names.shortStop]

end Editor

end LineEditor
