import LineEditor.Proofs.Editor.Changing

/-!
# Moving and copying lines

A line that invokes `m` moves a block of lines behind another line, and one that
invokes `t` copies it there.  Either fails exactly if the destination is out of
range, or for `m` in the midst of the block, and else it rearranges the lines as
it should (`Editor.Moves`, `Editor.Copies`).  Moving is the same as copying and
then deleting the original, which `d` finds where the copy has pushed it
(`Editor.Rearranges`).

`Editor.rearranging_exact` says so of all lines that invoke the two commands for
the same block with destinations that mean the same line, however they are
written, and in particular of those that name the block by plain numbers.
-/

set_option autoImplicit false

namespace LineEditor

/-- The address token that a destination is written with; without one it is the current line. -/
def destinationToken (args : String) : String :=
  if (Text.strip args).isEmpty then "." else Text.strip args

namespace Editor

/-- The line that the destination of a submitted line means, which is resolved after the addresses
in front of the letter. -/
def destination (editor : Editor) (raw args : String) : Except Fault Int :=
  (Address.resolve editor.platform.engine editor.buffer editor.session.marks
    (editor.searchAhead raw) (destinationToken args)).1

/-- A line moves a block behind the line `target`.  In a buffer with lines it fails if there is no
such line or if the block would be put into itself.  Else the lines outside of the block keep their
order, the block stands behind those of them that are not behind the line, no line is lost or
repeated, and the current line is the last one of the block.  In an empty buffer it does nothing. -/
structure Moves (editor : Editor) (raw : String) (start stop : Nat) (target : Int) : Prop where
  fails_iff : editor.buffer.lineCount ≠ 0 →
    (editor.FailsOn raw ↔ ¬(0 ≤ target ∧ target ≤ editor.buffer.lineCount) ∨
      start ≤ target ∧ target < stop)
  succeeds : editor.buffer.lineCount ≠ 0 → ¬editor.FailsOn raw →
    editor.answer raw = .ok { kind := .none } ∧
      (∃ front back,
        (editor.next raw).buffer.lines =
          front ++ Lines.block editor.buffer.lines start stop ++ back ∧
        front ++ back = Lines.outside editor.buffer.lines start stop ∧
        front = Lines.outside (editor.buffer.lines.take target.toNat) start stop ∧
        (editor.next raw).buffer.current = front.length + (stop - start + 1)) ∧
      (editor.next raw).buffer.lines.Perm editor.buffer.lines
  empty : editor.buffer.lineCount = 0 → 0 ≤ target → target ≤ 1 →
    editor.answer raw = .ok { kind := .none } ∧ (editor.next raw).buffer.lines = []

/-- A line copies a block behind the line `target`.  In a buffer with lines it fails if there is no
such line, and else the current line is the last one of the copy.  In an empty buffer it does
nothing. -/
structure Copies (editor : Editor) (raw : String) (start stop : Nat) (target : Int) : Prop where
  fails_iff : editor.buffer.lineCount ≠ 0 →
    (editor.FailsOn raw ↔ ¬(0 ≤ target ∧ target ≤ editor.buffer.lineCount))
  succeeds : editor.buffer.lineCount ≠ 0 → ¬editor.FailsOn raw →
    editor.answer raw = .ok { kind := .none } ∧
      (editor.next raw).buffer.lines =
        editor.buffer.lines.take target.toNat ++ Lines.block editor.buffer.lines start stop ++
          editor.buffer.lines.drop target.toNat ∧
      ((editor.next raw).buffer.current : Int) = target + (stop - start + 1)
  empty : editor.buffer.lineCount = 0 → 0 ≤ target → target ≤ 1 →
    editor.answer raw = .ok { kind := .none } ∧ (editor.next raw).buffer.lines = []

/-- A line deletes the lines of a range. -/
def Deletes (editor : Editor) (raw : String) (start stop : Nat) : Prop :=
  ∃ spec invocation, editor.Invokes raw spec invocation ∧ spec.letter = 'd' ∧
    invocation.start = start ∧ invocation.stop = stop

/-- One line moves a block behind a line, another one copies it there, and deleting the original
after that leaves the lines that moving leaves. -/
structure Rearranges (editor : Editor) (move copy : String) (start stop : Nat) (target : Int) :
    Prop where
  moves : editor.Moves move start stop target
  copies : editor.Copies copy start stop target
  agree : editor.buffer.lineCount ≠ 0 → ¬editor.FailsOn move →
    ∀ delete, (editor.next copy).Deletes delete (start + Lines.shift start stop target.toNat)
        (stop + Lines.shift start stop target.toNat) →
      ((editor.next copy).next delete).buffer.lines = (editor.next move).buffer.lines

end Editor

namespace Buffer

variable {before after : Buffer} {start stop : Nat} {target : Int} {lines : List String}
  {current : Nat}

/-- There is a line with this number that something can be put behind, or it is the top.  In an
empty buffer line 1 counts as one. -/
def HasPlace (buffer : Buffer) (target : Int) : Prop :=
  0 ≤ target ∧ target ≤ buffer.lastLine

/-- There is a place for a block to be moved to, outside of it or at its end. -/
def HasPlaceFor (buffer : Buffer) (start stop : Nat) (target : Int) : Prop :=
  buffer.HasPlace target ∧ ¬(start ≤ min target.toNat buffer.lineCount ∧
    min target.toNat buffer.lineCount < stop)

/-- In an empty buffer nothing has happened, and in any other one the lines and the current line are
these. -/
structure Becomes (before : Buffer) (lines : List String) (current : Nat) (after : Buffer) :
    Prop where
  empty : before.lineCount = 0 → after.lines = []
  filled : before.lineCount ≠ 0 → after.lines = lines ∧ after.current = current

theorem Becomes.committed (becomes : before.Becomes lines current after) :
    before.Becomes lines current after.commit := by
  refine ⟨fun empty => ?_, fun nonempty => ?_⟩
  · rw [commit_lines, becomes.empty empty]
  · rw [commit_lines, commit_current]
    exact becomes.filled nonempty

/-- What becomes of a buffer depends on how many lines it has. -/
theorem Becomes.congr {other : Buffer} (same : other.lineCount = before.lineCount)
    (becomes : other.Becomes lines current after) : before.Becomes lines current after := by
  refine ⟨fun empty => becomes.empty ?_, fun nonempty => becomes.filled ?_⟩
  · rw [same, empty]
  · rwa [same]

theorem HasPlace.congr {buffer other : Buffer} (same : other.lineCount = buffer.lineCount) :
    other.HasPlace target ↔ buffer.HasPlace target := by
  simp only [HasPlace, lastLine, same]

theorem HasPlaceFor.congr {buffer other : Buffer} (same : other.lineCount = buffer.lineCount) :
    other.HasPlaceFor start stop target ↔ buffer.HasPlaceFor start stop target := by
  simp only [HasPlaceFor, HasPlace.congr same, same]

theorem hasPlace_iff {buffer : Buffer} (nonempty : buffer.lineCount ≠ 0) :
    buffer.HasPlace target ↔ 0 ≤ target ∧ target ≤ buffer.lineCount := by
  simp only [HasPlace, lastLine]
  omega

/-- The lines in front of a place are there. -/
theorem HasPlace.toNat_le {buffer : Buffer} (nonempty : buffer.lineCount ≠ 0)
    (place : buffer.HasPlace target) : target.toNat ≤ buffer.lines.length := by
  have inRange := (hasPlace_iff nonempty).mp place
  have within : target.toNat ≤ buffer.lineCount := by omega
  exact within

theorem hasPlaceFor_iff {buffer : Buffer} (nonempty : buffer.lineCount ≠ 0) :
    buffer.HasPlaceFor start stop target ↔
      (0 ≤ target ∧ target ≤ buffer.lineCount) ∧ ¬(start ≤ target ∧ target < stop) := by
  rw [HasPlaceFor, hasPlace_iff nonempty]
  constructor
  · rintro ⟨inRange, outside⟩
    exact ⟨inRange, by omega⟩
  · rintro ⟨inRange, outside⟩
    exact ⟨inRange, by omega⟩

end Buffer

/-- Nothing of a session but the remembered search has changed. -/
def Session.Keeps (before after : Session) : Prop :=
  after = { before with lastSearch? := after.lastSearch? }

theorem Session.Keeps.of_search {before after : Session} {lastSearch? : Option String}
    (keeps : Session.Keeps { before with lastSearch? } after) : before.Keeps after :=
  keeps

theorem Editor.Sought.keeps {before after : Editor} (sought : before.Sought after) :
    before.session.Keeps after.session := by
  obtain ⟨lastSearch?, journal, rfl⟩ := sought
  rfl

namespace EditorM

variable {editor : Editor} {invocation : Invocation} {target : Int}

/-! ## The handlers -/

section Destination

variable (resolves : (Address.resolve editor.platform.engine editor.buffer editor.session.marks
    editor.session.lastSearch? (destinationToken invocation.args)).1 = .ok target)
include resolves

/-- A destination is accepted exactly if there is such a place. -/
theorem ensures_destination_at :
    (destination invocation.args).Ensures editor
      (fun place after => editor.buffer.HasPlace target ∧
        place = min target.toNat editor.buffer.lineCount ∧ editor.Sought after)
      (fun fault _ => ¬editor.buffer.HasPlace target ∧ ∃ refusal, fault = .refusal refusal) := by
  simp only [destination, resolveAddress, ensures_bind, ensures_get, ensures_modifySession,
    ensures_lift, ensures_ite, ensures_refuse, ensures_pure]
  rw [destinationToken] at resolves
  rw [resolves]
  refine ⟨?_, fun _ failed => by cases failed⟩
  rintro _ ⟨⟩
  simp only [Editor.updateSession_buffer, Buffer.HasPlace]
  exact ⟨fun out => ⟨by omega, _, rfl⟩, fun within => ⟨by omega, trivial, _, _, rfl⟩⟩

section Handlers

variable {arity : Arity} (opened : editor.buffer.opened?.isSome)
  (fits : invocation.Fits arity editor.buffer.lastLine)
include opened fits

/-- Lines are moved if there is a place for them. -/
theorem ensures_moveLines_at :
    (moveLines invocation).Ensures editor
      (fun reply after => editor.buffer.HasPlaceFor invocation.start invocation.stop target ∧
        reply = { status := "move" } ∧
        editor.session.Keeps after.session ∧
        editor.buffer.Becomes
          (Lines.moved editor.buffer.lines invocation.start invocation.stop target.toNat)
          ((Lines.outside (editor.buffer.lines.take target.toNat) invocation.start
            invocation.stop).length + (invocation.stop + 1 - invocation.start)) after.buffer)
      (fun fault _ => ¬editor.buffer.HasPlaceFor invocation.start invocation.stop target ∧
        ∃ refusal, fault = .refusal refusal) := by
  simp only [moveLines, ensures_bind]
  refine (ensures_destination_at resolves).mono ?_
    (fun _ _ failed => ⟨fun place => failed.1 place.1, failed.2⟩)
  rintro place middle ⟨inRange, rfl, sought⟩
  have same := sought.buffer
  have keeps := sought.keeps
  simp only [ensures_ite, ensures_refuse, ensures_bind, ensures_get, ensures_pure, same]
  refine ⟨fun inside => ⟨fun place => place.2 inside, _, rfl⟩, fun outside => ⟨?_, ?_⟩⟩
  · intro nonempty
    have within := Buffer.le_lineCount nonempty fits.last
    obtain ⟨inside, apart⟩ := (Buffer.hasPlaceFor_iff nonempty).mp ⟨inRange, outside⟩
    obtain ⟨buffer, success, -, lines, current⟩ :=
      Buffer.moveLines_within opened fits.first fits.ordered within
        (show target.toNat ≤ editor.buffer.lineCount by omega) (by omega)
    have there : min target.toNat editor.buffer.lineCount = target.toNat := by omega
    rw [← same] at success
    rw [there, ensures_modifyBuffer_ok success]
    exact ⟨⟨inRange, outside⟩, trivial, keeps, fun empty => absurd empty nonempty,
      fun _ => ⟨lines, current⟩⟩
  · intro empty
    have none : editor.buffer.lineCount = 0 := by omega
    exact ⟨⟨inRange, outside⟩, trivial, keeps, fun _ => List.length_eq_zero_iff.mp none,
      fun some => absurd none some⟩

/-- Lines are copied if there is a place for them. -/
theorem ensures_copyLines_at :
    (copyLines invocation).Ensures editor
      (fun reply after => editor.buffer.HasPlace target ∧ reply = { status := "transfer" } ∧
        editor.session.Keeps after.session ∧
        editor.buffer.Becomes
          (Lines.copied editor.buffer.lines invocation.start invocation.stop target.toNat)
          (target.toNat + (invocation.stop + 1 - invocation.start)) after.buffer)
      (fun fault _ => ¬editor.buffer.HasPlace target ∧ ∃ refusal, fault = .refusal refusal) := by
  simp only [copyLines, ensures_bind]
  refine (ensures_destination_at resolves).mono ?_ (fun _ _ failed => failed)
  rintro place middle ⟨inRange, rfl, sought⟩
  have same := sought.buffer
  have keeps := sought.keeps
  simp only [ensures_ite, ensures_bind, ensures_get, ensures_pure, same]
  refine ⟨?_, ?_⟩
  · intro nonempty
    have within := Buffer.le_lineCount nonempty fits.last
    have inside := (Buffer.hasPlace_iff nonempty).mp inRange
    have there : min target.toNat editor.buffer.lineCount = target.toNat := by omega
    obtain ⟨buffer, success, -, lines, current⟩ :=
      Buffer.copyLines_within opened fits.first fits.ordered within
        (show target.toNat ≤ editor.buffer.lineCount by omega)
    rw [← same] at success
    rw [there, ensures_modifyBuffer_ok success]
    exact ⟨inRange, trivial, keeps, fun empty => absurd empty nonempty, fun _ => ⟨lines, current⟩⟩
  · intro empty
    have none : editor.buffer.lineCount = 0 := by omega
    exact ⟨inRange, trivial, keeps, fun _ => List.length_eq_zero_iff.mp none,
      fun some => absurd none some⟩

end Handlers

end Destination

end EditorM

/-- The letters of the commands that rearrange lines, and of the one that deletes them. -/
theorem Registry.own_rearranging : ∀ spec ∈ Registry.ownCommands,
    (spec.letter = 'm' → spec.handler = .builtin .moveLines ∧ spec.mutates = true) ∧
    (spec.letter = 't' → spec.handler = .builtin .copyLines ∧ spec.mutates = true) ∧
    (spec.letter = 'd' → spec.handler = .builtin .deleteLines ∧ spec.mutates = true) := by
  decide

namespace Editor

variable {editor : Editor} {raw : String} {spec : CommandSpec} {invocation : Invocation}
  {target : Int}

/-! ## The lines -/

/-- A line that is either accepted, with some consequence, or else answered with an error. -/
theorem failsOn_iff {accepted consequence : Prop}
    (answered : ∃ output, editor.answer raw = .ok output ∧
      (accepted ∧ output = { kind := .none } ∧ consequence ∨ ¬accepted ∧ output.kind = .error)) :
    (editor.FailsOn raw ↔ ¬accepted) ∧
      (accepted → editor.answer raw = .ok { kind := .none } ∧ consequence) := by
  obtain ⟨output, answer, ⟨holds, rfl, follows⟩ | ⟨fails, failed⟩⟩ := answered
  · refine ⟨⟨?_, fun fails => absurd holds fails⟩, fun _ => ⟨answer, follows⟩⟩
    rintro ⟨other, answerAgain, failed⟩
    rw [answer] at answerAgain
    cases answerAgain
    cases failed
  · exact ⟨⟨fun _ => fails, fun _ => ⟨output, answer, failed⟩⟩, fun holds => absurd holds fails⟩

section Submitted

variable (ready : editor.CommandReady) (goesOn : editor.session.ended = false)
  (invokes : editor.Invokes raw spec invocation)
include ready goesOn invokes

/-- A line fails unless its handler accepts it, and else it leaves what the handler makes of the
buffer. -/
theorem answered_becoming (mutates : spec.mutates = true) {accepted : Prop} {lines : List String}
    {current : Nat} (status : String) (isStatus : status ≠ "error")
    (handled : ∀ middle : Editor, middle.platform = editor.platform →
      middle.buffer = editor.buffer.enter spec.letter.toString →
      middle.session = { editor.session with lastSearch? := editor.searchAhead raw } →
      (spec.handler.run invocation).Ensures middle
        (fun reply inner => accepted ∧ reply = { status } ∧ middle.session.Keeps inner.session ∧
          editor.buffer.Becomes lines current inner.buffer)
        (fun fault _ => ¬accepted ∧ ∃ refusal, fault = .refusal refusal)) :
    (editor.FailsOn raw ↔ ¬accepted) ∧
      (accepted → editor.answer raw = .ok { kind := .none } ∧
        editor.session.Keeps (editor.next raw).session ∧
        editor.buffer.Becomes lines current (editor.next raw).buffer) := by
  refine failsOn_iff (EditorM.ensures_submit_changing ready goesOn invokes mutates
    (fun output buffer session =>
      accepted ∧ output = { kind := .none } ∧
          editor.session.Keeps session ∧ editor.buffer.Becomes lines current buffer ∨
        ¬accepted ∧ output.kind = .error) ?_).answered_with
  intro middle platform buffer session
  refine (handled middle platform buffer session).mono ?_ ?_
  · rintro reply inner ⟨accepts, rfl, keeps, becomes⟩
    have keeps : editor.session.Keeps inner.session := by
      rw [session] at keeps
      exact keeps.of_search
    exact ⟨rfl, rfl, .inl ⟨accepts, by simp [Reply.shown, isStatus], keeps, becomes.committed⟩⟩
  · rintro fault inner ⟨refuses, refusal, rfl⟩
    exact ⟨refusal, rfl, .inr ⟨refuses, rfl⟩⟩

section Destination

variable (resolves : editor.destination raw invocation.args = .ok target)
include resolves

omit goesOn invokes in
/-- The destination means the same line to the handler. -/
theorem entered_resolves {middle : Editor} {label : String}
    (platform : middle.platform = editor.platform)
    (buffer : middle.buffer = editor.buffer.enter label)
    (session : middle.session = { editor.session with lastSearch? := editor.searchAhead raw }) :
    (Address.resolve middle.platform.engine middle.buffer middle.session.marks
      middle.session.lastSearch? (destinationToken invocation.args)).1 = .ok target := by
  have marks : middle.session.marks = editor.session.marks := by rw [session]
  have ahead : middle.session.lastSearch? = editor.searchAhead raw := by rw [session]
  rw [platform, buffer, Address.resolve_entered ready.closed, marks, ahead]
  exact resolves

/-- What a line that invokes `m` makes of the buffer. -/
theorem answered_move (letter : spec.letter = 'm') :
    (editor.FailsOn raw ↔
      ¬editor.buffer.HasPlaceFor invocation.start invocation.stop target) ∧
    (editor.buffer.HasPlaceFor invocation.start invocation.stop target →
      editor.answer raw = .ok { kind := .none } ∧
      editor.session.Keeps (editor.next raw).session ∧
      editor.buffer.Becomes
        (Lines.moved editor.buffer.lines invocation.start invocation.stop target.toNat)
        ((Lines.outside (editor.buffer.lines.take target.toNat) invocation.start
          invocation.stop).length + (invocation.stop + 1 - invocation.start))
        (editor.next raw).buffer) := by
  obtain ⟨own, -⟩ := invokes.own ready
  obtain ⟨handler, mutates⟩ := (Registry.own_rearranging spec own).1 letter
  refine answered_becoming ready goesOn invokes mutates "move" (by decide)
    fun middle platform buffer session => ?_
  obtain ⟨opened, fits, lines, count⟩ := entered_ready ready invokes buffer
  rw [handler]
  have handled := EditorM.ensures_moveLines_at (entered_resolves ready resolves platform buffer
    session) opened fits
  rw [lines] at handled
  simp only [Buffer.HasPlaceFor.congr count] at handled
  exact handled.mono (fun _ _ done => ⟨done.1, done.2.1, done.2.2.1, done.2.2.2.congr count⟩)
    (fun _ _ failed => failed)

/-- What a line that invokes `t` makes of the buffer. -/
theorem answered_copy (letter : spec.letter = 't') :
    (editor.FailsOn raw ↔ ¬editor.buffer.HasPlace target) ∧
    (editor.buffer.HasPlace target →
      editor.answer raw = .ok { kind := .none } ∧
      editor.session.Keeps (editor.next raw).session ∧
      editor.buffer.Becomes
        (Lines.copied editor.buffer.lines invocation.start invocation.stop target.toNat)
        (target.toNat + (invocation.stop + 1 - invocation.start)) (editor.next raw).buffer) := by
  obtain ⟨own, -⟩ := invokes.own ready
  obtain ⟨handler, mutates⟩ := (Registry.own_rearranging spec own).2.1 letter
  refine answered_becoming ready goesOn invokes mutates "transfer" (by decide)
    fun middle platform buffer session => ?_
  obtain ⟨opened, fits, lines, count⟩ := entered_ready ready invokes buffer
  rw [handler]
  have handled := EditorM.ensures_copyLines_at (entered_resolves ready resolves platform buffer
    session) opened fits
  rw [lines] at handled
  simp only [Buffer.HasPlace.congr count] at handled
  exact handled.mono (fun _ _ done => ⟨done.1, done.2.1, done.2.2.1, done.2.2.2.congr count⟩)
    (fun _ _ failed => failed)

/-- A line that invokes `m` moves its lines. -/
theorem moves_invoked (letter : spec.letter = 'm') :
    editor.Moves raw invocation.start invocation.stop target := by
  obtain ⟨fails, done⟩ := answered_move ready goesOn invokes resolves letter
  obtain ⟨-, fits⟩ := invokes.own ready
  have ordered := fits.ordered
  refine ⟨fun nonempty => ?_, fun nonempty succeeds => ?_, fun empty first last => ?_⟩
  · rw [fails, Buffer.hasPlaceFor_iff nonempty]
    omega
  · have place := Classical.not_not.mp (mt fails.mpr succeeds)
    obtain ⟨answer, -, becomes⟩ := done place
    obtain ⟨lines, current⟩ := becomes.filled nonempty
    obtain ⟨inRange, apart⟩ := (Buffer.hasPlaceFor_iff nonempty).mp place
    have within : invocation.stop ≤ editor.buffer.lines.length :=
      Buffer.le_lineCount nonempty fits.last
    have there := place.1.toNat_le nonempty
    obtain ⟨front, back, isMoved, isOutside, isFront⟩ :=
      Lines.moved_outside fits.first ordered within there (by omega)
    refine ⟨answer, ⟨front, back, lines.trans isMoved, isOutside, isFront, ?_⟩, ?_⟩
    · rw [current, isFront]
      omega
    · rw [lines]
      exact Lines.moved_perm fits.first ordered within there (by omega)
  · have place : editor.buffer.HasPlaceFor invocation.start invocation.stop target := by
      have := fits.first
      simp only [Buffer.HasPlaceFor, Buffer.HasPlace, Buffer.lastLine, empty]
      omega
    obtain ⟨answer, -, becomes⟩ := done place
    exact ⟨answer, becomes.empty empty⟩

/-- A line that invokes `t` copies its lines. -/
theorem copies_invoked (letter : spec.letter = 't') :
    editor.Copies raw invocation.start invocation.stop target := by
  obtain ⟨fails, done⟩ := answered_copy ready goesOn invokes resolves letter
  obtain ⟨-, fits⟩ := invokes.own ready
  have ordered := fits.ordered
  refine ⟨fun nonempty => ?_, fun nonempty succeeds => ?_, fun empty first last => ?_⟩
  · rw [fails, Buffer.hasPlace_iff nonempty]
  · have place := Classical.not_not.mp (mt fails.mpr succeeds)
    obtain ⟨answer, -, becomes⟩ := done place
    obtain ⟨lines, current⟩ := becomes.filled nonempty
    have := ((Buffer.hasPlace_iff nonempty).mp place).1
    refine ⟨answer, lines, ?_⟩
    rw [current]
    omega
  · have place : editor.buffer.HasPlace target := by
      simp only [Buffer.HasPlace, Buffer.lastLine, empty]
      omega
    obtain ⟨answer, -, becomes⟩ := done place
    exact ⟨answer, becomes.empty empty⟩

end Destination

/-- What a line that invokes `d` makes of the lines. -/
theorem lines_deleted (letter : spec.letter = 'd') :
    (editor.next raw).buffer.lines =
      Lines.outside editor.buffer.lines invocation.start invocation.stop := by
  obtain ⟨own, -⟩ := invokes.own ready
  obtain ⟨handler, mutates⟩ := (Registry.own_rearranging spec own).2.2 letter
  obtain ⟨output, -, lines⟩ := (EditorM.ensures_submit_changing ready goesOn invokes mutates
    (fun _ buffer _ =>
      buffer.lines = Lines.outside editor.buffer.lines invocation.start invocation.stop)
    fun middle platform buffer session => by
      obtain ⟨opened, fits, lines, count⟩ := entered_ready ready invokes buffer
      obtain ⟨removed, success, -, removedLines, -⟩ :=
        Buffer.removeLines_within opened fits.first fits.ordered fits.last
      rw [handler]
      simp only [Handler.run, Builtin.run, EditorM.deleteLines, EditorM.ensures_bind,
        EditorM.ensures_pure]
      rw [EditorM.ensures_modifyBuffer_ok success]
      refine ⟨trivial, trivial, ?_⟩
      rw [Buffer.commit_lines, removedLines, lines]
      rfl).answered_with
  exact lines

end Submitted

section Agreeing

variable (ready : editor.CommandReady) (bounded : editor.buffer.history.Bounded)
  (goesOn : editor.session.ended = false)
include ready bounded goesOn

/-- After a line that has changed nothing of the session but the search, the editor awaits the next
command. -/
theorem ready_kept (keeps : editor.session.Keeps (editor.next raw).session) :
    (editor.next raw).CommandReady ∧ (editor.next raw).session.ended = false := by
  rw [Session.Keeps] at keeps
  refine ⟨((Sound.command ready bounded).next raw).commandReady ?_, ?_⟩
  · rw [keeps]
    exact ready.mode
  · rw [keeps]
    exact goesOn

variable {move copy : String} {moving copying : CommandSpec} {moved copied : Invocation}

/-- After a line that invokes `t`, the editor awaits the next command with the copies in place. -/
theorem copied_ready (invokes : editor.Invokes copy copying copied) (letter : copying.letter = 't')
    (resolves : editor.destination copy copied.args = .ok target)
    (nonempty : editor.buffer.lineCount ≠ 0) (place : editor.buffer.HasPlace target) :
    (editor.next copy).CommandReady ∧ (editor.next copy).session.ended = false ∧
      (editor.next copy).buffer.lines =
        Lines.copied editor.buffer.lines copied.start copied.stop target.toNat := by
  obtain ⟨-, keeps, becomes⟩ :=
    (answered_copy ready goesOn invokes resolves letter).2 place
  obtain ⟨readyCopy, goesOnCopy⟩ := ready_kept ready bounded goesOn keeps
  exact ⟨readyCopy, goesOnCopy, (becomes.filled nonempty).1⟩

/-- Lines that invoke `m` and `t` for the same block and the same destination rearrange the lines
alike. -/
theorem rearranges_invoked (invokesMove : editor.Invokes move moving moved)
    (letterMove : moving.letter = 'm') (invokesCopy : editor.Invokes copy copying copied)
    (letterCopy : copying.letter = 't') (sameStart : copied.start = moved.start)
    (sameStop : copied.stop = moved.stop)
    (resolvesMove : editor.destination move moved.args = .ok target)
    (resolvesCopy : editor.destination copy copied.args = .ok target) :
    editor.Rearranges move copy moved.start moved.stop target := by
  have copies := copies_invoked ready goesOn invokesCopy resolvesCopy letterCopy
  rw [sameStart, sameStop] at copies
  refine ⟨moves_invoked ready goesOn invokesMove resolvesMove letterMove, copies, ?_⟩
  rintro nonempty succeeds delete ⟨deleting, deleted, invokesDelete, letterDelete, start, stop⟩
  obtain ⟨failsMove, doneMove⟩ := answered_move ready goesOn invokesMove resolvesMove letterMove
  have place := Classical.not_not.mp (mt failsMove.mpr succeeds)
  obtain ⟨-, -, becomesMoved⟩ := doneMove place
  obtain ⟨readyCopy, goesOnCopy, linesCopied⟩ :=
    copied_ready ready bounded goesOn invokesCopy letterCopy resolvesCopy nonempty place.1
  have linesMoved := (becomesMoved.filled nonempty).1
  obtain ⟨-, fits⟩ := invokesMove.own ready
  obtain ⟨inRange, apart⟩ := (Buffer.hasPlaceFor_iff nonempty).mp place
  have within : moved.stop ≤ editor.buffer.lines.length := Buffer.le_lineCount nonempty fits.last
  have there := place.1.toNat_le nonempty
  rw [lines_deleted readyCopy goesOnCopy invokesDelete letterDelete, linesCopied, linesMoved,
    start, stop, sameStart, sameStop]
  exact Lines.moved_of_copied fits.first fits.ordered within there (by omega)

/-- The original of a copied block can be named by plain numbers. -/
theorem deletes_named (invokes : editor.Invokes copy copying copied) (letter : copying.letter = 't')
    (resolves : editor.destination copy copied.args = .ok target)
    (nonempty : editor.buffer.lineCount ≠ 0) (place : editor.buffer.HasPlace target)
    {delete : String} {start stop : Nat} (sameStart : copied.start = start)
    (sameStop : copied.stop = stop)
    (names : NamesRange delete (start + Lines.shift start stop target.toNat)
      (stop + Lines.shift start stop target.toNat) 'd' "") :
    (editor.next copy).Deletes delete (start + Lines.shift start stop target.toNat)
      (stop + Lines.shift start stop target.toNat) := by
  subst sameStart sameStop
  obtain ⟨readyCopy, -, lines⟩ :=
    copied_ready ready bounded goesOn invokes letter resolves nonempty place
  obtain ⟨-, fits⟩ := invokes.own ready
  have first := fits.first
  have ordered := fits.ordered
  have within : copied.stop ≤ editor.buffer.lines.length :=
    Buffer.le_lineCount nonempty fits.last
  have there := place.toNat_le nonempty
  have count : (editor.next copy).buffer.lineCount =
      editor.buffer.lines.length + (copied.stop + 1 - copied.start) := by
    have size := congrArg List.length lines
    rw [Lines.copied, Buffer.length_with editor.buffer.lines there, Lines.block,
      Buffer.length_range editor.buffer.lines first ordered within] at size
    exact size
  have room : copied.stop + Lines.shift copied.start copied.stop target.toNat ≤
      (editor.next copy).buffer.lastLine := by
    rw [Buffer.lastLine, count, Lines.shift]
    split <;> omega
  obtain ⟨spec, invocation, invokes, letter, -, isStart, isStop⟩ :=
    names.invokes readyCopy.registry (by decide) (by omega) (by omega) room
  exact ⟨spec, invocation, invokes, letter, isStart, isStop⟩

/-- **Moving and copying rearrange the lines as they should, and they agree with each other.**  Take
an editor with its own commands that awaits a command.

Whatever lines invoke `m` and `t` for the same block, with destinations that mean the same line:
moving fails exactly if the destination is out of range or in the midst of the block, and copying
exactly if it is out of range.  If they succeed, the lines and the current line are those that
`Moves` and `Copies` say, and deleting the original after copying leaves the lines that moving
leaves.  In an empty buffer nothing happens.

The lines may name the block by plain numbers, if it can be addressed and the numerals can be read;
and so may the line that deletes the original. -/
theorem rearranging_exact :
    (∀ move copy moving copying moved copied target,
      editor.Invokes move moving moved → moving.letter = 'm' →
      editor.Invokes copy copying copied → copying.letter = 't' →
      copied.start = moved.start → copied.stop = moved.stop →
      editor.destination move moved.args = .ok target →
      editor.destination copy copied.args = .ok target →
      editor.Rearranges move copy moved.start moved.stop target) ∧
    (∀ move copy start stop destination target, 1 ≤ start → start ≤ stop →
      stop ≤ editor.buffer.lastLine → NamesRange move start stop 'm' destination →
      NamesRange copy start stop 't' destination →
      (Address.resolve editor.platform.engine editor.buffer editor.session.marks
        editor.session.lastSearch? (destinationToken destination)).1 = .ok target →
      editor.Rearranges move copy start stop target ∧
        ∀ delete, editor.buffer.lineCount ≠ 0 → ¬editor.FailsOn move →
          NamesRange delete (start + Lines.shift start stop target.toNat)
            (stop + Lines.shift start stop target.toNat) 'd' "" →
          ((editor.next copy).next delete).buffer.lines = (editor.next move).buffer.lines) := by
  constructor
  · intro move copy moving copying moved copied target invokesMove letterMove invokesCopy letterCopy
    exact rearranges_invoked ready bounded goesOn invokesMove letterMove invokesCopy letterCopy
  · intro move copy start stop destination target first ordered last namesMove namesCopy resolves
    obtain ⟨moving, moved, invokesMove, letterMove, argsMove, startMove, stopMove⟩ :=
      namesMove.invokes ready.registry (by decide) first ordered last
    obtain ⟨copying, copied, invokesCopy, letterCopy, argsCopy, startCopy, stopCopy⟩ :=
      namesCopy.invokes ready.registry (by decide) first ordered last
    have resolvesMove : editor.destination move moved.args = .ok target := by
      rw [Editor.destination, namesMove.searchAhead_eq (by decide), argsMove]
      exact resolves
    have resolvesCopy : editor.destination copy copied.args = .ok target := by
      rw [Editor.destination, namesCopy.searchAhead_eq (by decide), argsCopy]
      exact resolves
    have rearranges := rearranges_invoked ready bounded goesOn invokesMove letterMove invokesCopy
      letterCopy (startCopy.trans startMove.symm) (stopCopy.trans stopMove.symm) resolvesMove
      resolvesCopy
    rw [startMove, stopMove] at rearranges
    refine ⟨rearranges, fun delete nonempty succeeds names => ?_⟩
    have place := (Buffer.hasPlace_iff nonempty).mpr (Classical.not_not.mp fun out =>
      succeeds ((rearranges.moves.fails_iff nonempty).mpr (.inl out)))
    exact rearranges.agree nonempty succeeds delete (deletes_named ready bounded goesOn invokesCopy
      letterCopy resolvesCopy nonempty place startCopy stopCopy names)

end Agreeing

/-- The two lines in the middle are moved to the top, or copied there and deleted where the copy has
pushed them. -/
theorem rearranging_exact_top :
    (ofText "one\ntwo\nthree\nfour").CommandReady ∧
      (ofText "one\ntwo\nthree\nfour").buffer.history.Bounded ∧
      (ofText "one\ntwo\nthree\nfour").session.ended = false ∧
      ((ofText "one\ntwo\nthree\nfour").run ["2,3m0"]).buffer.lines =
        ["two", "three", "one", "four"] ∧
      ((ofText "one\ntwo\nthree\nfour").run ["2,3t0"]).buffer.lines =
        ["two", "three", "one", "two", "three", "four"] ∧
      ((ofText "one\ntwo\nthree\nfour").run ["2,3t0", "4,5d"]).buffer.lines =
        ["two", "three", "one", "four"] ∧
      (ofText "one\ntwo\nthree\nfour").FailsOn "2,3m2" := by
  have sound := (reachable_ofText "one\ntwo\nthree\nfour").sound
  have ready := sound.commandReady (by decide +kernel)
  have goesOn : (ofText "one\ntwo\nthree\nfour").session.ended = false := by decide +kernel
  have nonempty : (ofText "one\ntwo\nthree\nfour").buffer.lineCount ≠ 0 := by decide +kernel
  have exactly := (rearranging_exact ready sound.bounded goesOn).2
  obtain ⟨rearranges, deleting⟩ := exactly "2,3m0" "2,3t0" 2 3 "0" 0 (by decide) (by decide)
    (by decide +kernel) ⟨by decide +kernel, by decide +kernel, by decide +kernel⟩
    ⟨by decide +kernel, by decide +kernel, by decide +kernel⟩ (by decide +kernel)
  obtain ⟨inside, -⟩ := exactly "2,3m2" "2,3t2" 2 3 "2" 2 (by decide) (by decide)
    (by decide +kernel) ⟨by decide +kernel, by decide +kernel, by decide +kernel⟩
    ⟨by decide +kernel, by decide +kernel, by decide +kernel⟩ (by decide +kernel)
  have moves : ¬(ofText "one\ntwo\nthree\nfour").FailsOn "2,3m0" := by
    rw [rearranges.moves.fails_iff nonempty]
    decide +kernel
  have copies : ¬(ofText "one\ntwo\nthree\nfour").FailsOn "2,3t0" := by
    rw [rearranges.copies.fails_iff nonempty]
    decide +kernel
  have moved : ((ofText "one\ntwo\nthree\nfour").run ["2,3m0"]).buffer.lines =
      ["two", "three", "one", "four"] := by decide +kernel
  refine ⟨ready, sound.bounded, goesOn, moved, ?_, ?_, ?_⟩
  · exact (rearranges.copies.succeeds nonempty copies).2.1.trans (by decide +kernel)
  · exact (deleting "4,5d" nonempty moves
      ⟨by decide +kernel, by decide +kernel, by decide +kernel⟩).trans moved
  · rw [inside.moves.fails_iff nonempty]
    decide +kernel

end Editor

end LineEditor
