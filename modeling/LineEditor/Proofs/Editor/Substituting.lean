import LineEditor.Proofs.Buffer.Replacing
import LineEditor.Proofs.Editor.Changing
import LineEditor.Proofs.Editor.Entries

/-!
# Substituting in lines

A line that invokes `s` for lines that are there, and whose arguments are
accepted, comes to one of three things (`Editor.Substitutes`).  If the
replacement fails on one of the lines, or if none of them is hit, the line is
refused, and the buffer and what is remembered are as before.  Else every line
of the range that is hit is replaced, all at once, and all of it is one step of
the history.

`Editor.substitution_exact` says so of all lines that invoke `s`, however their
addresses are written.  Nothing is assumed of what a replacement does with a
single line.
-/

set_option autoImplicit false

namespace LineEditor

open Substitution (Hits outcome found)

variable {replace : String → Except Pattern.PatternFault (String × Nat)}

/-- Why a substitution in some lines is refused. -/
inductive Substitution.Refused (replace : String → Except Pattern.PatternFault (String × Nat))
    (lines : List String) : Refusal → Prop
  | invalid (failed : ∃ line ∈ lines, ∃ cause, replace line = .error cause) :
      Refused replace lines (.argument .invalidReplacement)
  | unmatched (accepted : ∀ line ∈ lines, ∃ result, replace line = .ok result)
      (missed : ∀ line ∈ lines, ¬Hits replace line) : Refused replace lines (.address .noMatch)

/-- The lines of a range have been replaced, and the current line is the last one that is hit. -/
structure Buffer.Substituted (replace : String → Except Pattern.PatternFault (String × Nat))
    (original : List String) (start stop : Nat) (after : Buffer) : Prop where
  accepted : ∀ line ∈ Lines.block original start stop, ∃ result, replace line = .ok result
  lines : after.lines = original.take (start - 1) ++
    (Lines.block original start stop).map (outcome replace) ++ original.drop stop
  current : ∃ front line back,
    Lines.block original start stop = front ++ line :: back ∧ Hits replace line ∧
      (∀ other ∈ back, ¬Hits replace other) ∧ after.current = start + front.length

theorem Buffer.Substituted.committed {lines : List String} {start stop : Nat} {after : Buffer}
    (substituted : Buffer.Substituted replace lines start stop after) :
    Buffer.Substituted replace lines start stop after.commit := by
  obtain ⟨accepted, isLines, front, line, back, parts, hits, missed, current⟩ := substituted
  refine ⟨accepted, by rw [commit_lines, isLines], front, line, back, parts, hits, missed, ?_⟩
  rw [commit_current, current]

namespace Buffer.Substituted

variable {original : List String} {start stop : Nat} {after : Buffer}
  (substituted : Buffer.Substituted replace original start stop after) (first : 1 ≤ start)
  (ordered : start ≤ stop) (within : stop ≤ original.length)
include substituted first ordered within

/-- The lines keep their places. -/
theorem getElem? {index : Nat} {line : String} (there : original[index]? = some line) :
    after.lines[index]? =
      some (if start ≤ index + 1 ∧ index + 1 ≤ stop then outcome replace line else line) := by
  rw [substituted.lines]
  exact Substitution.getElem?_mapped first ordered within _ there

omit first in
/-- No line is added, and none goes away. -/
theorem length : after.lines.length = original.length := by
  rw [substituted.lines, List.length_append, List.length_append, List.length_map,
    ← List.length_append, ← List.length_append, Lines.block_parted ordered within]

end Buffer.Substituted

namespace Substitution.Refused

variable {lines : List String} {refusal : Refusal} (refused : Substitution.Refused replace lines refusal)
include refused

/-- A substitution that fails on a line is refused for that. -/
theorem eq_invalid (failed : ∃ line ∈ lines, ∃ cause, replace line = .error cause) :
    refusal = .argument .invalidReplacement := by
  cases refused with
  | invalid => rfl
  | unmatched accepted missed =>
      obtain ⟨line, member, cause, fails⟩ := failed
      obtain ⟨result, replaced⟩ := accepted line member
      rw [fails] at replaced
      cases replaced

/-- A substitution that fails on no line is refused because it hits none. -/
theorem eq_unmatched (accepted : ∀ line ∈ lines, ∃ result, replace line = .ok result) :
    refusal = .address .noMatch ∧ ∀ line ∈ lines, ¬Hits replace line := by
  cases refused with
  | invalid failed =>
      obtain ⟨line, member, cause, fails⟩ := failed
      obtain ⟨result, replaced⟩ := accepted line member
      rw [fails] at replaced
      cases replaced
  | unmatched accepted missed => exact ⟨rfl, missed⟩

end Substitution.Refused

namespace EditorM

variable {editor : Editor} {invocation : Invocation} {arity : Arity} {substitution : Substitution}
  {compiled : Pattern.Compiled}

/-- What a compiled substitution does with a single line: its new text, and the number of hits. -/
def replacing (substitution : Substitution) (compiled : Pattern.Compiled) (line : String) :
    Except Pattern.PatternFault (String × Nat) :=
  compiled.replace (Pattern.expandReplacement substitution.replacement) substitution.all line

/-- The changes of a substitution come from the lines of the range. -/
theorem changesOf_eq (fits : invocation.Fits arity editor.buffer.lastLine)
    (within : invocation.stop ≤ editor.buffer.lineCount)
    (readable : Pattern.read editor.platform.engine substitution.pattern = .ok compiled) :
    changesOf editor substitution invocation =
      Substitution.changes (replacing substitution compiled) invocation.start
        (Lines.block editor.buffer.lines invocation.start invocation.stop) := by
  rw [changesOf, readable]
  simp only [Except.mapError, Buffer.readRange_within _ fits.first fits.ordered within]
  rfl

/-- Replacing the lines that are noted and going to the last of them. -/
theorem replaceLines_found (opened : editor.buffer.opened?.isSome)
    (fits : invocation.Fits arity editor.buffer.lastLine)
    (within : invocation.stop ≤ editor.buffer.lineCount)
    (accepted : ∀ line ∈ Lines.block editor.buffer.lines invocation.start invocation.stop,
      ∃ result, replace line = .ok result)
    (hit : ∃ line ∈ Lines.block editor.buffer.lines invocation.start invocation.stop,
      Hits replace line) :
    ∃ last text buffer,
      (found replace invocation.start
        (Lines.block editor.buffer.lines invocation.start invocation.stop)).getLast? =
          some (last, text) ∧
      editor.buffer.replaceLines (found replace invocation.start
        (Lines.block editor.buffer.lines invocation.start invocation.stop)) = .ok buffer ∧
      1 ≤ last ∧ last ≤ buffer.lastLine ∧
      Buffer.Substituted replace editor.buffer.lines invocation.start invocation.stop
        { buffer with current := last } ∧
      ∃ count, 0 < count ∧ editor.buffer.Edited count buffer := by
  obtain ⟨front, line, back, text, parts, hits, missed, isLast⟩ :=
    Substitution.last_found invocation.start hit
  have size := Buffer.length_range editor.buffer.lines fits.first fits.ordered within
  have inRange : ∀ change ∈ found replace invocation.start
      (Lines.block editor.buffer.lines invocation.start invocation.stop),
      1 ≤ change.1 ∧ change.1 ≤ editor.buffer.lineCount := by
    intro change member
    have bounds := Substitution.changes_within (Substitution.changes_found _ accepted) change member
    have := fits.first
    have := fits.ordered
    rw [Lines.block, size] at bounds
    omega
  obtain ⟨buffer, success, edited, lines, count⟩ :=
    Buffer.replaceLines_within _ opened inRange
  obtain ⟨first, last⟩ := inRange _ (List.mem_of_getLast? isLast)
  refine ⟨_, text, buffer, isLast, success, first, ?_, ⟨accepted, ?_, front, line, back, parts,
    hits, missed, rfl⟩, _, ?_, edited⟩
  · simp only [Buffer.lastLine, count]
    omega
  · exact lines.trans (Substitution.replaced_block fits.first fits.ordered within)
  · have := List.length_pos_of_mem (List.mem_of_getLast? isLast)
    omega

/-- The handler of a substitution refuses it before anything has changed, or replaces all the lines
that are hit. -/
theorem ensures_substitute_at (opened : editor.buffer.opened?.isSome)
    (fits : invocation.Fits arity editor.buffer.lastLine)
    (within : invocation.stop ≤ editor.buffer.lineCount)
    (read : Substitution.read editor.platform.engine invocation.args
      editor.session.lastSubstitution? editor.session.lastSearch? = .ok substitution)
    (readable : Pattern.read editor.platform.engine substitution.pattern = .ok compiled) :
    (substitute invocation).Ensures editor
      (fun reply after => reply = { status := "substitute" } ∧
        Buffer.Substituted (replacing substitution compiled) editor.buffer.lines invocation.start
          invocation.stop after.buffer ∧
        (∃ count, 0 < count ∧ editor.buffer.Edited count after.buffer) ∧
        after.session =
          { editor.session with
            lastSubstitution? := some substitution
            lastSearch? := some substitution.pattern })
      (fun fault after => after = editor ∧ ∃ refusal, fault = .refusal refusal ∧
        Substitution.Refused (replacing substitution compiled)
          (Lines.block editor.buffer.lines invocation.start invocation.stop) refusal) := by
  simp only [substitute, ensures_bind, ensures_get, ensures_lift, read]
  refine ⟨?_, fun _ failed => by cases failed⟩
  rintro _ ⟨⟩
  rw [changesOf_eq fits within readable]
  generalize replacing substitution compiled = replace
  by_cases accepted : ∀ line ∈ Lines.block editor.buffer.lines invocation.start invocation.stop,
      ∃ result, replace line = .ok result
  · rw [Substitution.changes_found _ accepted]
    refine ⟨?_, fun _ failed => by cases failed⟩
    rintro _ ⟨⟩
    by_cases hit : ∃ line ∈ Lines.block editor.buffer.lines invocation.start invocation.stop,
        Hits replace line
    · obtain ⟨last, text, buffer, isLast, success, first, room, substituted, count, some, edited⟩ :=
        replaceLines_found opened fits within accepted hit
      rw [isLast]
      rw [ensures_bind, ensures_modifyBuffer_ok success, ensures_bind, setCurrent,
        ensures_modifyBuffer_ok (buffer.setCurrent_placed first room)]
      simp only [ensures_bind, ensures_modifySession, ensures_pure]
      exact ⟨trivial, substituted, ⟨_, some, edited.trans (buffer.edited_current first room)⟩,
        rfl⟩
    · have missed : ∀ line ∈ Lines.block editor.buffer.lines invocation.start invocation.stop,
          ¬Hits replace line := fun line member hits => hit ⟨line, member, hits⟩
      rw [Substitution.found_eq_nil.mpr missed]
      exact (ensures_refuse _).mpr ⟨rfl, _, rfl, .unmatched accepted missed⟩
  · have failed : ∃ line ∈ Lines.block editor.buffer.lines invocation.start invocation.stop,
        ∃ cause, replace line = .error cause := by
      simp only [not_forall] at accepted
      obtain ⟨line, member, none⟩ := accepted
      cases replaced : replace line with
      | ok result => exact absurd ⟨result, replaced⟩ none
      | error cause => exact ⟨line, member, cause, replaced⟩
    rw [Substitution.changes_failed _ failed]
    refine ⟨fun _ success => (by cases success), ?_⟩
    rintro _ ⟨⟩
    exact ⟨trivial, _, rfl, .invalid failed⟩

end EditorM

theorem Registry.own_substitute : ∀ spec ∈ Registry.ownCommands,
    spec.letter = 's' → spec.handler = .builtin .substitute ∧ spec.mutates = true := by
  decide

namespace Editor

/-- A line is answered with an error, and it leaves the buffer and what is remembered as they
are. -/
structure Rejects (editor : Editor) (raw message : String) : Prop where
  answer : editor.answer raw =
    .ok { kind := .error, lines := editor.session.errorMarker message }
  lastError : (editor.next raw).session.lastError = message
  buffer : (editor.next raw).buffer = editor.buffer
  lastSubstitution : (editor.next raw).session.lastSubstitution? = editor.session.lastSubstitution?
  lastSearch : (editor.next raw).session.lastSearch? = editor.session.lastSearch?

/-- A line replaces the lines of a range that are hit, and no others.  The current line is the last
of them, the substitution and its pattern are remembered, and all of it is one step of the history,
which undo takes back. -/
structure Replaces (editor : Editor) (raw : String) (start stop : Nat)
    (substitution : Substitution) (replace : String → Except Pattern.PatternFault (String × Nat)) :
    Prop where
  answer : editor.answer raw = .ok { kind := .none }
  length : (editor.next raw).buffer.lines.length = editor.buffer.lines.length
  hit : ∀ (index : Nat) (line text : String) (hits : Nat),
    editor.buffer.lines[index]? = some line → start ≤ index + 1 → index + 1 ≤ stop →
    replace line = .ok (text, hits) → 0 < hits →
    (editor.next raw).buffer.lines[index]? = some text
  untouched : ∀ (index : Nat) (line : String), editor.buffer.lines[index]? = some line →
    ¬(start ≤ index + 1 ∧ index + 1 ≤ stop ∧ Hits replace line) →
    (editor.next raw).buffer.lines[index]? = some line
  current : ∃ front line back,
    Lines.block editor.buffer.lines start stop = front ++ line :: back ∧ Hits replace line ∧
      (∀ other ∈ back, ¬Hits replace other) ∧
      (editor.next raw).buffer.current = start + front.length
  lastSubstitution : (editor.next raw).session.lastSubstitution? = some substitution
  lastSearch : (editor.next raw).session.lastSearch? = some substitution.pattern
  history : (editor.next raw).buffer.history.entries =
    (editor.buffer.entry "s" :: editor.buffer.history.entries).take
      editor.buffer.history.limit.toNat
  undo : 1 ≤ editor.buffer.history.limit →
    ∀ undo, asksUndo undo = true → (editor.next raw).AcceptsLine undo →
      ((editor.next raw).next undo).buffer.lines = editor.buffer.lines ∧
      ((editor.next raw).next undo).buffer.current = editor.buffer.current

/-- What a line comes to that substitutes in a range of lines.  It is rejected if the replacement
fails on one of them, or if none is hit, and else those that are hit are replaced. -/
structure Substitutes (editor : Editor) (raw : String) (start stop : Nat)
    (substitution : Substitution) (replace : String → Except Pattern.PatternFault (String × Nat)) :
    Prop where
  invalid : (∃ line ∈ Lines.block editor.buffer.lines start stop,
    ∃ cause, replace line = .error cause) → editor.Rejects raw "invalid replacement"
  unmatched : (∀ line ∈ Lines.block editor.buffer.lines start stop,
    ∃ result, replace line = .ok result) →
    (∀ line ∈ Lines.block editor.buffer.lines start stop, ¬Hits replace line) →
    editor.Rejects raw "no match"
  replaced : (∀ line ∈ Lines.block editor.buffer.lines start stop,
    ∃ result, replace line = .ok result) →
    (∃ line ∈ Lines.block editor.buffer.lines start stop, Hits replace line) →
    editor.Replaces raw start stop substitution replace

variable {editor : Editor} {raw : String} {spec : CommandSpec} {invocation : Invocation}
  {substitution : Substitution} {compiled : Pattern.Compiled}

section Submitted

variable (ready : editor.CommandReady) (goesOn : editor.session.ended = false)
  (invokes : editor.Invokes raw spec invocation) (letter : spec.letter = 's')
  (within : invocation.stop ≤ editor.buffer.lineCount)
  (read : Substitution.read editor.platform.engine invocation.args
    editor.session.lastSubstitution? (editor.searchAhead raw) = .ok substitution)
  (readable : Pattern.read editor.platform.engine substitution.pattern = .ok compiled)
include ready goesOn invokes letter within read readable

/-- A line that invokes `s` is refused before anything has changed, or it replaces the lines that
are hit in one step of the history. -/
theorem answered_substitute :
    (∃ refusal, Substitution.Refused (EditorM.replacing substitution compiled)
        (Lines.block editor.buffer.lines invocation.start invocation.stop) refusal ∧
      editor.Rejects raw refusal.message) ∨
    (editor.answer raw = .ok { kind := .none } ∧
      Buffer.Substituted (EditorM.replacing substitution compiled) editor.buffer.lines
        invocation.start invocation.stop (editor.next raw).buffer ∧
      (editor.next raw).buffer.history = editor.buffer.history.push (editor.buffer.entry "s") ∧
      (editor.next raw).session =
        { editor.session with
          lastSubstitution? := some substitution
          lastSearch? := some substitution.pattern }) := by
  obtain ⟨own, -⟩ := invokes.own ready
  obtain ⟨handler, mutates⟩ := Registry.own_substitute spec own letter
  have submitted := EditorM.ensures_submit_changing ready goesOn invokes mutates
    (fun output buffer session =>
      (∃ refusal, Substitution.Refused (EditorM.replacing substitution compiled)
          (Lines.block editor.buffer.lines invocation.start invocation.stop) refusal ∧
        output = { kind := .error, lines := editor.session.errorMarker refusal.message } ∧
        buffer = editor.buffer ∧
        session = { editor.session with lastError := refusal.message }) ∨
      (output = { kind := .none } ∧
        Buffer.Substituted (EditorM.replacing substitution compiled) editor.buffer.lines
          invocation.start invocation.stop buffer ∧
        buffer.history = editor.buffer.history.push (editor.buffer.entry "s") ∧
        session =
          { editor.session with
            lastSubstitution? := some substitution
            lastSearch? := some substitution.pattern }))
    fun middle platform buffer session => by
      obtain ⟨opened, fits, lines, count⟩ := entered_ready ready invokes buffer
      rw [handler]
      have remembered : middle.session.lastSubstitution? = editor.session.lastSubstitution? := by
        rw [session]
      have ahead : middle.session.lastSearch? = editor.searchAhead raw := by rw [session]
      rw [← count] at within
      rw [← platform] at readable
      rw [← platform, ← remembered, ← ahead] at read
      refine (EditorM.ensures_substitute_at opened fits within read readable).mono ?_ ?_
      · rintro reply inner ⟨rfl, substituted, ⟨edits, some, edited⟩, sessionInner⟩
        rw [lines] at substituted
        rw [buffer] at edited
        refine ⟨rfl, rfl, .inr ⟨by simp [Reply.shown], substituted.committed, ?_, ?_⟩⟩
        · rw [Buffer.commit_edited ready.closed edited, if_pos some, letter]
          rfl
        · rw [sessionInner, session]
      · rintro fault inner ⟨rfl, refusal, rfl, refused⟩
        rw [lines] at refused
        generalize editor.searchAhead raw = search at session
        refine ⟨refusal, rfl, .inl ⟨refusal, refused, ?_, ?_, ?_⟩⟩
        · rw [session]
          rfl
        · rw [buffer]
          exact Buffer.rollback_edited ready.closed (.refl _)
        · rw [session]
  obtain ⟨output, answer, outcome⟩ := submitted.answered_with
  rcases outcome with ⟨refusal, refused, rfl, buffer, session⟩ | ⟨rfl, replaced⟩
  · refine .inl ⟨refusal, refused, answer, ?_, buffer, ?_, ?_⟩
    · rw [session]
    · rw [session]
    · rw [session]
  · exact .inr ⟨answer, replaced⟩

/-- A line that invokes `s` replaces the lines that are hit, if it can. -/
theorem substitutes_invoked (bounded : editor.buffer.history.Bounded) :
    editor.Substitutes raw invocation.start invocation.stop substitution
      (EditorM.replacing substitution compiled) := by
  obtain ⟨-, fits⟩ := invokes.own ready
  have size := fits.ordered
  have readyNext := fun mode => ((Sound.command ready bounded).next raw).commandReady mode
  rcases answered_substitute ready goesOn invokes letter within read readable with
    ⟨refusal, refused, rejects⟩ | ⟨answer, substituted, history, session⟩
  · refine ⟨fun failed => ?_, fun accepted _ => ?_, fun accepted hit => ?_⟩
    · rw [refused.eq_invalid failed] at rejects
      exact rejects
    · rw [(refused.eq_unmatched accepted).1] at rejects
      exact rejects
    · obtain ⟨line, member, hits⟩ := hit
      exact absurd hits ((refused.eq_unmatched accepted).2 line member)
  · generalize EditorM.replacing substitution compiled = replace at substituted ⊢
    refine ⟨fun failed => ?_, fun _ missed => ?_, fun accepted _ => ?_⟩
    · obtain ⟨line, member, cause, fails⟩ := failed
      obtain ⟨result, replaced⟩ := substituted.accepted line member
      rw [fails] at replaced
      cases replaced
    · obtain ⟨front, line, back, parts, hits, -⟩ := substituted.current
      exact absurd hits (missed line (by rw [parts]; simp))
    · exact {
        answer
        length := substituted.length fits.ordered within
        hit := fun index line text hits there first last replaced some => by
          rw [substituted.getElem? fits.first fits.ordered within there, if_pos ⟨first, last⟩,
            Substitution.outcome_hit replaced some]
        untouched := fun index line there apart => by
          rw [substituted.getElem? fits.first fits.ordered within there]
          split
          · rename_i inside
            rw [Substitution.outcome_missed fun hits => apart ⟨inside.1, inside.2, hits⟩]
          · rfl
        current := substituted.current
        lastSubstitution := by rw [session]
        lastSearch := by rw [session]
        history := by rw [history, History.entries_push bounded]
        undo := fun room undo asks accepts =>
          (readyNext (by rw [session]; exact ready.mode)).undo_pushed (by rw [session]; exact goesOn)
            history ready.placed room asks accepts }

end Submitted

section Exact

variable (ready : editor.CommandReady) (bounded : editor.buffer.history.Bounded)
  (goesOn : editor.session.ended = false)
include ready bounded goesOn

/-- **Substituting maps the lines of a range, all of them or none.**  Take an editor with its own
commands that awaits a command, and a line that invokes `s` for lines that are there, with
arguments that come to a substitution whose pattern can be read.  Then the line is rejected with
`invalid replacement` if the replacement fails on one of the lines, and else with `no match` if none
of them is hit, and else the lines that are hit are replaced, in one step of the history
(`Substitutes`).

Lines that name the range by plain numbers are such lines. -/
theorem substitution_exact :
    (∀ raw spec invocation substitution compiled,
      editor.Invokes raw spec invocation → spec.letter = 's' →
      invocation.stop ≤ editor.buffer.lineCount →
      Substitution.read editor.platform.engine invocation.args editor.session.lastSubstitution?
        (editor.searchAhead raw) = .ok substitution →
      Pattern.read editor.platform.engine substitution.pattern = .ok compiled →
      editor.Substitutes raw invocation.start invocation.stop substitution
        (EditorM.replacing substitution compiled)) ∧
    (∀ raw start stop args substitution compiled, 1 ≤ start → start ≤ stop →
      stop ≤ editor.buffer.lineCount → NamesRange raw start stop 's' args →
      Substitution.read editor.platform.engine args editor.session.lastSubstitution?
        editor.session.lastSearch? = .ok substitution →
      Pattern.read editor.platform.engine substitution.pattern = .ok compiled →
      editor.Substitutes raw start stop substitution
        (EditorM.replacing substitution compiled)) := by
  constructor
  · intro raw spec invocation substitution compiled invokes letter within read readable
    exact substitutes_invoked ready goesOn invokes letter within read readable bounded
  · intro raw start stop args substitution compiled first ordered within names read readable
    obtain ⟨spec, invocation, invokes, letter, isArgs, isStart, isStop⟩ :=
      names.invokes ready.registry (by decide) first ordered
        (by rw [Buffer.lastLine]; omega)
    rw [← isStop] at within
    rw [← isArgs, ← names.searchAhead_eq (by decide)] at read
    rw [← isStart, ← isStop]
    exact substitutes_invoked ready goesOn invokes letter within read readable bounded

end Exact

/-- Two of three lines are hit, and undo takes both replacements back; where no line is hit, the
line is rejected. -/
theorem substitution_exact_zeros :
    (ofText "too\none\nsix").CommandReady ∧ (ofText "too\none\nsix").buffer.history.Bounded ∧
      (ofText "too\none\nsix").session.ended = false ∧
      (ofText "too\none\nsix").Rejects "3,3s/o/0/g" "no match" ∧
      ((ofText "too\none\nsix").next "1,3s/o/0/g").buffer.lines = ["t00", "0ne", "six"] ∧
      ((ofText "too\none\nsix").next "1,3s/o/0/g").buffer.current = 2 ∧
      (((ofText "too\none\nsix").next "1,3s/o/0/g").next "u").buffer.lines =
        ["too", "one", "six"] := by
  have sound := (reachable_ofText "too\none\nsix").sound
  have ready := sound.commandReady (by decide +kernel)
  have goesOn : (ofText "too\none\nsix").session.ended = false := by decide +kernel
  have readable : Pattern.read .usual "o" = .ok
      { pattern := .oneOf
          { negated := false, items := [.single 111], folding := .exact, asciiOnly := false }
        groupCount := 0
        names := [] } := rfl
  have exactly := (substitution_exact ready sound.bounded goesOn).2
  have substitutes := exactly "1,3s/o/0/g" 1 3 "/o/0/g" ⟨"o", "0", true⟩ _ (by decide) (by decide)
    (by decide +kernel) ⟨by decide +kernel, by decide +kernel, by decide +kernel⟩
    (by decide +kernel) readable
  have rejected := exactly "3,3s/o/0/g" 3 3 "/o/0/g" ⟨"o", "0", true⟩ _ (by decide) (by decide)
    (by decide +kernel) ⟨by decide +kernel, by decide +kernel, by decide +kernel⟩
    (by decide +kernel) readable
  have all : Lines.block (ofText "too\none\nsix").buffer.lines 1 3 = ["too", "one", "six"] := by
    decide +kernel
  have last : Lines.block (ofText "too\none\nsix").buffer.lines 3 3 = ["six"] := by decide +kernel
  have replaces := substitutes.replaced (by
      rw [all]
      simp only [List.forall_mem_cons]
      exact ⟨⟨("t00", 2), by decide +kernel⟩, ⟨("0ne", 1), by decide +kernel⟩,
        ⟨("six", 0), by decide +kernel⟩, fun _ member => by cases member⟩)
    (by rw [all]; decide +kernel)
  have rejects := rejected.unmatched (by
      rw [last]
      simp only [List.forall_mem_cons]
      exact ⟨⟨("six", 0), by decide +kernel⟩, fun _ member => by cases member⟩)
    (by rw [last]; decide +kernel)
  have undone := replaces.undo (by decide +kernel) "u" (by decide +kernel)
    (.inl (by decide +kernel))
  refine ⟨ready, sound.bounded, goesOn, rejects, by decide +kernel, by decide +kernel, ?_⟩
  rw [undone.1]
  decide +kernel

end Editor

end LineEditor
