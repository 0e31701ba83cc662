import LineEditor.Proofs.Command.Numbers
import LineEditor.Proofs.Editor.Submitting

/-!
# Lines that name their lines by numbers

A command line that consists of a number and a letter, or of two numbers with a
comma and a letter, invokes the command bound to that letter for just these
lines, as long as they can be addressed and are in order
(`Editor.invokes_number`, `Editor.invokes_numbers`).  The letter may have
arguments, and there may be no number at all (`Editor.invokes_number_rest`,
`Editor.invokes_numbers_rest`, `Editor.invokes_rest`).  Neither the marks nor the remembered search matter for
it.
-/

set_option autoImplicit false

namespace LineEditor

/-! ## Checking line numbers -/

namespace Buffer

variable (buffer : Buffer)

theorem checkAddress_within {line : Nat} (first : 1 ≤ line) (last : line ≤ buffer.lastLine) :
    buffer.checkAddress (some (line : Int)) = .ok (some line) := by
  rw [checkAddress, if_neg (by omega), Int.toNat_natCast]

/-- One line that can be addressed passes the check. -/
theorem checkLines_one {line : Nat} (first : 1 ≤ line) (last : line ≤ buffer.lastLine) :
    buffer.checkLines (some (line : Int)) none = .ok (some line, none) := by
  simp only [checkLines, buffer.checkAddress_within first last]
  rfl

/-- Two lines that can be addressed and are in order pass the check. -/
theorem checkLines_two {start stop : Nat} (first : 1 ≤ start) (ordered : start ≤ stop)
    (last : stop ≤ buffer.lastLine) :
    buffer.checkLines (some (start : Int)) (some (stop : Int)) = .ok (some start, some stop) := by
  simp only [checkLines, buffer.checkAddress_within first (Nat.le_trans ordered last),
    buffer.checkAddress_within (Nat.le_trans first ordered) last, bind, Except.bind]
  rw [if_neg (by omega)]
  rfl

end Buffer

/-- A line that ends with a letter has no line end to be taken away. -/
theorem withoutLineEnd_letter (text : String) {letter : Char}
    (isLetter : ScanState.IsLetter letter) :
    withoutLineEnd (text ++ letter.toString) = text ++ letter.toString := by
  have feed : letter ≠ '\n' := by
    rintro rfl
    exact absurd isLetter.1 (by decide)
  have carriage : letter ≠ '\r' := by
    rintro rfl
    exact absurd isLetter.1 (by decide)
  have last : (text ++ letter.toString).toList.getLast? = some letter := by simp
  simp only [withoutLineEnd, last, Option.some.injEq, feed, carriage, if_false,
    String.ofList_toList]

namespace EditorM

/-! ## Planning -/

theorem resolveToken_empty (editor : Editor) :
    (resolveToken "").runOn editor = (.ok none, editor) := rfl

/-- Resolving a plain number gives that number, and changes nothing. -/
theorem resolveToken_number {number : Nat} (short : (toString number).length ≤ Text.digitLimit)
    (editor : Editor) :
    (resolveToken (toString number)).runOn editor = (.ok (some (number : Int)), editor) := by
  have present : (toString number).isEmpty = false := by simp
  have resolved :
      (resolveAddress (toString number)).runOn editor = (.ok (number : Int), editor) := by
    have run : (resolveAddress (toString number)).runOn editor =
        ((Address.resolve editor.platform.engine editor.buffer editor.session.marks
            editor.session.lastSearch? (toString number)).1,
          editor.updateSession fun session =>
            { session with
              lastSearch? := (Address.resolve editor.platform.engine editor.buffer
                editor.session.marks editor.session.lastSearch? (toString number)).2 }) := rfl
    rw [run, Address.resolve_number _ _ _ _ short]
    rfl
  simp only [resolveToken, present, Bool.false_eq_true, if_false, runOn_bind, resolved]
  rfl

/-- A line whose addresses are resolved without a search invokes the command bound to its letter. -/
theorem plan_resolved {line : CommandLine} {editor : Editor} {start? finish? : Option Int}
    {lines : Option Nat × Option Nat} {spec : CommandSpec} {invocation : Invocation}
    (start : (resolveToken line.first).runOn editor = (.ok start?, editor))
    (finish : (resolveToken line.second).runOn editor = (.ok finish?, editor))
    (checked : editor.buffer.checkLines start? finish? = .ok lines)
    (found : line.letter?.bind editor.registry.find? = some spec)
    (bound : spec.bindLines editor.buffer.current line.args lines.1 lines.2 = .ok invocation) :
    ((plan line).runOn editor).1 = .ok (.invoke spec invocation) := by
  simp only [plan, resolveLines, bindRequest, runOn_bind, start, finish, runOn_get, checked,
    runOn_lift, found, bound]
  rfl

end EditorM

namespace Editor

variable {editor : Editor} {letter : Char} {spec : CommandSpec} {invocation : Invocation}

/-- What starts with a letter is the rest of a line. -/
theorem isRest_starting {rest : String} {others : List Char} (chars : rest.toList = letter :: others)
    (isLetter : ScanState.IsLetter letter) : ScanState.IsRest rest ∧ rest ≠ "" := by
  constructor
  · rw [ScanState.IsRest, chars]
    rintro _ ⟨⟩
    exact isLetter
  · rintro rfl
    cases chars

section Rest

variable {rest args : String} (chars : rest.toList = letter :: args.toList)
  (isLetter : ScanState.IsLetter letter) (found : editor.registry.find? letter = some spec)
include chars isLetter found

/-- A letter with its arguments, and no address. -/
theorem invokes_rest (whole : withoutLineEnd rest = rest)
    (bound : spec.bindLines editor.buffer.current args none none = .ok invocation) :
    editor.Invokes rest spec invocation := by
  obtain ⟨isRest, filled⟩ := isRest_starting chars isLetter
  rw [Invokes, whole, CommandLine.scan_rest isRest filled]
  refine EditorM.plan_resolved (EditorM.resolveToken_empty editor)
    (EditorM.resolveToken_empty editor) rfl ?_ ?_
  · simpa [CommandLine.letter?, chars] using found
  · simpa [CommandLine.args, chars] using bound

/-- A number and a letter with its arguments. -/
theorem invokes_number_rest {number : Nat}
    (whole : withoutLineEnd (toString number ++ rest) = toString number ++ rest)
    (short : (toString number).length ≤ Text.digitLimit) (first : 1 ≤ number)
    (last : number ≤ editor.buffer.lastLine)
    (bound : spec.bindLines editor.buffer.current args (some number) none = .ok invocation) :
    editor.Invokes (toString number ++ rest) spec invocation := by
  obtain ⟨isRest, filled⟩ := isRest_starting chars isLetter
  rw [Invokes, whole, CommandLine.scan_number_rest isRest filled]
  refine EditorM.plan_resolved (EditorM.resolveToken_number short editor)
    (EditorM.resolveToken_empty editor) (editor.buffer.checkLines_one first last) ?_ ?_
  · simpa [CommandLine.letter?, chars] using found
  · simpa [CommandLine.args, chars] using bound

/-- Two numbers with a comma between them and a letter with its arguments. -/
theorem invokes_numbers_rest {raw : String} {start stop : Nat}
    (whole : withoutLineEnd raw = toString start ++ "," ++ toString stop ++ rest)
    (shortStart : (toString start).length ≤ Text.digitLimit)
    (shortStop : (toString stop).length ≤ Text.digitLimit) (first : 1 ≤ start)
    (ordered : start ≤ stop) (last : stop ≤ editor.buffer.lastLine)
    (bound : spec.bindLines editor.buffer.current args (some start) (some stop) =
      .ok invocation) :
    editor.Invokes raw spec invocation := by
  obtain ⟨isRest, filled⟩ := isRest_starting chars isLetter
  rw [Invokes, whole, CommandLine.scan_numbers_rest isRest]
  refine EditorM.plan_resolved (EditorM.resolveToken_number shortStart editor)
    (EditorM.resolveToken_number shortStop editor)
    (editor.buffer.checkLines_two first ordered last) ?_ ?_
  · simpa [CommandLine.letter?, chars] using found
  · simpa [CommandLine.args, chars] using bound

end Rest

variable (isLetter : ScanState.IsLetter letter) (found : editor.registry.find? letter = some spec)
include isLetter found

/-- A number and a letter. -/
theorem invokes_number {number : Nat} (short : (toString number).length ≤ Text.digitLimit)
    (first : 1 ≤ number) (last : number ≤ editor.buffer.lastLine)
    (bound : spec.bindLines editor.buffer.current "" (some number) none = .ok invocation) :
    editor.Invokes (toString number ++ letter.toString) spec invocation :=
  invokes_number_rest (by simp) isLetter found (withoutLineEnd_letter _ isLetter) short first last
    bound

/-- Two numbers with a comma between them and a letter. -/
theorem invokes_numbers {start stop : Nat} (shortStart : (toString start).length ≤ Text.digitLimit)
    (shortStop : (toString stop).length ≤ Text.digitLimit) (first : 1 ≤ start)
    (ordered : start ≤ stop) (last : stop ≤ editor.buffer.lastLine)
    (bound : spec.bindLines editor.buffer.current "" (some start) (some stop) = .ok invocation) :
    editor.Invokes (toString start ++ "," ++ toString stop ++ letter.toString) spec invocation :=
  invokes_numbers_rest (by simp) isLetter found (withoutLineEnd_letter _ isLetter) shortStart
    shortStop first ordered last bound

end Editor

end LineEditor
