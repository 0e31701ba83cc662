import LineEditor.Proofs.Editor.Scripts

/-!
# The host always comes to an end

A host asks for lines until the session ends, without a bound of its own.
`Console.Host.Drives` follows it round by round, with the lines that it submits
and what is shown of them, and `Console.Host.Drives.rounds` says that a bound on
the rounds does not matter if it lets the session end.

It ends only if what its lines ask of the outside comes back, and it is not
stopped only if no fault escapes from them.  Both are assumed of the lines of the
input (`Editor.Spared`), and of no others.

A host submits the lines it is given as long as the session goes on
(`Console.Host.drives_input`), and when there are no more, the lines that bring
the session to its end (`Console.Host.drives_closing`).  So what it does is what
a script does with these lines, and what it writes is the transcript
(`Console.Host.run_scripted`).
-/

set_option autoImplicit false

namespace LineEditor

namespace Text

theorem joinLines_cons (line : String) (rest : List String) :
    joinLines (line :: rest) = line ++ "\n" ++ joinLines rest := by
  simp [joinLines, String.ofList_append, String.append_assoc]

end Text

/-- The text of an answer and a line feed are its lines, each followed by a line feed. -/
theorem Output.text_feed (output : Output) (shows : output.lines ≠ []) :
    output.text ++ "\n" = Text.joinLines output.lines := by
  obtain ⟨kind, lines⟩ := output
  induction lines with
  | nil => exact absurd rfl shows
  | cons line rest ih =>
      rw [Text.joinLines_cons]
      cases rest with
      | nil => simp [Output.text, Text.joinLines]
      | cons next others =>
          rw [← ih (by simp)]
          simp [Output.text, String.intercalate_cons_cons, String.append_assoc]

namespace Console.Host

/-- All that has been written. -/
def written (host : Host) : String :=
  String.join host.writes.toList

/-- The line that the host submits next: the one that it is given, or what the end of the input
stands for. -/
def upcoming (host : Host) : String :=
  host.input.headD (closingLine host.editor)

/-- No line of the input is empty; an empty one would stand for the end of the input. -/
def Filled (host : Host) : Prop :=
  ∀ line ∈ host.input, line ≠ ""

/-- Rounds of a host while the session goes on, with the lines that it submits and what is shown
of them. -/
inductive Drives : Host → List String → List Exchange → Host → Prop
  | done (host : Host) : Drives host [] [] host
  | round {host next final : Host} {output : Output} {rest : List String}
      {exchanges : List Exchange} (goesOn : host.editor.session.ended = false)
      (answered : host.editor.answer host.upcoming = .ok output)
      (rounded : host.round = (.ok (), next)) (later : Drives next rest exchanges final) :
      Drives host (host.upcoming :: rest) (⟨host.editor.prompt, output⟩ :: exchanges) final

variable {host next final : Host} {lines : List String} {exchanges : List Exchange}

/-! ## One round -/

theorem written_write (host : Host) (text : String) :
    (host.write text).written = host.written ++ text := by
  rw [write]
  split
  · rename_i empty
    rw [String.isEmpty_iff.mp empty, String.append_empty]
  · simp [written, String.join_append]

theorem written_showOutput (host : Host) (output : Output) :
    (host.showOutput output).written = host.written ++ Text.joinLines output.lines := by
  rw [showOutput]
  split
  · rename_i empty
    rw [List.isEmpty_iff.mp empty]
    exact String.append_empty.symm
  · rename_i shows
    rw [written_write, output.text_feed (by simpa using shows)]

@[simp] theorem write_editor (host : Host) (text : String) :
    (host.write text).editor = host.editor := by
  rw [write]
  split
  · rfl
  · rfl

@[simp] theorem write_input (host : Host) (text : String) :
    (host.write text).input = host.input := by
  rw [write]
  split
  · rfl
  · rfl

@[simp] theorem write_reads (host : Host) (text : String) :
    (host.write text).reads = host.reads := by
  rw [write]
  split
  · rfl
  · rfl

/-- Showing an answer changes nothing but what is written. -/
theorem showOutput_kept (host : Host) (output : Output) :
    (host.showOutput output).editor = host.editor ∧
      (host.showOutput output).input = host.input ∧
      (host.showOutput output).reads = host.reads := by
  rw [showOutput]
  split
  · exact ⟨rfl, rfl, rfl⟩
  · exact ⟨write_editor .., write_input .., write_reads ..⟩

/-- What is read stands for the upcoming line. -/
theorem read_upcoming (filled : host.Filled) :
    (if (host.input.headD "").isEmpty then closingLine host.editor else host.input.headD "") =
      host.upcoming := by
  rw [upcoming]
  cases isInput : host.input with
  | nil => rfl
  | cons line rest =>
      refine if_neg ?_
      rw [List.headD_cons, String.isEmpty_iff]
      exact filled line (by rw [isInput]; exact List.mem_cons_self)

/-- A round submits the upcoming line, and writes the prompt and the answer. -/
theorem round_answered (filled : host.Filled) {output : Output}
    (answered : host.editor.answer host.upcoming = .ok output) :
    ∃ next, host.round = (.ok (), next) ∧ next.editor = host.editor.next host.upcoming ∧
      next.input = host.input.tail ∧ next.reads = host.reads + 1 ∧
      next.written = host.written ++ Exchange.shown ⟨host.editor.prompt, output⟩ := by
  have submitted : (EditorM.submit host.upcoming).runOn host.editor =
      (.ok output, host.editor.next host.upcoming) := Prod.ext answered rfl
  let read : Host :=
    { host.write host.editor.prompt with
      editor := host.editor.next host.upcoming
      input := host.input.tail
      reads := host.reads + 1 }
  have rounded : host.round = (.ok (), read.showOutput output) := by
    simp only [round, readLine, feed, showPrompt, write_editor, write_input, write_reads,
      host.read_upcoming filled, submitted, read]
  obtain ⟨editor, input, reads⟩ := read.showOutput_kept output
  refine ⟨_, rounded, editor, input, reads, ?_⟩
  calc (read.showOutput output).written
      = read.written ++ Text.joinLines output.lines := written_showOutput ..
    _ = host.written ++ host.editor.prompt ++ Text.joinLines output.lines :=
        congrArg (· ++ _) (host.written_write host.editor.prompt)
    _ = host.written ++ Exchange.shown ⟨host.editor.prompt, output⟩ := String.append_assoc ..

/-! ## Many rounds -/

/-- What rounds come to: a conversation with the editor, one line asked for each time, and the
transcript of it written. -/
theorem Drives.outcome (drives : host.Drives lines exchanges final) (filled : host.Filled) :
    host.editor.Converses lines exchanges final.editor ∧
      final.reads = host.reads + lines.length ∧
      final.written = host.written ++ transcript exchanges ∧
      final.input = host.input.drop lines.length := by
  induction drives with
  | done host => exact ⟨.done host.editor, rfl, String.append_empty.symm, rfl⟩
  | @round host next final output rest exchanges goesOn answered rounded later ih =>
      obtain ⟨after, same, editor, input, reads, written⟩ := round_answered filled answered
      obtain rfl : next = after := (Prod.ext_iff.mp (rounded.symm.trans same)).2
      obtain ⟨converses, reads', written', input'⟩ := ih fun line member =>
        filled line (List.mem_of_mem_tail (input ▸ member))
      rw [editor] at converses
      refine ⟨.line goesOn answered converses, ?_, ?_, ?_⟩
      · rw [reads', reads, List.length_cons]
        omega
      · rw [written', written, transcript, transcript, List.map_cons, String.join_cons,
          String.append_assoc]
      · rw [input', input, List.drop_tail, List.length_cons]

/-- Rounds after rounds. -/
theorem Drives.trans {middle : Host} {others : List String} {more : List Exchange}
    (earlier : host.Drives lines exchanges middle) (later : middle.Drives others more final) :
    host.Drives (lines ++ others) (exchanges ++ more) final := by
  induction earlier with
  | done host => exact later
  | round goesOn answered rounded rest ih => exact .round goesOn answered rounded (ih later)

/-- A bound on the rounds does not matter if it is not below what the session takes. -/
theorem Drives.rounds (drives : host.Drives lines exchanges final)
    (ended : final.editor.session.ended = true) :
    ∀ bound, lines.length ≤ bound → host.rounds bound = (.ok (), final) := by
  induction drives with
  | done host =>
      intro bound within
      cases bound with
      | zero => rfl
      | succ bound => rw [Host.rounds, if_pos ended]
  | round goesOn answered rounded later ih =>
      intro bound within
      cases bound with
      | zero => cases within
      | succ bound =>
          rw [Host.rounds, if_neg (by rw [goesOn]; decide), rounded]
          exact ih ended bound (Nat.le_of_succ_le_succ within)

/-- The lines of the input are submitted, all of them unless the session ends before. -/
theorem drives_input : ∀ {input : List String} {host : Host}, host.input = input → host.Filled →
    host.editor.Answered input →
    ∃ consumed skipped exchanges middle, input = consumed ++ skipped ∧
      host.Drives consumed exchanges middle ∧
      (skipped = [] ∨ middle.editor.session.ended = true) := by
  intro input
  induction input with
  | nil => exact fun _ _ _ => ⟨[], [], [], _, rfl, .done _, .inl rfl⟩
  | cons line rest ih =>
      rintro host isInput filled ⟨⟨output, answered⟩, later⟩
      cases goesOn : host.editor.session.ended with
      | true => exact ⟨[], line :: rest, [], host, rfl, .done host, .inr goesOn⟩
      | false =>
          obtain rfl : host.upcoming = line := by rw [upcoming, isInput, List.headD_cons]
          obtain ⟨next, rounded, editor, input, -⟩ := round_answered filled answered
          rw [isInput, List.tail_cons] at input
          rw [← editor] at later
          have filled' : next.Filled := by
            intro other member
            rw [input] at member
            exact filled other (by rw [isInput]; exact List.mem_cons_of_mem _ member)
          obtain ⟨consumed, skipped, exchanges, middle, rfl, drives, finished⟩ :=
            ih input filled' later
          exact ⟨_ :: consumed, skipped, _, middle, rfl, .round goesOn answered rounded drives,
            finished⟩

/-- Behind the input, the lines are submitted that bring the session to its end. -/
theorem drives_closing {editor : Editor} {closing : List String}
    (closes : host.editor.Closes closing exchanges editor)
    (finished : host.input = [] ∨ host.editor.session.ended = true) :
    ∃ final, host.Drives closing exchanges final ∧ final.editor.session.ended = true := by
  generalize same : host.editor = start at closes
  induction closes generalizing host with
  | ended ended => exact ⟨host, .done host, same ▸ ended⟩
  | @line start final raw output rest exchanges goesOn closing answered later ih =>
      subst same
      have empty : host.input = [] := finished.resolve_right (by rw [goesOn]; decide)
      obtain rfl : host.upcoming = raw := by rw [upcoming, empty, List.headD_nil, closing]
      have filled : host.Filled := by
        intro line member
        rw [empty] at member
        cases member
      obtain ⟨next, rounded, editor, input, -⟩ := round_answered filled answered
      obtain ⟨final, drives, ended⟩ := ih (.inl (input.trans (by rw [empty]; rfl))) editor
      exact ⟨final, .round goesOn answered rounded drives, ended⟩

/-- **The host always comes to an end, and does what a script does.**  Take a host whose editor is
reachable and whose session has not ended, with an input without empty lines.  No fault escapes from
these lines, and what they ask of the outside comes back.

It runs without a fault until the session has ended, however its rounds are bounded as long as
there can be three more than there are lines.  It submits the lines of the input, all of them
unless the session ends before, and if the session has not ended with them, the lines that end a
text that is being entered and quit.  A script of the input and these lines leaves the editor as the
host does, with the same answers.  What is written is, for one submitted line after the other, the
configured prompt if prompts are shown before the line and a command is awaited, and the lines of
its answer. -/
theorem run_scripted (reachable : host.editor.Reachable)
    (goesOn : host.editor.session.ended = false) (filled : host.Filled)
    (unraised : host.editor.Spared (· ≠ .neverReturns) host.input)
    (returning : host.editor.Spared (· = .neverReturns) host.input) :
    ∃ consumed skipped exchanges final,
      let reached := host.editor.run consumed
      let submitted := consumed ++ reached.closingLines
      host.input = consumed ++ skipped ∧ (skipped = [] ∨ reached.session.ended = true) ∧
      host.run = (.ok (), final) ∧ final.editor.session.ended = true ∧
      (∀ bound, host.input.length + 3 ≤ bound → host.rounds bound = (.ok (), final)) ∧
      host.Drives submitted exchanges final ∧
      final.reads = host.reads + submitted.length ∧
      final.reads ≤ host.reads + host.input.length + 3 ∧
      host.editor.Converses submitted exchanges final.editor ∧
      (EditorM.runScript (host.input ++ reached.closingLines)).runOn host.editor =
        (.ok (exchanges.map Exchange.output), final.editor) ∧
      (∀ index < submitted.length,
        let before := host.editor.run (submitted.take index)
        exchanges[index]?.map Exchange.prompt = some
          (if before.session.promptVisible = true ∧ before.session.mode = .command
            then host.editor.config.prompt else "")) ∧
      final.written = host.written ++ transcript exchanges := by
  obtain ⟨consumed, skipped, exchanges, middle, isInput, drives, finished⟩ :=
    drives_input rfl filled (unraised.answered returning)
  obtain ⟨converses, -, -, left⟩ := drives.outcome filled
  have reached := converses.run
  rw [isInput, List.drop_left] at left
  obtain ⟨more, editor, closes⟩ := (reachable.run consumed).closes
  rw [reached] at closes
  obtain ⟨final, rest, ended⟩ := drives_closing closes (finished.imp_left left.trans)
  have whole := drives.trans rest
  obtain ⟨converses, reads, written, -⟩ := whole.outcome filled
  have few := middle.editor.length_closingLines_le
  have length := congrArg List.length isInput
  rw [List.length_append] at length
  have bounded : ∀ bound, host.input.length + 3 ≤ bound →
      host.rounds bound = (.ok (), final) := by
    intro bound within
    refine whole.rounds ended bound ?_
    rw [List.length_append]
    omega
  refine ⟨consumed, skipped, exchanges ++ more, final, ?_⟩
  rw [reached]
  refine ⟨isInput, finished, bounded _ (Nat.le_refl _), ended, bounded, whole, reads, ?_, converses,
    ?_, converses.prompts reachable, written⟩
  · rw [reads, List.length_append]
    omega
  · rw [isInput]
    rcases finished with rfl | isEnded
    · rw [List.append_nil]
      simpa using converses.script (.inl rfl) goesOn
    · -- Nothing is submitted behind the end, and the script skips what is left.
      have none : middle.editor.closingLines = [] := by rw [Editor.closingLines, if_pos isEnded]
      rw [none, List.append_nil] at converses ⊢
      exact converses.script (.inr ended) goesOn

/-- The input switches the prompt on, and ends while a text is being entered into a buffer with
unsaved changes. -/
theorem run_scripted_unfinished :
    let host := attach (Editor.ofText "one") ["P\n", "1d\n", "a\n", "two\n", "q\n"]
    host.editor.Reachable ∧ host.Filled ∧
      host.editor.Spared (· ≠ .neverReturns) host.input ∧
      host.editor.Spared (· = .neverReturns) host.input ∧
      ∃ final, host.run = (.ok (), final) ∧ final.editor.session.ended = true ∧
        final.editor.buffer.lines = ["two", "q"] ∧ final.reads = 8 ∧
        final.written = "***?\n*" := by
  intro host
  have reachable : host.editor.Reachable := (Editor.reachable_ofText "one").attached _
  have filled : host.Filled := by
    simp [Filled, host, attach]
  have answered : host.editor.Answered host.input := by decide +kernel
  obtain ⟨consumed, skipped, exchanges, final, -, -, run, ended, -⟩ :=
    run_scripted reachable (by decide +kernel) filled (answered.spared _) (answered.spared _)
  have isFinal : final = host.run.2 := by rw [run]
  refine ⟨reachable, filled, answered.spared _, answered.spared _, final, run, ended, ?_⟩
  rw [isFinal]
  decide +kernel

end Console.Host

end LineEditor
