import LineEditor.Proofs.Editor.Filing

/-!
# Saving and loading

A buffer that has been written to a file is found in it again, be the file
loaded or read into another buffer, provided that no line ends within one of its
lines (`Editor.saving_loading_exact`).

A file that has been opened and is written back is not always the same.  Where
the reader takes other characters than line feeds for ends of lines, the writer
puts line feeds (`Editor.rewritten_exactly`).
-/

set_option autoImplicit false

namespace LineEditor

/-! ## Paths on a line -/

namespace Text

variable {text : String}

/-- A text without white space at its ends does not end with white space. -/
theorem getLast?_trimmed (trimmed : strip text = text) {last : Char}
    (isLast : text.toList.getLast? = some last) : isBlank last = false := by
  have chars : trim isBlank text.toList = text.toList := by
    rw [← String.toList_inj, strip, String.toList_ofList] at trimmed
    exact trimmed
  rw [← chars, trim, List.getLast?_reverse] at isLast
  have stops := List.head?_dropWhile_not isBlank (text.toList.dropWhile isBlank).reverse
  rw [isLast] at stops
  simpa using stops

/-- A blank in front is white space at an end. -/
theorem strip_blank (text : String) : strip (" " ++ text) = strip text := by
  have chars : (" " ++ text).toList = ' ' :: text.toList := by simp
  rw [strip, strip, chars, trim, trim, List.dropWhile_cons_of_pos (by decide)]

end Text

/-- A line that ends with a path has no line end. -/
theorem withoutLineEnd_trimmed (front : String) {path : String}
    (trimmed : Text.strip path = path) (present : path ≠ "") :
    withoutLineEnd (front ++ path) = front ++ path := by
  have filled : path.toList ≠ [] := mt String.toList_eq_nil_iff.mp present
  obtain ⟨last, isLast⟩ := Option.ne_none_iff_exists'.mp (mt List.getLast?_eq_none_iff.mp filled)
  have plain := Text.getLast?_trimmed trimmed isLast
  have feed : last ≠ '\n' := by
    rintro rfl
    exact absurd plain (by decide)
  have carriage : last ≠ '\r' := by
    rintro rfl
    exact absurd plain (by decide)
  have ends : (front ++ path).toList.getLast? = some last := by
    rw [String.toList_append, List.getLast?_append, isLast]
    rfl
  simp only [withoutLineEnd, ends, Option.some.injEq, feed, carriage, if_false,
    String.ofList_toList]

namespace Editor

variable {editor : Editor} {path : String} {output : Output}

section Given

variable (trimmed : Text.strip path = path) (present : path ≠ "")
include trimmed present

theorem givenPath?_trimmed : EditorM.givenPath? (" " ++ path) = some path := by
  rw [EditorM.givenPath?, Text.strip_blank, trimmed, if_neg]
  rw [String.isEmpty_iff]
  exact present

/-- A completed line that writes to a path has saved the buffer there. -/
theorem saved_of_write (own : editor.registry = Registry.own) (awaits : editor.AwaitsCommand)
    (answered : editor.answer ("w " ++ path) = .ok output) (completed : output.kind ≠ .error) :
    ∃ saved, editor.buffer.save editor.platform.codecs editor.disk (some path) =
        .ok (editor.buffer.text.length, saved, (editor.next ("w " ++ path)).disk) ∧
      output = { kind := .text, lines := [toString editor.buffer.text.length] } := by
  have line : "w " ++ path = "w" ++ (" " ++ path) := by
    rw [← String.append_assoc]
    rfl
  have whole : withoutLineEnd ("w" ++ (" " ++ path)) = "w" ++ (" " ++ path) := by
    rw [← line]
    exact withoutLineEnd_trimmed "w " trimmed present
  obtain ⟨spec, invocation, invokes, handler, keeps, args⟩ := invokes_write own whole
  have effect := (EditorM.ensures_submit_write awaits invokes handler keeps).of_ok
    (line ▸ answered)
  rw [args, givenPath?_trimmed trimmed present, ← line] at effect
  rcases effect with ⟨count, saved, disk, success, shown, -, isDisk⟩ | ⟨-, failed⟩
  · obtain ⟨job, prepared, -, isCount, -⟩ := Buffer.save_eq_ok_iff.mp success
    have length := (Buffer.prepareSave_eq_ok_iff.mp prepared).2.1
    rw [isCount, length] at success shown
    rw [← isDisk] at success
    exact ⟨saved, success, shown⟩
  · exact absurd failed completed

/-- A line that reads a file which holds a text of unbroken lines inserts these lines. -/
theorem inserted_of_read {reader : Editor} (own : reader.registry = Registry.own)
    (awaits : reader.AwaitsCommand) {number : Nat} (first : 1 ≤ number)
    (last : number ≤ reader.buffer.lastLine) (short : (toString number).length ≤ Text.digitLimit)
    {text : String}
    (readable : reader.disk.readText reader.platform.codecs path reader.config.encoding =
      .ok text) :
    reader.answer (toString number ++ "r " ++ path) =
        .ok { kind := .text, lines := [toString text.length] } ∧
      reader.buffer.Inserted number (Text.splitLines text)
        (reader.next (toString number ++ "r " ++ path)).buffer := by
  have line : toString number ++ "r " ++ path = toString number ++ ("r" ++ (" " ++ path)) := by
    have letter : "r " = "r" ++ " " := rfl
    simp only [letter, String.append_assoc]
  have whole : withoutLineEnd (toString number ++ ("r" ++ (" " ++ path))) =
      toString number ++ ("r" ++ (" " ++ path)) := by
    rw [← line]
    exact withoutLineEnd_trimmed _ trimmed present
  obtain ⟨spec, invocation, invokes, handler, mutates, args, start⟩ :=
    invokes_read own whole short first last
  have isPath : Text.strip invocation.args = path := by
    rw [args, Text.strip_blank, trimmed]
  have long : 2 ≤ invocation.args.length := by
    have filled : path.length ≠ 0 := mt String.length_eq_zero_iff.mp present
    have blank : (" " : String).length = 1 := rfl
    rw [args, String.length_append, blank]
    omega
  have effect := EditorM.ensures_submit_read awaits invokes handler mutates isPath present long
    readable
  rw [start, ← line] at effect
  have ensured := EditorM.Ensures.run
    (fun outcome after => outcome = .ok { kind := .text, lines := [toString text.length] } ∧
      reader.buffer.Inserted number (Text.splitLines text) after.buffer)
    (effect.mono (fun _ _ shown => ⟨congrArg Except.ok shown.1, shown.2⟩)
      (fun _ _ impossible => impossible.elim))
  exact ensured

end Given

/-- **Lines are saved and loaded exactly, if no line ends within one of them.**  A document is found
again in its text under no other condition.

Take a buffer of such lines in one of the own codes, in an editor with its own commands that awaits
a command, and a path without white space at its ends that names a file, which is there or not, and
may be read.  Once `w` has written the buffer there, the file is loaded with these lines, the last
of them being the current one.  Any editor with its own commands that awaits a command, on that disk
and with the same encoding, reads exactly these lines behind the line that `r` is given, and shows
the number of characters that `w` has shown.  The three may stand on different platforms. -/
theorem saving_loading_exact :
    (∀ lines : List String, (Document.ofText (Document.ofLines lines).text).lines = lines ↔
      ∀ line ∈ lines, Text.Unbroken line) ∧
    ∀ (editor : Editor) (codec : Text.Codec) (path : String) (output : Output),
      editor.registry = Registry.own → editor.AwaitsCommand →
      (∀ line ∈ editor.buffer.lines, Text.Unbroken line) →
      Text.Codec.ofName? editor.buffer.encoding = some codec →
      path ≠ "" → Text.strip path = path → editor.disk.NamesFile path →
      editor.answer ("w " ++ path) = .ok output → output.kind ≠ .error →
      output = { kind := .text, lines := [toString editor.buffer.text.length] } ∧
      (∀ codecs encoding, Text.Codec.ofName? encoding = some codec →
        ∃ loaded, Buffer.load codecs (editor.next ("w " ++ path)).disk path encoding = .ok loaded ∧
          loaded.lines = editor.buffer.lines ∧
          loaded.current = max 1 editor.buffer.lineCount) ∧
      ∀ (reader : Editor) (number : Nat),
        reader.registry = Registry.own → reader.AwaitsCommand →
        reader.disk = (editor.next ("w " ++ path)).disk →
        Text.Codec.ofName? reader.config.encoding = some codec →
        1 ≤ number → number ≤ reader.buffer.lastLine →
        (toString number).length ≤ Text.digitLimit →
        reader.answer (toString number ++ "r " ++ path) = .ok output ∧
          reader.buffer.Inserted number editor.buffer.lines
            (reader.next (toString number ++ "r " ++ path)).buffer := by
  refine ⟨Text.splitLines_joinLines_iff, ?_⟩
  intro editor codec path output own awaits unbroken named present trimmed isFile answered completed
  obtain ⟨saved, success, shown⟩ := saved_of_write trimmed present own awaits answered completed
  obtain ⟨job, prepared, written, -, -⟩ := Buffer.save_eq_ok_iff.mp success
  obtain ⟨target, -, coding, isCoding, encoded⟩ := Buffer.prepareSave_eq_ok_iff.mp prepared
  obtain rfl : codec.coding = coding :=
    Except.ok.inj ((Disk.codingNamed_own named).symm.trans isCoding)
  have faithful : codec.coding.decode? job.bytes = some editor.buffer.text :=
    Text.Codec.decode?_eq_some_iff.mpr encoded
  rw [Buffer.target?_given present] at target
  obtain rfl : path = job.target := Option.some.inj target
  have readable := Disk.contents_write written isFile
  refine ⟨shown, ?_, ?_⟩
  · intro codecs encoding same
    exact Buffer.load_saved readable (Disk.codingNamed_own same) faithful unbroken
  · intro reader number own' awaits' disk same first last short
    have coded : Disk.codingNamed reader.platform.codecs reader.config.encoding =
        .ok codec.coding := Disk.codingNamed_own same
    have isText := Buffer.readText_saved readable coded faithful unbroken
    rw [← disk] at isText
    have inserted := inserted_of_read trimmed present own' awaits' first last short isText
    have lines : Text.splitLines editor.buffer.text = editor.buffer.lines :=
      (Text.splitLines_joinLines_iff editor.buffer.lines).mpr unbroken
    rw [lines] at inserted
    rw [shown]
    exact inserted

/-- Two lines are written to a file, and then read from it behind the first one of them. -/
theorem saving_loading_exact_twice :
    (∀ line ∈ (ofText "one\ntwo").buffer.lines, Text.Unbroken line) ∧
      (ofText "one\ntwo").answer "w f" = .ok { kind := .text, lines := ["8"] } ∧
      ((ofText "one\ntwo").next "w f").answer "1r f" = .ok { kind := .text, lines := ["8"] } ∧
      (((ofText "one\ntwo").next "w f").next "1r f").buffer.lines = ["one", "one", "two", "two"] ∧
      (((ofText "one\ntwo").next "w f").next "1r f").buffer.current = 3 := by
  have unbroken : ∀ line ∈ (ofText "one\ntwo").buffer.lines, Text.Unbroken line := by
    decide +kernel
  have answered : (ofText "one\ntwo").answer "w f" = .ok { kind := .text, lines := ["8"] } :=
    eq_ok_of_toOption (by decide +kernel)
  have own : (ofText "one\ntwo").registry = Registry.own := by decide +kernel
  have awaits : (ofText "one\ntwo").AwaitsCommand := ⟨by decide +kernel, by decide +kernel⟩
  have reading := (saving_loading_exact.2 (ofText "one\ntwo") .utf8 "f" _ own awaits unbroken
    (by decide +kernel) (by decide) (by decide +kernel)
    ⟨["f"], by decide +kernel, by decide +kernel⟩ answered (by decide)).2.2
  have line : toString 1 ++ "r " ++ "f" = "1r f" := by decide +kernel
  have inserted := reading ((ofText "one\ntwo").next "w f") 1 (by decide +kernel)
    ⟨by decide +kernel, by decide +kernel⟩ rfl (by decide +kernel) (by decide) (by decide +kernel)
    (by decide +kernel)
  rw [line] at inserted
  obtain ⟨shown, lines, current⟩ := inserted
  refine ⟨unbroken, answered, shown, ?_, ?_⟩
  · rw [lines]
    decide +kernel
  · rw [current (by decide +kernel)]
    decide +kernel

/-- What is written to the null device is not read back.  Without a name the buffer is written to
its own file, and no file is loaded. -/
theorem saving_loading_lost :
    (∀ line ∈ (ofText "one").buffer.lines, Text.Unbroken line) ∧
    (Text.strip "/dev/null" = "/dev/null" ∧
      (ofText "one").answer "w /dev/null" = .ok { kind := .text, lines := ["4"] } ∧
      ((ofText "one").next "w /dev/null").answer "1r /dev/null" =
        .ok { kind := .text, lines := ["0"] } ∧
      (((ofText "one").next "w /dev/null").next "1r /dev/null").buffer.lines = ["one"]) ∧
    Text.strip "" = "" ∧
      ((ofText "one").next "w f").answer "w " = .ok { kind := .text, lines := ["4"] } ∧
      (Buffer.load (fun _ => none) ((ofText "one").run ["w f", "w "]).disk "" "utf-8").toOption =
        none := by
  refine ⟨by decide +kernel, ?_, ?_⟩
  · refine ⟨?_, eq_ok_of_toOption ?_, eq_ok_of_toOption ?_, ?_⟩
    · decide +kernel
    · decide +kernel
    · decide +kernel
    · decide +kernel
  · refine ⟨?_, eq_ok_of_toOption ?_, ?_⟩
    · decide +kernel
    · decide +kernel
    · decide +kernel

/-! ## Opening a file and writing it back -/

/-- An editor that is opened for a file has loaded it and awaits a command. -/
theorem openFile_of_load {config : Config} {disk : Disk} {platform : Platform} {buffer : Buffer}
    (loaded : Buffer.load platform.codecs disk path config.encoding = .ok buffer)
    (journal : Telemetry.Journal) :
    ∃ editor, openFile config disk platform path journal = .ok editor ∧
      editor.registry = Registry.own ∧ editor.AwaitsCommand ∧ editor.buffer = buffer ∧
      editor.disk = disk ∧ editor.platform = platform := by
  have launched : openFile config disk platform path journal =
      launch { config, buffer? := some buffer, disk, platform } journal := by
    rw [openFile, loaded]
    rfl
  obtain ⟨final, success⟩ := launch_eq { config, buffer? := some buffer, disk, platform } journal
  exact ⟨_, launched.trans success, rfl, ⟨rfl, rfl⟩, rfl, rfl, rfl⟩

/-- A buffer that can be saved to its own file is saved there by `w` alone. -/
theorem answer_write (own : editor.registry = Registry.own) (awaits : editor.AwaitsCommand)
    {count : Nat} {saved : Buffer} {after : Disk}
    (success :
      editor.buffer.save editor.platform.codecs editor.disk none = .ok (count, saved, after)) :
    editor.answer "w" = .ok { kind := .text, lines := [toString count] } ∧
      (editor.next "w").disk = after := by
  obtain ⟨spec, invocation, invokes, handler, keeps, args⟩ :=
    invokes_write own (show withoutLineEnd ("w" ++ "") = "w" ++ "" by decide)
  have effect := EditorM.ensures_submit_write awaits invokes handler keeps
  rw [args, show EditorM.givenPath? "" = none by decide, success] at effect
  refine EditorM.Ensures.run
    (fun outcome next => outcome = .ok { kind := .text, lines := [toString count] } ∧
      next.disk = after) (effect.mono ?_ fun _ _ fails => absurd rfl (fails _))
  rintro output next (⟨_, _, _, same, rfl, -, rfl⟩ | ⟨fails, -⟩)
  · cases same
    exact ⟨rfl, rfl⟩
  · exact absurd rfl (fails _)

/-- **A file that is opened and written back gets a line feed for each line boundary.**  Take a file
whose bytes are UTF-8 and whose text holds no carriage return and is empty or ends with a line feed.
It is opened, and if it can be replaced, `w` shows the number of its characters.  Afterwards it
holds its text with a line feed in place of each boundary, so its bytes are the same exactly if all
of its boundaries are line feeds. -/
theorem rewritten_exactly {config : Config} {disk : Disk} {platform : Platform} {bytes : ByteArray}
    {text : String} (coded : Text.Codec.ofName? config.encoding = some .utf8)
    (readable : disk.contents path = .ok bytes) (rewritable : disk.Rewritable path)
    (decoded : Text.Codec.utf8.decode? bytes = some text) (uncarried : '\r' ∉ text.toList)
    (closed : text = "" ∨ text.toList.getLast? = some '\n') (journal : Telemetry.Journal) :
    ∃ editor, openFile config disk platform path journal = .ok editor ∧
      editor.answer "w" = .ok { kind := .text, lines := [toString text.length] } ∧
      (editor.next "w").disk.contents path = .ok (Text.withFeeds text).toUTF8 ∧
      ((editor.next "w").disk.contents path = .ok bytes ↔
        ∀ char ∈ text.toList, char ∈ Text.lineBoundaries → char = '\n') := by
  have named : Disk.codingNamed platform.codecs config.encoding =
      .ok Text.Codec.utf8.coding := Disk.codingNamed_own coded
  obtain ⟨loaded, success, lines, -, ownPath, encoding⟩ :=
    Buffer.load_of_contents readable named decoded uncarried
  obtain ⟨editor, opened, own, awaits, rfl, rfl, rfl⟩ := openFile_of_load success journal
  have last : ∀ char, text.toList.getLast? = some char → char = '\n' := by
    intro char isLast
    rcases closed with rfl | feed
    · cases isLast
    · exact Option.some.inj (isLast.symm.trans feed)
  have isText : editor.buffer.text = Text.withFeeds text :=
    (congrArg Text.joinLines lines).trans (Text.joinLines_splitLines uncarried last)
  have length : editor.buffer.text.length = text.length := by
    rw [isText, Text.length_withFeeds]
  obtain ⟨after, written, found⟩ :=
    Disk.write_over readable rewritable (Text.withFeeds text).toUTF8
  let job : SaveJob :=
    { target := FilePath.normal path, bytes := (Text.withFeeds text).toUTF8, length := text.length }
  have prepared : editor.buffer.prepareSave editor.platform.codecs none = .ok job := by
    refine Buffer.prepareSave_eq_ok_iff.mpr
      ⟨Buffer.target?_own ownPath (FilePath.normal_ne_empty path), length.symm,
        Text.Codec.utf8.coding, Disk.codingNamed_own ?_, ?_⟩
    · rw [encoding, coded]
    · rw [isText]
      rfl
  have saved : editor.buffer.save editor.platform.codecs editor.disk none =
      .ok (text.length, editor.buffer.markSaved job.target, after) :=
    Buffer.save_eq_ok_iff.mpr
      ⟨job, prepared, (Disk.write_normal _ path _).trans written, rfl, rfl⟩
  obtain ⟨answered, isDisk⟩ := answer_write own awaits saved
  have holds : after.contents path = .ok (Text.withFeeds text).toUTF8 := by
    rcases found with replaced | ⟨rfl, nothing⟩
    · exact replaced
    · obtain rfl : "" = text := Option.some.inj decoded
      exact nothing
  refine ⟨editor, opened, answered, by rw [isDisk, holds], ?_⟩
  have isBytes : text.toUTF8 = bytes :=
    Option.some.inj (Text.Codec.decode?_eq_some_iff.mp decoded)
  rw [isDisk, holds, Except.ok.injEq, ← isBytes, String.toUTF8_eq_toByteArray,
    String.toUTF8_eq_toByteArray, String.toByteArray_inj, Text.withFeeds_eq_self_iff]

/-- A file of two lines is opened and written back as it was. -/
theorem rewritten_exactly_feeds :
    ({ files := [(["f"], "one\ntwo\n".toUTF8)] } : Disk).contents "f" =
        .ok "one\ntwo\n".toUTF8 ∧
      ({ files := [(["f"], "one\ntwo\n".toUTF8)] } : Disk).Rewritable "f" ∧
      ∃ editor, openFile {} { files := [(["f"], "one\ntwo\n".toUTF8)] } {} "f"
          { configuration := ⟨0, []⟩ } = .ok editor ∧
        editor.answer "w" = .ok { kind := .text, lines := ["8"] } ∧
        (editor.next "w").disk.contents "f" = .ok "one\ntwo\n".toUTF8 := by
  have readable : ({ files := [(["f"], "one\ntwo\n".toUTF8)] } : Disk).contents "f" =
      .ok "one\ntwo\n".toUTF8 := eq_ok_of_toOption (by decide +kernel)
  have rewritable : ({ files := [(["f"], "one\ntwo\n".toUTF8)] } : Disk).Rewritable "f" :=
    .inl ⟨["f"], by decide +kernel, rfl⟩
  have decoded : Text.Codec.utf8.decode? "one\ntwo\n".toUTF8 = some "one\ntwo\n" :=
    Text.Codec.decode?_eq_some_iff.mpr rfl
  obtain ⟨editor, opened, answered, -, same⟩ := rewritten_exactly
    (show Text.Codec.ofName? ({} : Config).encoding = some .utf8 by decide +kernel) readable
    rewritable decoded (by decide +kernel) (.inr (by decide +kernel)) { configuration := ⟨0, []⟩ }
  have feeds := (Text.withFeeds_eq_self_iff "one\ntwo\n").mp (by decide +kernel)
  exact ⟨readable, rewritable, editor, opened, answered, same.mpr feeds⟩

/-- A form feed comes back as a line feed. -/
theorem rewritten_form_feed :
    ({ files := [(["f"], "a\x0cb\n".toUTF8)] } : Disk).contents "f" = .ok "a\x0cb\n".toUTF8 ∧
      (openFile {} { files := [(["f"], "a\x0cb\n".toUTF8)] } {} "f"
          { configuration := ⟨0, []⟩ }).map (fun editor =>
            ((editor.answer "w").toOption, ((editor.next "w").disk.contents "f").toOption)) =
        .ok (some { kind := .text, lines := ["4"] }, some "a\nb\n".toUTF8) ∧
      "a\nb\n".toUTF8 ≠ "a\x0cb\n".toUTF8 := by
  refine ⟨eq_ok_of_toOption ?_, eq_ok_of_toOption ?_, ?_⟩
  · decide +kernel
  · decide +kernel
  · decide +kernel

end Editor

end LineEditor
