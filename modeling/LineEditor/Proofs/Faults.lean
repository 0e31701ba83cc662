import LineEditor.Buffer.Edit
import LineEditor.Editor.Outside
import LineEditor.Proofs.Address.Resolving
import LineEditor.Proofs.Buffer.Filing
import LineEditor.Proofs.Pattern.Reading
import LineEditor.Proofs.PlainOutcome

/-!
# Where faults come from

Most of what goes wrong is a refusal, or it would be the misuse of a buffer
(`Fault.IsKnown`).  What else can go wrong where addresses and patterns are read
has its cause in a text that has been typed: a run of more digits than can be
read, or a pattern that is unfit in another way than being malformed, for what
stands in it (`Provoked`).  Files and shell commands have troubles of their own
(`FileTrouble`, `ShellTrouble`).

Remembered patterns are never to blame, as long as all of them are patterns
(`Session.Readable`).  Addresses and substitutions remember patterns only
(`Address.isPattern_resolve`, `Substitution.isPattern_read`).
-/

set_option autoImplicit false

namespace LineEditor

/-- A fault that the editor answers, or the misuse of a buffer. -/
def Fault.IsKnown (fault : Fault) : Prop :=
  fault.isRoutine = true ∨ fault.IsMisuse

/-! ## Outcomes -/

/-- An outcome that fails, if it does, with a fault of some kind. -/
def FailsOnly {α : Type} (kind : Fault → Prop) (outcome : Except Fault α) : Prop :=
  ∀ fault, outcome = .error fault → kind fault

namespace FailsOnly

variable {α β : Type} {kind : Fault → Prop}

theorem ok (result : α) : FailsOnly kind (.ok result) := by
  intro fault failed
  cases failed

theorem error {fault : Fault} (known : kind fault) :
    FailsOnly kind (.error fault : Except Fault α) := by
  intro other failed
  cases failed
  exact known

theorem bind {first : Except Fault α} {next : α → Except Fault β} (heads : FailsOnly kind first)
    (rests : ∀ result, first = .ok result → FailsOnly kind (next result)) :
    FailsOnly kind (first >>= next) := by
  cases first with
  | ok result => exact rests result rfl
  | error fault => exact error (heads fault rfl)

theorem mono {outcome : Except Fault α} {other : Fault → Prop} (fails : FailsOnly kind outcome)
    (weaker : ∀ fault, kind fault → other fault) : FailsOnly other outcome :=
  fun fault failed => weaker fault (fails fault failed)

end FailsOnly

/-! ## Buffers -/

namespace Buffer

variable (buffer : Buffer)

theorem fails_checkLine (lowest line : Int) :
    FailsOnly Fault.IsMisuse (buffer.checkLine lowest line) := by
  rw [checkLine]
  split
  · exact .error ⟨_, rfl⟩
  · exact .ok ()

theorem fails_checkRange (start finish : Int) :
    FailsOnly Fault.IsMisuse (buffer.checkRange start finish) := by
  refine .bind (buffer.fails_checkLine 1 start) fun _ _ =>
    .bind (buffer.fails_checkLine 1 finish) fun _ _ => ?_
  split
  · exact .error ⟨_, rfl⟩
  · exact .ok _

theorem fails_setCurrent (line : Int) : FailsOnly Fault.IsMisuse (buffer.setCurrent line) := by
  rw [setCurrent]
  split
  · exact .error ⟨_, rfl⟩
  · exact .ok _

theorem fails_readRange (start finish : Int) :
    FailsOnly Fault.IsMisuse (buffer.readRange start finish) := by
  rw [readRange]
  split
  · exact .ok _
  · exact .bind (buffer.fails_checkRange start finish) fun _ _ => .ok _

theorem fails_insertLines (after : Int) (lines : List String) :
    FailsOnly Fault.IsMisuse (buffer.insertLines after lines) := by
  refine .bind (buffer.fails_checkLine 0 after) fun _ _ => ?_
  split
  · exact .ok _
  · exact .ok _

theorem fails_deleteRange (start finish : Int) :
    FailsOnly Fault.IsMisuse (buffer.deleteRange start finish) :=
  .bind (buffer.fails_checkRange start finish) fun _ _ => .ok _

theorem fails_removeRange (start stop : Nat) :
    FailsOnly Fault.IsMisuse (buffer.removeRange start stop) := by
  rw [removeRange]
  split
  · exact .ok _
  · exact buffer.fails_deleteRange start stop

theorem fails_removeLines (start stop : Nat) :
    FailsOnly Fault.IsMisuse (buffer.removeLines start stop) :=
  .bind (buffer.fails_removeRange start stop) fun removed _ => removed.fails_setCurrent _

theorem fails_joinLines (start stop : Nat) :
    FailsOnly Fault.IsMisuse (buffer.joinLines start stop) :=
  .bind (buffer.fails_readRange _ _) fun _ _ =>
    .bind (buffer.fails_deleteRange _ _) fun removed _ =>
      .bind (removed.fails_insertLines _ _) fun joined _ => joined.fails_setCurrent _

theorem fails_moveLines (start stop target : Nat) :
    FailsOnly Fault.IsMisuse (buffer.moveLines start stop target) :=
  .bind (buffer.fails_readRange _ _) fun _ _ =>
    .bind (buffer.fails_deleteRange _ _) fun removed _ =>
      .bind (removed.fails_insertLines _ _) fun moved _ => moved.fails_setCurrent _

theorem fails_copyLines (start stop target : Nat) :
    FailsOnly Fault.IsMisuse (buffer.copyLines start stop target) :=
  .bind (buffer.fails_readRange _ _) fun _ _ => .bind (buffer.fails_insertLines _ _) fun copied _ =>
    copied.fails_setCurrent _

theorem fails_replaceLine (number : Nat) (line : String) :
    FailsOnly Fault.IsMisuse (buffer.replaceLine number line) :=
  .bind (buffer.fails_deleteRange _ _) fun removed _ => removed.fails_insertLines _ _

theorem fails_replaceLines (changes : List (Nat × String)) : ∀ buffer : Buffer,
    FailsOnly Fault.IsMisuse (buffer.replaceLines changes) := by
  induction changes with
  | nil => exact fun buffer => .ok buffer
  | cons change rest ih =>
      intro buffer
      exact .bind (buffer.fails_replaceLine _ _) fun replaced _ => ih replaced

theorem fails_insertText (after : Nat) (text : String) :
    FailsOnly Fault.IsMisuse (buffer.insertText after text) := by
  refine .bind (buffer.fails_insertLines _ _) fun inserted _ => ?_
  split
  · exact .ok _
  · exact inserted.fails_setCurrent _

end Buffer

/-! ## What a text can provoke -/

/-- A text that is a pattern. -/
def IsPattern (engine : Pattern.Engine) (text : String) : Prop :=
  ∃ compiled, Pattern.read engine text = .ok compiled

/-- A fault that a text can provoke when numbers and patterns in it are read. -/
inductive Provoked (engine : Pattern.Engine) (chars : List Char) : Fault → Prop where
  | tooLong {digits : List Char} (run : Address.Run chars digits)
      (excess : Text.digitLimit < digits.length) :
      Provoked engine chars (.tooManyDigits digits.length)
  | unfit {text : String} {cause : Pattern.PatternFault} (part : text.toList <:+: chars)
      (read : Pattern.read engine text = .error cause) (other : cause ≠ .malformed)
      (fails : Pattern.Fails engine text.toList cause) : Provoked engine chars (.ofPattern cause)

/-- A pattern that is unfit provokes its fault. -/
theorem Provoked.pattern {engine : Pattern.Engine} {chars : List Char} {text : String}
    {cause : Pattern.PatternFault} (part : text.toList <:+: chars)
    (read : Pattern.read engine text = .error cause) (other : cause ≠ .malformed) :
    Provoked engine chars (.ofPattern cause) :=
  .unfit part read other (Pattern.fails_read read)

/-- What a part of a text provokes, the text provokes. -/
theorem Provoked.mono {engine : Pattern.Engine} {chars others : List Char} {fault : Fault}
    (provoked : Provoked engine chars fault) (part : chars <:+: others) :
    Provoked engine others fault := by
  cases provoked with
  | tooLong run excess => exact .tooLong ⟨run.part.trans part, run.decimal⟩ excess
  | unfit within read other fails => exact .unfit (within.trans part) read other fails

/-- All remembered patterns are patterns. -/
structure Session.Readable (engine : Pattern.Engine) (session : Session) : Prop where
  search : ∀ text, session.lastSearch? = some text → IsPattern engine text
  substitution : ∀ substitution, session.lastSubstitution? = some substitution →
    IsPattern engine substitution.pattern

/-! ## Addresses -/

namespace Address

theorem Sought.isInfix {chars body : List Char} (sought : Sought chars body) : body <:+: chars := by
  obtain ⟨isForward, rest, rfl, rfl⟩ := sought
  exact (List.takeWhile_prefix _).isInfix.trans (List.suffix_cons _ rest).isInfix

/-- The pattern that a search asks for is part of its text, or the remembered one. -/
theorem Asks.part_or {lastSearch? : Option String} {body : List Char} {text : String}
    (asks : Asks lastSearch? body text) : text.toList = body ∨ lastSearch? = some text := by
  rw [Asks] at asks
  split at asks
  · exact .inr asks
  · rw [asks, String.toList_ofList]
    exact .inl rfl

variable {engine : Pattern.Engine} {buffer : Buffer} {marks : Marks} {lastSearch? : Option String}

/-- A search that finds a line was made with a pattern. -/
theorem isPattern_searchLine {isForward : Bool} {body : List Char} {line : Int} {text : String}
    (found : searchLine engine buffer lastSearch? isForward body = .ok (line, text)) :
    IsPattern engine text := by
  rw [searchLine_eq] at found
  cases asked : effectivePattern lastSearch? body with
  | error fault =>
      rw [asked] at found
      cases found
  | ok other =>
      cases read : readPattern engine other with
      | error fault =>
          rw [asked] at found
          simp only [bind, Except.bind, read] at found
          cases found
      | ok compiled =>
          obtain ⟨found?, nearest⟩ := nearestMatch_ok buffer isForward compiled.pattern
          rw [asked] at found
          simp only [bind, Except.bind, read, nearest] at found
          cases found? with
          | none => cases found
          | some nearestLine =>
              cases found
              exact ⟨compiled, readPattern_eq_ok.mp read⟩

theorem isPattern_resolveBase {base : Base} {line : Int} {remembered? : Option String}
    (readable : ∀ text, lastSearch? = some text → IsPattern engine text)
    (resolved : resolveBase engine buffer marks lastSearch? base = .ok (line, remembered?)) :
    ∀ text, remembered? = some text → IsPattern engine text := by
  have kept : ∀ outcome : Except Fault Int,
      outcome.map (·, lastSearch?) = .ok (line, remembered?) → remembered? = lastSearch? := by
    rintro (fault | value) same
    · cases same
    · cases same
      rfl
  cases base with
  | current =>
      cases resolved
      exact readable
  | last =>
      cases resolved
      exact readable
  | number digits =>
      rw [kept _ resolved]
      exact readable
  | mark name =>
      rw [kept _ resolved]
      exact readable
  | search isForward body =>
      simp only [resolveBase] at resolved
      cases found : searchLine engine buffer lastSearch? isForward body with
      | error fault =>
          rw [found] at resolved
          cases resolved
      | ok result =>
          rw [found] at resolved
          cases resolved
          rintro text ⟨⟩
          exact isPattern_searchLine found

/-- **Resolving an address remembers only patterns.** -/
theorem isPattern_resolve (readable : ∀ text, lastSearch? = some text → IsPattern engine text)
    (token : String) :
    ∀ text, (resolve engine buffer marks lastSearch? token).2 = some text →
      IsPattern engine text := by
  rw [resolve]
  dsimp only
  split
  · exact readable
  · rename_i resolved
    exact isPattern_resolveBase readable resolved

/-- **Resolving an address is refused, or its text provokes the fault.** -/
theorem provoked_resolve (readable : ∀ text, lastSearch? = some text → IsPattern engine text)
    (token : String) :
    FailsOnly (fun fault => fault.isRoutine = true ∨ Provoked engine token.toList fault)
      (resolve engine buffer marks lastSearch? token).1 := by
  intro fault failed
  cases fails_resolve failed with
  | refused cause => exact .inl rfl
  | tooLong run excess => exact .inr (.tooLong run excess)
  | unfit sought asks read other =>
      rcases asks.part_or with same | remembered
      · exact .inr (.pattern (same ▸ sought.isInfix) read other)
      · obtain ⟨compiled, reads⟩ := readable _ remembered
        rw [reads] at read
        cases read

end Address

/-! ## Substitutions -/

/-- The first part of a text is its start, and the others are parts of it. -/
theorem Text.splitAt_parts (separator : Char) (chars : List Char) :
    ∃ first others, Text.splitAt separator chars = first :: others ∧ first <+: chars ∧
      ∀ part ∈ others, part <:+: chars := by
  induction chars with
  | nil => exact ⟨[], [], rfl, List.prefix_refl [], by simp⟩
  | cons char rest ih =>
      obtain ⟨first, others, same, start, parts⟩ := ih
      have behind : ∀ part, part <:+: rest → part <:+: char :: rest := fun part infixed =>
        infixed.trans (List.suffix_cons char rest).isInfix
      rw [Text.splitAt, same]
      split
      · refine ⟨[], first :: others, rfl, List.nil_prefix, ?_⟩
        rw [List.forall_mem_cons]
        exact ⟨behind first start.isInfix, fun part member => behind part (parts part member)⟩
      · exact ⟨char :: first, others, rfl, (List.prefix_cons_inj char).mpr start,
          fun part member => behind part (parts part member)⟩

theorem Text.isInfix_of_mem_splitAt {separator : Char} {chars part : List Char}
    (member : part ∈ Text.splitAt separator chars) : part <:+: chars := by
  obtain ⟨first, others, same, start, parts⟩ := Text.splitAt_parts separator chars
  rw [same, List.mem_cons] at member
  rcases member with rfl | other
  · exact start.isInfix
  · exact parts part other

namespace Substitution

variable {engine : Pattern.Engine}

/-- The pattern is part of the arguments. -/
theorem fields_part {args : String} {pattern replacement suffix : List Char}
    (read : fields args = .ok (pattern, replacement, suffix)) : pattern <:+: args.toList := by
  refine @Text.isInfix_of_mem_splitAt '/' _ _ ?_
  rw [fields] at read
  split at read
  · rename_i same
    cases read
    simp [same]
  · rename_i same
    cases read
    simp [same]
  · cases read

theorem fails_fields (args : String) :
    FailsOnly (fun fault => fault.isRoutine = true) (fields args) := by
  rw [fields]
  split
  · exact .ok _
  · exact .ok _
  · exact .error rfl

theorem fails_effectivePattern (lastSearch? : Option String) (pattern : List Char) :
    FailsOnly (fun fault => fault.isRoutine = true) (effectivePattern lastSearch? pattern) := by
  unfold effectivePattern
  split
  · split
    · exact .ok _
    · exact .error rfl
  · exact .ok _

/-- The pattern that is meant was typed, or it is the remembered one. -/
theorem effectivePattern_cases {lastSearch? : Option String} {pattern : List Char} {text : String}
    (meant : effectivePattern lastSearch? pattern = .ok text) :
    text.toList = pattern ∨ lastSearch? = some text := by
  unfold effectivePattern at meant
  split at meant
  · split at meant
    · cases meant
      exact .inr rfl
    · cases meant
  · cases meant
    exact .inl (String.toList_ofList ..)

/-- Reading a pattern is refused, or it provokes the fault. -/
theorem provoked_readPattern {text : String} {chars : List Char}
    (origin : text.toList <:+: chars ∨ IsPattern engine text) :
    FailsOnly (fun fault => fault.isRoutine = true ∨ Provoked engine chars fault)
      (readPattern engine text) := by
  rw [readPattern]
  split
  · exact .ok _
  · exact .error (.inl rfl)
  · rename_i cause other read
    rcases origin with part | ⟨compiled, reads⟩
    · exact .error (.inr (.pattern part read other))
    · rw [reads] at read
      cases read

theorem isPattern_readPattern {text : String} {compiled : Pattern.Compiled}
    (read : readPattern engine text = .ok compiled) : IsPattern engine text := by
  rw [readPattern] at read
  split at read
  · rename_i reads
    exact ⟨_, reads⟩
  · cases read
  · cases read

theorem isPattern_readFields {args : String} {lastSearch? : Option String}
    {substitution : Substitution}
    (success : readFields engine args lastSearch? = .ok substitution) :
    IsPattern engine substitution.pattern := by
  rw [readFields] at success
  cases split : fields args with
  | error fault => simp [split, bind, Except.bind] at success
  | ok parts =>
      obtain ⟨pattern, replacement, suffix⟩ := parts
      simp only [split, bind, Except.bind] at success
      split at success
      · cases success
      · cases meant : effectivePattern lastSearch? pattern with
        | error fault => simp [meant] at success
        | ok text =>
            cases read : readPattern engine text with
            | error fault => simp [meant, read] at success
            | ok compiled =>
                simp only [meant, read] at success
                cases success
                exact isPattern_readPattern read

variable {session : Session} (readable : session.Readable engine) (args : String)
include readable

/-- **Reading what to substitute is refused, or the arguments provoke the fault.** -/
theorem provoked_read :
    FailsOnly (fun fault => fault.isRoutine = true ∨ Provoked engine args.toList fault)
      (read engine args session.lastSubstitution? session.lastSearch?) := by
  unfold read
  split
  · split
    · exact .ok _
    · exact .error (.inl rfl)
  · refine .bind ((fails_fields args).mono fun _ => .inl) ?_
    rintro ⟨pattern, replacement, suffix⟩ split
    dsimp only
    split
    · exact .error (.inl rfl)
    · refine .bind ((fails_effectivePattern _ _).mono fun _ => .inl) fun text meant => ?_
      refine .bind (provoked_readPattern ?_) fun _ _ => .ok _
      rcases effectivePattern_cases meant with same | remembered
      · exact .inl (same ▸ fields_part split)
      · exact .inr (readable.search text remembered)

/-- **What is to be substituted for is a pattern.** -/
theorem isPattern_read {substitution : Substitution}
    (success : read engine args session.lastSubstitution? session.lastSearch? = .ok substitution) :
    IsPattern engine substitution.pattern := by
  unfold read at success
  split at success
  · split at success
    · rename_i remembered
      cases success
      exact readable.substitution _ remembered
    · cases success
  · exact isPattern_readFields success

end Substitution

/-! ## Files -/

open EditorM (isFileFault)

namespace FilePath

theorem mem_of_mem_components {path part : String} {char : Char} (held : char ∈ part.toList)
    (member : part ∈ components path) : char ∈ path.toList := by
  obtain ⟨cut, -⟩ := List.mem_filter.mp member
  obtain ⟨chars, within, rfl⟩ := List.mem_map.mp cut
  rw [String.toList_ofList] at held
  exact (Text.isInfix_of_mem_splitAt within).subset held

/-- What stands in joined parts is a slash or stands in one of them. -/
theorem mem_intercalate {parts : List String} {char : Char}
    (member : char ∈ ("/".intercalate parts).toList) :
    char = '/' ∨ ∃ part ∈ parts, char ∈ part.toList := by
  induction parts with
  | nil => simp at member
  | cons part others ih =>
      rcases others with - | ⟨other, rest⟩
      · exact .inr ⟨part, List.mem_cons_self, by simpa using member⟩
      · rw [String.intercalate_cons_cons, String.toList_append, String.toList_append,
          List.mem_append, List.mem_append] at member
        rcases member with (held | slash) | held
        · exact .inr ⟨part, List.mem_cons_self, held⟩
        · exact .inl (by simpa using slash)
        · exact (ih held).imp_right fun ⟨other, here, held⟩ =>
            ⟨other, List.mem_cons_of_mem part here, held⟩

/-- What stands in the normal spelling of a path is a slash, a point or stands in the path. -/
theorem mem_normal {path : String} {char : Char} (member : char ∈ (normal path).toList) :
    char = '/' ∨ char = '.' ∨ char ∈ path.toList := by
  have rooted : ∀ other ∈ (root path).toList, other = '/' := by
    rw [root]
    split <;> simp
  rw [normal] at member
  split at member
  · exact .inr (.inl (by simpa using member))
  · rw [String.toList_append, List.mem_append] at member
    rcases member with slash | joined
    · exact .inl (rooted char slash)
    · rcases mem_intercalate joined with slash | ⟨part, here, held⟩
      · exact .inl slash
      · exact .inr (.inr (mem_of_mem_components held here))

end FilePath

/-- A device that keeps its reader waiting for ever. -/
def Device.KeepsReader (device : Device) : Prop :=
  device.opening = .endless ∨ device.reading = .endless

/-- A device that keeps a writer waiting for ever, who writes some bytes. -/
def Device.KeepsWriter (device : Device) : Prop :=
  ∃ bytes, device.writing bytes = .endless

/-- What is worse about a file than that it cannot be used: the forbidden character stands in its
path or in the name of its encoding, or it is a device that keeps its users waiting. -/
inductive FileTrouble (keeps : Device → Prop) (disk : Disk) (path encoding : String) :
    Fault → Prop where
  | path (forbidden : Disk.hasNul path = true) : FileTrouble keeps disk path encoding .embeddedNul
  | encoding (forbidden : Disk.hasNul encoding = true) :
      FileTrouble keeps disk path encoding .nulInCodecName
  | device {device : Device} (there : disk.locate (FilePath.normal path) = .device device)
      (waiting : keeps device) : FileTrouble keeps disk path encoding .neverReturns

namespace Disk

theorem hasNul_normal {path : String} (forbidden : hasNul (FilePath.normal path) = true) :
    hasNul path = true := by
  rw [hasNul, List.contains_iff_mem] at forbidden ⊢
  rcases FilePath.mem_normal forbidden with slash | point | held
  · exact absurd slash (by decide)
  · exact absurd point (by decide)
  · exact held

theorem fails_ofTransfer {α : Type} (path : String) (transfer : Transfer α) :
    FailsOnly (fun fault => isFileFault fault = true ∨
      fault = .neverReturns ∧ transfer = .endless) (ofTransfer path transfer) := by
  cases transfer with
  | done value => exact .ok value
  | refused cause => exact .error (.inl rfl)
  | endless => exact .error (.inr ⟨rfl, rfl⟩)

theorem fails_codingNamed (codecs : String → Option Text.Coding) (name : String) :
    FailsOnly (fun fault => isFileFault fault = true ∨
      fault = .nulInCodecName ∧ hasNul name = true) (codingNamed codecs name) := by
  rw [codingNamed]
  split
  · rename_i forbidden
    exact .error (.inr ⟨rfl, forbidden⟩)
  · split
    · exact .ok _
    · exact .error (.inl rfl)

variable (codecs : String → Option Text.Coding) (disk : Disk) (path encoding : String)

/-- Opening a file fails as files do, or there is trouble with it, and so does reading what has been
opened. -/
theorem fails_openFile :
    FailsOnly (fun fault => isFileFault fault = true ∨
        FileTrouble Device.KeepsReader disk path encoding fault)
      (disk.openFile (FilePath.normal path)) ∧
    ∀ source, disk.openFile (FilePath.normal path) = .ok source →
      FailsOnly (fun fault => isFileFault fault = true ∨
        FileTrouble Device.KeepsReader disk path encoding fault) source := by
  rw [openFile]
  split
  · rename_i forbidden
    exact ⟨.error (.inr (.path (hasNul_normal forbidden))), fun _ opened => by cases opened⟩
  · split
    · split
      · exact ⟨.error (.inl rfl), fun _ opened => by cases opened⟩
      · refine ⟨.ok _, ?_⟩
        rintro _ ⟨⟩
        exact .ok _
    · rename_i device located
      have waits : ∀ {fault : Fault} {reader : Prop}, (reader → device.KeepsReader) →
          fault = .neverReturns ∧ reader →
          FileTrouble Device.KeepsReader disk path encoding fault := by
        rintro fault reader keeps ⟨rfl, endless⟩
        exact .device located (keeps endless)
      cases opened : ofTransfer (FilePath.normal (FilePath.normal path)) device.opening with
      | error fault =>
          refine ⟨.error ?_, fun _ opened => by cases opened⟩
          exact (fails_ofTransfer _ _ fault opened).imp_right (waits .inl)
      | ok result =>
          refine ⟨.ok _, ?_⟩
          rintro _ ⟨⟩
          exact (fails_ofTransfer _ _).mono fun _ => .imp_right (waits .inr)
    · exact ⟨.error (.inl rfl), fun _ opened => by cases opened⟩
    · exact ⟨.error (.inl rfl), fun _ opened => by cases opened⟩
    · exact ⟨.error (.inl rfl), fun _ opened => by cases opened⟩

theorem fails_readText :
    FailsOnly (fun fault => isFileFault fault = true ∨
        FileTrouble Device.KeepsReader disk path encoding fault)
      (disk.readText codecs path encoding) := by
  obtain ⟨opening, reading⟩ := disk.fails_openFile path encoding
  rw [readText]
  split
  · rename_i forbidden
    exact .error (.inr (.encoding forbidden))
  · refine .bind opening fun source opened => .bind ?_ fun coding _ =>
      .bind (reading source opened) fun bytes _ => ?_
    · refine (fails_codingNamed codecs encoding).mono fun _ => .imp_right ?_
      rintro ⟨rfl, forbidden⟩
      exact .encoding forbidden
    · split
      · exact .error (.inl rfl)
      · exact .ok _

theorem fails_write (bytes : ByteArray) :
    FailsOnly (fun fault => isFileFault fault = true ∨
        FileTrouble Device.KeepsWriter disk path encoding fault)
      (disk.write path bytes) := by
  rw [write]
  split
  · rename_i forbidden
    exact .error (.inr (.path (hasNul_normal forbidden)))
  · split
    · split
      · exact .error (.inl rfl)
      · exact .ok _
    · exact .ok _
    · rename_i device located
      cases taken : ofTransfer (FilePath.normal path) (device.writing bytes) with
      | ok result => exact .ok _
      | error fault =>
          refine .error ((fails_ofTransfer _ _ fault taken).imp_right ?_)
          rintro ⟨rfl, endless⟩
          exact .device located ⟨bytes, endless⟩
    · exact .error (.inl rfl)
    · exact .error (.inl rfl)
    · exact .error (.inl rfl)

end Disk

/-- Preparing to save fails as files do, or there is trouble with the encoding.  The disk does not
matter yet. -/
theorem Buffer.fails_prepareSave (codecs : String → Option Text.Coding) (buffer : Buffer)
    (path? : Option String) (disk : Disk) :
    FailsOnly (fun fault => fault = .buffer .noPath ∨ isFileFault fault = true ∨
        ∃ target, buffer.target? path? = some target ∧
          FileTrouble Device.KeepsWriter disk target buffer.encoding fault)
      (buffer.prepareSave codecs path?) := by
  rw [prepareSave]
  split
  · exact .error (.inl rfl)
  · rename_i target found
    refine .bind ((Disk.fails_codingNamed codecs _).mono fun _ => ?_) fun coding _ => ?_
    · rintro (file | ⟨rfl, forbidden⟩)
      · exact .inr (.inl file)
      · exact .inr (.inr ⟨target, found, .encoding forbidden⟩)
    · split
      · exact .error (.inr (.inl rfl))
      · exact .ok _

/-! ## The shell -/

/-- What is worse about a shell command than that it cannot be run: the outside cannot be told the
program or the command, or the forbidden character stands in one of them; nobody can wait as long as
the time limit says; or the shell does not come back. -/
inductive ShellTrouble (shell : Shell) (config : Config) (disk : Disk) (command : String) :
    Fault → Prop where
  | untold {text : String} (told : text = config.shell?.getD "/bin/sh" ∨ text = command)
      (unspeakable : shell.tells text = false) : ShellTrouble shell config disk command .unencodable
  | forbidden {text : String} (told : text = config.shell?.getD "/bin/sh" ∨ text = command)
      (forbidden : Disk.hasNul text = true) : ShellTrouble shell config disk command .embeddedNul
  | notANumber (limit : Shell.LimitFault.notANumber.Concerns config.shellTimeout?) :
      ShellTrouble shell config disk command .timeoutNotANumber
  | tooLarge (limit : Shell.LimitFault.tooLarge.Concerns config.shellTimeout?) :
      ShellTrouble shell config disk command .timeoutTooLarge
  | endless (lost : (shell.answer (Shell.requestFor config command) disk).outcome = .endless) :
      ShellTrouble shell config disk command .neverReturns

/-- **A shell command is refused, or there is trouble with it.** -/
theorem Shell.fails_execute (shell : Shell) (config : Config) (disk : Disk) (command : String) :
    FailsOnly (fun fault => fault.isRoutine = true ∨ ShellTrouble shell config disk command fault)
      (shell.execute config disk command).1 := by
  rw [execute]
  dsimp only
  split
  · rename_i untold
    rw [Bool.not_eq_true', Bool.and_eq_false_iff] at untold
    rcases untold with program | command
    · exact .error (.inr (.untold (.inl rfl) program))
    · exact .error (.inr (.untold (.inr rfl) command))
  · split
    · rename_i held
      rw [Bool.or_eq_true] at held
      rcases held with program | command
      · exact .error (.inr (.forbidden (.inl rfl) program))
      · exact .error (.inr (.forbidden (.inr rfl) command))
    · cases answered : (shell.answer (requestFor config command) disk).outcome with
      | finished output errors => exact .ok _
      | expired => exact .error (.inl rfl)
      | notStarted => exact .error (.inl rfl)
      | unwaitable fault =>
          have concerns := shell.waits _ _ _ answered
          cases fault with
          | notANumber => exact .error (.inr (.notANumber concerns))
          | tooLarge => exact .error (.inr (.tooLarge concerns))
      | endless => exact .error (.inr (.endless answered))

end LineEditor
