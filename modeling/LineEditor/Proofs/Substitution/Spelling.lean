import LineEditor.Proofs.Editor.Reachable
import LineEditor.Proofs.Substitution

/-!
# How substitutions are spelled

The arguments of a substitution are a pattern and a replacement without slashes,
each behind a slash.  Another slash may close them, and behind it may stand the
letter that asks for all matches (`Substitution.Spells`).  No arguments can be
taken apart in two ways (`Substitution.Spells.unique`).

Exactly the arguments that are spelled so are read, if a pattern is meant and it
can be read; all others are refused, and the command that was given them does
nothing (`Substitution.spelling_exact`).
-/

set_option autoImplicit false

namespace LineEditor.Substitution

open Address (meant?)

variable {engine : Pattern.Engine} {chars pattern replacement suffix : List Char} {all : Bool}
  {args : String} {last? : Option Substitution} {remembered? : Option String}
  {substitution : Substitution}

/-- The arguments that write a pattern, a replacement, and whether all matches are meant. -/
inductive Spells : List Char → List Char → List Char → Bool → Prop
  | opened {pattern replacement : List Char} (unslashed : '/' ∉ pattern ∧ '/' ∉ replacement) :
      Spells ('/' :: pattern ++ '/' :: replacement) pattern replacement false
  | closed {pattern replacement : List Char} (unslashed : '/' ∉ pattern ∧ '/' ∉ replacement) :
      Spells ('/' :: pattern ++ '/' :: replacement ++ ['/']) pattern replacement false
  | everywhere {pattern replacement : List Char}
      (unslashed : '/' ∉ pattern ∧ '/' ∉ replacement) :
      Spells ('/' :: pattern ++ '/' :: replacement ++ ['/', 'g']) pattern replacement true

/-! ## Taking arguments apart -/

theorem joined_of_splitAt {parts : List (List Char)} (split : Text.splitAt '/' chars = parts) :
    chars = ['/'].intercalate parts := by
  rw [← split, Text.splitAt_eq_splitOn, List.intercalate_splitOn]

/-- A pattern and a replacement without slashes are found behind their slashes. -/
theorem fields_opened (written : args.toList = '/' :: pattern ++ '/' :: replacement)
    (unslashed : '/' ∉ pattern ∧ '/' ∉ replacement) :
    fields args = .ok (pattern, replacement, []) := by
  have joined : args.toList = ['/'].intercalate [[], pattern, replacement] := by
    rw [written]
    simp [List.intercalate]
  have parts : Text.splitAt '/' args.toList = [[], pattern, replacement] := by
    rw [Text.splitAt_eq_splitOn, joined]
    refine List.splitOn_intercalate '/' ?_ (by simp)
    simpa using unslashed
  rw [fields, parts]

/-- What arguments are taken apart into is what they were put together from. -/
theorem written_of_fields (split : fields args = .ok (pattern, replacement, suffix)) :
    (args.toList = '/' :: pattern ++ '/' :: replacement ∧ suffix = []) ∨
      args.toList = '/' :: pattern ++ '/' :: replacement ++ '/' :: suffix := by
  rw [fields] at split
  split at split
  · rename_i parts
    cases split
    exact .inl ⟨by simpa [List.intercalate] using joined_of_splitAt parts, rfl⟩
  · rename_i parts
    cases split
    exact .inr (by simpa [List.intercalate] using joined_of_splitAt parts)
  · cases split

/-- **Arguments are taken apart, with a proper suffix, exactly if they are spelled so.** -/
theorem spells_iff : Spells args.toList pattern replacement all ↔
    ∃ suffix, fields args = .ok (pattern, replacement, suffix) ∧
      (suffix = [] ∨ suffix = ['g']) ∧ all = (suffix == ['g']) := by
  constructor
  · generalize written : args.toList = chars
    intro spells
    cases spells with
    | opened unslashed => exact ⟨[], fields_opened written unslashed, .inl rfl, rfl⟩
    | closed unslashed =>
        exact ⟨[], fields_written written ⟨unslashed.1, unslashed.2, by simp⟩, .inl rfl, rfl⟩
    | everywhere unslashed =>
        exact ⟨['g'], fields_written written ⟨unslashed.1, unslashed.2, by simp⟩, .inr rfl, rfl⟩
  · rintro ⟨suffix, split, proper, rfl⟩
    have unslashed := unslashed_fields split
    rcases written_of_fields split with ⟨written, rfl⟩ | written
    · rw [written]
      exact .opened unslashed
    · rw [written]
      rcases proper with rfl | rfl
      · exact .closed unslashed
      · exact .everywhere unslashed

/-- **Arguments spell one thing only.** -/
theorem Spells.unique {pattern' replacement' : List Char} {all' : Bool}
    (spells : Spells chars pattern replacement all)
    (spells' : Spells chars pattern' replacement' all') :
    pattern = pattern' ∧ replacement = replacement' ∧ all = all' := by
  rw [← String.toList_ofList (l := chars), spells_iff] at spells spells'
  obtain ⟨suffix, split, -, rfl⟩ := spells
  obtain ⟨suffix', split', -, rfl⟩ := spells'
  rw [split, Except.ok.injEq, Prod.mk.injEq, Prod.mk.injEq] at split'
  obtain ⟨rfl, rfl, rfl⟩ := split'
  exact ⟨rfl, rfl, rfl⟩

theorem Spells.given (spells : Spells args.toList pattern replacement all) : args ≠ "" := by
  rintro rfl
  generalize empty : "".toList = chars at spells
  cases spells <;> cases empty

theorem spells_spelled
    (unslashed : '/' ∉ substitution.pattern.toList ∧ '/' ∉ substitution.replacement.toList) :
    Spells substitution.spelled.toList substitution.pattern.toList
      substitution.replacement.toList substitution.all := by
  obtain ⟨pattern, replacement, all⟩ := substitution
  cases all with
  | false =>
      have written : (spelled ⟨pattern, replacement, false⟩).toList =
          '/' :: pattern.toList ++ '/' :: replacement.toList ++ ['/'] := by simp [spelled]
      rw [written]
      exact .closed unslashed
  | true =>
      have written : (spelled ⟨pattern, replacement, true⟩).toList =
          '/' :: pattern.toList ++ '/' :: replacement.toList ++ ['/', 'g'] := by simp [spelled]
      rw [written]
      exact .everywhere unslashed

/-! ## Reading what is spelled -/

/-- **What is read from arguments is what they spell**, where an empty pattern means the one that is
remembered. -/
theorem read_eq_ok (given : args ≠ "") :
    Substitution.read engine args last? remembered? = .ok substitution ↔
      ∃ pattern replacement compiled,
        Spells args.toList pattern replacement substitution.all ∧
        meant? remembered? pattern = some substitution.pattern ∧
        Pattern.read engine substitution.pattern = .ok compiled ∧
        substitution.replacement = String.ofList replacement := by
  unfold Substitution.read
  rw [if_neg given, readFields_eq_ok]
  simp only [spells_iff]
  constructor
  · rintro ⟨pattern, replacement, suffix, compiled, split, proper, meant, readable, same, all⟩
    exact ⟨pattern, replacement, compiled, ⟨suffix, split, proper, all⟩, meant, readable, same⟩
  · rintro ⟨pattern, replacement, compiled, ⟨suffix, split, proper, all⟩, meant, readable, same⟩
    exact ⟨pattern, replacement, suffix, compiled, split, proper, meant, readable, same, all⟩

theorem fault_fields {fault : Fault} (failed : fields args = .error fault) :
    fault = .refusal (.argument .invalidDelimiter) := by
  rw [fields] at failed
  split at failed
  · cases failed
  · cases failed
  · cases failed
    rfl

theorem fault_effectivePattern {fault : Fault}
    (failed : effectivePattern remembered? pattern = .error fault) :
    fault = .refusal (.argument .noPreviousPattern) := by
  cases pattern with
  | nil =>
      cases remembered? with
      | none =>
          cases failed
          rfl
      | some text => cases failed
  | cons char rest => cases failed

/-- A pattern is malformed, which is refused, or it is unfit in another way. -/
theorem fault_readPattern {text : String} {fault : Fault}
    (failed : readPattern engine text = .error fault) :
    fault = .refusal (.argument .invalidPattern) ∨
      ∃ cause, Pattern.read engine text = .error cause ∧ cause ≠ .malformed := by
  rw [readPattern] at failed
  split at failed
  · cases failed
  · cases failed
    exact .inl rfl
  · rename_i cause other read
    exact .inr ⟨cause, read, other⟩

/-- **Arguments that are not read are refused**, unless they spell a pattern that is unfit in
another way than being malformed. -/
theorem fault_read (given : args ≠ "") {fault : Fault}
    (failed : Substitution.read engine args last? remembered? = .error fault) :
    (∃ cause, fault = .refusal (.argument cause)) ∨
      ∃ pattern replacement all text cause, Spells args.toList pattern replacement all ∧
        meant? remembered? pattern = some text ∧ Pattern.read engine text = .error cause ∧
        cause ≠ .malformed := by
  unfold Substitution.read at failed
  rw [if_neg given, readFields] at failed
  cases split : fields args with
  | error other =>
      rw [split] at failed
      cases failed
      exact .inl ⟨_, fault_fields split⟩
  | ok parts =>
      obtain ⟨pattern, replacement, suffix⟩ := parts
      simp only [split, bind, Except.bind] at failed
      split at failed
      · cases failed
        exact .inl ⟨_, rfl⟩
      · rename_i proper
        have spells := spells_iff.mpr ⟨suffix, split, proper_suffix.mp proper, rfl⟩
        cases asked : effectivePattern remembered? pattern with
        | error other =>
            simp only [asked] at failed
            cases failed
            exact .inl ⟨_, fault_effectivePattern asked⟩
        | ok text =>
            cases read : readPattern engine text with
            | ok compiled =>
                simp only [asked, read] at failed
                cases failed
            | error other =>
                simp only [asked, read] at failed
                cases failed
                rcases fault_readPattern read with rfl | ⟨cause, unread, other⟩
                · exact .inl ⟨_, rfl⟩
                · exact .inr ⟨pattern, replacement, _, text, cause, spells,
                    effectivePattern_eq_ok.mp asked, unread, other⟩

/-! ## What reading leaves alone -/

section Unchanged

variable {editor after : Editor} {invocation : Invocation} {fault : Fault}

/-- A command whose arguments are not read does nothing. -/
theorem runOn_substitute_unread
    (failed : Substitution.read editor.platform.engine invocation.args
      editor.session.lastSubstitution? editor.session.lastSearch? = .error fault) :
    (EditorM.substitute invocation).runOn editor = (.error fault, editor) := by
  simp only [EditorM.substitute, EditorM.runOn_bind, EditorM.runOn_get, failed,
    EditorM.runOn_lift]

/-- A substitution that fails at whatever point leaves the session as it is. -/
theorem session_of_substitute_fault
    (run : (EditorM.substitute invocation).runOn editor = (.error fault, after)) :
    after.session = editor.session := by
  have ensured : (EditorM.substitute invocation).Ensures editor (fun _ _ => True)
      fun _ after => after.session = editor.session := by
    simp only [EditorM.substitute, EditorM.ensures_bind, EditorM.ensures_get,
      EditorM.ensures_lift]
    refine ⟨fun substitution _ => ⟨fun changes _ => ?_, fun _ _ => trivial⟩, fun _ _ => trivial⟩
    split
    · exact (EditorM.ensures_refuse _).mpr rfl
    · simp only [EditorM.ensures_bind, EditorM.ensures_modifyBuffer, EditorM.setCurrent,
        EditorM.ensures_modifySession, EditorM.ensures_pure, implies_true, and_self]
  exact ensured.fault run

end Unchanged

/-! ## The main result -/

/-- **The arguments of a substitution are read exactly if they are spelled right.**  Take any engine
and any session, and arguments that are not empty and do not ask for a pattern that is unfit in
another way than being malformed.  They are read if they spell a pattern and a replacement, a
pattern is meant by this, and it can be read; what they are read as is unique.  In every other case
they are refused as arguments.

Reading them changes nothing: a command whose arguments are refused does nothing at all, and one
that fails later still leaves the session as it is.

So a substitution without slashes is read back from each of its spellings. -/
theorem spelling_exact (engine : Pattern.Engine) (session : Session) :
    (∀ args, args ≠ "" →
      (∀ pattern replacement all text cause, Spells args.toList pattern replacement all →
        meant? session.lastSearch? pattern = some text → Pattern.read engine text = .error cause →
        cause = .malformed) →
      (∀ substitution,
        Substitution.read engine args session.lastSubstitution? session.lastSearch? =
            .ok substitution ↔
          ∃ pattern replacement compiled,
            Spells args.toList pattern replacement substitution.all ∧
            meant? session.lastSearch? pattern = some substitution.pattern ∧
            Pattern.read engine substitution.pattern = .ok compiled ∧
            substitution.replacement = String.ofList replacement) ∧
      ((∀ substitution,
        Substitution.read engine args session.lastSubstitution? session.lastSearch? ≠
          .ok substitution) →
        ∃ cause, Substitution.read engine args session.lastSubstitution? session.lastSearch? =
          .error (.refusal (.argument cause)))) ∧
    (∀ chars pattern replacement all pattern' replacement' all',
      Spells chars pattern replacement all → Spells chars pattern' replacement' all' →
      pattern = pattern' ∧ replacement = replacement' ∧ all = all') ∧
    (∀ editor invocation fault, editor.platform.engine = engine → editor.session = session →
      (Substitution.read engine invocation.args session.lastSubstitution? session.lastSearch? =
          .error fault →
        (EditorM.substitute invocation).runOn editor = (.error fault, editor)) ∧
      ∀ after, (EditorM.substitute invocation).runOn editor = (.error fault, after) →
        after.session = session) ∧
    ∀ substitution compiled, substitution.pattern ≠ "" →
      Pattern.read engine substitution.pattern = .ok compiled →
      ('/' ∉ substitution.pattern.toList ∧ '/' ∉ substitution.replacement.toList) →
      Spells substitution.spelled.toList substitution.pattern.toList
        substitution.replacement.toList substitution.all ∧
      ∀ args, Spells args.toList substitution.pattern.toList substitution.replacement.toList
          substitution.all →
        Substitution.read engine args session.lastSubstitution? session.lastSearch? =
          .ok substitution := by
  refine ⟨fun args given fit => ⟨fun substitution => read_eq_ok given, fun unread => ?_⟩, ?_, ?_,
    ?_⟩
  · cases outcome : Substitution.read engine args session.lastSubstitution? session.lastSearch? with
    | ok substitution => exact absurd outcome (unread substitution)
    | error fault =>
        rcases fault_read given outcome with
          ⟨cause, rfl⟩ | ⟨pattern, replacement, all, text, cause, spells, meant, read, other⟩
        · exact ⟨cause, rfl⟩
        · exact absurd (fit _ _ _ _ _ spells meant read) other
  · intro chars pattern replacement all pattern' replacement' all' spells spells'
    exact spells.unique spells'
  · rintro editor invocation fault rfl rfl
    exact ⟨runOn_substitute_unread, fun after => session_of_substitute_fault⟩
  · intro substitution compiled present readable unslashed
    refine ⟨spells_spelled unslashed, fun args spells => ?_⟩
    have written : substitution.pattern.toList ≠ [] := by simpa using present
    refine (read_eq_ok spells.given).mpr ⟨_, _, compiled, spells, ?_, readable, ?_⟩
    · rw [meant?, if_neg written, String.ofList_toList]
    · rw [String.ofList_toList]

/-- A spelling with the letter and one without the last slash are read.  An empty pattern is refused
where none is remembered, and a command that was given it does nothing. -/
theorem spelling_exact_fresh :
    let editor := Editor.ofText "one"
    let read := fun args =>
      Substitution.read .usual args editor.session.lastSubstitution? editor.session.lastSearch?
    Spells "/o/0/g".toList ['o'] ['0'] true ∧ read "/o/0/g" = .ok ⟨"o", "0", true⟩ ∧
      Spells "/o/0".toList ['o'] ['0'] false ∧ read "/o/0" = .ok ⟨"o", "0", false⟩ ∧
      Spells "//0/".toList [] ['0'] false ∧
      (∃ cause, read "//0/" = .error (.refusal (.argument cause))) ∧
      ∃ fault, (EditorM.substitute ⟨'s', "//0/", 1, some 1, true⟩).runOn editor =
        (.error fault, editor) := by
  intro editor read
  obtain ⟨exactly, unique, unchanged, back⟩ := spelling_exact .usual editor.session
  have readable : Pattern.read .usual "o" = .ok
      { pattern := .oneOf
          { negated := false, items := [.single 111], folding := .exact, asciiOnly := false }
        groupCount := 0
        names := [] } := rfl
  have everywhere : Spells "/o/0/g".toList ['o'] ['0'] true :=
    @Spells.everywhere ['o'] ['0'] (by decide)
  have opened : Spells "/o/0".toList ['o'] ['0'] false := @Spells.opened ['o'] ['0'] (by decide)
  have empty : Spells "//0/".toList [] ['0'] false := @Spells.closed [] ['0'] (by decide)
  have unread : read "//0/" = .error (.refusal (.argument .noPreviousPattern)) := by
    decide +kernel
  have once : read "/o/0" = .ok ⟨"o", "0", false⟩ :=
    (back ⟨"o", "0", false⟩ _ (by decide) readable (by decide)).2 _ opened
  refine ⟨everywhere, ?_, opened, once, empty, ?_, _,
    (unchanged editor ⟨'s', "//0/", 1, some 1, true⟩ _ rfl rfl).1 unread⟩
  · refine ((exactly "/o/0/g" (by decide) ?_).1 ⟨"o", "0", true⟩).mpr
      ⟨['o'], ['0'], _, everywhere, rfl, readable, rfl⟩
    intro pattern replacement all text cause spells meant failed
    obtain ⟨rfl, -⟩ := unique _ _ _ _ _ _ _ everywhere spells
    cases meant
    cases readable.symm.trans failed
  · refine (exactly "//0/" (by decide) ?_).2 fun substitution success => ?_
    · intro pattern replacement all text cause spells meant failed
      obtain ⟨rfl, -⟩ := unique _ _ _ _ _ _ _ empty spells
      have nothing : editor.session.lastSearch? = none := by decide +kernel
      rw [nothing] at meant
      cases meant
    · cases unread.symm.trans success

end LineEditor.Substitution
