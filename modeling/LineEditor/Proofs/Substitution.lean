import LineEditor.Proofs.Address.Recalling
import LineEditor.Proofs.FilePath
import LineEditor.Substitution

/-!
# Reading substitutions

The arguments of a substitution are read exactly if they are two or three parts
behind slashes, the suffix is a proper one and a pattern is meant that can be
read (`Substitution.readFields_eq_ok`).  A substitution whose parts hold no slash
is read back from its spelling (`Substitution.spelled`,
`Substitution.read_spelled`).
-/

set_option autoImplicit false

namespace LineEditor.Substitution

open Address (meant?)

/-- The pattern that the arguments of a substitution mean: that of the last substitution if there
are no arguments, and else the one that is written behind the first slash. -/
def pattern? (args : String) (last? : Option Substitution) (remembered? : Option String) :
    Option String :=
  if args = "" then last?.map (·.pattern)
  else (fields args).toOption.bind fun (written, _) => meant? remembered? written

/-- The arguments that spell a substitution out. -/
def spelled (substitution : Substitution) : String :=
  "/" ++ substitution.pattern ++ "/" ++ substitution.replacement ++ "/" ++
    if substitution.all then "g" else ""

variable {engine : Pattern.Engine} {args : String} {last? : Option Substitution}
  {remembered? : Option String} {substitution : Substitution}
  {pattern replacement suffix : List Char}

/-! ## Fields -/

/-- The pattern and the replacement of arguments hold no slash. -/
theorem unslashed_fields (split : fields args = .ok (pattern, replacement, suffix)) :
    '/' ∉ pattern ∧ '/' ∉ replacement := by
  have unslashed := Text.not_mem_of_mem_splitAt '/' args.toList
  rw [fields] at split
  split at split
  · rename_i parts
    cases split
    rw [parts] at unslashed
    exact ⟨unslashed _ (by simp), unslashed _ (by simp)⟩
  · rename_i parts
    cases split
    rw [parts] at unslashed
    exact ⟨unslashed _ (by simp), unslashed _ (by simp)⟩
  · cases split

/-- Parts without slashes are found again behind them. -/
theorem fields_written (chars : args.toList = '/' :: pattern ++ '/' :: replacement ++ '/' :: suffix)
    (unslashed : '/' ∉ pattern ∧ '/' ∉ replacement ∧ '/' ∉ suffix) :
    fields args = .ok (pattern, replacement, suffix) := by
  have joined : args.toList = ['/'].intercalate [[], pattern, replacement, suffix] := by
    rw [chars]
    simp [List.intercalate]
  have parts : Text.splitAt '/' args.toList = [[], pattern, replacement, suffix] := by
    rw [Text.splitAt_eq_splitOn, joined]
    refine List.splitOn_intercalate '/' ?_ (by simp)
    simpa using unslashed
  rw [fields, parts]

/-! ## Reading -/

theorem effectivePattern_eq_ok {text : String} :
    effectivePattern remembered? pattern = .ok text ↔ meant? remembered? pattern = some text := by
  cases pattern with
  | nil => cases remembered? <;> simp [effectivePattern, meant?]
  | cons char rest => simp [effectivePattern, meant?]

theorem readPattern_eq_ok {text : String} {compiled : Pattern.Compiled} :
    readPattern engine text = .ok compiled ↔ Pattern.read engine text = .ok compiled := by
  rw [readPattern]
  split
  · rename_i other read
    rw [read]
    simp
  · rename_i read
    simp [read]
  · rename_i cause read
    simp [read]

theorem proper_suffix :
    ¬(suffix != [] && suffix != ['g']) = true ↔ suffix = [] ∨ suffix = ['g'] := by
  by_cases empty : suffix = [] <;> simp [empty]

/-- **What is read from arguments that are not empty.** -/
theorem readFields_eq_ok : readFields engine args remembered? = .ok substitution ↔
    ∃ pattern replacement suffix compiled,
      fields args = .ok (pattern, replacement, suffix) ∧ (suffix = [] ∨ suffix = ['g']) ∧
      meant? remembered? pattern = some substitution.pattern ∧
      Pattern.read engine substitution.pattern = .ok compiled ∧
      substitution.replacement = String.ofList replacement ∧
      substitution.all = (suffix == ['g']) := by
  constructor
  · intro success
    rw [readFields] at success
    cases split : fields args with
    | error fault => simp [split, bind, Except.bind] at success
    | ok parts =>
        obtain ⟨pattern, replacement, suffix⟩ := parts
        simp only [split, bind, Except.bind] at success
        split at success
        · cases success
        · rename_i proper
          cases asked : effectivePattern remembered? pattern with
          | error fault => simp [asked] at success
          | ok text =>
              cases read : readPattern engine text with
              | error fault => simp [asked, read] at success
              | ok compiled =>
                  simp only [asked, read] at success
                  cases success
                  exact ⟨pattern, replacement, suffix, compiled, rfl, proper_suffix.mp proper,
                    effectivePattern_eq_ok.mp asked, readPattern_eq_ok.mp read, rfl, rfl⟩
  · obtain ⟨text, expression, all⟩ := substitution
    rintro ⟨pattern, replacement, suffix, compiled, split, proper, meant, readable, rfl, rfl⟩
    have asked := effectivePattern_eq_ok.mpr meant
    have read := readPattern_eq_ok.mpr readable
    rw [readFields, split]
    simp only [bind, Except.bind]
    rw [if_neg (proper_suffix.mpr proper), asked]
    simp only [read]
    rfl

/-- **The pattern of a substitution that is read is the one that its arguments mean.** -/
theorem read_pattern
    (success : Substitution.read engine args last? remembered? = .ok substitution) :
    pattern? args last? remembered? = some substitution.pattern := by
  rw [pattern?]
  unfold Substitution.read at success
  split
  · rename_i bare
    rw [if_pos bare] at success
    cases last? with
    | none => cases success
    | some last =>
        cases success
        rfl
  · rename_i given
    rw [if_neg given] at success
    obtain ⟨pattern, replacement, suffix, compiled, split, -, meant, -⟩ :=
      readFields_eq_ok.mp success
    rw [split]
    exact meant

/-- **A substitution is read back from its spelling**, whatever is remembered. -/
theorem read_spelled {compiled : Pattern.Compiled} (present : substitution.pattern ≠ "")
    (readable : Pattern.read engine substitution.pattern = .ok compiled)
    (unslashed : '/' ∉ substitution.pattern.toList ∧ '/' ∉ substitution.replacement.toList) :
    Substitution.read engine substitution.spelled last? remembered? = .ok substitution := by
  obtain ⟨pattern, replacement, all⟩ := substitution
  let suffix : List Char := if all then ['g'] else []
  have chars : (spelled ⟨pattern, replacement, all⟩).toList =
      '/' :: pattern.toList ++ '/' :: replacement.toList ++ '/' :: suffix := by
    cases all <;> simp [spelled, suffix]
  have given : spelled ⟨pattern, replacement, all⟩ ≠ "" := by
    intro empty
    rw [empty] at chars
    cases chars
  have split := fields_written chars ⟨unslashed.1, unslashed.2, by cases all <;> simp [suffix]⟩
  have written : pattern.toList ≠ [] := by simpa using present
  unfold Substitution.read
  rw [if_neg given, readFields_eq_ok]
  refine ⟨_, _, _, compiled, split, ?_, ?_, readable, (String.ofList_toList ..).symm, ?_⟩
  · cases all <;> simp [suffix]
  · rw [meant?, if_neg written, String.ofList_toList]
  · cases all <;> simp [suffix]

end LineEditor.Substitution
