import LineEditor.Command.Spec
import LineEditor.Editor.Dispatch
import LineEditor.Proofs.Buffer.Edits
import LineEditor.Proofs.PlainOutcome

/-!
# The contract of a command

The contract of a command says which addresses it accepts and what stands for
those that are missing.  `Invocation.Fits` says what a handler may count on: it
is given lines in order that can be addressed, and no more and no fewer than its
command's contract admits.

Two steps see to that.  The check lets through lines that can be addressed and
are in order (`Buffer.checkLines_checked`), and what is bound to them fits
(`CommandSpec.bindLines_fits`).
-/

set_option autoImplicit false

namespace LineEditor

/-- What a handler may be given: lines in order that can be addressed, and no more and no less than
the contract of the command says. -/
structure Invocation.Fits (invocation : Invocation) (arity : Arity) (highest : Nat) : Prop where
  first : 1 ≤ invocation.start
  ordered : invocation.start ≤ invocation.stop
  last : invocation.stop ≤ highest
  noAddress : arity = .noAddress → invocation.addressed = false
  oneAddress : arity = .oneAddress → invocation.finish? = none
  range : arity = .range → invocation.finish?.isSome

/-- Checked lines: each of them can be addressed, they are in order, and there is a second one only
where there is a first one. -/
structure CheckedLines (highest : Nat) (first? last? : Option Nat) : Prop where
  first : ∀ line, first? = some line → 1 ≤ line ∧ line ≤ highest
  last : ∀ line, last? = some line → 1 ≤ line ∧ line ≤ highest
  ordered : ∀ first last, first? = some first → last? = some last → first ≤ last
  led : last?.isSome → first?.isSome

theorem Buffer.checkAddress_eq {buffer : Buffer} {line? : Option Int} {checked? : Option Nat}
    (success : buffer.checkAddress line? = .ok checked?) :
    checked?.isSome = line?.isSome ∧
      ∀ line, checked? = some line → 1 ≤ line ∧ line ≤ buffer.lastLine := by
  cases line? with
  | none =>
      cases success
      exact ⟨rfl, fun line same => by cases same⟩
  | some line =>
      simp only [checkAddress] at success
      split at success
      · cases success
      · cases success
        refine ⟨rfl, ?_⟩
        intro other same
        cases same
        omega

theorem Buffer.checkAddress_plain (buffer : Buffer) (line? : Option Int) :
    PlainOutcome (buffer.checkAddress line?) := by
  cases line? with
  | none => exact .ok none
  | some line =>
      simp only [checkAddress]
      split
      · exact .refused (by decide)
      · exact .ok _

theorem Buffer.checkLines_plain (buffer : Buffer) (start? finish? : Option Int) :
    PlainOutcome (buffer.checkLines start? finish?) := by
  refine .bind (buffer.checkAddress_plain start?) fun first? =>
    .bind (buffer.checkAddress_plain finish?) fun last? => ?_
  cases first? with
  | none => exact .ok _
  | some first =>
      cases last? with
      | none => exact .ok _
      | some last =>
          dsimp only
          split
          · exact .refused (by decide)
          · exact .ok _

/-- What the check lets through. -/
theorem Buffer.checkLines_checked {buffer : Buffer} {start? finish? : Option Int}
    {first? last? : Option Nat} (led : finish?.isSome → start?.isSome)
    (success : buffer.checkLines start? finish? = .ok (first?, last?)) :
    CheckedLines buffer.lastLine first? last? := by
  simp only [checkLines] at success
  cases firstCheck : buffer.checkAddress start? with
  | error fault => simp [firstCheck, bind, Except.bind] at success
  | ok one =>
      cases lastCheck : buffer.checkAddress finish? with
      | error fault => simp [firstCheck, lastCheck, bind, Except.bind] at success
      | ok two =>
          obtain ⟨firstSome, firstRange⟩ := checkAddress_eq firstCheck
          obtain ⟨lastSome, lastRange⟩ := checkAddress_eq lastCheck
          simp only [firstCheck, lastCheck, bind, Except.bind] at success
          cases one with
          | none =>
              cases success
              refine ⟨firstRange, lastRange, fun _ _ same => (by cases same), ?_⟩
              rw [lastSome, firstSome]
              exact led
          | some first =>
              cases two with
              | none =>
                  cases success
                  exact ⟨firstRange, lastRange, fun _ _ _ same => (by cases same), fun _ => rfl⟩
              | some last =>
                  dsimp only at success
                  split at success
                  · cases success
                  · rename_i ordered
                    cases success
                    refine ⟨firstRange, lastRange, ?_, fun _ => rfl⟩
                    intro one two sameOne sameTwo
                    cases sameOne
                    cases sameTwo
                    omega

theorem CommandSpec.bindLines_plain (spec : CommandSpec) (current : Nat) (args : String)
    (start? finish? : Option Nat) : PlainOutcome (spec.bindLines current args start? finish?) := by
  rw [bindLines]
  split
  · exact .refused (by decide)
  · split
    · exact .refused (by decide)
    · exact .ok _

/-- A command that reads no addresses accepts all of them. -/
theorem CommandSpec.bindLines_ignored {spec : CommandSpec} (ignored : spec.arity = .ignored)
    (current : Nat) (args : String) (start? finish? : Option Nat) :
    ∃ invocation, spec.bindLines current args start? finish? = .ok invocation := by
  rw [bindLines, if_neg (by simp [ignored]), if_neg (by simp [ignored])]
  exact ⟨_, rfl⟩

/-- Whatever the contract, what is bound begins with the first line given, or else the current one,
and ends with the last one given, or else where it begins. -/
theorem CommandSpec.bindLines_lines {spec : CommandSpec} {current : Nat} {args : String}
    {first? last? : Option Nat} {invocation : Invocation}
    (success : spec.bindLines current args first? last? = .ok invocation) :
    invocation.start = first?.getD current ∧
      invocation.stop = last?.getD (first?.getD current) := by
  rw [bindLines] at success
  split at success
  · cases success
  · split at success
    · cases success
    · cases success
      refine ⟨rfl, ?_⟩
      rw [Invocation.stop]
      split
      · rfl
      · rfl

/-- Checked lines stay in order when the missing ones are filled in. -/
theorem CheckedLines.filled {buffer : Buffer} (placed : buffer.Placed) {first? last? : Option Nat}
    (checked : CheckedLines buffer.lastLine first? last?) :
    1 ≤ first?.getD buffer.current ∧
      first?.getD buffer.current ≤ last?.getD (first?.getD buffer.current) ∧
      last?.getD (first?.getD buffer.current) ≤ buffer.lastLine := by
  cases first? with
  | none =>
      cases last? with
      | none => exact ⟨placed.1, Nat.le_refl _, placed.2⟩
      | some last => exact absurd (checked.led rfl) (by simp)
  | some first =>
      obtain ⟨low, high⟩ := checked.first first rfl
      cases last? with
      | none => exact ⟨low, Nat.le_refl _, high⟩
      | some last => exact ⟨low, checked.ordered first last rfl rfl, (checked.last last rfl).2⟩

/-- **What is bound respects the contract of the command.** -/
theorem CommandSpec.bindLines_fits {spec : CommandSpec} {buffer : Buffer} {args : String}
    {first? last? : Option Nat} {invocation : Invocation} (placed : buffer.Placed)
    (checked : CheckedLines buffer.lastLine first? last?)
    (success : spec.bindLines buffer.current args first? last? = .ok invocation) :
    invocation.Fits spec.arity buffer.lastLine := by
  have filled := checked.filled placed
  obtain ⟨start, stop⟩ := bindLines_lines success
  rw [← stop, ← start] at filled
  obtain ⟨low, ordered, high⟩ := filled
  rw [bindLines] at success
  split at success
  · cases success
  · rename_i unaddressed
    split at success
    · cases success
    · rename_i single
      cases success
      refine ⟨low, ordered, high, ?_, ?_, ?_⟩
      · intro arity
        simpa [arity] using unaddressed
      · intro arity
        simpa [arity] using single
      · intro arity
        simp [arity]

end LineEditor
