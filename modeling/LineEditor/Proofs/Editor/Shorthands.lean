import LineEditor.Proofs.Command.Scanning
import LineEditor.Proofs.Editor.Reachable
import LineEditor.Proofs.Editor.Telling
import Mathlib.Data.List.Basic

/-!
# Shorthands for two addresses

`%` and a lone comma stand for `1,$`, and `;` stands for `.,$`.  A shorthand ends
the addresses at once, so all that follows it is the rest of its line
(`CommandLine.scan_shorthand`).  Two addresses that are written out do not: there
white space before the letter is passed over (`CommandLine.scan_expansion`).

A shorthand is therefore scanned like what it stands for exactly if no white
space follows it, and then the two lines have the same effect
(`Editor.shorthand_exact`).  Otherwise the white space itself becomes the letter.
-/

set_option autoImplicit false

namespace LineEditor

open LineEditor.Text (isBlankText)
open LineEditor.Address (WrittenToken)

/-- What stands for two addresses. -/
inductive Shorthand where
  | percent
  | comma
  | semicolon
  deriving DecidableEq

namespace Shorthand

/-- How a shorthand is written. -/
def text : Shorthand → String
  | .percent => "%"
  | .comma => ","
  | .semicolon => ";"

/-- The first address that a shorthand stands for. -/
def first : Shorthand → WrittenToken
  | .percent | .comma => { base := .number ['1'] (by decide) (List.all_eq_true.mp rfl) }
  | .semicolon => { base := .point }

/-- The second address that a shorthand stands for. -/
def second : WrittenToken where
  base := .last

/-- The two addresses that a shorthand stands for, written out. -/
def expansion (shorthand : Shorthand) : String :=
  shorthand.first.text ++ "," ++ second.text

theorem isAscii_first (shorthand : Shorthand) : shorthand.first.IsAscii := by
  cases shorthand <;> decide

theorem isAscii_second : second.IsAscii := by
  decide

theorem first_text_ne (shorthand : Shorthand) : shorthand.first.text ≠ "" := by
  cases shorthand <;> decide

end Shorthand

/-! ## Scanning -/

namespace CommandLine

open ScanState (IsRest)

/-- **Behind a shorthand everything is the rest**, white space too. -/
theorem scan_shorthand (shorthand : Shorthand) (tail : String) :
    scan (shorthand.text ++ tail) =
      { first := shorthand.first.text
        second := Shorthand.second.text
        rest := tail
        explicitRange := true } := by
  have opened : ScanState.feed {} shorthand.text.toList =
      { phase := .rest
        first := shorthand.first.text
        second := Shorthand.second.text
        explicitRange := true } := by
    cases shorthand <;> decide
  rw [scan, String.toList_append, ScanState.feed_append, opened, ScanState.feed_rest _ (by rfl)]
  simp [ScanState.finish]

/-- Behind two addresses white space before the letter is passed over. -/
theorem scan_expansion (shorthand : Shorthand) {blanks rest : String}
    (blank : isBlankText blanks = true) (isRest : IsRest rest) :
    scan (shorthand.expansion ++ blanks ++ rest) =
      { first := shorthand.first.text
        second := Shorthand.second.text
        rest
        explicitRange := true } := by
  have scanned := scan_two shorthand.isAscii_first shorthand.first_text_ne Shorthand.isAscii_second
    isBlankText_empty isBlankText_empty isBlankText_empty blank isRest
  simpa only [Shorthand.expansion, String.empty_append, String.append_empty] using scanned

end CommandLine

/-! ## Ends of lines -/

/-- A list of characters without a last one of a kind. -/
def withoutLast (last : Char) (chars : List Char) : List Char :=
  if chars.getLast? = some last then chars.dropLast else chars

theorem withoutLineEnd_eq (raw : String) :
    withoutLineEnd raw = String.ofList (withoutLast '\r' (withoutLast '\n' raw.toList)) := rfl

theorem withoutLast_append {last : Char} {front : List Char} (other : front.getLast? ≠ some last)
    (rest : List Char) : withoutLast last (front ++ rest) = front ++ withoutLast last rest := by
  cases rest with
  | nil => simp [withoutLast, other]
  | cons char rest =>
      rw [withoutLast, withoutLast, List.getLast?_append_cons, List.dropLast_append_cons]
      split
      · rfl
      · rfl

theorem isPrefix_withoutLast (last : Char) (chars : List Char) : withoutLast last chars <+: chars := by
  rw [withoutLast]
  split
  · exact List.dropLast_prefix chars
  · exact List.prefix_refl chars

/-- A front that does not look like an end of line stays in front. -/
theorem withoutLineEnd_append {front : String} (unreturned : front.toList.getLast? ≠ some '\r')
    (unfed : front.toList.getLast? ≠ some '\n') (rest : String) :
    withoutLineEnd (front ++ rest) = front ++ withoutLineEnd rest := by
  rw [withoutLineEnd_eq, String.toList_append, withoutLast_append unfed,
    withoutLast_append unreturned, String.ofList_append, String.ofList_toList, withoutLineEnd_eq]

theorem Shorthand.withoutLineEnd_text (shorthand : Shorthand) (rest : String) :
    withoutLineEnd (shorthand.text ++ rest) = shorthand.text ++ withoutLineEnd rest := by
  refine withoutLineEnd_append ?_ ?_ rest
  · cases shorthand <;> decide
  · cases shorthand <;> decide

theorem Shorthand.withoutLineEnd_expansion (shorthand : Shorthand) (rest : String) :
    withoutLineEnd (shorthand.expansion ++ rest) = shorthand.expansion ++ withoutLineEnd rest := by
  refine withoutLineEnd_append ?_ ?_ rest
  · cases shorthand <;> decide
  · cases shorthand <;> decide

theorem ScanState.IsRest.withoutLineEnd {rest : String} (isRest : ScanState.IsRest rest) :
    ScanState.IsRest (withoutLineEnd rest) := by
  intro letter starts
  refine isRest letter ?_
  rw [withoutLineEnd_eq, String.toList_ofList] at starts
  obtain ⟨ending, same⟩ := (isPrefix_withoutLast '\r' _).trans (isPrefix_withoutLast '\n' rest.toList)
  rw [← same, List.head?_append, starts]
  rfl

namespace Editor

open ScanState (IsRest)

variable {editor : Editor}

/-- **Lines that are scanned alike have the same effect** on an editor that awaits a command. -/
theorem next_tells (awaiting : editor.activeMode? = some .command) {raw raw' : String}
    (alike : CommandLine.scan (withoutLineEnd raw) = CommandLine.scan (withoutLineEnd raw')) :
    editor.answer raw' = editor.answer raw ∧ (editor.next raw).Tells (editor.next raw') := by
  have handled : ∀ modeClass, editor.activeMode? = some modeClass →
      (EditorM.handleLine modeClass (withoutLineEnd raw)).Parallel
        (EditorM.handleLine modeClass (withoutLineEnd raw')) := by
    intro modeClass active
    rw [awaiting] at active
    cases active
    exact EditorM.parallel_handleCommand alike
  have same := EditorM.sameOutcome_submit (.refl editor) handled
  exact ⟨same.same, same.tells⟩

/-- **A shorthand means its two addresses exactly if no white space follows it.**  What follows it
is otherwise taken over with the white space, which two addresses let pass. -/
theorem shorthand_exact (shorthand : Shorthand) {blanks rest : String}
    (blank : isBlankText blanks = true) (isRest : IsRest rest) :
    CommandLine.scan (shorthand.text ++ blanks ++ rest) =
        { CommandLine.scan (shorthand.expansion ++ blanks ++ rest) with rest := blanks ++ rest } ∧
      (CommandLine.scan (shorthand.text ++ blanks ++ rest) =
        CommandLine.scan (shorthand.expansion ++ blanks ++ rest) ↔ blanks = "") ∧
      (blanks = "" → ∀ editor : Editor, editor.activeMode? = some .command →
        editor.answer (shorthand.text ++ rest) = editor.answer (shorthand.expansion ++ rest) ∧
        (editor.next (shorthand.expansion ++ rest)).Tells
          (editor.next (shorthand.text ++ rest))) := by
  have short := CommandLine.scan_shorthand shorthand (blanks ++ rest)
  have long := CommandLine.scan_expansion shorthand blank isRest
  rw [← String.append_assoc] at short
  refine ⟨by rw [short, long], ?_, fun _ editor awaiting => ?_⟩
  · rw [short, long]
    constructor
    · intro same
      exact String.append_eq_right_iff.mp (congrArg CommandLine.rest same)
    · rintro rfl
      rw [String.empty_append]
  · refine editor.next_tells awaiting ?_
    have long := CommandLine.scan_expansion shorthand CommandLine.isBlankText_empty
      isRest.withoutLineEnd
    rw [String.append_empty] at long
    rw [shorthand.withoutLineEnd_expansion, shorthand.withoutLineEnd_text, long,
      CommandLine.scan_shorthand]

theorem shorthand_exact_delete :
    CommandLine.scan "%d" = CommandLine.scan "1,$d" ∧
      (ofText "one\ntwo").answer "%d" = (ofText "one\ntwo").answer "1,$d" ∧
      ((ofText "one\ntwo").next "1,$d").Tells ((ofText "one\ntwo").next "%d") := by
  have awaiting : (ofText "one\ntwo").activeMode? = some .command := by decide +kernel
  have isRest : IsRest "d" := by decide
  obtain ⟨-, same, effect⟩ := shorthand_exact .percent CommandLine.isBlankText_empty isRest
  exact ⟨same.mpr rfl, effect rfl _ awaiting⟩

/-- With white space before the letter, a shorthand prints the last line where the two addresses
delete all lines. -/
theorem shorthand_blank_differs :
    CommandLine.scan "% d" ≠ CommandLine.scan "1,$ d" ∧
      (ofText "one\ntwo").answer "% d" = .ok { kind := .text, lines := ["two"] } ∧
      ((ofText "one\ntwo").next "% d").buffer.lines = ["one", "two"] ∧
      (ofText "one\ntwo").answer "1,$ d" = .ok { kind := .none } ∧
      ((ofText "one\ntwo").next "1,$ d").buffer.lines = [] := by
  refine ⟨by decide, eq_ok_of_toOption ?_, ?_, eq_ok_of_toOption ?_, ?_⟩
  · decide +kernel
  · decide +kernel
  · decide +kernel
  · decide +kernel

end Editor

end LineEditor
