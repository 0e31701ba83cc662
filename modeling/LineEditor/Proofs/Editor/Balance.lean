import Mathlib.Data.List.Nodup
import Mathlib.Data.Prod.Basic
import LineEditor.Proofs.Editor.Settling

/-!
# The balance of the log

The calls of every submitted line form a trace that is balanced
(`Telemetry.Trace.Balanced`): the spans are nested and closed, the context of the
log is that of the spans that are open, and the errors are the failures of spans.

Transactions may outlast their lines.  What is open when a line is submitted,
together with what the line begins, is what the line settles together with what
is open afterwards, and of what it settles it tells the log once
(`Editor.AccountsFor`, `Editor.Sound.accounts`).  Over a run this adds up
(`Editor.Sound.settled_run`).

`Editor.log_balanced` puts the two together for all reachable editors.
-/

set_option autoImplicit false

namespace LineEditor

open Telemetry (Call)

namespace Editor

variable {editor : Editor}

/-- The labels of the transactions that lines begin, one line after the other. -/
def begunLabels : Editor → List String → List String
  | _, [] => []
  | editor, raw :: rest => (editor.begunLabel? raw).toList ++ begunLabels (editor.next raw) rest

/-- What a line makes of the transaction that is open and of the one that it begins: what it does not
settle is open afterwards.  What is settled is committed if the line is completed, and rolled back
otherwise.  While text is entered, the line that closes the text settles; in the command mode, a line
settles that begins a transaction, unless it opens text entry. -/
structure AccountsFor (editor : Editor) (raw : String) (settled? : Option Settlement) : Prop where
  balanced : editor.openLabel?.toList ++ (editor.begunLabel? raw).toList =
    (settled?.map (·.label)).toList ++ (editor.next raw).openLabel?.toList
  committed : ∀ settlement, settled? = some settlement →
    settlement.committed = editor.completes (editor.answer raw)
  entering : editor.session.mode = .text →
    (settled?.isSome ↔ withoutLineEnd raw = EditorM.textEnd)
  awaiting : editor.session.mode = .command →
    (settled?.isSome ↔ (editor.begunLabel? raw).isSome ∧ (editor.next raw).session.mode = .command)

/-- A transaction is open between two lines just while text is entered. -/
theorem Sound.openLabel_eq_none_iff (sound : editor.Sound) :
    editor.openLabel? = none ↔ editor.session.mode = .command := by
  cases sound with
  | command ready bounded => simp [openLabel?, ready.closed.opened, ready.mode]
  | text ready registry fresh edited =>
      simp [openLabel?, edited.opened_entered fresh.closed, ready.mode]

/-- **A submitted line leaves the transaction that is open or that it begins**, unless it stays open
for a text. -/
theorem Sound.leaves (sound : editor.Sound) (raw : String) :
    ∃ stays, editor.Leaves (editor.openLabel?.or (editor.begunLabel? raw)) stays
        (editor.completes (editor.answer raw)) (editor.next raw) ∧
      (editor.session.mode = .text → (stays = false ↔ withoutLineEnd raw = EditorM.textEnd)) := by
  cases sound with
  | command ready bounded =>
      have closed : editor.openLabel? = none := congrArg _ ready.closed.opened
      have awaiting : editor.session.mode ≠ .text := by rw [ready.mode]; decide
      rw [closed, Option.none_or]
      cases ended : editor.session.ended with
      | true =>
          have none : editor.begunLabel? raw = none := by simp [begunLabel?, ended]
          rw [none, (submit_ended ended raw).2]
          exact ⟨false, leaves_none (Stepwise.refl editor) ready.closed.opened _ _,
            fun entering => absurd entering awaiting⟩
      | false =>
          obtain ⟨stays, leaves⟩ := EditorM.Ensures.run
            (fun outcome after => ∃ stays,
              editor.Leaves (editor.begunLabel? raw) stays (editor.completes outcome) after)
            (EditorM.ensures_submit_leaves ready ended raw)
          exact ⟨stays, leaves, fun entering => absurd entering awaiting⟩
  | @text ready registry origin label count fresh edited =>
      have opened := edited.opened_entered fresh.closed
      have outermost := edited.depth_entered fresh.closed
      have leaves := EditorM.Ensures.run
        (fun _ after => editor.Leaves (some label)
          (decide (withoutLineEnd raw ≠ EditorM.textEnd)) true after)
        ((EditorM.ensures_submit_text_leaves ready opened outermost raw).mono
          (fun _ _ leaves => leaves) fun _ _ impossible => impossible.elim)
      have isLabel : editor.openLabel? = some label := congrArg _ opened
      have completed : editor.completes (editor.answer raw) = true := by
        rw [(ready.step raw).1]
        simp [completes, ready.goesOn]
      rw [isLabel, Option.some_or, completed]
      exact ⟨_, leaves, fun _ => by simp⟩

/-- What is open when a line is submitted and what the line begins exclude each other. -/
theorem Sound.toList_or (sound : editor.Sound) (raw : String) :
    (editor.openLabel?.or (editor.begunLabel? raw)).toList =
      editor.openLabel?.toList ++ (editor.begunLabel? raw).toList := by
  cases mode : editor.session.mode with
  | command =>
      rw [sound.openLabel_eq_none_iff.mpr mode]
      rfl
  | text =>
      have none : editor.begunLabel? raw = none := by simp [begunLabel?, mode]
      rw [none, Option.or_none, Option.toList_none, List.append_nil]

/-- **What is open and what a line begins, the line settles or leaves open**, and it tells the log of
what it settles, and of nothing else. -/
theorem Sound.accounts (sound : editor.Sound) (raw : String) :
    ∃ settled?, editor.AccountsFor raw settled? ∧
      editor.Reported settled?.toList (editor.next raw) := by
  obtain ⟨stays, leaves, ends⟩ := sound.leaves raw
  have after := (sound.next raw).openLabel_eq_none_iff
  have before := sound.openLabel_eq_none_iff
  obtain ⟨reported, openLabel⟩ := leaves
  generalize completed : editor.completes (editor.answer raw) = committed at reported
  have one := sound.toList_or raw
  cases stays with
  | true =>
      refine ⟨none, ⟨?_, ?_, ?_, ?_⟩, reported⟩
      · rw [openLabel, ← one]
        rfl
      · intro settlement impossible
        cases impossible
      · intro entering
        simp [← ends entering]
      · intro awaiting
        rw [if_pos rfl, before.mpr awaiting, Option.none_or] at openLabel
        rw [← after, openLabel]
        cases editor.begunLabel? raw <;> simp
  | false =>
      refine ⟨(editor.openLabel?.or (editor.begunLabel? raw)).map (⟨·, committed⟩), ⟨?_, ?_, ?_, ?_⟩,
        ?_⟩
      · rw [openLabel, ← one, Option.map_map]
        simp [Function.comp_def]
      · intro settlement settled
        obtain ⟨label, -, rfl⟩ := Option.map_eq_some_iff.mp settled
        exact completed.symm
      · intro entering
        have opened : editor.openLabel?.isSome := by
          rw [Option.isSome_iff_ne_none]
          intro closed
          rw [before.mp closed] at entering
          cases entering
        simp [← ends entering, opened]
      · intro awaiting
        rw [← after, openLabel, before.mpr awaiting, Option.none_or]
        simp
      · rw [if_neg (by decide)] at reported
        rwa [Option.toList_map]

/-- What is open and what is begun in a run is settled in it or open in the end. -/
theorem Sound.settled_run (lines : List String) :
    ∀ {editor : Editor}, editor.Sound →
      ∃ settlements, editor.Reported settlements (editor.run lines) ∧
        editor.openLabel?.toList ++ editor.begunLabels lines =
          settlements.map (·.label) ++ (editor.run lines).openLabel?.toList := by
  induction lines with
  | nil =>
      intro editor sound
      refine ⟨[], Told.reports_nil (Stepwise.refl editor), ?_⟩
      rw [begunLabels, List.append_nil]
      rfl
  | cons raw rest ih =>
      intro editor sound
      obtain ⟨settled?, accounts, now⟩ := sound.accounts raw
      obtain ⟨settlements, later, balanced⟩ := ih (sound.next raw)
      refine ⟨settled?.toList ++ settlements, now.trans later, ?_⟩
      calc editor.openLabel?.toList ++ editor.begunLabels (raw :: rest)
          = (editor.openLabel?.toList ++ (editor.begunLabel? raw).toList) ++
              (editor.next raw).begunLabels rest := by rw [begunLabels, List.append_assoc]
        _ = (settled?.map (·.label)).toList ++
              ((editor.next raw).openLabel?.toList ++ (editor.next raw).begunLabels rest) := by
            rw [accounts.balanced, List.append_assoc]
        _ = (settled?.toList ++ settlements).map (·.label) ++
              (editor.run (raw :: rest)).openLabel?.toList := by
            rw [balanced, Option.toList_map, List.map_append, List.append_assoc]
            rfl

/-- **The log of every line is balanced.**  A submitted line records a trace, which is all that it
tells the log and whose calls are balanced, also if the line is refused or a fault escapes.  In a run
of lines, every transaction that is begun is settled once, or it is open in the end, and the log is
told of each settlement once. -/
theorem log_balanced (reachable : editor.Reachable) :
    (∀ raw, ∃ trace, EditorM.Records (EditorM.submit raw) editor trace ∧
      editor.Logs trace.calls (editor.next raw) ∧ trace.Balanced ∧
      ∃ settled?, editor.AccountsFor raw settled? ∧
        List.Forall₂ Settlement.ReportedBy settled?.toList
          (trace.calls.filter Call.isReport)) ∧
      ∀ lines, ∃ settlements, editor.Reported settlements (editor.run lines) ∧
        editor.openLabel?.toList ++ editor.begunLabels lines =
          settlements.map (·.label) ++ (editor.run lines).openLabel?.toList := by
  have sound := reachable.sound
  refine ⟨fun raw => ?_, fun lines => sound.settled_run lines⟩
  have equipped : editor.registry = Registry.own ∧ editor.BothModes := by
    cases sound with
    | command ready bounded => exact ⟨ready.registry, ready.modes⟩
    | text ready registry fresh edited => exact ⟨registry, ready.modes⟩
  obtain ⟨trace, records, keys⟩ := EditorM.traced_submit raw equipped.1 equipped.2
  obtain ⟨settled?, accounts, calls, tells, reported⟩ := sound.accounts raw
  have distinct : trace.keys.Nodup :=
    keys.nodup (List.Nodup.map (Prod.mk_right_injective _) (by decide))
  -- The two say the same of what the line has told the log.
  have same : calls = trace.calls := List.append_cancel_left (tells.1.symm.trans records.logs.1)
  rw [same] at reported
  exact ⟨trace, records, records.logs, trace.balanced distinct, settled?, accounts, reported⟩

/-- A fault that escapes from the command to read a file passes through the three spans of its line
and takes the transaction back.  A text that is entered is settled when it ends. -/
theorem log_balanced_escaping :
    (ofText "one\ntwo").Reachable ∧
      (∃ trace, EditorM.Records (EditorM.submit "r a\x00b") (ofText "one\ntwo") trace ∧
        trace.Balanced ∧ trace.failures.length = 3 ∧
        List.Forall₂ Settlement.ReportedBy [⟨"r", false⟩] (trace.calls.filter Call.isReport)) ∧
      ∃ settlements, (ofText "one\ntwo").Reported settlements
          ((ofText "one\ntwo").run ["1m9", "a", "three", "."]) ∧
        settlements.map (·.label) = ["m", "a"] := by
  have reachable := reachable_ofText "one\ntwo"
  obtain ⟨each, all⟩ := log_balanced reachable
  refine ⟨reachable, ?_, ?_⟩
  · obtain ⟨trace, records, tells, balanced, settled?, accounts, reported⟩ := each "r a\x00b"
    have begun : (ofText "one\ntwo").begunLabel? "r a\x00b" = some "r" := by decide +kernel
    have closed : (ofText "one\ntwo").openLabel? = none := by decide +kernel
    have stillClosed : ((ofText "one\ntwo").next "r a\x00b").openLabel? = none := by
      decide +kernel
    have failed : (ofText "one\ntwo").completes ((ofText "one\ntwo").answer "r a\x00b") = false := by
      decide +kernel
    have errors : (ofText "one\ntwo").journal.calls.toList.countP Call.isError = 0 ∧
        ((ofText "one\ntwo").next "r a\x00b").journal.calls.toList.countP Call.isError = 3 := by
      decide +kernel
    have settled : settled? = some ⟨"r", false⟩ := by
      have labels := accounts.balanced
      rw [begun, closed, stillClosed] at labels
      cases settled? with
      | none => cases labels
      | some settlement =>
          obtain ⟨label, committed⟩ := settlement
          have ends := accounts.committed _ rfl
          rw [failed] at ends
          obtain rfl : committed = false := ends
          obtain rfl : label = "r" := by simpa using labels.symm
          rfl
    have count : trace.calls.countP Call.isError = 3 := by
      have added := congrArg (List.countP Call.isError) tells.1
      rw [List.countP_append, errors.1, errors.2, Nat.zero_add] at added
      exact added.symm
    rw [settled] at reported
    refine ⟨trace, records, balanced, ?_, reported⟩
    rw [List.countP_eq_length_filter, balanced.failed, List.length_map] at count
    exact count
  · obtain ⟨settlements, reports, balanced⟩ := all ["1m9", "a", "three", "."]
    have begun : (ofText "one\ntwo").begunLabels ["1m9", "a", "three", "."] = ["m", "a"] := by
      decide +kernel
    have closed : (ofText "one\ntwo").openLabel? = none := by decide +kernel
    have stillClosed :
        ((ofText "one\ntwo").run ["1m9", "a", "three", "."]).openLabel? = none := by
      decide +kernel
    rw [begun, closed, stillClosed] at balanced
    exact ⟨settlements, reports, by simpa using balanced.symm⟩

end Editor

end LineEditor
