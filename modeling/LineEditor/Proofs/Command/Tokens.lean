import LineEditor.Proofs.Command.Stepping

/-!
# The order of address tokens

A second address token never occurs without a first one.  While a line is being
scanned, the second token is begun only behind a comma that follows a first
token (`ScanState.Led`), and a shorthand fills both tokens at once; at the end,
a search or a mark that stands alone is copied, so the second token is then the
first one (`CommandLine.scan_first_of_second`).
-/

set_option autoImplicit false

namespace LineEditor

namespace ScanState

/-- Where a second token has been begun, there is a first one. -/
def Led (state : ScanState) : Prop :=
  state.first = "" → state.phase ≠ .second ∧ state.second = ""

/-- In each of its phases the scanner has a first token before it begins a second one. -/
theorem Placed.isLed {state : ScanState} (placed : state.Placed) : state.Led := by
  intro empty
  refine ⟨fun second => placed.parted second empty, ?_⟩
  by_contra filled
  exact (placed.led filled).1 empty

/-- The parts of a line keep the order of the tokens. -/
theorem first_of_second_finish {state : ScanState} (led : state.Led)
    (second : state.finish.second ≠ "") : state.finish.first ≠ "" := by
  intro empty
  have unled : state.second = "" := (led empty).2
  have first : state.first = "" := empty
  simp [finish, unled, first] at second

end ScanState

/-- **A line has a second address token only behind a first one.** -/
theorem CommandLine.scan_first_of_second {text : String}
    (second : (CommandLine.scan text).second ≠ "") : (CommandLine.scan text).first ≠ "" :=
  ScanState.first_of_second_finish (ScanState.placed_start.feed text.toList).isLed second

end LineEditor
