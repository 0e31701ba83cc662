/-!
# Undo history

The history is a stack of the states before each change, the latest on top, with
a limit on its height: when a push exceeds it, the oldest entry falls off.

A buffer that is made with a history of its own takes it only if there is an
entry in it (`History.orUsual`).
-/

set_option autoImplicit false

namespace LineEditor

/-- The state before a change: the lines and the current line, and what the change was. -/
structure HistoryEntry where
  label : String
  lines : List String
  current : Nat
  deriving DecidableEq

/-- The entries, the latest first, and the greatest number of them. -/
structure History where
  entries : List HistoryEntry := []
  limit : Int := 256
  deriving DecidableEq

namespace History

/-- The history that a buffer gets which is made with the given one.  A history without entries
counts as none, whatever its limit. -/
def orUsual (given? : Option History) : History :=
  match given? with
  | some history => if history.entries.isEmpty then {} else history
  | none => {}

/-- The number of entries. -/
def size (history : History) : Nat :=
  history.entries.length

/-- The history with one more entry; the oldest one falls off past the limit. -/
def push (history : History) (entry : HistoryEntry) : History :=
  let entries := entry :: history.entries
  { history with
    entries := if (entries.length : Int) > history.limit then entries.dropLast else entries }

/-- The latest entry and the history without it. -/
def pop? (history : History) : Option (HistoryEntry × History) :=
  match history.entries with
  | [] => none
  | entry :: entries => some (entry, { history with entries })

end History

end LineEditor
