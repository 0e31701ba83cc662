import LineEditor.Proofs.Editor.Primitives

/-!
# Uses grouped by a transaction

Between the opening and the leaving of a transaction a buffer can be used in any
way, and other transactions can be opened and left in it to any depth
(`Primitive.Nested`).  These have no effect of their own: inside of the outermost
transaction the uses do to the lines and to the current line what they would do
without any transactions (`Primitive.revise`), and whatever is inserted or
deleted is a primitive edit (`Primitive.foldl_advanced`).

So a transaction that is left normally is one step of the history if anything
has been inserted or deleted in it, and else no step at all
(`Primitive.grouped_one_step`).  One that is left because of a fault gives back
everything but the entries of the history that have been taken back in it
(`Primitive.rolled_back_taken`).
-/

set_option autoImplicit false

namespace LineEditor

/-- The lines of a buffer and the current line. -/
structure Page where
  lines : List String
  current : Nat
  deriving DecidableEq

/-- Where there is room for an entry, a push keeps it, and the oldest one falls off if the limit has
been reached. -/
theorem History.push_room {history : History} (room : 1 ≤ history.limit) (entry : HistoryEntry) :
    history.push entry =
      { history with
        entries := entry ::
          if (history.size : Int) < history.limit then history.entries
          else history.entries.dropLast } := by
  have length : (entry :: history.entries).length = history.size + 1 := rfl
  by_cases within : (history.size : Int) < history.limit
  · rw [push, if_pos within, length, if_neg (by omega)]
  · have some : history.entries ≠ [] := by
      rw [← List.length_pos_iff]
      rw [size] at within
      omega
    rw [push, if_neg within, length, if_pos (by omega), List.dropLast_cons_of_ne_nil some]

namespace Buffer

/-- What can be seen of a buffer. -/
def page (buffer : Buffer) : Page :=
  ⟨buffer.lines, buffer.current⟩

/-- The buffer without the transactions that are open inside of the outermost one. -/
def outermost (buffer : Buffer) : Buffer :=
  { buffer with depth := 0 }

theorem length_page (buffer : Buffer) : buffer.page.lines.length = buffer.lineCount := rfl

theorem outermost_eq {buffer : Buffer} (outer : buffer.depth = 0) : buffer.outermost = buffer := by
  rw [outermost, ← outer]

/-- Edits do not depend on how many transactions are open inside of the outermost one. -/
theorem Edited.outermost {count : Nat} {before after : Buffer}
    (edited : Edited count before after) :
    before.outermost.Edited count after.outermost :=
  { edited with depth := rfl }

/-- Leaving a transaction normally changes nothing that can be seen. -/
theorem commit_page (buffer : Buffer) : buffer.commit.page = buffer.page := by
  rw [commit]
  split
  · rfl
  · rfl
  · dsimp only
    split <;> rfl

section Inner

variable {buffer : Buffer} (opened : buffer.opened?.isSome)
include opened

theorem enter_inner (label : String) :
    buffer.enter label = { buffer with depth := buffer.depth + 1 } := by
  rw [enter]
  split
  · rfl
  · rename_i closed
    rw [closed] at opened
    cases opened

theorem commit_inner (within : buffer.depth ≠ 0) :
    buffer.commit = { buffer with depth := buffer.depth - 1 } := by
  rw [commit]
  split
  · rename_i closed
    rw [closed] at opened
    cases opened
  · rename_i inner
    rw [inner]
    rfl
  · rename_i outer
    exact absurd outer within

theorem rollback_inner (within : buffer.depth ≠ 0) :
    buffer.rollback = { buffer with depth := buffer.depth - 1 } := by
  rw [rollback]
  split
  · rename_i closed
    rw [closed] at opened
    cases opened
  · rename_i inner
    rw [inner]
    rfl
  · rename_i outer
    exact absurd outer within

end Inner

/-- There have been primitive edits, if there were to be any, and they have led to this page. -/
structure Advanced (edits : Prop) (page : Page) (before after : Buffer) : Prop where
  edited : ∃ count, before.Edited count after ∧ (0 < count ↔ edits)
  page : after.page = page

theorem Advanced.still (buffer : Buffer) : buffer.Advanced False buffer.page buffer :=
  ⟨⟨0, .refl _, by simp⟩, rfl⟩

theorem Advanced.trans {first second : Prop} {one two : Page} {before middle after : Buffer}
    (earlier : before.Advanced first one middle) (later : middle.Advanced second two after) :
    before.Advanced (first ∨ second) two after := by
  obtain ⟨count, edited, some⟩ := earlier.edited
  obtain ⟨more, editedMore, someMore⟩ := later.edited
  refine ⟨⟨count + more, edited.trans editedMore, ?_⟩, later.page⟩
  rw [← some, ← someMore]
  omega

theorem Advanced.of_edited {edits : Prop} {count : Nat} {before after : Buffer}
    (edited : before.Edited count after) (some : 0 < count ↔ edits) :
    before.Advanced edits after.page after :=
  ⟨⟨count, edited, some⟩, rfl⟩

theorem Advanced.outermost {edits : Prop} {page : Page} {before after : Buffer}
    (advanced : before.Advanced edits page after) :
    before.outermost.Advanced edits page after.outermost := by
  obtain ⟨count, edited, some⟩ := advanced.edited
  exact ⟨⟨count, edited.outermost, some⟩, advanced.page⟩

/-- What belongs to the transaction and to the file is as before, and so is the history but for so
many of its latest entries, which have been taken back. -/
structure Remains (taken : Nat) (before after : Buffer) : Prop where
  opened : after.opened? = before.opened?
  history : after.history =
    { before.history with entries := before.history.entries.drop taken }
  path : after.path? = before.path?
  name : after.name = before.name
  encoding : after.encoding = before.encoding

theorem Edited.remains {count : Nat} {before after : Buffer} (edited : Edited count before after) :
    before.Remains 0 after :=
  ⟨edited.opened, edited.history, edited.path, edited.name, edited.encoding⟩

theorem Remains.trans {taken more : Nat} {before middle after : Buffer}
    (earlier : before.Remains taken middle) (later : middle.Remains more after) :
    before.Remains (taken + more) after := by
  refine ⟨later.opened.trans earlier.opened, ?_, later.path.trans earlier.path,
    later.name.trans earlier.name, later.encoding.trans earlier.encoding⟩
  rw [later.history, earlier.history, List.drop_drop]

/-- Taking a change back takes the latest entry off the history, if there is one. -/
theorem remains_undo (buffer : Buffer) : buffer.Remains 1 (buffer.undo?.getD buffer) := by
  cases entries : buffer.history.entries with
  | nil =>
      rw [undo?_empty entries]
      refine ⟨rfl, ?_, rfl, rfl, rfl⟩
      rw [entries, List.drop_nil, ← entries]
      rfl
  | cons entry rest =>
      rw [undo?_entries entries]
      refine ⟨rfl, ?_, rfl, rfl, rfl⟩
      rw [entries]
      rfl

end Buffer

namespace Primitive

variable {editor start : Editor} {use : Primitive} {uses : List Primitive} {depth : Nat}
  {label : String}

/-- A use takes a change back. -/
def takesBack : Primitive → Bool
  | .undo => true
  | _ => false

/-- How many transactions are open inside of the outermost one behind a use that does not leave it.
Saving has no place in a transaction. -/
def innerDepth? (depth : Nat) : Primitive → Option Nat
  | .enter _ => some (depth + 1)
  | .leave _ => if depth = 0 then none else some (depth - 1)
  | .save _ => none
  | _ => some depth

/-- Uses that can stand inside of a transaction: whatever others they open in it, they have left by
the end. -/
def Nested (uses : List Primitive) : Prop :=
  uses.foldlM innerDepth? 0 = some 0

instance (uses : List Primitive) : Decidable (Nested uses) :=
  inferInstanceAs (Decidable (uses.foldlM innerDepth? 0 = some 0))

/-- A use inserts a line or deletes one. -/
def Edits (editor : Editor) : Primitive → Prop
  | .insertLines after lines => lines ≠ [] ∧ 0 ≤ after ∧ after ≤ editor.buffer.lineCount
  | .deleteRange start finish => 1 ≤ start ∧ start ≤ finish ∧ finish ≤ editor.buffer.lineCount
  | _ => False

/-- One of the uses inserts a line or deletes one. -/
def EditsSome (editor : Editor) : List Primitive → Prop
  | [] => False
  | use :: rest => use.Edits editor ∨ EditsSome (use.perform editor) rest

/-- What a use makes of a page if there are no transactions. -/
def revise (page : Page) : Primitive → Page
  | .insertLines after lines =>
    if 0 ≤ after ∧ after ≤ page.lines.length then
      { page with lines := page.lines.take after.toNat ++ lines ++ page.lines.drop after.toNat }
    else page
  | .deleteRange start finish =>
    if 1 ≤ start ∧ start ≤ finish ∧ finish ≤ page.lines.length then
      let lines := page.lines.take (start.toNat - 1) ++ page.lines.drop finish.toNat
      { lines, current := max 1 (min page.current (max lines.length 1)) }
    else page
  | .setCurrent line =>
    if 1 ≤ line ∧ line ≤ max page.lines.length 1 then { page with current := line.toNat } else page
  | _ => page

/-! ## One use -/

/-- A use that only looks at the buffer changes nothing. -/
theorem perform_reading
    (looks : use.work.Ensures editor (fun _ after => after = editor)
      (fun _ after => after = editor)) :
    perform editor use = editor :=
  EditorM.Ensures.run (fun _ after => after = editor) looks

theorem perform_deleteRange (start finish : Int) :
    (perform editor (.deleteRange start finish)).buffer =
      (editor.buffer.deleteRange start finish).toOption.getD editor.buffer :=
  perform_buffer (fun buffer => buffer.deleteRange start finish)
    EditorM.ensures_editBuffer

theorem perform_setCurrent (line : Int) :
    (perform editor (.setCurrent line)).buffer =
      (editor.buffer.setCurrent line).toOption.getD editor.buffer := by
  refine perform_buffer (fun buffer => buffer.setCurrent line) ?_
  rw [work, EditorM.setCurrent, EditorM.ensures_modifyBuffer]
  exact ⟨fun _ success => success, fun _ failed => ⟨failed, rfl⟩⟩

/-- What fails makes no edit. -/
theorem advanced_failed {buffer : Buffer} {outcome : Except Fault Buffer} {edits : Prop}
    (fails : ¬∃ after, outcome = .ok after) (none : ¬edits) :
    buffer.Advanced edits buffer.page (outcome.toOption.getD buffer) := by
  cases outcome with
  | ok after => exact absurd ⟨after, rfl⟩ fails
  | error fault =>
      have same : edits = False := eq_false none
      rw [same]
      exact .still buffer

section Opened

variable (opened : editor.buffer.opened?.isSome)
include opened

theorem advanced_insertLines (after : Int) (lines : List String) :
    editor.buffer.Advanced (Edits editor (.insertLines after lines))
      (revise editor.buffer.page (.insertLines after lines))
      (perform editor (.insertLines after lines)).buffer := by
  rw [perform_insertLines, revise, Edits, Buffer.length_page]
  by_cases within : 0 ≤ after ∧ after ≤ editor.buffer.lineCount
  · rw [if_pos within]
    obtain ⟨place, rfl⟩ := Int.eq_ofNat_of_zero_le within.1
    have there : place ≤ editor.buffer.lineCount := by omega
    cases lines with
    | nil =>
        have success : editor.buffer.insertLines place [] = .ok editor.buffer := by
          rw [Buffer.insertLines, Buffer.checkLine_eq_ok_iff.mpr within]
          rfl
        rw [success]
        simpa [Except.toOption] using Buffer.Advanced.still editor.buffer
    | cons line rest =>
        have nonempty : line :: rest ≠ [] := List.cons_ne_nil line rest
        rw [Buffer.insertLines_opened opened there nonempty]
        exact .of_edited (Buffer.edited_insert editor.buffer there nonempty)
          (by simp [within])
  · rw [if_neg within]
    exact advanced_failed (by rwa [Buffer.insertLines_succeeds_iff]) fun edits => within edits.2

theorem advanced_deleteRange (start finish : Int) :
    editor.buffer.Advanced (Edits editor (.deleteRange start finish))
      (revise editor.buffer.page (.deleteRange start finish))
      (perform editor (.deleteRange start finish)).buffer := by
  rw [perform_deleteRange, revise, Edits, Buffer.length_page]
  by_cases within : 1 ≤ start ∧ start ≤ finish ∧ finish ≤ editor.buffer.lineCount
  · rw [if_pos within]
    obtain ⟨first, rfl⟩ := Int.eq_ofNat_of_zero_le (show 0 ≤ start by omega)
    obtain ⟨last, rfl⟩ := Int.eq_ofNat_of_zero_le (show 0 ≤ finish by omega)
    have low : 1 ≤ first := by omega
    have ordered : first ≤ last := by omega
    have high : last ≤ editor.buffer.lineCount := by omega
    rw [Buffer.deleteRange_opened opened low ordered high]
    exact .of_edited (Buffer.edited_delete editor.buffer low ordered high) (by simp [within])
  · rw [if_neg within]
    exact advanced_failed (by rwa [Buffer.deleteRange_succeeds_iff]) within

omit opened in
theorem advanced_setCurrent (line : Int) :
    editor.buffer.Advanced (Edits editor (.setCurrent line))
      (revise editor.buffer.page (.setCurrent line))
      (perform editor (.setCurrent line)).buffer := by
  have none : Edits editor (.setCurrent line) = False := rfl
  rw [perform_setCurrent, revise, none, Buffer.length_page]
  by_cases within : 1 ≤ line ∧ line ≤ max editor.buffer.lineCount 1
  · rw [if_pos within]
    obtain ⟨number, rfl⟩ := Int.eq_ofNat_of_zero_le (show 0 ≤ line by omega)
    have low : 1 ≤ number := by omega
    have high : number ≤ editor.buffer.lastLine := by
      rw [Buffer.lastLine]
      omega
    rw [Buffer.setCurrent_placed editor.buffer low high]
    exact .of_edited (editor.buffer.edited_current low high) (by simp)
  · rw [if_neg within]
    exact advanced_failed (by rwa [Buffer.setCurrent_succeeds_iff]) id

/-- A use that opens or leaves no transaction does what it would do without one. -/
theorem perform_advanced (same : innerDepth? depth use = some depth)
    (forward : use.takesBack = false) :
    editor.buffer.Advanced (use.Edits editor) (revise editor.buffer.page use)
      (perform editor use).buffer := by
  cases use with
  | insertLines after lines => exact advanced_insertLines opened after lines
  | deleteRange start finish => exact advanced_deleteRange opened start finish
  | setCurrent line => exact advanced_setCurrent line
  | readRange _ _ | searchForward _ _ | searchBackward _ _ =>
      rw [perform_reading (by simp only [work, EditorM.ensures_bind, EditorM.ensures_get,
        EditorM.ensures_lift, EditorM.ensures_pure, implies_true, and_self])]
      exact .still editor.buffer
  | save path? => cases same
  | undo => cases forward
  | enter label => simp [innerDepth?] at same
  | leave succeeded =>
      simp only [innerDepth?] at same
      split at same
      · cases same
      · have unchanged := Option.some.inj same
        omega

/-- Opening and leaving transactions inside of the outermost one changes nothing but how many of
them are open. -/
theorem perform_bracket (inside : innerDepth? editor.buffer.depth use = some depth)
    (other : depth ≠ editor.buffer.depth) :
    (perform editor use).buffer = { editor.buffer with depth } ∧ (use.Edits editor ↔ False) ∧
      revise editor.buffer.page use = editor.buffer.page ∧ use.takesBack = false := by
  cases use with
  | enter label =>
      obtain rfl := Option.some.inj inside
      exact ⟨Buffer.enter_inner opened label, Iff.rfl, rfl, rfl⟩
  | leave succeeded =>
      refine ⟨?_, Iff.rfl, rfl, rfl⟩
      simp only [innerDepth?] at inside
      split at inside
      · cases inside
      · rename_i within
        obtain rfl := Option.some.inj inside
        show (editor.leaveTransaction succeeded).buffer = _
        rw [Editor.leaveTransaction_buffer, Buffer.commit_inner opened within,
          Buffer.rollback_inner opened within, ite_self]
  | insertLines _ _ | deleteRange _ _ | setCurrent _ | readRange _ _ | searchForward _ _
  | searchBackward _ _ | undo => exact absurd (Option.some.inj inside).symm other
  | save path? => cases inside

/-- **Inside of a transaction a use does what it would do without any**, and it leaves as many
others open as it should. -/
theorem perform_forward (inside : innerDepth? editor.buffer.depth use = some depth)
    (forward : use.takesBack = false) :
    (perform editor use).buffer.depth = depth ∧
      editor.buffer.outermost.Advanced (use.Edits editor) (revise editor.buffer.page use)
        (perform editor use).buffer.outermost := by
  by_cases same : depth = editor.buffer.depth
  · subst same
    have advanced := perform_advanced opened inside forward
    obtain ⟨count, edited, -⟩ := advanced.edited
    exact ⟨edited.depth, advanced.outermost⟩
  · obtain ⟨buffer, none, page, -⟩ := perform_bracket opened inside same
    rw [buffer, page, propext none]
    exact ⟨rfl, .still editor.buffer.outermost⟩

/-- Inside of a transaction a use takes nothing off the history, unless it takes a change back. -/
theorem perform_remains (inside : innerDepth? editor.buffer.depth use = some depth) :
    (perform editor use).buffer.depth = depth ∧
      editor.buffer.Remains (if use.takesBack then 1 else 0) (perform editor use).buffer := by
  by_cases back : use.takesBack
  · rw [if_pos back]
    cases use with
    | undo =>
        refine ⟨?_, editor.buffer.remains_undo⟩
        show (editor.buffer.undo?.getD editor.buffer).depth = depth
        rw [← Option.some.inj inside]
        cases undone : editor.buffer.undo? with
        | none => rfl
        | some restored =>
            obtain ⟨entry, rest, back⟩ := Buffer.undo?_restored undone
            exact back.depth
    | _ => cases back
  · rw [if_neg back]
    obtain ⟨depth, advanced⟩ := perform_forward opened inside (Bool.eq_false_iff.mpr back)
    obtain ⟨count, edited, -⟩ := advanced.edited
    have remains := edited.remains
    exact ⟨depth, ⟨remains.opened, remains.history, remains.path, remains.name, remains.encoding⟩⟩

end Opened

/-! ## One use after the other -/

/-- What uses inside of a transaction come to, none of which takes a change back. -/
theorem foldl_advanced (uses : List Primitive) :
    ∀ {editor : Editor} {depth : Nat}, editor.buffer.opened?.isSome →
      uses.foldlM innerDepth? editor.buffer.depth = some depth →
      (∀ use ∈ uses, use.takesBack = false) →
      (uses.foldl perform editor).buffer.depth = depth ∧
        editor.buffer.outermost.Advanced (EditsSome editor uses)
          (uses.foldl revise editor.buffer.page) (uses.foldl perform editor).buffer.outermost := by
  induction uses with
  | nil =>
      intro editor depth opened inside forward
      exact ⟨Option.some.inj inside, .still editor.buffer.outermost⟩
  | cons use rest ih =>
      intro editor depth opened inside forward
      rw [List.foldlM_cons] at inside
      -- The uses that follow are inside of the same outermost transaction, however many others the
      -- first one has opened or left.
      obtain ⟨middle, one, others⟩ := Option.bind_eq_some_iff.mp inside
      obtain ⟨isMiddle, advanced⟩ := perform_forward opened one (forward use List.mem_cons_self)
      have stillOpened : (perform editor use).buffer.opened?.isSome := by
        obtain ⟨count, edited, -⟩ := advanced.edited
        have same := edited.remains.opened
        exact same ▸ opened
      have page : (perform editor use).buffer.page = revise editor.buffer.page use := advanced.page
      rw [← isMiddle] at others
      obtain ⟨isDepth, more⟩ := ih stillOpened others
        fun other member => forward other (List.mem_cons_of_mem use member)
      rw [page] at more
      exact ⟨isDepth, advanced.trans more⟩

/-- What uses inside of a transaction leave of the history. -/
theorem foldl_remains (uses : List Primitive) :
    ∀ {editor : Editor} {depth : Nat}, editor.buffer.opened?.isSome →
      uses.foldlM innerDepth? editor.buffer.depth = some depth →
      (uses.foldl perform editor).buffer.depth = depth ∧
        editor.buffer.Remains (uses.countP takesBack) (uses.foldl perform editor).buffer := by
  induction uses with
  | nil =>
      intro editor depth opened inside
      exact ⟨Option.some.inj inside, (Buffer.Edited.refl editor.buffer).remains⟩
  | cons use rest ih =>
      intro editor depth opened inside
      rw [List.foldlM_cons] at inside
      obtain ⟨middle, one, others⟩ := Option.bind_eq_some_iff.mp inside
      obtain ⟨isMiddle, remains⟩ := perform_remains opened one
      have stillOpened : (perform editor use).buffer.opened?.isSome := remains.opened ▸ opened
      rw [← isMiddle] at others
      obtain ⟨isDepth, more⟩ := ih stillOpened others
      refine ⟨isDepth, ?_⟩
      rw [List.countP_cons, Nat.add_comm]
      exact remains.trans more

/-! ## A whole transaction -/

/-- Uses inside of a transaction that is opened before them and left behind them. -/
def enclosed (label : String) (uses : List Primitive) (succeeded : Bool) : List Primitive :=
  .enter label :: (uses ++ [.leave succeeded])

/-- The transaction is left where the uses inside of it have led to. -/
theorem foldl_enclosed (editor : Editor) (label : String) (uses : List Primitive)
    (succeeded : Bool) :
    (enclosed label uses succeeded).foldl perform editor =
      (uses.foldl perform (perform editor (.enter label))).leaveTransaction succeeded := by
  rw [enclosed, List.foldl_cons, List.foldl_append]
  rfl

section Closed

variable (closed : editor.buffer.Closed) (nested : Nested uses)
include closed

theorem entered_outer (label : String) :
    (perform editor (.enter label)).buffer = editor.buffer.enter label ∧
    (editor.buffer.enter label).opened?.isSome ∧ (editor.buffer.enter label).depth = 0 ∧
    (editor.buffer.enter label).page = editor.buffer.page := by
  rw [Buffer.enter_closed closed]
  exact ⟨Buffer.enter_closed closed label, rfl, rfl, rfl⟩

include nested

/-- Inside of the outermost transaction there are only edits, if nothing is taken back. -/
theorem enclosed_edited (label : String)
    (forward : ∀ use ∈ uses, use.takesBack = false) :
    ∃ count, (editor.buffer.enter label).Edited count
        (uses.foldl perform (perform editor (.enter label))).buffer ∧
      (0 < count ↔ EditsSome (perform editor (.enter label)) uses) ∧
      (uses.foldl perform (perform editor (.enter label))).buffer.page =
        uses.foldl revise editor.buffer.page := by
  obtain ⟨entered, opened, outer, page⟩ := entered_outer closed label
  rw [← entered] at opened outer page
  rw [Nested, ← outer] at nested
  obtain ⟨isOuter, advanced⟩ := foldl_advanced uses opened nested forward
  rw [Buffer.outermost_eq outer, Buffer.outermost_eq (isOuter.trans outer), page, entered]
    at advanced
  obtain ⟨count, edited, some⟩ := advanced.edited
  exact ⟨count, edited, some, advanced.page⟩

/-- What a transaction comes to that is left because of a fault. -/
theorem enclosed_rolledBack :
    ((enclosed label uses false).foldl perform editor).buffer =
      { editor.buffer with
        history :=
          { editor.buffer.history with
            entries := editor.buffer.history.entries.drop (uses.countP takesBack) } } := by
  obtain ⟨entered, opened, outer, -⟩ := entered_outer closed label
  have isOpen := Buffer.enter_opened? closed label
  rw [← entered] at opened outer isOpen
  rw [Nested, ← outer] at nested
  obtain ⟨isOuter, remains⟩ := foldl_remains uses opened nested
  rw [foldl_enclosed, Editor.leaveTransaction_buffer, if_neg Bool.false_ne_true,
    Buffer.rollback_outermost (remains.opened.trans isOpen) (isOuter.trans outer)]
  obtain ⟨-, history, path, name, encoding⟩ := remains
  rw [entered, Buffer.enter_closed closed] at history path name encoding
  rw [history, path, name, encoding, isOuter, outer, ← closed.opened, ← closed.depth]
  rfl

/-- **A transaction that is left because of a fault gives everything back but the entries of the
history that have been taken back in it.**  So it gives back the buffer as it was exactly if
nothing has been taken back in it, or if there was nothing to take back. -/
theorem rolled_back_taken (label : String) :
    let after := (enclosed label uses false).foldl perform editor
    after.buffer =
        { editor.buffer with
          history :=
            { editor.buffer.history with
              entries := editor.buffer.history.entries.drop (uses.countP takesBack) } } ∧
      (after.buffer = editor.buffer ↔
        editor.buffer.history.entries = [] ∨ ∀ use ∈ uses, use.takesBack = false) := by
  intro after
  have rolledBack : after.buffer = _ := enclosed_rolledBack closed nested
  refine ⟨rolledBack, ?_⟩
  rw [rolledBack]
  constructor
  · intro same
    -- Entries that have been taken off are missed, unless there were none.
    have entries : editor.buffer.history.entries.drop (uses.countP takesBack) =
        editor.buffer.history.entries := congrArg (fun buffer => buffer.history.entries) same
    have length := congrArg List.length entries
    rw [List.length_drop] at length
    by_cases none : editor.buffer.history.entries = []
    · exact .inl none
    · right
      have some := List.length_pos_iff.mpr none
      have zero : uses.countP takesBack = 0 := by omega
      simpa using List.countP_eq_zero.mp zero
  · rintro (none | forward)
    · rw [none, List.drop_nil, ← none]
    · have zero : uses.countP takesBack = 0 := List.countP_eq_zero.mpr (by simpa using forward)
      rw [zero, List.drop_zero]

end Closed

/-- Two lines are deleted one after the other; then one deletion is taken back in a transaction,
another line is deleted in it, and it is left because of a fault. -/
theorem rolled_back_taken_one :
    let reached := [.deleteRange 1 1, .deleteRange 1 1].foldl perform (.ofText "one\ntwo\nthree")
    let after := (enclosed "outer" [.enter "inner", .undo, .leave true, .deleteRange 2 2]
      false).foldl perform reached
    after.buffer =
        { reached.buffer with
          history :=
            { reached.buffer.history with
              entries := reached.buffer.history.entries.drop 1 } } ∧
      after.buffer ≠ reached.buffer := by
  intro reached after
  have closed : reached.buffer.Closed := ⟨by decide +kernel, by decide +kernel⟩
  have nested : Nested [.enter "inner", .undo, .leave true, .deleteRange 2 2] := by decide
  obtain ⟨buffer, same⟩ := rolled_back_taken closed nested "outer"
  refine ⟨buffer, mt same.mp ?_⟩
  rintro (none | forward)
  · exact absurd none (by decide +kernel)
  · exact absurd (forward .undo (by simp)) (by decide)

/-- A transaction in which a change is taken back and that is left because of a fault does not leave
the history as it was: the next change that is taken back is an older one, or there is none. -/
theorem history_not_rolled_back :
    let reached := perform (.ofText "one\ntwo") (.deleteRange 1 1)
    let after := (enclosed "outer" [.undo] false).foldl perform reached
    reached.buffer.Closed ∧ Nested [.undo] ∧ after.buffer.history ≠ reached.buffer.history ∧
      (perform reached .undo).buffer.lines = ["one", "two"] ∧
      (perform after .undo).buffer.lines = ["two"] := by
  intro reached after
  exact ⟨⟨by decide +kernel, by decide +kernel⟩, by decide, by decide +kernel, by decide +kernel,
    by decide +kernel⟩

/-- Taking the step back that a transaction has been gives the page back from before it. -/
theorem undo_enclosed {rest : List HistoryEntry}
    (entries : editor.buffer.history.entries =
      ⟨label, start.buffer.lines, start.buffer.current⟩ :: rest) :
    (perform editor .undo).buffer.lines = start.buffer.lines ∧
      (start.buffer.Placed → (perform editor .undo).buffer.current = start.buffer.current) := by
  have undone : (perform editor .undo).buffer = editor.buffer.undo?.getD editor.buffer := rfl
  rw [undone, Buffer.undo?_entries entries, Option.getD_some]
  refine ⟨rfl, fun placed => ?_⟩
  have low := placed.1
  have high := placed.2
  simp only [Buffer.lastLine, Buffer.lineCount, Document.lineCount] at high
  simp only [Buffer.clampCurrent, Buffer.lastLine, Buffer.lineCount, Document.lineCount,
    Document.replace_lines, Buffer.lines]
  omega

/-- Taking a change back depends on the history alone, or else on the lines that are left alone. -/
theorem undo_alike {one two : Editor} (history : two.buffer.history = one.buffer.history)
    (lines : two.buffer.lines = one.buffer.lines) :
    (perform two .undo).buffer.lines = (perform one .undo).buffer.lines := by
  show (two.buffer.undo?.getD two.buffer).lines = (one.buffer.undo?.getD one.buffer).lines
  cases entries : one.buffer.history.entries with
  | nil =>
      rw [Buffer.undo?_empty entries, Buffer.undo?_empty (history ▸ entries)]
      exact lines
  | cons entry rest =>
      rw [Buffer.undo?_entries entries, Buffer.undo?_entries (history ▸ entries)]
      rfl

/-- **A transaction that is left normally is one step of the history.**  Whatever is done inside of
it, in other transactions or not, stays done, also where these are left because of a fault.  If a
line has been inserted or deleted in it, the history has one entry more, with the lines and the
current line from before the transaction, and taking that back goes back to them.  Else neither the
history nor the lines have changed, and taking a change back does what it would have done before the
transaction. -/
theorem grouped_one_step (closed : editor.buffer.Closed) (nested : Nested uses)
    (room : 1 ≤ editor.buffer.history.limit) (label : String)
    (forward : ∀ use ∈ uses, use.takesBack = false) :
    let after := (enclosed label uses true).foldl perform editor
    let edits := EditsSome (perform editor (.enter label)) uses
    after.buffer.page = uses.foldl revise editor.buffer.page ∧
      (edits →
        after.buffer.history =
          { editor.buffer.history with
            entries :=
              ⟨label, editor.buffer.lines, editor.buffer.current⟩ ::
                if (editor.buffer.history.size : Int) < editor.buffer.history.limit then
                  editor.buffer.history.entries
                else editor.buffer.history.entries.dropLast } ∧
        (perform after .undo).buffer.lines = editor.buffer.lines ∧
        (editor.buffer.Placed →
          (perform after .undo).buffer.current = editor.buffer.current)) ∧
      (¬edits →
        after.buffer.history = editor.buffer.history ∧
        after.buffer.modified = editor.buffer.modified ∧
        after.buffer.lines = editor.buffer.lines ∧
        (perform after .undo).buffer.lines = (perform editor .undo).buffer.lines) := by
  intro after edits
  obtain ⟨count, edited, some, page⟩ := enclosed_edited closed nested label forward
  have isCommitted : after.buffer =
      (uses.foldl perform (perform editor (.enter label))).buffer.commit := by
    show ((enclosed label uses true).foldl perform editor).buffer = _
    rw [foldl_enclosed, Editor.leaveTransaction_buffer, if_pos rfl]
  have committed := edited.committed closed
  rw [← isCommitted] at committed
  refine ⟨?_, fun happened => ?_, fun none => ?_⟩
  · rw [isCommitted, Buffer.commit_page, page]
  · have history := committed.history
    rw [if_pos (some.mpr happened), History.push_room room] at history
    exact ⟨history, undo_enclosed (congrArg History.entries history)⟩
  · have zero : count = 0 := Nat.eq_zero_of_not_pos (mt some.mp none)
    subst zero
    have modified := edited.modified
    rw [Buffer.enter_closed closed] at modified
    have lines := congrArg Document.lines committed.document.eq_of_zero
    refine ⟨committed.history, ?_, lines, undo_alike committed.history lines⟩
    rw [isCommitted, Buffer.commit_modified, modified]
    exact Bool.or_false _

/-- A transaction in which a line is inserted, and another one deleted in an inner transaction that
is left because of a fault. -/
theorem grouped_one_step_inner :
    let uses : List Primitive := [.insertLines 0 ["zero"], .enter "inner", .deleteRange 2 2,
      .leave false, .setCurrent 2]
    let after := (enclosed "outer" uses true).foldl perform (.ofText "one\ntwo")
    after.buffer.page = ⟨["zero", "two"], 2⟩ ∧
      after.buffer.history.entries = [⟨"outer", ["one", "two"], 1⟩] ∧
      (perform after .undo).buffer.lines = ["one", "two"] ∧
      (perform after .undo).buffer.current = 1 := by
  intro uses after
  have closed : (Editor.ofText "one\ntwo").buffer.Closed := ⟨rfl, rfl⟩
  have nested : Nested uses := by decide
  obtain ⟨page, changed, -⟩ := grouped_one_step closed nested (by decide) "outer" (by decide)
  obtain ⟨history, lines, current⟩ := changed (.inl ⟨by decide, by decide, by decide⟩)
  refine ⟨page.trans (by decide), ?_, lines.trans (by decide), current ⟨by decide, by decide⟩⟩
  exact (congrArg History.entries history).trans (by decide)

end Primitive

end LineEditor
