import LineEditor.Buffer.Search

/-!
# The nearest line

A search gives the nearest line on its side that satisfies its condition
(`Buffer.Next`, `Buffer.Previous`), and nothing if no line on that side does.  It
never goes on at the other end, and it never looks for a line that is not there
(`Buffer.findForward_spec`, `Buffer.findBackward_spec`).
-/

set_option autoImplicit false

namespace LineEditor.Buffer

variable {buffer : Buffer} {accept : String → Bool}

/-- There is a line with this number, and it satisfies a condition. -/
def Accepted (buffer : Buffer) (accept : String → Bool) (number : Int) : Prop :=
  1 ≤ number ∧ ∃ line, buffer.document.line? number = some line ∧ accept line = true

/-- The nearest line behind another one that satisfies a condition. -/
structure Next (buffer : Buffer) (accept : String → Bool) (origin number : Int) : Prop where
  behind : origin < number
  accepted : buffer.Accepted accept number
  nearest : ∀ other, origin < other → other < number → ¬buffer.Accepted accept other

/-- The nearest line before another one that satisfies a condition. -/
structure Previous (buffer : Buffer) (accept : String → Bool) (origin number : Int) : Prop where
  before : number < origin
  accepted : buffer.Accepted accept number
  nearest : ∀ other, number < other → other < origin → ¬buffer.Accepted accept other

/-! ## Lines -/

/-- A document has the lines with the numbers from one to their count. -/
theorem exists_line {number : Int} (first : 1 ≤ number) (last : number ≤ buffer.lineCount) :
    ∃ line, buffer.document.line? number = some line := by
  rw [Document.line?, if_pos first]
  refine ⟨_, List.getElem?_eq_getElem ?_⟩
  simp only [lineCount, Document.lineCount] at last
  omega

/-- There are no lines behind the last one. -/
theorem Accepted.le_lineCount {number : Int} (accepted : buffer.Accepted accept number) :
    number ≤ buffer.lineCount := by
  obtain ⟨first, line, found, -⟩ := accepted
  rw [Document.line?, if_pos first] at found
  obtain ⟨within, -⟩ := List.getElem?_eq_some_iff.mp found
  simp only [lineCount, Document.lineCount]
  omega

/-- What a search learns from the line that it looks at. -/
theorem accepted_iff {number : Int} {line : String} (first : 1 ≤ number)
    (found : buffer.document.line? number = some line) :
    buffer.Accepted accept number ↔ accept line = true := by
  constructor
  · rintro ⟨-, other, foundAgain, accepted⟩
    rw [found] at foundAgain
    cases foundAgain
    exact accepted
  · exact fun accepted => ⟨first, line, found, accepted⟩

/-- There is only one nearest line. -/
theorem Next.unique {origin number other : Int} (next : buffer.Next accept origin number)
    (next' : buffer.Next accept origin other) : number = other := by
  rcases Int.lt_trichotomy number other with less | same | greater
  · exact absurd next.accepted (next'.nearest number next.behind less)
  · exact same
  · exact absurd next'.accepted (next.nearest other next'.behind greater)

theorem Previous.unique {origin number other : Int}
    (previous : buffer.Previous accept origin number)
    (previous' : buffer.Previous accept origin other) : number = other := by
  rcases Int.lt_trichotomy number other with less | same | greater
  · exact absurd previous'.accepted (previous.nearest other less previous'.before)
  · exact same
  · exact absurd previous.accepted (previous'.nearest number greater previous.before)

/-! ## Going upwards -/

/-- Going upwards ends at the nearest line, or at the end of the buffer. -/
theorem firstUp_spec (count : Nat) : ∀ start : Int, 0 ≤ start →
    start + count = buffer.lineCount ∨ count = 0 ∧ buffer.lineCount ≤ start →
      (∃ number, firstUp buffer.document accept count (start + 1) = .ok (some number) ∧
        buffer.Next accept start number) ∨
      (firstUp buffer.document accept count (start + 1) = .ok none ∧
        ∀ number, start < number → ¬buffer.Accepted accept number) := by
  induction count with
  | zero =>
      intro start first reach
      refine .inr ⟨rfl, fun number behind accepted => ?_⟩
      have := accepted.le_lineCount
      omega
  | succ count ih =>
      intro start first reach
      have one : 1 ≤ start + 1 := by omega
      have last : start + 1 ≤ buffer.lineCount := by omega
      obtain ⟨line, found⟩ := exists_line one last
      have here : buffer.Accepted accept (start + 1) ↔ accept line = true :=
        accepted_iff one found
      simp only [firstUp, found]
      cases accepts : accept line with
      | true =>
          rw [if_pos rfl]
          exact .inl ⟨start + 1, rfl, by omega, here.mpr accepts, fun other _ _ => by omega⟩
      | false =>
          rw [if_neg Bool.false_ne_true]
          have skipped : ¬buffer.Accepted accept (start + 1) := by
            rw [here, accepts]
            exact Bool.false_ne_true
          have skip : ∀ other, start < other → other = start + 1 ∨ start + 1 < other :=
            fun other behind => by omega
          rcases ih (start + 1) (by omega) (by omega) with ⟨number, same, next⟩ | ⟨same, none⟩
          · refine .inl ⟨number, same, by have := next.behind; omega, next.accepted, ?_⟩
            intro other behind before
            rcases skip other behind with rfl | further
            · exact skipped
            · exact next.nearest other further before
          · refine .inr ⟨same, fun other behind => ?_⟩
            rcases skip other behind with rfl | further
            · exact skipped
            · exact none other further

variable (buffer accept) in
/-- **A forward search finds the nearest line behind its origin**, and it always ends. -/
theorem findForward_spec {origin : Int} (positive : 0 ≤ origin) :
    (∃ number, buffer.findForward accept origin = .ok (some number) ∧
      buffer.Next accept origin number) ∨
    (buffer.findForward accept origin = .ok none ∧
      ∀ number, origin < number → ¬buffer.Accepted accept number) :=
  firstUp_spec _ origin positive (by omega)

theorem findForward_eq_some {origin number : Int} (positive : 0 ≤ origin) :
    buffer.findForward accept origin = .ok (some number) ↔ buffer.Next accept origin number := by
  rcases findForward_spec buffer accept positive with
    ⟨found, same, next⟩ | ⟨same, none⟩
  · rw [same, Except.ok.injEq, Option.some.injEq]
    constructor
    · rintro rfl
      exact next
    · exact fun next' => next.unique next'
  · rw [same]
    exact ⟨nofun, fun next => absurd next.accepted (none number next.behind)⟩

/-! ## Going downwards -/

variable (buffer accept) in
/-- Going downwards ends at the nearest line, or at the start of the buffer. -/
theorem firstDown_spec (count : Nat) :
    (∃ number : Nat, firstDown buffer.document accept count = some number ∧
      buffer.Previous accept (count + 1) number) ∨
    (firstDown buffer.document accept count = none ∧
      ∀ number, number < (count : Int) + 1 → ¬buffer.Accepted accept number) := by
  induction count with
  | zero =>
      refine .inr ⟨rfl, fun number before accepted => ?_⟩
      have := accepted.1
      omega
  | succ count ih =>
      have one : (1 : Int) ≤ count + 1 := by omega
      have here : buffer.Accepted accept (count + 1) ↔
          (buffer.document.line? (count + 1)).any accept = true := by
        simp [Accepted, one, Option.any_eq_true]
      rw [firstDown]
      split
      · rename_i accepts
        exact .inl ⟨count + 1, rfl, by push_cast; omega, by push_cast; exact here.mpr accepts,
          fun other _ _ => by push_cast at *; omega⟩
      · rename_i refuses
        have skipped : ¬buffer.Accepted accept (count + 1) := fun accepted =>
          refuses (here.mp accepted)
        have skip : ∀ other : Int, other < (count + 1 : Nat) + 1 →
            other = count + 1 ∨ other < (count : Int) + 1 := fun other before => by
          push_cast at before
          omega
        rcases ih with ⟨number, same, previous⟩ | ⟨same, none⟩
        · refine .inl ⟨number, same, ?_, previous.accepted, ?_⟩
          · have := previous.before
            push_cast
            omega
          · intro other behind before
            rcases skip other before with rfl | further
            · exact skipped
            · exact previous.nearest other behind further
        · refine .inr ⟨same, fun other before => ?_⟩
          rcases skip other before with rfl | further
          · exact skipped
          · exact none other further

variable (buffer accept) in
/-- **A backward search finds the nearest line before its origin.** -/
theorem findBackward_spec (origin : Int) :
    (∃ number : Nat, buffer.findBackward accept origin = some number ∧
      buffer.Previous accept origin number) ∨
    (buffer.findBackward accept origin = none ∧
      ∀ number, number < origin → ¬buffer.Accepted accept number) := by
  -- An accepted line before the origin is also one before the cut of the origin.
  have cut : ∀ number, buffer.Accepted accept number → (number < origin ↔
      number < ((min origin (buffer.lineCount + 1) - 1).toNat : Int) + 1) := by
    intro number accepted
    have first := accepted.1
    have last := accepted.le_lineCount
    omega
  rcases firstDown_spec buffer accept (min origin (buffer.lineCount + 1) - 1).toNat with
    ⟨number, same, previous⟩ | ⟨same, none⟩
  · refine .inl ⟨number, same, (cut _ previous.accepted).mpr previous.before, previous.accepted,
      fun other behind before accepted => ?_⟩
    exact previous.nearest other behind ((cut other accepted).mp before) accepted
  · refine .inr ⟨same, fun number before accepted => ?_⟩
    exact none number ((cut number accepted).mp before) accepted

theorem findBackward_eq_some {origin : Int} {number : Int} :
    (buffer.findBackward accept origin).map Int.ofNat = some number ↔
      buffer.Previous accept origin number := by
  rcases findBackward_spec buffer accept origin with
    ⟨found, same, previous⟩ | ⟨same, none⟩
  · rw [same, Option.map_some, Option.some.injEq]
    constructor
    · rintro rfl
      exact previous
    · exact fun previous' => previous.unique previous'
  · rw [same]
    exact ⟨nofun, fun previous => absurd previous.accepted (none number previous.before)⟩

end LineEditor.Buffer
