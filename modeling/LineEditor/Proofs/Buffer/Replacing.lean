import LineEditor.Proofs.Buffer.Composition
import LineEditor.Substitution
import Mathlib.Data.List.Induction

/-!
# Replacing lines in place

A substitution looks at the lines of a range one after the other.  If the
replacement fails on one of them, all of it fails (`Substitution.changes_failed`),
and else the lines that are hit are noted with their numbers and their new texts
(`Substitution.changes_found`).  Only then is the first of them replaced.

Replacing the noted lines one after the other comes to the same as replacing all
lines of the range at once (`Substitution.replaced_found`): a replacement moves
no other line, so the numbers stay right.  The last one noted is the last line
of the range that is hit (`Substitution.last_found`).
-/

set_option autoImplicit false

namespace LineEditor.Substitution

variable (replace : String → Except Pattern.PatternFault (String × Nat))

/-- The new text of a line that is hit. -/
def updated? (line : String) : Option String :=
  match replace line with
  | .ok (text, hits) => if hits = 0 then none else some text
  | .error _ => none

/-- What becomes of a line: its new text if it is hit, and else the line itself. -/
def outcome (line : String) : String :=
  (updated? replace line).getD line

/-- A line is hit. -/
def Hits (line : String) : Prop :=
  ∃ text hits, replace line = .ok (text, hits) ∧ 0 < hits

/-- The lines that are hit, with their numbers and their new texts. -/
def found : Nat → List String → List (Nat × String)
  | _, [] => []
  | number, line :: rest =>
    match updated? replace line with
    | some text => (number, text) :: found (number + 1) rest
    | none => found (number + 1) rest

variable {replace}

theorem updated?_eq_some {line text : String} :
    updated? replace line = some text ↔ ∃ hits, replace line = .ok (text, hits) ∧ 0 < hits := by
  rw [updated?]
  cases replace line with
  | error fault => simp
  | ok result =>
      obtain ⟨other, hits⟩ := result
      by_cases none : hits = 0
      · simp [none]
      · have some : 0 < hits := Nat.pos_of_ne_zero none
        simp only [none, if_false, Option.some.injEq, Except.ok.injEq, Prod.mk.injEq]
        exact ⟨fun same => ⟨hits, ⟨same, rfl⟩, some⟩, fun ⟨_, ⟨same, _⟩, _⟩ => same⟩

theorem hits_iff {line : String} : Hits replace line ↔ ∃ text, updated? replace line = some text := by
  simp only [Hits, updated?_eq_some]

instance {line : String} : Decidable (Hits replace line) :=
  decidable_of_iff ((updated? replace line).isSome = true)
    (Option.isSome_iff_exists.trans hits_iff.symm)

theorem updated?_eq_none (line : String) : updated? replace line = none ↔ ¬Hits replace line := by
  rw [hits_iff]
  cases updated? replace line <;> simp

/-- A line that is hit becomes the text that it is replaced by. -/
theorem outcome_hit {line text : String} {hits : Nat} (replaced : replace line = .ok (text, hits))
    (hit : 0 < hits) : outcome replace line = text := by
  rw [outcome, updated?_eq_some.mpr ⟨hits, replaced, hit⟩, Option.getD_some]

/-- A line that is not hit stays as it is. -/
theorem outcome_missed {line : String} (missed : ¬Hits replace line) :
    outcome replace line = line := by
  rw [outcome, (updated?_eq_none line).mpr missed, Option.getD_none]

/-! ## Looking through the lines -/

/-- If no replacement fails, the lines that are hit are noted. -/
theorem changes_found {lines : List String} (number : Nat)
    (accepted : ∀ line ∈ lines, ∃ result, replace line = .ok result) :
    changes replace number lines = .ok (found replace number lines) := by
  induction lines generalizing number with
  | nil => rfl
  | cons line rest ih =>
      obtain ⟨⟨text, hits⟩, replaced⟩ := accepted line List.mem_cons_self
      have others := ih (number + 1) fun other member => accepted other (List.mem_cons_of_mem _ member)
      simp only [changes, replaced, others, found, updated?, bind, Except.bind, pure, Except.pure]
      by_cases none : hits = 0
      · rw [if_pos none, if_pos none]
      · rw [if_neg none, if_neg none]

/-- If a replacement fails, all of it fails. -/
theorem changes_failed {lines : List String} (number : Nat)
    (failed : ∃ line ∈ lines, ∃ fault, replace line = .error fault) :
    changes replace number lines = .error (.refusal (.argument .invalidReplacement)) := by
  induction lines generalizing number with
  | nil =>
      obtain ⟨line, member, -⟩ := failed
      cases member
  | cons line rest ih =>
      rw [changes]
      cases replaced : replace line with
      | error fault => rfl
      | ok result =>
          have later : ∃ line ∈ rest, ∃ fault, replace line = .error fault := by
            obtain ⟨other, member, fault, fails⟩ := failed
            rcases List.mem_cons.mp member with rfl | member
            · rw [replaced] at fails
              cases fails
            · exact ⟨other, member, fault, fails⟩
          simp only [ih (number + 1) later, bind, Except.bind]

/-! ## What is noted -/

theorem found_append (front back : List String) : ∀ number,
    found replace number (front ++ back) =
      found replace number front ++ found replace (number + front.length) back := by
  induction front with
  | nil => exact fun _ => rfl
  | cons line rest ih =>
      intro number
      have next : number + 1 + rest.length = number + (line :: rest).length := by
        rw [List.length_cons]
        omega
      rw [List.cons_append, found, found, ih (number + 1), next]
      cases updated? replace line with
      | none => rfl
      | some text => rfl

/-- Nothing is noted exactly if no line is hit. -/
theorem found_eq_nil {lines : List String} : ∀ {number : Nat},
    found replace number lines = [] ↔ ∀ line ∈ lines, ¬Hits replace line := by
  induction lines with
  | nil => simp [found]
  | cons line rest ih =>
      intro number
      simp only [found, List.forall_mem_cons, ← updated?_eq_none line]
      cases updated? replace line with
      | none => simpa using ih
      | some text => simp

/-- **The last line that is noted is the last one that is hit.** -/
theorem last_found {lines : List String} (number : Nat) (hit : ∃ line ∈ lines, Hits replace line) :
    ∃ front line back text, lines = front ++ line :: back ∧ Hits replace line ∧
      (∀ other ∈ back, ¬Hits replace other) ∧
      (found replace number lines).getLast? = some (number + front.length, text) := by
  -- Line by line from the end: the last line is the one, or it changes nothing.
  induction lines using List.reverseRecOn with
  | nil =>
      obtain ⟨line, member, -⟩ := hit
      cases member
  | append_singleton lines last ih =>
      rw [found_append]
      cases updated : updated? replace last with
      | some text =>
          refine ⟨lines, last, [], text, rfl, hits_iff.mpr ⟨text, updated⟩, by simp, ?_⟩
          simp [found, updated]
      | none =>
          have missed := (updated?_eq_none _).mp updated
          have earlier : ∃ line ∈ lines, Hits replace line := by
            obtain ⟨line, member, hits⟩ := hit
            rcases List.mem_append.mp member with member | member
            · exact ⟨line, member, hits⟩
            · obtain rfl := List.mem_singleton.mp member
              exact absurd hits missed
          obtain ⟨front, line, back, text, rfl, hits, none, isLast⟩ := ih earlier
          refine ⟨front, line, back ++ [last], text, by simp, hits, ?_, ?_⟩
          · intro other member
            rcases List.mem_append.mp member with member | member
            · exact none other member
            · obtain rfl := List.mem_singleton.mp member
              exact missed
          · simpa [found, updated] using isLast

/-! ## Replacing what is noted -/

/-- **Replacing line by line is replacing all at once.** -/
theorem replaced_found (block back : List String) : ∀ front : List String,
    Buffer.replaced (found replace (front.length + 1) block) (front ++ block ++ back) =
      front ++ block.map (outcome replace) ++ back := by
  induction block with
  | nil => simp [found, Buffer.replaced]
  | cons line rest ih =>
      intro front
      -- What has been looked at moves from the block to the front.
      have step : ∀ text, Buffer.replaced (found replace (front.length + 2) rest)
          (front ++ text :: rest ++ back) =
            front ++ text :: rest.map (outcome replace) ++ back := by
        intro text
        simpa using ih (front ++ [text])
      rw [found, List.map_cons, outcome]
      cases updated : updated? replace line with
      | none => exact step line
      | some text =>
          rw [Option.getD_some, ← step text]
          simp [Buffer.replaced, List.set_append_right]

/-- Replacing the lines of a range that are hit maps the range. -/
theorem replaced_block {lines : List String} {start stop : Nat} (first : 1 ≤ start)
    (ordered : start ≤ stop) (within : stop ≤ lines.length) :
    Buffer.replaced (found replace start (Lines.block lines start stop)) lines =
      lines.take (start - 1) ++ (Lines.block lines start stop).map (outcome replace) ++
        lines.drop stop := by
  have inFront : (lines.take (start - 1)).length + 1 = start := by
    rw [List.length_take_of_le (by omega)]
    omega
  have replaced := @replaced_found replace (Lines.block lines start stop) (lines.drop stop)
    (lines.take (start - 1))
  rwa [inFront, Lines.block_parted ordered within] at replaced

/-- A list with a range of it mapped, element by element. -/
theorem getElem?_mapped {lines : List String} {start stop : Nat} (first : 1 ≤ start)
    (ordered : start ≤ stop) (within : stop ≤ lines.length) (change : String → String)
    {index : Nat} {line : String} (there : lines[index]? = some line) :
    (lines.take (start - 1) ++ (Lines.block lines start stop).map change ++ lines.drop stop)[index]? =
      some (if start ≤ index + 1 ∧ index + 1 ≤ stop then change line else line) := by
  have size : (Lines.block lines start stop).length = stop + 1 - start :=
    Buffer.length_range lines first ordered within
  have prefixLength : (lines.take (start - 1)).length = start - 1 :=
    List.length_take_of_le (by omega)
  by_cases before : index < start - 1
  · rw [List.append_assoc, List.getElem?_append_left (by omega), List.getElem?_take_of_lt before,
      there, if_neg (by omega)]
  · by_cases inside : index < stop
    · have place : start - 1 + (index - (start - 1)) = index := by omega
      rw [List.append_assoc, List.getElem?_append_right (by omega),
        List.getElem?_append_left (by rw [List.length_map, size]; omega), List.getElem?_map,
        prefixLength, Lines.block, List.getElem?_drop, place, List.getElem?_take_of_lt inside, there,
        if_pos (by omega), Option.map_some]
    · have length : (lines.take (start - 1) ++
          (Lines.block lines start stop).map change).length = stop := by
        rw [List.length_append, prefixLength, List.length_map, size]
        omega
      have place : stop + (index - stop) = index := by omega
      rw [List.getElem?_append_right (by omega), length, List.getElem?_drop, place, there,
        if_neg (by omega)]

end LineEditor.Substitution
