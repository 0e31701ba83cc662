import LineEditor.Buffer.Basic
import Mathlib.Tactic.NthRewrite

/-!
# Blocks of lines

A range of lines is a block (`Lines.block`), and what is left without it are the
lines outside (`Lines.outside`).  A block can be copied behind any line
(`Lines.copied`), and it can be moved behind any line outside of it or behind
its own last one (`Lines.moved`).

A list of lines with a block and a place outside of it falls into four parts, of
which one is the block and another one the lines between the block and the place
(`Lines.parts_above`, `Lines.parts_below`).  On these parts moving is plain to
see.  It keeps the order of the lines outside (`Lines.moved_outside`) and loses
or repeats no line (`Lines.moved_perm`), and it is the same as copying the block
and deleting the original (`Lines.moved_of_copied`).
-/

set_option autoImplicit false

namespace LineEditor.Lines

/-- The lines of a range. -/
def block (lines : List String) (start stop : Nat) : List String :=
  (lines.take stop).drop (start - 1)

/-- The lines outside of a range. -/
def outside (lines : List String) (start stop : Nat) : List String :=
  lines.take (start - 1) ++ lines.drop stop

/-- The lines with those of a range copied behind a line. -/
def copied (lines : List String) (start stop target : Nat) : List String :=
  lines.take target ++ block lines start stop ++ lines.drop target

/-- The lines with those of a range moved behind a line that is not one of them, or their last one:
the lines outside of the range are parted where that line was. -/
def moved (lines : List String) (start stop target : Nat) : List String :=
  let front := outside (lines.take target) start stop
  front ++ block lines start stop ++ (outside lines start stop).drop front.length

variable {lines : List String} {start stop target : Nat}

/-! ## Parts -/

/-- The lines behind a cut, parted by another one. -/
theorem drop_parted {first second : Nat} (lower : first ≤ second)
    (within : second ≤ lines.length) :
    (lines.take second).drop first ++ lines.drop second = lines.drop first := by
  have inFront : first ≤ (lines.take second).length := by
    rw [List.length_take]
    omega
  rw [← List.drop_append_of_le_length inFront, List.take_append_drop]

/-- A list is made up of a range and what is in front of it and behind it. -/
theorem block_parted (ordered : start ≤ stop) (within : stop ≤ lines.length) :
    lines.take (start - 1) ++ block lines start stop ++ lines.drop stop = lines := by
  rw [block, List.append_assoc, drop_parted (by omega) within, List.take_append_drop]

/-- Three cuts make four parts. -/
theorem parts {first second third : Nat} (lower : first ≤ second) (upper : second ≤ third)
    (within : third ≤ lines.length) :
    ∃ one two three four, lines = one ++ (two ++ (three ++ four)) ∧ first = one.length ∧
      second = one.length + two.length ∧ third = one.length + two.length + three.length := by
  refine ⟨lines.take first, (lines.take second).drop first, (lines.take third).drop second,
    lines.drop third, ?_, ?_, ?_, ?_⟩
  · rw [drop_parted upper within, drop_parted lower (by omega), List.take_append_drop]
  · rw [List.length_take]
    omega
  · simp only [List.length_take, List.length_drop]
    omega
  · simp only [List.length_take, List.length_drop]
    omega

/-- The parts of the lines if the place is above the block. -/
theorem parts_above (ordered : start ≤ stop) (within : stop ≤ lines.length)
    (above : target < start) :
    ∃ front between block back, lines = front ++ (between ++ (block ++ back)) ∧
      target = front.length ∧ start = front.length + between.length + 1 ∧
      stop = front.length + between.length + block.length := by
  obtain ⟨one, two, three, four, isLines, first, second, third⟩ :=
    parts (show target ≤ start - 1 by omega) (show start - 1 ≤ stop by omega) within
  exact ⟨one, two, three, four, isLines, first, by omega, third⟩

/-- The parts of the lines if the place is below the block. -/
theorem parts_below (first : 1 ≤ start) (ordered : start ≤ stop) (below : stop ≤ target)
    (within : target ≤ lines.length) :
    ∃ front block between back, lines = front ++ (block ++ (between ++ back)) ∧
      start = front.length + 1 ∧ stop = front.length + block.length ∧
      target = front.length + block.length + between.length := by
  obtain ⟨one, two, three, four, isLines, first, second, third⟩ :=
    parts (show start - 1 ≤ stop by omega) below within
  exact ⟨one, two, three, four, isLines, by omega, second, third⟩

/-! ## Moving and copying -/

section Parts

variable (front between block back : List String)

/-- Moving upwards, part by part. -/
theorem moved_above :
    moved (front ++ (between ++ (block ++ back))) (front.length + between.length + 1)
        (front.length + between.length + block.length) front.length =
      front ++ (block ++ (between ++ back)) := by
  simp [moved, outside, Lines.block, Nat.add_assoc, List.take_append, List.drop_append,
    List.take_of_length_le, List.drop_of_length_le]

/-- Moving downwards, part by part. -/
theorem moved_below :
    moved (front ++ (block ++ (between ++ back))) (front.length + 1)
        (front.length + block.length) (front.length + block.length + between.length) =
      front ++ (between ++ (block ++ back)) := by
  simp [moved, outside, Lines.block, Nat.add_assoc, List.take_append, List.drop_append,
    List.take_of_length_le, List.drop_of_length_le]

end Parts

/-- How far the lines of a range are pushed downwards when they are copied behind a line. -/
def shift (start stop target : Nat) : Nat :=
  if target < start then stop + 1 - start else 0

section Within

variable (first : 1 ≤ start) (ordered : start ≤ stop) (within : stop ≤ lines.length)
  (there : target ≤ lines.length) (apart : ¬(start ≤ target ∧ target < stop))
include first ordered within there apart

/-- Where the block is put among the lines outside of it: they are parted where the line was. -/
theorem outside_parted :
    (outside lines start stop).take
        (if target ≥ stop then target - (stop + 1 - start) else target) =
      outside (lines.take target) start stop ∧
    (outside (lines.take target) start stop).length =
      if target ≥ stop then target - (stop + 1 - start) else target := by
  by_cases above : target < start
  · obtain ⟨front, between, block, back, rfl, rfl, rfl, rfl⟩ := parts_above ordered within above
    rw [if_neg (by omega)]
    simp [outside, Nat.add_assoc, List.take_append, List.drop_append, List.take_of_length_le,
      List.drop_of_length_le]
  · obtain ⟨front, block, between, back, rfl, rfl, rfl, rfl⟩ :=
      parts_below first ordered (show stop ≤ target by omega) there
    rw [if_pos (by omega), show front.length + block.length + between.length -
      (front.length + block.length + 1 - (front.length + 1)) = front.length + between.length by
        omega]
    simp [outside, Nat.add_assoc, List.take_append, List.drop_append, List.take_of_length_le,
      List.drop_of_length_le]

/-- **A moved block stands where the line was**, and the lines outside of it keep their order. -/
theorem moved_outside :
    ∃ front back, moved lines start stop target = front ++ block lines start stop ++ back ∧
      front ++ back = outside lines start stop ∧ front = outside (lines.take target) start stop := by
  obtain ⟨parted, size⟩ := outside_parted first ordered within there apart
  refine ⟨_, _, rfl, ?_, rfl⟩
  rw [size, ← parted, List.take_append_drop]

/-- **Moving loses or repeats no line.** -/
theorem moved_perm : (moved lines start stop target).Perm lines := by
  by_cases above : target < start
  · obtain ⟨front, between, block, back, rfl, rfl, rfl, rfl⟩ := parts_above ordered within above
    rw [moved_above]
    exact (List.perm_append_comm_assoc block between back).append_left front
  · obtain ⟨front, block, between, back, rfl, rfl, rfl, rfl⟩ :=
      parts_below first ordered (show stop ≤ target by omega) there
    rw [moved_below]
    exact (List.perm_append_comm_assoc between block back).append_left front

/-- **Moving is copying and deleting the original**, which may have been pushed downwards. -/
theorem moved_of_copied :
    outside (copied lines start stop target) (start + shift start stop target)
      (stop + shift start stop target) = moved lines start stop target := by
  by_cases above : target < start
  · obtain ⟨front, between, block, back, rfl, rfl, rfl, rfl⟩ := parts_above ordered within above
    have isCopied : copied (front ++ (between ++ (block ++ back)))
        (front.length + between.length + 1) (front.length + between.length + block.length)
        front.length = front ++ (block ++ (between ++ (block ++ back))) := by
      simp [copied, Lines.block, List.take_append, List.drop_append, List.take_of_length_le,
        Nat.add_assoc]
    -- The original is pushed behind the copy, so its place is counted in parts anew.
    have shorter : front ++ (block ++ (between ++ (block ++ back))) =
        (front ++ (block ++ between)) ++ (block ++ back) := by simp
    have longer : front ++ (block ++ (between ++ (block ++ back))) =
        (front ++ (block ++ (between ++ block))) ++ back := by simp
    rw [moved_above, isCopied, shift, if_pos above, outside]
    nth_rewrite 1 [shorter]
    rw [longer, List.take_left' (by simp only [List.length_append]; omega),
      List.drop_left' (by simp only [List.length_append]; omega)]
    simp
  · obtain ⟨front, block, between, back, rfl, rfl, rfl, rfl⟩ :=
      parts_below first ordered (show stop ≤ target by omega) there
    rw [moved_below, shift, if_neg above]
    simp [copied, outside, Lines.block, Nat.add_assoc, List.take_append, List.drop_append,
      List.take_of_length_le, List.drop_of_length_le]

end Within

end LineEditor.Lines
