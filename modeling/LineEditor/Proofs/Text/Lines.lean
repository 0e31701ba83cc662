import LineEditor.Text.Lines

/-!
# Joining and splitting lines

Ten characters end a line (`Text.lineBoundaries`).  Lines in which none of them
stands are found again when their text is split, and only those are
(`Text.splitLines_joinLines_iff`).

The other way round, a text is not always found again.  If it ends with a line
feed and holds no carriage return, what joining its lines gives is the text with
a line feed in place of each boundary (`Text.joinLines_splitLines`), so a text
with another boundary comes back changed.
-/

set_option autoImplicit false

namespace LineEditor.Text

/-- The characters that end a line. -/
def lineBoundaries : List Char :=
  ['\n', '\r', '\x0b', '\x0c', '\x1c', '\x1d', '\x1e', '\u0085', '\u2028', '\u2029']

theorem isLineBoundary_iff (char : Char) :
    isLineBoundary char = true ↔ char ∈ lineBoundaries := by
  simp only [isLineBoundary, lineBoundaries, List.mem_cons, List.not_mem_nil, or_false,
    Bool.or_eq_true, Bool.and_eq_true, decide_eq_true_eq, beq_iff_eq, ← Char.toNat_inj, Char.reduceToNat]
  omega

/-- A line in which no line ends. -/
def Unbroken (line : String) : Prop :=
  ∀ char ∈ line.toList, char ∉ lineBoundaries

instance (line : String) : Decidable (Unbroken line) :=
  List.decidableBAll (· ∉ lineBoundaries) line.toList

theorem Unbroken.plain {line : String} (unbroken : Unbroken line) :
    ∀ char ∈ line.toList, isLineBoundary char = false := by
  intro char member
  rw [← Bool.not_eq_true, isLineBoundary_iff]
  exact unbroken char member

/-! ## Splitting -/

theorem linesAfter_plain {char : Char} (plain : isLineBoundary char = false)
    (pending rest : List Char) :
    linesAfter pending (char :: rest) = linesAfter (char :: pending) rest := by
  rw [linesAfter]
  · rw [if_neg (by simp [plain])]
  · rintro others rfl
    exact absurd plain (by decide)

theorem linesAfter_boundary {char : Char} (boundary : isLineBoundary char = true)
    (other : char ≠ '\r') (pending rest : List Char) :
    linesAfter pending (char :: rest) =
      String.ofList pending.reverse :: linesAfter [] rest := by
  rw [linesAfter]
  · rw [if_pos boundary]
  · rintro others rfl
    exact absurd rfl other

/-- A line and its line feed are read up to the next line. -/
theorem linesAfter_line {chars : List Char}
    (plain : ∀ char ∈ chars, isLineBoundary char = false) (rest : List Char) :
    ∀ pending, linesAfter pending (chars ++ '\n' :: rest) =
      String.ofList (pending.reverse ++ chars) :: linesAfter [] rest := by
  induction chars with
  | nil =>
      intro pending
      rw [List.nil_append, linesAfter_boundary (by decide) (by decide), List.append_nil]
  | cons char others ih =>
      intro pending
      rw [List.cons_append, linesAfter_plain (plain char List.mem_cons_self),
        ih (fun other member => plain other (List.mem_cons_of_mem char member)),
        List.reverse_cons, List.append_assoc, List.singleton_append]

/-- No line ends within a line that has been read. -/
theorem unbroken_of_mem_linesAfter {line : String} {chars : List Char} :
    ∀ {pending : List Char}, (∀ char ∈ pending, isLineBoundary char = false) →
      line ∈ linesAfter pending chars → Unbroken line := by
  have whole : ∀ pending : List Char, (∀ char ∈ pending, isLineBoundary char = false) →
      Unbroken (String.ofList pending.reverse) := by
    intro pending plain char member
    rw [String.toList_ofList, List.mem_reverse] at member
    rw [← isLineBoundary_iff, plain char member]
    exact Bool.false_ne_true
  intro pending
  induction pending, chars using linesAfter.induct with
  | case1 pending empty =>
      intro _ member
      simp [linesAfter, empty] at member
  | case2 pending filled =>
      intro plain member
      rw [linesAfter, if_neg filled, List.mem_singleton] at member
      exact member ▸ whole pending plain
  | case3 pending rest ih =>
      intro plain member
      rw [linesAfter, List.mem_cons] at member
      rcases member with rfl | later
      · exact whole pending plain
      · exact ih (by simp) later
  | case4 pending char rest other boundary ih =>
      intro plain member
      rw [linesAfter, if_pos boundary, List.mem_cons] at member
      · rcases member with rfl | later
        · exact whole pending plain
        · exact ih (by simp) later
      · exact other
  | case5 pending char rest other inner ih =>
      intro plain member
      rw [linesAfter, if_neg inner] at member
      · refine ih ?_ member
        rw [List.forall_mem_cons]
        exact ⟨by simpa using inner, plain⟩
      · exact other

theorem unbroken_of_mem_splitLines {text line : String} (member : line ∈ splitLines text) :
    Unbroken line :=
  unbroken_of_mem_linesAfter (by simp) member

/-- **Lines are found again exactly if no line ends within one of them.** -/
theorem splitLines_joinLines_iff (lines : List String) :
    splitLines (joinLines lines) = lines ↔ ∀ line ∈ lines, Unbroken line := by
  constructor
  · intro same line member
    rw [← same] at member
    exact unbroken_of_mem_splitLines member
  · rw [splitLines, joinLines, String.toList_ofList]
    induction lines with
    | nil => exact fun _ => rfl
    | cons line rest ih =>
        intro unbroken
        rw [List.forall_mem_cons] at unbroken
        rw [List.flatMap_cons, List.append_assoc, List.singleton_append,
          linesAfter_line unbroken.1.plain, ih unbroken.2, List.reverse_nil, List.nil_append,
          String.ofList_toList]

/-! ## Carriage returns -/

theorem normaliseFeeds_eq_self {chars : List Char} (none : '\r' ∉ chars) :
    normaliseFeeds chars = chars := by
  induction chars with
  | nil => rfl
  | cons char rest ih =>
      rw [List.mem_cons, not_or] at none
      rw [normaliseFeeds]
      · rw [ih none.2, if_neg (Ne.symm none.1)]
      · rintro others rfl
        exact absurd rfl none.1

/-- The text of unbroken lines holds no carriage return. -/
theorem carriage_not_mem_joinLines {lines : List String}
    (unbroken : ∀ line ∈ lines, Unbroken line) : '\r' ∉ (joinLines lines).toList := by
  rw [joinLines, String.toList_ofList, List.mem_flatMap]
  rintro ⟨line, member, held⟩
  rw [List.mem_append] at held
  rcases held with inside | feed
  · exact unbroken line member '\r' inside (by decide)
  · exact absurd feed (by decide)

/-! ## Joining -/

/-- A line feed for a boundary, and any other character as it is. -/
def feedFor (char : Char) : Char :=
  if isLineBoundary char then '\n' else char

/-- A text with a line feed in place of each line boundary. -/
def withFeeds (text : String) : String :=
  String.ofList (text.toList.map feedFor)

theorem length_withFeeds (text : String) : (withFeeds text).length = text.length := by
  rw [withFeeds, String.length_ofList, List.length_map, String.length_toList]

/-- Nothing is replaced exactly if all boundaries are line feeds. -/
theorem withFeeds_eq_self_iff (text : String) :
    withFeeds text = text ↔ ∀ char ∈ text.toList, char ∈ lineBoundaries → char = '\n' := by
  have kept : ∀ char, feedFor char = char ↔ (char ∈ lineBoundaries → char = '\n') := by
    intro char
    rw [feedFor, ← isLineBoundary_iff]
    by_cases boundary : isLineBoundary char = true
    · simp [boundary, eq_comm]
    · simp [boundary]
  rw [withFeeds, ← String.toList_inj, String.toList_ofList]
  constructor
  · intro same char member
    rw [← kept]
    exact List.map_inj_left.mp (same.trans (List.map_id _).symm) char member
  · intro feeds
    have same := List.map_congr_left fun char member => (kept char).mpr (feeds char member)
    exact same.trans (List.map_id _)

/-- Each line that is read is given back with a line feed for its boundary. -/
theorem flatMap_linesAfter {chars : List Char} :
    ∀ pending : List Char, '\r' ∉ chars → (chars = [] → pending = []) →
      (∀ last, chars.getLast? = some last → last = '\n') →
      (linesAfter pending chars).flatMap (fun line => line.toList ++ ['\n']) =
        pending.reverse ++ chars.map feedFor := by
  induction chars with
  | nil =>
      rintro pending - none -
      rw [none rfl]
      rfl
  | cons char rest ih =>
      intro pending uncarried _ closed
      rw [List.mem_cons, not_or] at uncarried
      have behind : ∀ last, rest.getLast? = some last → last = '\n' := by
        intro last isLast
        refine closed last ?_
        rw [List.getLast?_cons, isLast]
        rfl
      cases boundary : isLineBoundary char with
      | true =>
          rw [linesAfter_boundary boundary (Ne.symm uncarried.1), List.flatMap_cons,
            ih [] uncarried.2 (fun _ => rfl) behind, List.map_cons, feedFor, if_pos boundary,
            String.toList_ofList]
          simp
      | false =>
          have more : rest ≠ [] := by
            rintro rfl
            rw [closed char rfl] at boundary
            exact absurd boundary (by decide)
          rw [linesAfter_plain boundary, ih (char :: pending) uncarried.2
            (fun none => absurd none more) behind, List.map_cons, feedFor,
            if_neg (by simp [boundary])]
          simp

/-- **Joining the lines of a text gives a line feed for each boundary**, if the text holds no
carriage return and ends with a line feed. -/
theorem joinLines_splitLines {text : String} (uncarried : '\r' ∉ text.toList)
    (closed : ∀ last, text.toList.getLast? = some last → last = '\n') :
    joinLines (splitLines text) = withFeeds text := by
  rw [joinLines, splitLines, flatMap_linesAfter [] uncarried (fun _ => rfl) closed]
  rfl

end LineEditor.Text
