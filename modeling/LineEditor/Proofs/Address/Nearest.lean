import LineEditor.Proofs.Address.Resolving

/-!
# Searches do not wrap

A search goes through the numbers of the lines on its side of the origin, from
the nearest one on, and stops at the first line in which its pattern matches
(`Buffer.firstOf`).  A forward search goes through the numbers behind the origin
(`Buffer.numbersBehind`, `Buffer.findForward_eq_firstOf`), a backward one through
those before it (`Buffer.numbersBefore`, `Buffer.findBackward_eq_firstOf`).  All
of them are numbers of lines that are there, also if the origin lies outside of
the buffer, so no line is ever counted from the end.

With what is known of the nearest line, this gives all that a search can find
(`Buffer.searches_nearest`), and in particular that a search in an address leads
away from the current line.
-/

set_option autoImplicit false

namespace LineEditor

namespace Buffer

/-! ## Going through numbers -/

/-- Looks at the lines with the given numbers, in order, up to the first one that satisfies a
condition.  It fails if there is no line with a number. -/
def firstOf (document : Document) (accept : String → Bool) :
    List Int → Except Fault (Option Int)
  | [] => .ok none
  | number :: rest =>
    match document.line? number with
    | none => .error .noSuchLine
    | some line => if accept line then .ok (some number) else firstOf document accept rest

/-- The numbers of the lines behind another one, upwards. -/
def numbersBehind (buffer : Buffer) (origin : Int) : List Int :=
  (List.range (buffer.lineCount - origin).toNat).map fun index : Nat => origin + 1 + index

/-- The numbers of the lines before another one, downwards. -/
def numbersBefore (buffer : Buffer) (origin : Int) : List Int :=
  (List.range (min origin (buffer.lineCount + 1) - 1).toNat).reverse.map
    fun index : Nat => (index : Int) + 1

variable {buffer : Buffer} {accept : String → Bool}

theorem mem_numbersBehind {origin number : Int} :
    number ∈ buffer.numbersBehind origin ↔ origin < number ∧ number ≤ buffer.lineCount := by
  rw [numbersBehind, List.mem_map]
  constructor
  · rintro ⟨index, member, rfl⟩
    rw [List.mem_range] at member
    omega
  · rintro ⟨behind, last⟩
    refine ⟨(number - origin - 1).toNat, ?_, by omega⟩
    rw [List.mem_range]
    omega

theorem mem_numbersBefore {origin number : Int} :
    number ∈ buffer.numbersBefore origin ↔
      1 ≤ number ∧ number < origin ∧ number ≤ buffer.lineCount := by
  rw [numbersBefore, List.mem_map]
  constructor
  · rintro ⟨index, member, rfl⟩
    rw [List.mem_reverse, List.mem_range] at member
    omega
  · rintro ⟨first, before, last⟩
    refine ⟨(number - 1).toNat, ?_, by omega⟩
    rw [List.mem_reverse, List.mem_range]
    omega

theorem firstUp_eq_firstOf (document : Document) (count : Nat) (start : Int) :
    firstUp document accept count start =
      firstOf document accept ((List.range count).map fun index : Nat => start + index) := by
  induction count generalizing start with
  | zero => rfl
  | succ count ih =>
      have numbers : (List.range (count + 1)).map (fun index : Nat => start + index) =
          start :: (List.range count).map (fun index : Nat => start + 1 + index) := by
        rw [List.range_succ_eq_map, List.map_cons, List.map_map]
        refine congrArg₂ List.cons (by simp) (List.map_congr_left fun index _ => ?_)
        have shifted : start + ((index + 1 : Nat) : Int) = start + 1 + index := by omega
        exact shifted
      rw [numbers]
      cases found : document.line? start with
      | none => simp only [firstUp, firstOf, found]
      | some line => simp only [firstUp, firstOf, found, ih]

theorem firstDown_eq_firstOf {document : Document} {count : Nat}
    (there : count ≤ document.lineCount) :
    .ok ((firstDown document accept count).map Int.ofNat) =
      firstOf document accept
        ((List.range count).reverse.map fun index : Nat => (index : Int) + 1) := by
  induction count with
  | zero => rfl
  | succ count ih =>
      obtain ⟨line, found⟩ : ∃ line, document.line? ((count : Int) + 1) = some line :=
        @exists_line { document } _ (by omega) (by simp only [lineCount]; omega)
      rw [List.range_succ, List.reverse_append, List.reverse_singleton, List.singleton_append,
        List.map_cons, firstOf, firstDown, ← ih (by omega), found]
      by_cases accepts : accept line = true
      · simp [accepts]
      · simp [accepts]

variable (buffer accept) in
/-- **A forward search goes through the numbers behind its origin.** -/
theorem findForward_eq_firstOf (origin : Int) :
    buffer.findForward accept origin =
      firstOf buffer.document accept (buffer.numbersBehind origin) :=
  firstUp_eq_firstOf _ _ _

variable (buffer accept) in
/-- **A backward search goes through the numbers before its origin.** -/
theorem findBackward_eq_firstOf (origin : Int) :
    .ok ((buffer.findBackward accept origin).map Int.ofNat) =
      firstOf buffer.document accept (buffer.numbersBefore origin) := by
  refine firstDown_eq_firstOf ?_
  simp only [lineCount]
  omega

/-! ## What is not found -/

theorem findForward_eq_none {origin : Int} (positive : 0 ≤ origin) :
    buffer.findForward accept origin = .ok none ↔
      ∀ number, origin < number → ¬buffer.Accepted accept number := by
  rcases findForward_spec buffer accept positive with ⟨number, same, next⟩ | ⟨same, nothing⟩
  · rw [same]
    exact ⟨nofun, fun nothing => absurd next.accepted (nothing number next.behind)⟩
  · exact ⟨fun _ => nothing, fun _ => same⟩

theorem findBackward_eq_none {origin : Int} :
    buffer.findBackward accept origin = none ↔
      ∀ number, number < origin → ¬buffer.Accepted accept number := by
  rcases findBackward_spec buffer accept origin with ⟨number, same, previous⟩ | ⟨same, nothing⟩
  · rw [same]
    exact ⟨nofun, fun nothing => absurd previous.accepted (nothing number previous.before)⟩
  · exact ⟨fun _ => nothing, fun _ => same⟩

end Buffer

namespace Address

variable {engine : Pattern.Engine} {buffer : Buffer} {marks : Marks}
  {remembered? after? : Option String}

/-- The line that the base of an address finds lies on the side of the current line on which it
searches. -/
theorem searched_aside {isForward : Bool} {body : List Char} {line : Int}
    (resolved : resolveBase engine buffer marks remembered? (.search isForward body) =
      .ok (line, after?)) :
    (if isForward then (buffer.current : Int) < line else line < buffer.current) ∧
      1 ≤ line ∧ line ≤ buffer.lineCount := by
  obtain ⟨text, compiled, -, -, nearest⟩ := resolveBase_search.mp ⟨after?, resolved⟩
  cases isForward with
  | true =>
      rw [if_pos rfl] at nearest ⊢
      exact ⟨nearest.behind, nearest.accepted.1, nearest.accepted.le_lineCount⟩
  | false =>
      rw [if_neg Bool.false_ne_true] at nearest ⊢
      exact ⟨nearest.before, nearest.accepted.1, nearest.accepted.le_lineCount⟩

/-! ## The main result -/

/-- **Searches find the nearest line and do not wrap.**  A forward search from any origin that is
not negative gives the nearest line behind it in which the pattern matches, and nothing exactly if
there is none; a backward search from any origin does the same with the lines before it.  Each goes
through numbers of lines that are there and looks at no other line, so it always ends with an
answer.

Where a search in an address is resolved, it leads away from the current line, to the side on which
it searches.  This holds of every buffer, whatever reads the patterns, whatever the marks and
whatever is remembered, and so at every moment of a session. -/
theorem searches_nearest (buffer : Buffer) :
    (∀ (pattern : Pattern) (origin : Int), 0 ≤ origin →
      (∀ number, buffer.searchForward pattern origin = .ok (some number) ↔
        origin < number ∧ number ≤ buffer.lineCount ∧
          buffer.Accepted (Buffer.lineMatches pattern) number ∧
          ∀ other, origin < other → other < number →
            ¬buffer.Accepted (Buffer.lineMatches pattern) other) ∧
      (buffer.searchForward pattern origin = .ok none ↔
        ∀ number, origin < number → ¬buffer.Accepted (Buffer.lineMatches pattern) number) ∧
      buffer.searchForward pattern origin =
        Buffer.firstOf buffer.document (Buffer.lineMatches pattern)
          (buffer.numbersBehind origin) ∧
      ∀ number ∈ buffer.numbersBehind origin, 1 ≤ number ∧ number ≤ buffer.lineCount) ∧
    (∀ (pattern : Pattern) (origin : Int),
      (∀ number : Int, (buffer.searchBackward pattern origin).map Int.ofNat = some number ↔
        number < origin ∧ number ≤ buffer.lineCount ∧
          buffer.Accepted (Buffer.lineMatches pattern) number ∧
          ∀ other, number < other → other < origin →
            ¬buffer.Accepted (Buffer.lineMatches pattern) other) ∧
      (buffer.searchBackward pattern origin = none ↔
        ∀ number, number < origin → ¬buffer.Accepted (Buffer.lineMatches pattern) number) ∧
      .ok ((buffer.searchBackward pattern origin).map Int.ofNat) =
        Buffer.firstOf buffer.document (Buffer.lineMatches pattern)
          (buffer.numbersBefore origin) ∧
      ∀ number ∈ buffer.numbersBefore origin, 1 ≤ number ∧ number ≤ buffer.lineCount) ∧
    ∀ engine marks remembered? isForward body line after?,
      resolveBase engine buffer marks remembered? (.search isForward body) = .ok (line, after?) →
      (if isForward then (buffer.current : Int) < line else line < buffer.current) ∧
        1 ≤ line ∧ line ≤ buffer.lineCount := by
  refine ⟨fun pattern origin positive => ⟨fun number => ?_, ?_, ?_, ?_⟩,
    fun pattern origin => ⟨fun number => ?_, ?_, ?_, ?_⟩, ?_⟩
  · rw [Buffer.searchForward, Buffer.findForward_eq_some positive]
    constructor
    · exact fun next =>
        ⟨next.behind, next.accepted.le_lineCount, next.accepted, next.nearest⟩
    · exact fun ⟨behind, _, accepted, nearest⟩ => ⟨behind, accepted, nearest⟩
  · exact Buffer.findForward_eq_none positive
  · exact buffer.findForward_eq_firstOf _ origin
  · intro number member
    rw [Buffer.mem_numbersBehind] at member
    omega
  · rw [Buffer.searchBackward, Buffer.findBackward_eq_some]
    constructor
    · exact fun previous =>
        ⟨previous.before, previous.accepted.le_lineCount, previous.accepted, previous.nearest⟩
    · exact fun ⟨before, _, accepted, nearest⟩ => ⟨before, accepted, nearest⟩
  · exact Buffer.findBackward_eq_none
  · exact buffer.findBackward_eq_firstOf _ origin
  · intro number member
    rw [Buffer.mem_numbersBefore] at member
    exact ⟨member.1, member.2.2⟩
  · exact fun _ _ _ _ _ _ _ => searched_aside

/-- Of three lines, two have a `t`.  The search behind the second line finds the third one, and the
search before a line far behind the end finds it, too; from the third line on there is nothing. -/
theorem searches_nearest_three :
    let buffer := Buffer.ofLines ["two", "one", "three"]
    let pattern : Pattern :=
      .oneOf { negated := false, items := [.single 116], folding := .exact, asciiOnly := false }
    buffer.searchForward pattern 1 = .ok (some 3) ∧
      buffer.Accepted (Buffer.lineMatches pattern) 3 ∧
      ¬buffer.Accepted (Buffer.lineMatches pattern) 2 ∧
      buffer.searchForward pattern 3 = .ok none ∧ buffer.searchBackward pattern 9 = some 3 ∧
      buffer.searchBackward pattern 3 = some 1 ∧
      resolveBase .usual buffer [] none (.search true ['t']) = .ok (3, some "t") ∧
      (buffer.current : Int) < 3 := by
  intro buffer pattern
  obtain ⟨forward, backward, resolved⟩ := searches_nearest buffer
  have found : buffer.searchForward pattern 1 = .ok (some 3) := by decide +kernel
  have base : resolveBase .usual buffer [] none (.search true ['t']) = .ok (3, some "t") := by
    decide +kernel
  obtain ⟨-, -, accepted, nearest⟩ := ((forward pattern 1 (by decide)).1 3).mp found
  refine ⟨found, accepted, nearest 2 (by decide) (by decide), by decide +kernel, by decide +kernel,
    by decide +kernel, base, ?_⟩
  have aside := (resolved .usual [] none true ['t'] 3 _ base).1
  rwa [if_pos rfl] at aside

end Address

end LineEditor
