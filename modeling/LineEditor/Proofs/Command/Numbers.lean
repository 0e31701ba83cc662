import LineEditor.Address.Resolution
import LineEditor.Proofs.Command.Scanning

/-!
# Line numbers in command lines

A command line may name its lines by plain decimal numbers, or not at all.  The
digits of a number are an address token (`Address.WrittenToken.ofNumber`), so a
letter and its arguments behind one number, or behind two of them with a comma,
are scanned as they are meant (`CommandLine.scan_rest`,
`CommandLine.scan_number_rest`, `CommandLine.scan_numbers_rest`).  Such a token
is resolved to the number that it writes, as long as it has no more digits than
a numeral may have (`Address.resolve_number`).
-/

set_option autoImplicit false

namespace LineEditor

/-! ## Digits -/

/-- The value of a digit. -/
theorem Char.isDigit_value {char : Char} (digit : char.isDigit = true) :
    (Text.digitValue? char).getD 0 = char.toNat - '0'.toNat :=
  Char.isDigit_cases (fun char => (Text.digitValue? char).getD 0 = char.toNat - '0'.toNat)
    (by decide) digit

theorem isDigit_of_mem_toString {number : Nat} {char : Char}
    (member : char ∈ (toString number).toList) : char.isDigit = true := by
  rw [Nat.toString_eq_repr, Nat.toList_repr] at member
  exact Nat.isDigit_of_mem_toDigits (by decide) (by decide) member

/-! ## Scanning -/

namespace Address.WrittenToken

/-- A plain number. -/
def ofNumber (number : Nat) : WrittenToken where
  base := .number (toString number).toList (by simp) fun _ member =>
    (Char.isDigit_plain (isDigit_of_mem_toString member)).1.1

theorem ofNumber_text (number : Nat) : (ofNumber number).text = toString number := by
  rw [text, chars, offsetChars, ofNumber, List.flatMap_nil, List.append_nil, WrittenBase.chars,
    String.ofList_toList]

theorem ofNumber_isAscii (number : Nat) : (ofNumber number).IsAscii where
  base := fun _ => isDigit_of_mem_toString
  offsets := by simp [ofNumber]

end Address.WrittenToken

namespace CommandLine

open Address (WrittenToken)

section Rest

variable {rest : String} (isRest : ScanState.IsRest rest) (filled : rest ≠ "")
include isRest filled

/-- No address at all. -/
theorem scan_rest : scan rest = { rest } := by
  have unaddressed : ({ base := .absent } : WrittenToken).text = "" := rfl
  have scanned := @scan_one { base := .absent } "" "" rest (by decide) isBlankText_empty
    isBlankText_empty isRest
  simpa only [unaddressed, String.empty_append, String.append_empty, filled, false_and, if_false]
    using scanned

/-- One number. -/
theorem scan_number_rest (number : Nat) :
    scan (toString number ++ rest) = { first := toString number, rest } := by
  have scanned := scan_one (WrittenToken.ofNumber_isAscii number) isBlankText_empty
    isBlankText_empty isRest
  simpa only [WrittenToken.ofNumber_text, String.empty_append, String.append_empty, filled,
    false_and, if_false] using scanned

omit filled in
/-- Two numbers with a comma between them. -/
theorem scan_numbers_rest (first last : Nat) :
    scan (toString first ++ "," ++ toString last ++ rest) =
      { first := toString first
        second := toString last
        rest
        explicitRange := true } := by
  have written : (WrittenToken.ofNumber first).text ≠ "" := by
    rw [WrittenToken.ofNumber_text]
    simp
  have scanned := scan_two (WrittenToken.ofNumber_isAscii first) written
    (WrittenToken.ofNumber_isAscii last) isBlankText_empty isBlankText_empty isBlankText_empty
    isBlankText_empty isRest
  simpa only [WrittenToken.ofNumber_text, String.empty_append, String.append_empty] using scanned

end Rest

end CommandLine

namespace Address

/-! ## Resolving -/

/-- The digits of a number write it. -/
theorem digitsValue_toString (number : Nat) :
    Text.digitsValue (toString number).toList = number := by
  have same : ∀ digits : List Char, (∀ char ∈ digits, char.isDigit = true) → ∀ start : Nat,
      digits.foldl (fun value digit => 10 * value + (Text.digitValue? digit).getD 0) start =
        Nat.ofDigitChars 10 digits start := by
    intro digits
    induction digits with
    | nil => exact fun _ _ => rfl
    | cons char rest ih =>
        intro all start
        rw [List.foldl_cons, Char.isDigit_value (all char List.mem_cons_self),
          ih fun other member => all other (List.mem_cons_of_mem _ member)]
        rfl
  rw [Text.digitsValue, same _ fun _ => isDigit_of_mem_toString, Nat.toString_eq_repr,
    Nat.toList_repr, Nat.ofDigitChars_toDigits (by decide) (by decide)]

/-- **A plain number means the line with that number.** -/
theorem resolve_number (engine : Pattern.Engine) (buffer : Buffer) (marks : Marks)
    (lastSearch? : Option String) {number : Nat}
    (short : (toString number).length ≤ Text.digitLimit) :
    resolve engine buffer marks lastSearch? (toString number) = (.ok number, lastSearch?) := by
  have value : numberedLine (toString number).toList = .ok (number : Int) := by
    rw [← String.length_toList] at short
    rw [numberedLine, Text.readDigits, if_neg (by omega), digitsValue_toString]
  have split : splitChars (toString number).toList = ((toString number).toList, []) := by
    have split := (WrittenToken.ofNumber number).splitChars_chars
    have chars : (WrittenToken.ofNumber number).chars = (toString number).toList :=
      List.append_nil _
    rwa [chars] at split
  have base : Base.ofChars (toString number).toList = .number (toString number).toList :=
    (WrittenToken.ofNumber number).base.ofChars_chars
  simp only [resolve, split, base, resolveBase, value, Except.map, offsetOf, readOffsets?,
    readOffsetsFrom, sumOffsets, Int.add_zero]

end Address

end LineEditor
