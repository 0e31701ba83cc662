import LineEditor.Address.Resolution
import LineEditor.Proofs.Address.Written
import LineEditor.Proofs.Buffer.Searching

/-!
# What address tokens mean

`Means` says which line an address token means: the line of its base plus the
signed sum of its offsets.  It speaks of the parts that the token was written
from, of the nearest line in which a pattern matches, and of nothing that the
resolver does.

`Fails` says what can go wrong: an address is refused, a number has more digits
than can be read, or a pattern is unfit in another way than being malformed.

A number and a search give what they mean, or fail in one of these ways
(`numberedLine_short`, `searchLine_eq_ok`, `fails_searchLine`).
-/

set_option autoImplicit false

namespace LineEditor.Address

open LineEditor.Text

section

variable (engine : Pattern.Engine) (buffer : Buffer) (marks : Marks) (lastSearch? : Option String)

/-! ## Meaning -/

/-- The text of the pattern that a search asks for: an empty body asks for the remembered one. -/
def Asks (body : List Char) (text : String) : Prop :=
  if body = [] then lastSearch? = some text else text = String.ofList body

/-- The line is the nearest one on the side of a search in which its pattern matches. -/
def Finds (isForward : Bool) (body : List Char) (line : Int) : Prop :=
  ∃ text compiled, Asks lastSearch? body text ∧ Pattern.read engine text = .ok compiled ∧
    if isForward then buffer.Next (Buffer.lineMatches compiled.pattern) buffer.current line
    else buffer.Previous (Buffer.lineMatches compiled.pattern) buffer.current line

/-- The line that a base means. -/
inductive WrittenBase.Means : WrittenBase → Int → Prop where
  | absent : Means .absent buffer.current
  | point : Means .point buffer.current
  | last : Means .last (max buffer.lineCount 1 : Nat)
  | number {digits : List Char} (present : digits ≠ [])
      (decimal : ∀ char ∈ digits, isDigit char = true) :
      Means (.number digits present decimal) (digitsValue digits)
  | mark {name : Char} {line : Int} (stored : marks.lookup name = some line) :
      Means (.mark name) line
  | search {isForward : Bool} {body : List Char} {line : Int}
      (closed : searchDelimiter isForward ∉ body)
      (found : Finds engine buffer lastSearch? isForward body line) :
      Means (.search isForward body closed) line

/-- The signed amount of an offset, which is one where no digits are written. -/
def WrittenOffset.amount (offset : WrittenOffset) : Int :=
  let amount : Int := if offset.digits = [] then 1 else digitsValue offset.digits
  if offset.sign = '+' then amount else -amount

/-- The sum of the amounts of a token's offsets. -/
def WrittenToken.offset (token : WrittenToken) : Int :=
  token.offsets.foldr (·.amount + ·) 0

/-- The line that the characters of a token mean.  A search that nothing closes runs up to the end
of its token and has no offsets. -/
inductive Means : List Char → Int → Prop where
  | written {token : WrittenToken} {line : Int}
      (base : token.base.Means engine buffer marks lastSearch? line) :
      Means token.chars (line + token.offset)
  | unclosed {isForward : Bool} {body : List Char} {line : Int}
      (absent : searchDelimiter isForward ∉ body)
      (found : Finds engine buffer lastSearch? isForward body line) :
      Means (searchDelimiter isForward :: body) line

end

variable {engine : Pattern.Engine} {buffer : Buffer} {marks : Marks} {lastSearch? : Option String}

/-! ## Failing -/

/-- A run of digits that is part of a list of characters. -/
structure Run (chars digits : List Char) : Prop where
  part : digits <:+: chars
  decimal : ∀ char ∈ digits, isDigit char = true

/-- No number has more digits than can be read. -/
def Short (chars : List Char) : Prop :=
  ∀ digits, Run chars digits → digits.length ≤ digitLimit

/-- The character that opens a search, and what stands behind it up to the next such character. -/
def Sought (chars body : List Char) : Prop :=
  ∃ isForward rest, chars = searchDelimiter isForward :: rest ∧
    body = rest.takeWhile (· != searchDelimiter isForward)

/-- What can go wrong with an address. -/
inductive Fails (engine : Pattern.Engine) (lastSearch? : Option String) (chars : List Char) :
    Fault → Prop where
  | refused (cause : AddressCause) : Fails engine lastSearch? chars (.refusal (.address cause))
  | tooLong {digits : List Char} (run : Run chars digits) (excess : digitLimit < digits.length) :
      Fails engine lastSearch? chars (.tooManyDigits digits.length)
  | unfit {body : List Char} {text : String} {cause : Pattern.PatternFault}
      (sought : Sought chars body) (asks : Asks lastSearch? body text)
      (read : Pattern.read engine text = .error cause) (other : cause ≠ .malformed) :
      Fails engine lastSearch? chars (.ofPattern cause)

theorem Sought.body_eq {char : Char} {rest body : List Char} (sought : Sought (char :: rest) body) :
    body = rest.takeWhile (· != char) := by
  obtain ⟨isForward, other, same, rfl⟩ := sought
  cases same
  rfl

theorem takeWhile_body {close : Char} {body : List Char} (within : close ∉ body)
    (rest : List Char) : (body ++ close :: rest).takeWhile (· != close) = body := by
  rw [List.takeWhile_append_of_pos]
  · simp
  · intro char member
    rw [bne_iff_ne]
    rintro rfl
    exact within member

/-! ## Numbers -/

theorem numberedLine_short {digits : List Char} (short : digits.length ≤ digitLimit) :
    numberedLine digits = .ok (digitsValue digits) := by
  rw [numberedLine, readDigits, if_neg (by omega)]

theorem fault_numberedLine {digits : List Char} {fault : Fault}
    (failed : numberedLine digits = .error fault) :
    digitLimit < digits.length ∧ fault = .tooManyDigits digits.length := by
  rw [numberedLine, readDigits] at failed
  split at failed
  · cases failed
  · rename_i cause refused
    split at refused
    · rename_i excess
      cases refused
      cases failed
      exact ⟨excess, rfl⟩
    · cases refused

theorem fails_numberedLine {chars digits : List Char} {fault : Fault} (run : Run chars digits)
    (failed : numberedLine digits = .error fault) : Fails engine lastSearch? chars fault := by
  obtain ⟨excess, rfl⟩ := fault_numberedLine failed
  exact .tooLong run excess

/-! ## Searches -/

/-- The side of the current line that a search looks at. -/
def nearestMatch (buffer : Buffer) (isForward : Bool) (pattern : Pattern) :
    Except Fault (Option Int) :=
  if isForward then buffer.searchForward pattern buffer.current
  else pure ((buffer.searchBackward pattern buffer.current).map Int.ofNat)

theorem nearestMatch_eq_some {isForward : Bool} {pattern : Pattern} {line : Int} :
    nearestMatch buffer isForward pattern = .ok (some line) ↔
      if isForward then buffer.Next (Buffer.lineMatches pattern) buffer.current line
      else buffer.Previous (Buffer.lineMatches pattern) buffer.current line := by
  cases isForward with
  | true => exact Buffer.findForward_eq_some (by omega)
  | false =>
      rw [nearestMatch, if_neg Bool.false_ne_true, if_neg Bool.false_ne_true,
        ← Buffer.findBackward_eq_some]
      exact ⟨Except.ok.inj, congrArg Except.ok⟩

/-- A search always ends. -/
theorem nearestMatch_ok (buffer : Buffer) (isForward : Bool) (pattern : Pattern) :
    ∃ found?, nearestMatch buffer isForward pattern = .ok found? := by
  cases isForward with
  | true =>
      have positive : 0 ≤ (buffer.current : Int) := by omega
      rcases Buffer.findForward_spec buffer (Buffer.lineMatches pattern) positive with
        ⟨number, found, -⟩ | ⟨nothing, -⟩
      · exact ⟨some number, found⟩
      · exact ⟨none, nothing⟩
  | false => exact ⟨_, rfl⟩

theorem effectivePattern_eq_ok {body : List Char} {text : String} :
    effectivePattern lastSearch? body = .ok text ↔ Asks lastSearch? body text := by
  cases body with
  | nil => cases lastSearch? <;> simp [effectivePattern, Asks]
  | cons char rest => simp [effectivePattern, Asks, eq_comm]

theorem fault_effectivePattern {body : List Char} {fault : Fault}
    (failed : effectivePattern lastSearch? body = .error fault) :
    fault = .refusal (.address .noPreviousPattern) := by
  cases body with
  | nil =>
      cases lastSearch? with
      | none =>
          cases failed
          rfl
      | some text => cases failed
  | cons char rest => cases failed

theorem readPattern_eq_ok {text : String} {compiled : Pattern.Compiled} :
    readPattern engine text = .ok compiled ↔ Pattern.read engine text = .ok compiled := by
  rw [readPattern]
  split
  · rename_i other read
    rw [read]
    simp
  · rename_i read
    simp [read]
  · rename_i cause read
    simp [read]

/-- A pattern is malformed, which is refused, or it is unfit in another way. -/
theorem fault_readPattern {text : String} {fault : Fault}
    (failed : readPattern engine text = .error fault) :
    fault = .refusal (.address .invalidPattern) ∨
      ∃ cause, Pattern.read engine text = .error cause ∧ cause ≠ .malformed ∧
        fault = .ofPattern cause := by
  rw [readPattern] at failed
  split at failed
  · cases failed
  · cases failed
    exact .inl rfl
  · rename_i cause other read
    cases failed
    exact .inr ⟨cause, read, other, rfl⟩

theorem searchLine_eq (isForward : Bool) (body : List Char) :
    searchLine engine buffer lastSearch? isForward body = (do
      let text ← effectivePattern lastSearch? body
      let compiled ← readPattern engine text
      match ← nearestMatch buffer isForward compiled.pattern with
      | some line => return (line, text)
      | none => throw (.refusal (.address .noMatch))) := by
  cases isForward
  · rfl
  · rfl

/-- **A search gives the line that it finds**, and the pattern that it asked for. -/
theorem searchLine_eq_ok {isForward : Bool} {body : List Char} {line : Int} :
    (∃ text, searchLine engine buffer lastSearch? isForward body = .ok (line, text)) ↔
      Finds engine buffer lastSearch? isForward body line := by
  simp only [searchLine_eq, Finds, ← effectivePattern_eq_ok, ← readPattern_eq_ok,
    ← nearestMatch_eq_some]
  cases effectivePattern lastSearch? body with
  | error fault => simp [bind, Except.bind]
  | ok text =>
      simp only [bind, Except.bind, Except.ok.injEq, exists_and_left, exists_eq_left']
      cases readPattern engine text with
      | error fault => simp
      | ok compiled =>
          obtain ⟨found?, found⟩ := nearestMatch_ok buffer isForward compiled.pattern
          simp only [Except.ok.injEq, exists_eq_left', found]
          cases found? with
          | none => simp [throw, throwThe, MonadExceptOf.throw]
          | some other => simp [pure, Except.pure, eq_comm]

/-- A search is refused, or its pattern is unfit in another way than being malformed. -/
theorem fault_searchLine {isForward : Bool} {body : List Char} {fault : Fault}
    (failed : searchLine engine buffer lastSearch? isForward body = .error fault) :
    (∃ cause, fault = .refusal (.address cause)) ∨
      ∃ text cause, Asks lastSearch? body text ∧ Pattern.read engine text = .error cause ∧
        cause ≠ .malformed ∧ fault = .ofPattern cause := by
  rw [searchLine_eq] at failed
  cases asked : effectivePattern lastSearch? body with
  | error other =>
      rw [asked] at failed
      cases failed
      exact .inl ⟨_, fault_effectivePattern asked⟩
  | ok text =>
      cases read : readPattern engine text with
      | error other =>
          rw [asked] at failed
          simp only [bind, Except.bind, read] at failed
          cases failed
          rcases fault_readPattern read with refused | ⟨cause, unread, other, same⟩
          · exact .inl ⟨_, refused⟩
          · exact .inr ⟨text, cause, effectivePattern_eq_ok.mp asked, unread, other, same⟩
      | ok compiled =>
          obtain ⟨found?, found⟩ := nearestMatch_ok buffer isForward compiled.pattern
          rw [asked] at failed
          simp only [bind, Except.bind, read, found] at failed
          cases found? with
          | none =>
              cases failed
              exact .inl ⟨_, rfl⟩
          | some line => cases failed

theorem fails_searchLine {chars body : List Char} {isForward : Bool} {fault : Fault}
    (sought : Sought chars body)
    (failed : searchLine engine buffer lastSearch? isForward body = .error fault) :
    Fails engine lastSearch? chars fault := by
  rcases fault_searchLine failed with ⟨cause, rfl⟩ | ⟨text, cause, asks, read, other, rfl⟩
  · exact .refused cause
  · exact .unfit sought asks read other

end LineEditor.Address
