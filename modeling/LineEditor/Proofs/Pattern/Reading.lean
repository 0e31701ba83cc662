import LineEditor.Pattern.Reader
import Mathlib.Data.List.Basic

/-!
# How reading a pattern fails

A text that is no pattern is malformed, or one of four other things is wrong
with it: a repetition count is too large, it has more digits than can be read,
the flags exclude each other, or there are more parentheses than the engine is
sure to follow (`Pattern.Fails`).  In each case the cause can be pointed at in
the text.

The reader only ever moves on in the text, so whatever it reads is part of it
(`Token.Within`).  `Reads` says of one step of the reader that what it gives is
acceptable and that it fails in these ways only; there is one lemma for each
step, in the order of the reader.
-/

set_option autoImplicit false

namespace LineEditor.Pattern

open LineEditor.Text

/-! ## Failing -/

/-- What can be wrong with the text of a pattern. -/
inductive Fails (engine : Engine) (chars : List Char) : PatternFault → Prop where
  | malformed : Fails engine chars .malformed
  | tooLarge {digits : List Char} (part : digits <:+: chars)
      (decimal : ∀ char ∈ digits, char.isDigit = true) (large : repeatLimit ≤ digitsValue digits) :
      Fails engine chars .repeatTooLarge
  | tooLong {digits : List Char} (part : digits <:+: chars)
      (decimal : ∀ char ∈ digits, char.isDigit = true) (excess : digitLimit < digits.length) :
      Fails engine chars (.tooManyDigits digits.length)
  | exclusive (ascii : 'a' ∈ chars) (unicode : 'u' ∈ chars) : Fails engine chars .incompatibleFlags
  | tooDeep (deep : engine.depth < chars.count '(') : Fails engine chars .nestedTooDeep

/-- A step of the reader gives something acceptable, or fails for a cause in the text. -/
def Reads {α : Type} (engine : Engine) (chars : List Char) (accepts : α → Prop)
    (outcome : Except PatternFault α) : Prop :=
  match outcome with
  | .ok result => accepts result
  | .error cause => Fails engine chars cause

namespace Reads

variable {α β : Type} {engine : Engine} {chars : List Char} {accepts : α → Prop}

theorem ok {result : α} (accepted : accepts result) : Reads engine chars accepts (.ok result) :=
  accepted

theorem malformed : Reads engine chars accepts (.error .malformed) :=
  Fails.malformed

theorem mono {outcome : Except PatternFault α} {accepts' : α → Prop}
    (reads : Reads engine chars accepts outcome)
    (weaker : ∀ result, accepts result → accepts' result) :
    Reads engine chars accepts' outcome := by
  cases outcome with
  | ok result => exact weaker result reads
  | error cause => exact reads

theorem bind {first : Except PatternFault α} {next : α → Except PatternFault β}
    {accepts' : β → Prop} (heads : Reads engine chars accepts first)
    (rests : ∀ result, accepts result → Reads engine chars accepts' (next result)) :
    Reads engine chars accepts' (first >>= next) := by
  cases first with
  | ok result => exact rests result heads
  | error cause => exact heads

theorem map {outcome : Except PatternFault α} {change : α → β} {accepts' : β → Prop}
    (reads : Reads engine chars accepts outcome) (accepted : ∀ result, accepts result →
      accepts' (change result)) : Reads engine chars accepts' (outcome.map change) := by
  cases outcome with
  | ok result => exact accepted result reads
  | error cause => exact reads

/-- A step goes on unless the text is malformed. -/
theorem guarded {condition : Prop} [Decidable condition] {next : PUnit → Except PatternFault α}
    (rests : ¬condition → Reads engine chars accepts (next ⟨⟩)) :
    Reads engine chars accepts
      (if condition then (throw .malformed : Except PatternFault PUnit) >>= next else next ⟨⟩) := by
  split
  · exact malformed
  · rename_i other
    exact rests other

end Reads

/-! ## Tokens -/

namespace Token

/-- The characters of tokens. -/
def text (tokens : List Token) : List Char :=
  tokens.flatMap Token.chars

theorem text_cons (token : Token) (rest : List Token) :
    text (token :: rest) = token.chars ++ text rest := rfl

/-- The tokens of a text have its characters. -/
theorem text_ofChars (chars : List Char) : text (ofChars chars) = chars := by
  fun_induction ofChars chars with
  | case1 => rfl
  | case2 => rfl
  | case3 char rest ih => simp [text_cons, Token.chars, ih]
  | case4 char rest single pair ih => simp [text_cons, Token.chars, ih]

/-- Tokens whose characters are part of a text. -/
def Within (chars : List Char) (tokens : List Token) : Prop :=
  text tokens <:+: chars

variable {engine : Engine} {chars : List Char} {tokens : List Token}

theorem Within.rest {token : Token} {rest : List Token} (within : Within chars (token :: rest)) :
    Within chars rest :=
  (List.suffix_append token.chars (text rest)).isInfix.trans within

theorem Within.tail (within : Within chars tokens) : Within chars tokens.tail := by
  cases tokens with
  | nil => exact within
  | cons token rest => exact within.rest

theorem Within.head {char : Char} {rest : List Token} (within : Within chars (.plain char :: rest)) :
    char ∈ chars :=
  within.subset (by simp [text_cons, Token.chars])

theorem reads_check (tokens : List Token) : Reads engine chars (fun _ => True) (check tokens) := by
  unfold check
  split
  · exact .malformed
  · exact .ok trivial

theorem reads_dropIf (char : Char) (within : Within chars tokens) :
    Reads engine chars (fun rest? => ∀ rest, rest? = some rest → Within chars rest)
      (dropIf char tokens) := by
  unfold dropIf
  split
  · rename_i first rest
    split
    · refine (reads_check rest).map fun _ _ => ?_
      rintro _ ⟨⟩
      exact within.rest
    · exact .ok fun _ same => by cases same
  · exact .ok fun _ same => by cases same

/-- What is taken off the front stands there. -/
theorem reads_takeWhile (accept : Char → Bool) (count : Nat) : ∀ tokens : List Token,
    Reads engine chars
      (fun taken => text tokens = taken.1 ++ text taken.2 ∧ ∀ char ∈ taken.1, accept char = true)
      (takeWhile accept count tokens) := by
  induction count with
  | zero => exact fun tokens => .ok ⟨rfl, by simp⟩
  | succ left ih =>
      intro tokens
      unfold takeWhile
      split
      · rename_i same
        cases same
        split
        · rename_i char rest accepted
          refine (reads_check rest).bind fun _ _ => (ih rest).bind ?_
          rintro ⟨taken, after⟩ ⟨parts, others⟩
          refine .ok ⟨?_, ?_⟩
          · rw [text_cons, parts]
            rfl
          · rw [List.forall_mem_cons]
            exact ⟨accepted, others⟩
        · exact .ok ⟨rfl, by simp⟩
      · exact .ok ⟨rfl, by simp⟩

/-- What is taken off the front, and what is left, are part of the text. -/
theorem reads_takeWhile_within (accept : Char → Bool) (count : Nat) (within : Within chars tokens) :
    Reads engine chars
      (fun taken => taken.1 <:+: chars ∧ (∀ char ∈ taken.1, accept char = true) ∧
        Within chars taken.2)
      (takeWhile accept count tokens) := by
  refine (reads_takeWhile accept count tokens).mono ?_
  rintro ⟨taken, rest⟩ ⟨parts, accepted⟩
  rw [Within, parts] at within
  exact ⟨(List.prefix_append taken (text rest)).isInfix.trans within, accepted,
    (List.suffix_append taken (text rest)).isInfix.trans within⟩

theorem reads_takeUntil (close : Char) (tokens : List Token) : Within chars tokens →
    Reads engine chars (fun taken => Within chars taken.2) (takeUntil close tokens) := by
  induction tokens with
  | nil => exact fun _ => .malformed
  | cons token rest ih =>
      intro within
      unfold takeUntil
      refine (reads_check rest).bind fun _ _ => ?_
      split
      · exact .ok within.rest
      · exact (ih within.rest).bind fun taken behind => .ok behind

theorem reads_takeName (close : Char) (within : Within chars tokens) :
    Reads engine chars (fun taken => Within chars taken.2) (takeName close tokens) := by
  unfold takeName
  refine (reads_takeUntil close tokens within).bind ?_
  rintro ⟨name, rest⟩ behind
  exact .guarded fun _ => .ok behind

end Token

variable {engine : Engine} {chars : List Char} {tokens : List Token}

/-! ## Escapes and classes -/

theorem reads_readHexadecimal (count : Nat) (within : Token.Within chars tokens) :
    Reads engine chars (fun read => Token.Within chars read.2) (readHexadecimal count tokens) := by
  refine (Token.reads_takeWhile_within isHexadecimal count within).bind ?_
  rintro ⟨digits, rest⟩ ⟨-, -, behind⟩
  exact .guarded fun _ => .guarded fun _ => .ok behind

theorem reads_readNamedPoint (within : Token.Within chars tokens) :
    Reads engine chars (fun read => Token.Within chars read.2) (readNamedPoint engine tokens) := by
  refine (Token.reads_dropIf '{' within).bind fun rest? dropped => ?_
  split
  · exact .malformed
  · refine (Token.reads_takeName '}' (dropped _ rfl)).bind ?_
    rintro ⟨name, rest⟩ behind
    dsimp only
    split
    · exact .ok behind
    · exact .malformed

theorem reads_readPoint (char : Char) (within : Token.Within chars tokens) :
    Reads engine chars (fun read => Token.Within chars read.2) (readPoint engine char tokens) := by
  unfold readPoint
  split
  · exact reads_readNamedPoint within
  · split
    · exact reads_readHexadecimal 2 within
    · split
      · exact reads_readHexadecimal 4 within
      · split
        · exact reads_readHexadecimal 8 within
        · split
          · exact .malformed
          · exact .ok within

theorem reads_readClassEscape (char : Char) (within : Token.Within chars tokens) :
    Reads engine chars (fun read => Token.Within chars read.2)
      (readClassEscape engine char tokens) := by
  unfold readClassEscape
  split
  · exact .ok within
  · exact .ok within
  · split
    · refine (Token.reads_takeWhile_within isOctal 2 within).bind ?_
      rintro ⟨digits, rest⟩ ⟨-, -, behind⟩
      exact .guarded fun _ => .ok behind
    · exact (reads_readPoint char within).bind fun read behind => .ok behind

theorem reads_readMember (token : Token) (within : Token.Within chars tokens) :
    Reads engine chars (fun read => Token.Within chars read.2)
      (readMember engine token tokens) := by
  unfold readMember
  split
  · exact .ok within
  · exact reads_readClassEscape _ within
  · exact .malformed

theorem reads_rangeOf (low high : ClassItem) :
    Reads engine chars (fun _ => True) (rangeOf low high) := by
  unfold rangeOf
  split
  · split
    · exact .malformed
    · exact .ok trivial
  · exact .malformed

theorem reads_readMembers (bound : Nat) : ∀ (members : List ClassItem) (tokens : List Token),
    Token.Within chars tokens →
      Reads engine chars (fun read => Token.Within chars read.2)
        (readMembers engine bound members tokens) := by
  induction bound with
  | zero => exact fun _ _ _ => .malformed
  | succ bound ih =>
      intro members tokens within
      cases tokens with
      | nil => exact .malformed
      | cons token rest =>
          unfold readMembers
          refine (Token.reads_check rest).bind fun _ _ => ?_
          split
          · exact .ok within.rest
          · refine (reads_readMember token within.rest).bind ?_
            rintro ⟨low, rest⟩ behind
            refine (Token.reads_dropIf '-' behind).bind fun rest? dropped => ?_
            split
            · exact ih _ _ behind
            · exact .malformed
            · rename_i token rest
              have behind := (dropped _ rfl).rest
              refine (Token.reads_check rest).bind fun _ _ => ?_
              split
              · exact .ok behind
              · refine (reads_readMember token behind).bind ?_
                rintro ⟨high, rest⟩ behind
                exact (reads_rangeOf low high).bind fun range _ => ih _ _ behind

/-! ## Repetition -/

/-- Reading a count is where counts are too large or too long. -/
theorem reads_readCount? {digits : List Char} (part : digits <:+: chars)
    (decimal : ∀ char ∈ digits, char.isDigit = true) :
    Reads engine chars (fun _ => True) (readCount? digits) := by
  unfold readCount?
  split
  · exact .ok trivial
  · rw [readDigits]
    split
    · rename_i cause failed
      split at failed
      · rename_i excess
        exact Fails.tooLong part decimal excess
      · cases failed
    · rename_i count read
      split at read
      · cases read
      · cases read
        split
        · rename_i large
          exact Fails.tooLarge part decimal large
        · exact .ok trivial

/-- The end of a repetition whose digits have been read: a closing brace, and then the counts. -/
def closeCounts (low high : List Char) (tokens : List Token) :
    Except PatternFault (Option (Nat × Option Nat × List Token)) := do
  match ← Token.dropIf '}' tokens with
  | none => return none
  | some rest =>
    let least? ← readCount? low
    let most? ← readCount? high
    let least := least?.getD 0
    if most?.any (· < least) then throw .malformed
    return some (least, most?, rest)

theorem reads_closeCounts {low high : List Char} (lowPart : low <:+: chars)
    (lowDecimal : ∀ char ∈ low, char.isDigit = true) (highPart : high <:+: chars)
    (highDecimal : ∀ char ∈ high, char.isDigit = true) (within : Token.Within chars tokens) :
    Reads engine chars
      (fun read => ∀ least most? rest, read = some (least, most?, rest) → Token.Within chars rest)
      (closeCounts low high tokens) := by
  refine (Token.reads_dropIf '}' within).bind fun rest? dropped => ?_
  split
  · exact .ok fun _ _ _ same => by cases same
  · refine (reads_readCount? lowPart lowDecimal).bind fun least? _ =>
      (reads_readCount? highPart highDecimal).bind fun most? _ => .guarded fun _ => .ok ?_
    rintro _ _ _ ⟨⟩
    exact dropped _ rfl

theorem reads_readCounts? (within : Token.Within chars tokens) :
    Reads engine chars
      (fun read => ∀ least most? rest, read = some (least, most?, rest) → Token.Within chars rest)
      (readCounts? tokens) := by
  unfold readCounts?
  split
  · exact .ok fun _ _ _ same => by cases same
  · refine (Token.reads_takeWhile_within Char.isDigit _ within).bind ?_
    rintro ⟨low, rest⟩ ⟨lowPart, lowDecimal, behind⟩
    refine (Token.reads_dropIf ',' behind).bind fun after? dropped => ?_
    cases after? with
    | none => exact reads_closeCounts lowPart lowDecimal lowPart lowDecimal behind
    | some after =>
        refine (Token.reads_takeWhile_within Char.isDigit after.length (dropped _ rfl)).bind ?_
        rintro ⟨high, rest⟩ ⟨highPart, highDecimal, behind⟩
        exact reads_closeCounts lowPart lowDecimal highPart highDecimal behind

/-! ## Flags -/

theorem reads_readAdded (added : List Char) (char : Char) (tokens : List Token)
    (known : ∀ letter ∈ added, letter ∈ chars) (first : char ∈ chars)
    (within : Token.Within chars tokens) :
    Reads engine chars
      (fun read => (∀ letter ∈ read.1, letter ∈ chars) ∧ Token.Within chars read.2.2)
      (readAdded added char tokens) := by
  induction tokens generalizing added char with
  | nil => exact .malformed
  | cons token rest ih =>
      have more : ∀ letter ∈ added ++ [char], letter ∈ chars := by
        rw [List.forall_mem_append, List.forall_mem_singleton]
        exact ⟨known, first⟩
      unfold readAdded
      refine .guarded fun _ => .guarded fun _ => (Token.reads_check rest).bind fun _ _ => ?_
      split
      · split
        · exact .ok ⟨more, within.rest⟩
        · split
          · exact ih _ _ more within.head within.rest
          · exact .malformed
      · exact .malformed

theorem reads_readRemoved (removed : List Char) (char : Char) (tokens : List Token)
    (within : Token.Within chars tokens) :
    Reads engine chars (fun read => Token.Within chars read.2)
      (readRemoved removed char tokens) := by
  induction tokens generalizing removed char with
  | nil => exact .malformed
  | cons token rest ih =>
      unfold readRemoved
      refine .guarded fun _ => (Token.reads_check rest).bind fun _ _ => ?_
      split
      · split
        · exact .ok within.rest
        · split
          · exact ih _ _ within.rest
          · exact .malformed
      · exact .malformed

/-- The rest of a group of flags, behind the letters to add and the character that ends them. -/
def endFlags (added : List Char) (ending : Char) (tokens : List Token) :
    Except PatternFault (FlagGroup × List Token) := do
  if ending == ')' then return (.whole added, tokens)
  if added.contains 't' then throw .malformed
  if ending == ':' then return (.scoped added [], tokens)
  match tokens with
  | .plain char :: after =>
    Token.check after
    if !Flags.isLetter char then throw .malformed
    let (removed, after) ← readRemoved [] char after
    if removed.contains 't' || added.any removed.contains then throw .malformed
    return (.scoped added removed, after)
  | _ => throw .malformed

/-- The letters of flags for the whole pattern stand in the text. -/
def FlagGroup.Known (chars : List Char) : FlagGroup → Prop
  | .whole added => ∀ letter ∈ added, letter ∈ chars
  | .scoped _ _ => True

theorem reads_endFlags {added : List Char} (ending : Char)
    (known : ∀ letter ∈ added, letter ∈ chars) (within : Token.Within chars tokens) :
    Reads engine chars (fun read => read.1.Known chars ∧ Token.Within chars read.2)
      (endFlags added ending tokens) := by
  unfold endFlags
  split
  · exact .ok ⟨known, within⟩
  · refine .guarded fun _ => ?_
    split
    · exact .ok ⟨trivial, within⟩
    · split
      · rename_i char after
        refine (Token.reads_check after).bind fun _ _ => .guarded fun _ => ?_
        refine (reads_readRemoved [] char after within.rest).bind ?_
        rintro ⟨removed, after⟩ behind
        exact .guarded fun _ => .ok ⟨trivial, behind⟩
      · exact .malformed

theorem reads_readFlags {first : Char} (known : first ∈ chars)
    (within : Token.Within chars tokens) :
    Reads engine chars (fun read => read.1.Known chars ∧ Token.Within chars read.2)
      (readFlags first tokens) := by
  have none : ∀ letter ∈ ([] : List Char), letter ∈ chars := by simp
  unfold readFlags
  split
  · exact reads_endFlags '-' none within
  · refine (reads_readAdded [] first tokens none known within).bind ?_
    rintro ⟨added, ending, rest⟩ ⟨known, behind⟩
    exact reads_endFlags ending known behind

/-! ## The reader -/

namespace Reader

/-- What is left to read is part of the text, and so are the letters of the flags that hold for the
whole pattern. -/
structure Within (chars : List Char) (reader : Reader) : Prop where
  tokens : Token.Within chars reader.tokens
  ascii : reader.flags.ascii = true → 'a' ∈ chars
  unicode : reader.flags.unicode = true → 'u' ∈ chars

variable {reader : Reader}

theorem reads_checkLookbehind (index : Nat) :
    Reads engine chars (fun _ => True) (reader.checkLookbehind index) := by
  unfold checkLookbehind
  split
  · split
    · exact .malformed
    · exact .ok trivial
  · exact .ok trivial

theorem reads_conditionIndex (name : String) :
    Reads engine chars (fun _ => True) (reader.conditionIndex name) := by
  unfold conditionIndex
  split
  · split
    · exact .ok trivial
    · exact .malformed
  · split
    · split
      · exact .malformed
      · exact .ok trivial
    · exact .malformed

theorem reads_skipComment (tokens : List Token) : Token.Within chars tokens →
    Reads engine chars (Token.Within chars) (skipComment tokens) := by
  induction tokens with
  | nil => exact fun _ => .malformed
  | cons token rest ih =>
      intro within
      unfold skipComment
      refine (Token.reads_check rest).bind fun _ _ => ?_
      split
      · exact .ok within.rest
      · exact ih within.rest

theorem reads_skipLine (tokens : List Token) : Token.Within chars tokens →
    Reads engine chars (Token.Within chars) (skipLine tokens) := by
  induction tokens with
  | nil => exact fun within => .ok within
  | cons token rest ih =>
      intro within
      unfold skipLine
      refine (Token.reads_check rest).bind fun _ _ => ?_
      split
      · exact .ok within.rest
      · exact ih within.rest

/-- Setting flags of letters that stand in the text. -/
theorem mem_of_set (added : List Char) (flags : Flags)
    (known : ∀ letter ∈ added, letter ∈ chars) (ascii : flags.ascii = true → 'a' ∈ chars)
    (unicode : flags.unicode = true → 'u' ∈ chars) :
    ((added.foldl (·.set true ·) flags).ascii = true → 'a' ∈ chars) ∧
      ((added.foldl (·.set true ·) flags).unicode = true → 'u' ∈ chars) := by
  induction added generalizing flags with
  | nil => exact ⟨ascii, unicode⟩
  | cons letter rest ih =>
      rw [List.forall_mem_cons] at known
      refine ih (flags.set true letter) known.2 ?_ ?_
      · unfold Flags.set
        split
        all_goals first | exact ascii | exact fun _ => known.1
      · unfold Flags.set
        split
        all_goals first | exact unicode | exact fun _ => known.1

variable (within : reader.Within chars)
include within

/-- The reader may stand anywhere in the text. -/
theorem Within.withTokens (behind : Token.Within chars tokens) :
    (reader.withTokens tokens).Within chars :=
  ⟨behind, within.ascii, within.unicode⟩

theorem Within.push (pattern : Pattern) (shape : Shape) :
    (reader.push pattern shape).Within chars :=
  ⟨within.tokens, within.ascii, within.unicode⟩

theorem Within.pushFrame (opening : Opening) (inner : Level) :
    (reader.pushFrame opening inner).Within chars :=
  ⟨within.tokens, within.ascii, within.unicode⟩

theorem reads_pushReference (index : Nat) :
    Reads engine chars (Within chars) (reader.pushReference index) := by
  unfold pushReference
  refine .guarded fun _ => ?_
  exact (reads_checkLookbehind index).bind fun _ _ => .ok (within.push _ _)

theorem reads_readDigitEscape (char : Char) :
    Reads engine chars (Within chars) (reader.readDigitEscape char) := by
  unfold readDigitEscape
  split
  · refine (Token.reads_takeWhile_within isOctal 2 within.tokens).bind ?_
    rintro ⟨digits, rest⟩ ⟨-, -, behind⟩
    exact .ok ((within.withTokens behind).push _ _)
  · refine (Token.reads_takeWhile_within Char.isDigit 1 within.tokens).bind ?_
    rintro ⟨second, rest⟩ ⟨-, -, behind⟩
    dsimp only
    split
    · refine (Token.reads_takeWhile_within isOctal 1 behind).bind ?_
      rintro ⟨third, afterThird⟩ ⟨-, -, behindThird⟩
      dsimp only
      split
      · refine .guarded fun _ => .ok ?_
        exact (within.withTokens behindThird).push _ _
      · exact reads_pushReference (within.withTokens behind) _
    · exact reads_pushReference (within.withTokens behind) _

theorem reads_readEscape (char : Char) :
    Reads engine chars (Within chars) (reader.readEscape engine char) := by
  unfold readEscape
  split
  · exact .ok (within.push _ _)
  · exact .ok (within.push _ _)
  · exact .ok (within.push _ _)
  · split
    · exact reads_readDigitEscape within char
    · refine (reads_readPoint char within.tokens).bind ?_
      rintro ⟨point, rest⟩ behind
      exact .ok ((within.withTokens behind).push _ _)

theorem reads_repeatLast (least : Nat) (most : Option Nat) (behind : Token.Within chars tokens) :
    Reads engine chars (Within chars) (reader.repeatLast least most tokens) := by
  unfold repeatLast
  split
  · exact .malformed
  · refine .guarded fun _ => (Token.reads_dropIf '?' behind).bind fun lazy? dropped => ?_
    cases lazy? with
    | some rest => exact .ok ⟨dropped rest rfl, within.ascii, within.unicode⟩
    | none =>
        refine (Token.reads_dropIf '+' behind).bind fun possessive? dropped => ?_
        cases possessive? with
        | some rest => exact .ok ⟨dropped rest rfl, within.ascii, within.unicode⟩
        | none => exact .ok ⟨behind, within.ascii, within.unicode⟩

theorem reads_readRepetition (mark : Char) :
    Reads engine chars (Within chars) (reader.readRepetition mark) := by
  unfold readRepetition
  split
  · exact reads_repeatLast within _ _ within.tokens
  · exact reads_repeatLast within _ _ within.tokens
  · exact reads_repeatLast within _ _ within.tokens
  · refine (reads_readCounts? within.tokens).bind fun counts? behind => ?_
    split
    · exact reads_repeatLast within _ _ (behind _ _ _ rfl)
    · exact .ok (within.push _ _)

theorem reads_openCapture (name? : Option String) :
    Reads engine chars (Within chars) (reader.openCapture name?) := by
  unfold openCapture
  cases name? with
  | none => exact .ok ⟨within.tokens, within.ascii, within.unicode⟩
  | some name =>
      dsimp only
      split
      · exact .malformed
      · exact .ok ⟨within.tokens, within.ascii, within.unicode⟩

theorem Within.openLook (isAhead negated : Bool) : (reader.openLook isAhead negated).Within chars := by
  unfold Reader.openLook
  dsimp only
  split
  · exact ⟨within.tokens, within.ascii, within.unicode⟩
  · exact within.pushFrame _ _

theorem reads_openCondition : Reads engine chars (Within chars) reader.openCondition := by
  unfold openCondition
  refine (Token.reads_takeName ')' within.tokens).bind ?_
  rintro ⟨name, rest⟩ behind
  refine (reads_conditionIndex name).bind fun index _ => (reads_checkLookbehind index).bind fun _ _ => ?_
  exact .ok ⟨behind, within.ascii, within.unicode⟩

theorem reads_readNamed : Reads engine chars (Within chars) reader.readNamed := by
  unfold readNamed
  refine (Token.reads_dropIf '<' within.tokens).bind fun rest? dropped => ?_
  split
  · refine (Token.reads_takeName '>' (dropped _ rfl)).bind ?_
    rintro ⟨name, rest⟩ behind
    refine .guarded fun _ => ?_
    exact reads_openCapture (within.withTokens behind) _
  · refine (Token.reads_dropIf '=' within.tokens).bind fun rest? dropped => ?_
    split
    · refine (Token.reads_takeName ')' (dropped _ rfl)).bind ?_
      rintro ⟨name, rest⟩ behind
      dsimp only
      split
      · exact reads_pushReference (within.withTokens behind) _
      · exact .malformed
    · exact .malformed

theorem reads_readFlagGroup {first : Char} (known : first ∈ chars) :
    Reads engine chars (Within chars) (reader.readFlagGroup first) := by
  unfold readFlagGroup
  refine (reads_readFlags known within.tokens).bind ?_
  rintro ⟨group, rest⟩ ⟨letters, behind⟩
  dsimp only
  obtain added | ⟨added, removed⟩ := group
  · obtain ⟨ascii, unicode⟩ := mem_of_set added reader.flags letters within.ascii within.unicode
    exact .guarded fun _ => .ok ⟨behind, ascii, unicode⟩
  · exact .ok ((within.withTokens behind).pushFrame _ _)

theorem reads_readExtension (token : Token) (known : ∀ char, token = .plain char → char ∈ chars) :
    Reads engine chars (Within chars) (reader.readExtension token) := by
  unfold readExtension
  split
  · exact reads_readNamed within
  · exact .ok (within.pushFrame _ _)
  · exact (reads_skipComment _ within.tokens).bind fun rest behind =>
      .ok ⟨behind, within.ascii, within.unicode⟩
  · exact .ok (within.openLook _ _)
  · exact .ok (within.openLook _ _)
  · exact .ok (within.pushFrame _ _)
  · exact reads_openCondition within
  · have dropped := within.withTokens within.tokens.tail
    refine (Token.reads_check reader.tokens.tail).bind fun _ _ => ?_
    dsimp only
    split
    · exact .ok (dropped.openLook _ _)
    · exact .ok (dropped.openLook _ _)
    · exact .malformed
  · split
    · exact reads_readFlagGroup within (known _ rfl)
    · exact .malformed
  · exact .malformed

theorem reads_readOpening : Reads engine chars (Within chars) reader.readOpening := by
  unfold readOpening
  refine (Token.reads_dropIf '?' within.tokens).bind fun rest? dropped => ?_
  split
  · exact reads_openCapture within none
  · exact .malformed
  · rename_i token rest
    have behind := dropped _ rfl
    refine (Token.reads_check rest).bind fun _ _ => ?_
    refine reads_readExtension (within.withTokens behind.rest) token ?_
    rintro char rfl
    exact behind.head

theorem Within.close (frame : Frame) (frames : List Frame) :
    (reader.close frame frames).Within chars := by
  unfold Reader.close
  dsimp only
  split
  all_goals exact ⟨within.tokens, within.ascii, within.unicode⟩

theorem reads_nextAlternative : Reads engine chars (Within chars) reader.nextAlternative := by
  unfold nextAlternative
  dsimp only
  split
  · exact .ok ⟨within.tokens, within.ascii, within.unicode⟩
  · exact .malformed
  · exact .ok ⟨within.tokens, within.ascii, within.unicode⟩

theorem reads_step (token : Token) :
    Reads engine chars (Within chars) (reader.step engine token) := by
  unfold step
  split
  · exact .malformed
  · exact reads_readEscape within _
  · split
    · exact .ok within
    · split
      · exact (reads_skipLine _ within.tokens).bind fun rest behind =>
          .ok ⟨behind, within.ascii, within.unicode⟩
      · split
        · refine (Token.reads_dropIf '^' within.tokens).bind fun negated? dropped => ?_
          have behind : Token.Within chars (negated?.getD reader.tokens) := by
            cases negated? with
            | none => exact within.tokens
            | some rest => exact dropped rest rfl
          refine (reads_readMembers _ [] _ behind).bind ?_
          rintro ⟨members, rest⟩ behind
          exact .ok ((within.withTokens behind).push _ _)
        · exact .ok (within.push _ _)
        · exact .ok (within.push _ _)
        · exact .ok (within.push _ _)
        · exact reads_readOpening within
        · exact reads_nextAlternative within
        · exact reads_readRepetition within _
        · exact reads_readRepetition within _
        · exact reads_readRepetition within _
        · exact reads_readRepetition within _
        · exact .ok (within.push _ _)

omit within in
/-- Reading on, token by token. -/
theorem reads_runAll (bound : Nat) : ∀ reader : Reader, reader.Within chars →
    Reads engine chars (Within chars) (runAll engine bound reader) := by
  induction bound with
  | zero => exact fun reader within => .ok within
  | succ bound ih =>
      intro reader within
      unfold runAll
      split
      · exact .ok within
      · rename_i rest frame frames same _
        have behind := (same ▸ within.tokens).rest
        refine (Token.reads_check rest).bind fun _ _ => ?_
        exact ih _ ((within.withTokens behind).close frame frames)
      · exact .ok within
      · rename_i token rest same _ _
        have behind := (same ▸ within.tokens).rest
        refine (Token.reads_check rest).bind fun _ _ => ?_
        exact (reads_step (within.withTokens behind) token).bind ih

end Reader

/-- **A text that is no pattern fails for a cause that stands in it.** -/
theorem fails_read {text : String} {cause : PatternFault}
    (failed : read engine text = .error cause) :
    Fails engine text.toList cause := by
  have start : Reader.Within text.toList { tokens := Token.ofChars text.toList } := by
    refine ⟨?_, nofun, nofun⟩
    exact ⟨[], [], by simp only [List.nil_append, List.append_nil, Token.text_ofChars]⟩
  have reads : Reads engine text.toList (fun _ => True) (read engine text) := by
    unfold read
    split
    · rename_i exhausted
      refine Fails.tooDeep (Nat.lt_of_not_le fun few => ?_)
      rw [engine.fits text few] at exhausted
      cases exhausted
    refine (Token.reads_check _).bind fun _ _ =>
      (Reader.reads_runAll _ _ start).bind fun reader within => .guarded fun _ => ?_
    dsimp only
    split
    · rename_i both
      rw [Bool.and_eq_true] at both
      exact Fails.exclusive (within.ascii both.1) (within.unicode both.2)
    · exact .guarded fun _ => .guarded fun _ => .guarded fun _ => .ok trivial
  rw [failed] at reads
  exact reads

end LineEditor.Pattern
