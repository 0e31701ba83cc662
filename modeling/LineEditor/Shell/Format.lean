/-!
# Escapes and formats

The two commands that write their arguments.  `escapedChars` expands the
backslash escapes of a text, as `echo` does with all its arguments, and
`formatted` fills a format with arguments, as `printf` does; the format is used
again as long as there are arguments left.

Output is a list of bytes, since an escape may write any byte.
-/

set_option autoImplicit false

namespace LineEditor.Shell

/-- The bytes of characters. -/
def bytesOf (chars : List Char) : List UInt8 :=
  (String.ofList chars).toUTF8.data.toList

/-- Whether a character is an octal digit. -/
def isOctalDigit (char : Char) : Bool :=
  '0' ≤ char && char ≤ '7'

/-- The byte that octal digits write. -/
def octalByte (digits : List Char) : UInt8 :=
  UInt8.ofNat (digits.foldl (fun value digit => 8 * value + (digit.toNat - 48)) 0)

/-- The first octal digits of a text, three at most. -/
def octalDigits (chars : List Char) : List Char :=
  (chars.take 3).takeWhile isOctalDigit

/-- The byte that a letter stands for behind a backslash. -/
def letterByte? : Char → Option UInt8
  | 'a' => some 7
  | 'b' => some 8
  | 'f' => some 12
  | 'n' => some 10
  | 'r' => some 13
  | 't' => some 9
  | 'v' => some 11
  | '\\' => some 92
  | _ => none

/-- The bytes of a text with escapes, and whether the escape that ends all output was met.  With
`zeroLeads` an octal escape may have a zero in front of its three digits.  The bound is the number
of characters. -/
def escapedChars (zeroLeads : Bool) : Nat → List Char → List UInt8 × Bool
  | 0, _ => ([], false)
  | _ + 1, [] => ([], false)
  | bound + 1, '\\' :: char :: rest =>
    let more (bytes : List UInt8) (after : List Char) :=
      let (others, stopped) := escapedChars zeroLeads bound after
      (bytes ++ others, stopped)
    if zeroLeads && char == 'c' then ([], true)
    else if zeroLeads && char == '0' then
      let digits := octalDigits rest
      more [octalByte digits] (rest.drop digits.length)
    else if isOctalDigit char then
      let digits := octalDigits (char :: rest)
      more [octalByte digits] ((char :: rest).drop digits.length)
    else match letterByte? char with
      | some byte => more [byte] rest
      | none => more (bytesOf ['\\']) (char :: rest)
  | bound + 1, char :: rest =>
    let (others, stopped) := escapedChars zeroLeads bound rest
    (bytesOf [char] ++ others, stopped)

/-- The output of `echo` for its arguments. -/
def echoed (arguments : List String) : List UInt8 :=
  let (quiet, texts) := match arguments with
    | "-n" :: rest => (true, rest)
    | _ => (false, arguments)
  let line := " ".intercalate texts
  let (bytes, stopped) := escapedChars true (line.length + 1) line.toList
  if quiet || stopped then bytes else bytes ++ [10]

/-! ## Formats -/

/-- A conversion: whether to fill on the right, with what, the width, the precision, and the
letter. -/
structure Conversion where
  left : Bool
  zero : Bool
  plus : Bool
  width : Nat
  precision? : Option Nat
  letter : Char

/-- Fills bytes up to a width. -/
def Conversion.pad (conversion : Conversion) (bytes : List UInt8) : List UInt8 :=
  let gap := conversion.width - bytes.length
  if conversion.left then bytes ++ List.replicate gap 32 else List.replicate gap 32 ++ bytes

/-- The value of a hexadecimal digit, whatever its case. -/
def hexDigit? (char : Char) : Option Nat :=
  if char.isDigit then some (char.toNat - 48)
  else if 'a' ≤ char && char ≤ 'f' then some (char.toNat - 87)
  else if 'A' ≤ char && char ≤ 'F' then some (char.toNat - 55)
  else none

/-- The number that the digits at the start of a list write in a base, and what follows them. -/
def takeNumber (base : Nat) (chars : List Char) : Nat × List Char :=
  let isDigit (char : Char) := (hexDigit? char).any (· < base)
  ((chars.takeWhile isDigit).foldl (fun value char => value * base + (hexDigit? char).getD 0) 0,
    chars.dropWhile isDigit)

/-- The number at the start of a list without a sign, and what follows it: a leading zero makes it
octal, and a following `x` hexadecimal.  There may be none. -/
def takeUnsigned (chars : List Char) : Option (Nat × List Char) :=
  match chars with
  | '0' :: x :: digit :: rest =>
    if (x == 'x' || x == 'X') && (hexDigit? digit).isSome then some (takeNumber 16 (digit :: rest))
    else some (takeNumber 8 chars)
  | '0' :: _ => some (takeNumber 8 chars)
  | char :: _ => if char.isDigit then some (takeNumber 10 chars) else none
  | [] => none

/-- Whether a character may precede a number. -/
def isNumberSpace (char : Char) : Bool :=
  char == ' ' || (9 ≤ char.toNat && char.toNat ≤ 13)

/-- The whole number that an argument writes, and what there is to complain about it. -/
def numberOf (argument : String) : Int × Option String :=
  match argument.toList with
  | [] => (0, none)
  | '\'' :: char :: _ | '"' :: char :: _ => (char.toNat, none)
  | chars =>
    let (negative, digits) := match chars.dropWhile isNumberSpace with
      | '-' :: rest => (true, rest)
      | '+' :: rest => (false, rest)
      | rest => (false, rest)
    match takeUnsigned digits with
    | none => (0, some "expected numeric value")
    | some (value, rest) =>
      (if negative then -(value : Int) else value,
        if rest.isEmpty then none else some "not completely converted")

/-- The bytes of a number in a base, with sign and zeros. -/
def Conversion.number (conversion : Conversion) (base : Nat) (upper : Bool) (value : Int) :
    List UInt8 :=
  let value := if conversion.letter == 'd' || conversion.letter == 'i' then value
    else if value < 0 then value + 18446744073709551616 else value
  let digits := Nat.toDigits base value.natAbs
  let digits := if upper then digits.map Char.toUpper else digits
  let digits := List.replicate (conversion.precision?.getD 0 - digits.length) '0' ++ digits
  let sign := if value < 0 then ['-'] else if conversion.plus then ['+'] else []
  let zeros :=
    if conversion.zero && !conversion.left && conversion.precision?.isNone then
      List.replicate (conversion.width - digits.length - sign.length) '0'
    else []
  conversion.pad (bytesOf (sign ++ zeros ++ digits))

/-- What a run through a format has produced: the bytes, the arguments left, whether all output is
to end, and the complaints. -/
structure Formatted where
  bytes : List UInt8 := []
  arguments : List String := []
  stopped : Bool := false
  complaints : List String := []

/-- The output of one conversion. -/
def Conversion.apply (conversion : Conversion) (state : Formatted) : Formatted :=
  let argument := state.arguments.headD ""
  let rest := state.arguments.tail
  let cut (bytes : List UInt8) := match conversion.precision? with
    | some limit => bytes.take limit
    | none => bytes
  let numeric (base : Nat) (upper : Bool) :=
    let (value, complaint?) := numberOf argument
    { state with
      bytes := state.bytes ++ conversion.number base upper value
      arguments := rest
      complaints := state.complaints ++ complaint?.toList.map (argument ++ ": " ++ ·) }
  match conversion.letter with
  | 's' => { state with
      bytes := state.bytes ++ conversion.pad (cut (bytesOf argument.toList)), arguments := rest }
  | 'c' => { state with
      bytes := state.bytes ++ conversion.pad ((bytesOf argument.toList ++ [0]).take 1)
      arguments := rest }
  | 'b' =>
    let (bytes, stopped) := escapedChars true (argument.length + 1) argument.toList
    { state with bytes := state.bytes ++ conversion.pad (cut bytes), arguments := rest, stopped }
  | 'd' | 'i' | 'u' => numeric 10 false
  | 'o' => numeric 8 false
  | 'x' => numeric 16 false
  | 'X' => numeric 16 true
  | letter => { state with
      stopped := true
      complaints := state.complaints ++ ["%" ++ letter.toString ++ ": invalid directive"] }

/-- Reads a conversion behind its percent sign. -/
def readConversion (chars : List Char) : Option (Conversion × List Char) :=
  let isFlag (char : Char) := "-+ #0".toList.contains char
  let flags := chars.takeWhile isFlag
  let rest := chars.dropWhile isFlag
  let width := rest.takeWhile Char.isDigit
  let rest := rest.dropWhile Char.isDigit
  let (precision?, rest) := match rest with
    | '.' :: tail =>
      (some ((String.ofList (tail.takeWhile Char.isDigit)).toNat?.getD 0),
        tail.dropWhile Char.isDigit)
    | _ => (none, rest)
  match rest with
  | [] => none
  | letter :: after =>
    some ({ left := flags.contains '-', zero := flags.contains '0', plus := flags.contains '+'
            width := (String.ofList width).toNat?.getD 0, precision?, letter }, after)

/-- Goes through a format once. -/
def formatOnce : Nat → List Char → Formatted → Formatted
  | 0, _, state => state
  | _ + 1, [], state => state
  | bound + 1, char :: rest, state =>
    if state.stopped then state
    else if char == '%' then
      match rest with
      | '%' :: after => formatOnce bound after { state with bytes := state.bytes ++ [37] }
      | _ =>
        match readConversion rest with
        | some (conversion, after) => formatOnce bound after (conversion.apply state)
        | none =>
          { state with
            stopped := true
            complaints := state.complaints ++ ["missing format character"] }
    else if char == '\\' then
      match rest with
      | [] => { state with bytes := state.bytes ++ [92] }
      | next :: after =>
        if isOctalDigit next then
          let digits := octalDigits rest
          formatOnce bound (rest.drop digits.length)
            { state with bytes := state.bytes ++ [octalByte digits] }
        else match letterByte? next with
          | some byte => formatOnce bound after { state with bytes := state.bytes ++ [byte] }
          | none => formatOnce bound rest { state with bytes := state.bytes ++ [92] }
    else formatOnce bound rest { state with bytes := state.bytes ++ bytesOf [char] }

/-- Uses a format again as long as arguments are left and it takes some. -/
def formatAll (format : List Char) : Nat → Formatted → Formatted
  | 0, state => state
  | bound + 1, state =>
    let next := formatOnce (format.length + 1) format state
    let tookNone := next.arguments.length == state.arguments.length
    if next.stopped || next.arguments.isEmpty || tookNone then
      next
    else formatAll format bound next

/-- The output of `printf` for a format and arguments. -/
def formatted (format : String) (arguments : List String) : Formatted :=
  formatAll format.toList (arguments.length + 1) { arguments }

end LineEditor.Shell
