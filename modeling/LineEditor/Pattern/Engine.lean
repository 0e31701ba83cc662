import LineEditor.Pattern.Token

/-!
# What reading a pattern depends on

Two things decide about a pattern without standing in its text.  One is the
table of characters by name, to which a name between braces refers.  The other
is how far nested groups can be followed: a reader that goes down into them
gives up where its stack ends.  All that is certain is a number of parentheses
up to which it does not give up (`Engine.fits`).
-/

set_option autoImplicit false

namespace LineEditor.Pattern

/-- The greatest number of parentheses that are open at once outside of classes, some being open
already. -/
def nesting (inClass : Bool) (opened : Nat) : List Token → Nat
  | [] => opened
  | .plain char :: rest =>
    if inClass then nesting (char != ']') opened rest
    else if char = '(' then nesting false (opened + 1) rest
    else if char = ')' then max opened (nesting false (opened - 1) rest)
    else nesting (char == '[') opened rest
  | _ :: rest => nesting inClass opened rest

/-- There are at most as many open parentheses as there are in the text. -/
theorem nesting_le (inClass : Bool) (opened : Nat) (chars : List Char) :
    nesting inClass opened (Token.ofChars chars) ≤ opened + chars.count '(' := by
  fun_induction Token.ofChars chars generalizing inClass opened with
  | case1 => simp [nesting]
  | case2 => simp [nesting]
  | case3 char rest ih =>
      have below := ih inClass opened
      rw [nesting, List.count_cons, List.count_cons]
      · omega
      · exact fun _ => Token.noConfusion
  | case4 char rest _ _ ih =>
      rw [nesting, List.count_cons]
      split
      · have below := ih (char != ']') opened
        omega
      · split
        · rename_i isOpening
          have below := ih false (opened + 1)
          simp only [isOpening, beq_self_eq_true, if_true]
          omega
        · split
          · have below := ih false (opened - 1)
            omega
          · have below := ih (char == '[') opened
            omega

/-- What reads patterns: the characters by name, the patterns on which the reader gives up, and a
number of parentheses up to which it does not. -/
structure Engine where
  charNamed? : String → Option Char
  exhausts : String → Bool
  depth : Nat
  fits : ∀ text : String, text.toList.count '(' ≤ depth → exhausts text = false

namespace Engine

/-- Some characters by name: the letters of the alphabet and the signs that a pattern often
needs. -/
def commonName? (name : String) : Option Char :=
  let upper := name.toUpper
  let letterAfter? (start : String) : Option Char :=
    match (upper.toList.drop start.length) with
    | [letter] => if upper.startsWith start && letter.isUpper then some letter else none
    | _ => none
  match letterAfter? "LATIN CAPITAL LETTER ", letterAfter? "LATIN SMALL LETTER " with
  | some letter, _ => some letter
  | none, some letter => some letter.toLower
  | none, none =>
    [("SPACE", ' '), ("FULL STOP", '.'), ("COMMA", ','), ("ASTERISK", '*'), ("HYPHEN-MINUS", '-'),
      ("NO-BREAK SPACE", '\u00a0'), ("EN DASH", '\u2013'), ("EM DASH", '\u2014'),
      ("EURO SIGN", '\u20ac')].lookup upper

/-- An engine that knows some names and gives up where more than 480 groups are nested. -/
def usual : Engine where
  charNamed? := commonName?
  exhausts text := 480 < nesting false 0 (Token.ofChars text.toList)
  depth := 480
  fits text few := by
    have below := nesting_le false 0 text.toList
    simp only [decide_eq_false_iff_not]
    omega

end Engine

end LineEditor.Pattern
