import LineEditor.Proofs.Address.Resolving

/-!
# What searches leave to be remembered

A search is written with a pattern or without one, and without one it means the
pattern that is remembered (`Address.meant?`).  The pattern that it means is the
one that is remembered after it (`Address.recalled`, `Address.resolve_recalled`).

A token is *evaluated* with a remembered pattern if its search, should it be
one, finds a line by the pattern that it means (`Address.Evaluated`).  Several
tokens on a line are evaluated one after the other, each with what the one
before it leaves to be remembered (`Address.AllEvaluated`).
-/

set_option autoImplicit false

namespace LineEditor.Address

/-- The direction of the search that a token starts with, and what is written for its pattern. -/
def searched? (token : String) : Option (Bool × List Char) :=
  match Base.ofChars (splitChars token.toList).1 with
  | .search isForward body => some (isForward, body)
  | _ => none

/-- The pattern that is meant by what is written for it: where nothing is written, it is the one
that is remembered. -/
def meant? (remembered? : Option String) (written : List Char) : Option String :=
  if written = [] then remembered? else some (String.ofList written)

/-- What is remembered after a token: the pattern of its search, if it is one. -/
def recalled (remembered? : Option String) (token : String) : Option String :=
  match searched? token with
  | some (_, body) => meant? remembered? body
  | none => remembered?

/-- A token that is a search finds a line in the buffer by the pattern that it means. -/
def Evaluated (engine : Pattern.Engine) (buffer : Buffer) (remembered? : Option String)
    (token : String) : Prop :=
  ∀ isForward body, searched? token = some (isForward, body) →
    ∃ line, Finds engine buffer remembered? isForward body line

/-- Tokens are evaluated one after the other. -/
def AllEvaluated (engine : Pattern.Engine) (buffer : Buffer) : Option String → List String → Prop
  | _, [] => True
  | remembered?, token :: rest =>
    Evaluated engine buffer remembered? token ∧
      AllEvaluated engine buffer (recalled remembered? token) rest

variable {engine : Pattern.Engine} {buffer : Buffer} {marks : Marks} {remembered? : Option String}
  {token : String}

theorem asks_iff {body : List Char} {text : String} :
    Asks remembered? body text ↔ meant? remembered? body = some text := by
  rw [Asks, meant?]
  split
  · exact Iff.rfl
  · simp [eq_comm]

theorem evaluated_empty : Evaluated engine buffer remembered? "" := by
  intro isForward body impossible
  cases impossible

/-- A search gives the pattern that it means. -/
theorem searchLine_meant {isForward : Bool} {body : List Char} {line : Int} {text : String}
    (found : searchLine engine buffer remembered? isForward body = .ok (line, text)) :
    meant? remembered? body = some text := by
  rw [searchLine_eq] at found
  cases asked : effectivePattern remembered? body with
  | error fault =>
      rw [asked] at found
      cases found
  | ok other =>
      rw [← asks_iff, ← effectivePattern_eq_ok]
      rw [asked] at found ⊢
      cases read : readPattern engine other with
      | error fault =>
          simp only [bind, Except.bind, read] at found
          cases found
      | ok compiled =>
          obtain ⟨found?, nearest⟩ := nearestMatch_ok buffer isForward compiled.pattern
          simp only [bind, Except.bind, read, nearest] at found
          cases found? with
          | none => cases found
          | some other =>
              cases found
              rfl

/-- A base that is no search leaves what is remembered as it is. -/
theorem kept_of_map {outcome : Except Fault Int} {line : Int} {after? : Option String}
    (mapped : outcome.map (·, remembered?) = .ok (line, after?)) : after? = remembered? := by
  cases outcome with
  | error fault => cases mapped
  | ok value =>
      cases mapped
      rfl

/-- **A token that is resolved has been evaluated**, and what is remembered after it is the pattern
of its search, if it is one. -/
theorem resolve_recalled {value : Int}
    (resolved : (resolve engine buffer marks remembered? token).1 = .ok value) :
    (resolve engine buffer marks remembered? token).2 = recalled remembered? token ∧
      Evaluated engine buffer remembered? token := by
  rw [Evaluated, recalled, searched?]
  revert resolved
  rw [resolve]
  dsimp only
  generalize (splitChars token.toList).2 = offsets
  generalize Base.ofChars (splitChars token.toList).1 = base
  intro resolved
  cases based : resolveBase engine buffer marks remembered? base with
  | error fault =>
      rw [based] at resolved
      cases resolved
  | ok found =>
      obtain ⟨line, after?⟩ := found
      dsimp only
      cases base with
      | search isForward body =>
          cases searched : searchLine engine buffer remembered? isForward body with
          | error fault =>
              rw [resolveBase, searched] at based
              cases based
          | ok sought =>
              obtain ⟨line, text⟩ := sought
              rw [resolveBase, searched] at based
              cases based
              refine ⟨(searchLine_meant searched).symm, ?_⟩
              rintro _ _ ⟨⟩
              exact ⟨line, searchLine_eq_ok.mp ⟨text, searched⟩⟩
      | current | last =>
          cases based
          exact ⟨rfl, fun _ _ impossible => by cases impossible⟩
      | number digits =>
          exact ⟨kept_of_map based, fun _ _ impossible => by cases impossible⟩
      | mark name =>
          exact ⟨kept_of_map based, fun _ _ impossible => by cases impossible⟩

/-- What is found depends on the document and the current line. -/
theorem Evaluated.congr {other : Buffer} (document : other.document = buffer.document)
    (current : other.current = buffer.current)
    (evaluated : Evaluated engine buffer remembered? token) :
    Evaluated engine other remembered? token := by
  have accepted : ∀ accept number,
      other.Accepted accept number ↔ buffer.Accepted accept number := by
    intro accept number
    rw [Buffer.Accepted, Buffer.Accepted, document]
  intro isForward body searched
  obtain ⟨line, text, compiled, asks, read, found⟩ := evaluated isForward body searched
  refine ⟨line, text, compiled, asks, read, ?_⟩
  rw [current]
  cases isForward with
  | true =>
      obtain ⟨behind, isAccepted, nearest⟩ := found
      exact ⟨behind, (accepted _ _).mpr isAccepted, fun number after before =>
        (accepted _ _).not.mpr (nearest number after before)⟩
  | false =>
      obtain ⟨before, isAccepted, nearest⟩ := found
      exact ⟨before, (accepted _ _).mpr isAccepted, fun number after before =>
        (accepted _ _).not.mpr (nearest number after before)⟩

theorem allEvaluated_append (front back : List String) :
    AllEvaluated engine buffer remembered? (front ++ back) ↔
      AllEvaluated engine buffer remembered? front ∧
        AllEvaluated engine buffer (front.foldl recalled remembered?) back := by
  induction front generalizing remembered? with
  | nil => simp [AllEvaluated]
  | cons token rest ih => simp only [List.cons_append, AllEvaluated, ih, List.foldl_cons, and_assoc]

end LineEditor.Address
