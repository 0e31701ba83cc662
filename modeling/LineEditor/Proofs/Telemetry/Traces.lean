import LineEditor.Telemetry.Journal
import Mathlib.Data.List.Nodup

/-!
# Traces of the log

The calls of a stretch of work on the log form a trace (`Trace`): single calls
one after the other, and spans, each with the calls inside of it and with the
fault that passed through it, if there was one.

A recorder replays calls one by one (`Recorder.replay`).  It keeps the tracks and
the profiles that are open and the context of the loggers, and it is strict: only
what was opened last can be closed, and a key of the context can neither be added
twice nor be removed without having been added.  If no key is used twice, then
the calls of a trace can be replayed, and at every moment inside of spans the
recorder keeps just what belongs to these spans (`Trace.Moment.replay`); in the
end it is where it was (`Trace.replay_calls`).

Each key is added once and removed once, in this order (`Trace.context_calls`).
The errors that are logged are the failures of the spans that an unforeseen fault
passes through, from the inside to the outside (`Trace.errors_calls`).
-/

set_option autoImplicit false

namespace LineEditor.Telemetry

namespace Call

/-- A call that is no part of a span: a logger is made, or a message is logged that is no error. -/
def IsPlain : Call → Prop
  | .logger _ => True
  | .message _ level _ _ => level ≠ .error
  | _ => False

/-- A call that logs a message. -/
def isMessage : Call → Bool
  | .message _ _ _ _ => true
  | _ => false

/-- A call that logs an error. -/
def isError : Call → Bool
  | .message _ .error _ _ => true
  | _ => false

/-- A call that adds a key to the context of a logger, or removes it. -/
def concerns (logger key : String) : Call → Bool
  | .addContext other added _ => other == logger && added == key
  | .removeContext other removed => other == logger && removed == key
  | _ => false

theorem isMessage_of_isError {call : Call} (error : call.isError = true) :
    call.isMessage = true := by
  cases call with
  | message _ _ _ _ => rfl
  | _ => cases error

theorem IsPlain.not_error {call : Call} (plain : call.IsPlain) : call.isError = false := by
  cases call with
  | message logger level text fields? =>
      cases level with
      | error => exact absurd rfl plain
      | _ => rfl
  | _ => rfl

theorem IsPlain.not_concerns {call : Call} (plain : call.IsPlain) (logger key : String) :
    call.concerns logger key = false := by
  cases call with
  | addContext _ _ _ => cases plain
  | removeContext _ _ => cases plain
  | _ => rfl

end Call

/-- What a message says does not depend on how its logger takes fields, as far as it begins. -/
theorem Logger.log_eq (logger : Logger) (level : Level) (text : String) (fields : Fields) :
    ∃ rest fields?, logger.log level text fields = .message logger.name level (text ++ rest) fields? := by
  rw [Logger.log]
  cases logger.style with
  | full => exact ⟨"", some fields, by simp⟩
  | plain =>
      by_cases empty : fields.isEmpty
      · exact ⟨"", none, by simp [empty]⟩
      · exact ⟨" | " ++ Fields.inline fields, none, by simp [empty, String.append_assoc]⟩

namespace Span

/-- The failure of a span is a message. -/
theorem failure_eq (span : Span) (metadata : Fields) (reason : String) :
    ∃ rest fields?, span.failure metadata reason =
      .message span.logger.name .error ("span::fail" ++ rest) fields? := by
  rw [failure]
  exact span.logger.log_eq .error "span::fail" _

/-- The calls at the two ends of a span are no messages. -/
theorem not_message (span : Span) :
    (∀ call ∈ span.opening, call.isMessage = false) ∧
      ∀ call ∈ span.closing, call.isMessage = false := by
  simp only [opening, closing, List.forall_mem_append, List.forall_mem_map, List.forall_mem_cons,
    Call.isMessage, and_true, implies_true, List.not_mem_nil, false_imp_iff]

end Span

/-- The calls of a stretch of work: single calls that are no part of a span, and spans, each with
the calls inside of it and the fault that passes through it, if there is one. -/
inductive Trace where
  | done
  | single (call : Call) (plain : call.IsPlain) (rest : Trace)
  | within (span : Span) (inside : Trace) (fault? : Option Fault) (rest : Trace)

/-! ## Recorders -/

/-- A track or a profile that has been begun. -/
inductive Bracket where
  | track (logger name : String)
  | profile (logger name : String)
  deriving DecidableEq

/-- What is open, and what the context of the loggers holds, the latest first. -/
structure Recorder where
  brackets : List Bracket := []
  context : List ((String × String) × String) := []

namespace Recorder

/-- The keys of the context, each with its logger. -/
def keys (recorder : Recorder) : List (String × String) :=
  recorder.context.map (·.1)

/-- Closes what was opened last. -/
def close (recorder : Recorder) (bracket : Bracket) : Option Recorder :=
  match recorder.brackets with
  | [] => none
  | last :: rest => if last = bracket then some { recorder with brackets := rest } else none

/-- Records a call, unless it closes what was not opened last, adds a key again or removes one that
is not there. -/
def record (recorder : Recorder) : Call → Option Recorder
  | .track logger name => some { recorder with brackets := .track logger name :: recorder.brackets }
  | .profile logger name =>
    some { recorder with brackets := .profile logger name :: recorder.brackets }
  | .endTrack logger name => recorder.close (.track logger name)
  | .endProfile logger name => recorder.close (.profile logger name)
  | .addContext logger key value =>
    if (logger, key) ∈ recorder.keys then none
    else some { recorder with context := ((logger, key), value) :: recorder.context }
  | .removeContext logger key =>
    if (logger, key) ∈ recorder.keys then
      some { recorder with context := recorder.context.eraseP (·.1 == (logger, key)) }
    else none
  | _ => some recorder

/-- Records calls one after the other. -/
def replay (recorder : Recorder) (calls : List Call) : Option Recorder :=
  calls.foldlM record recorder

end Recorder

namespace Span

/-- What a span opens, the latest first. -/
def brackets (span : Span) : List Bracket :=
  .profile span.logger.name span.name :: span.component?.toList.map (.track span.logger.name)

/-- What a span adds to the context, the latest first. -/
def context (span : Span) : List ((String × String) × String) :=
  (span.metadata.map fun (key, value) => ((span.logger.name, key), value)).reverse

/-- The keys that a span adds to the context, each with its logger. -/
def keys (span : Span) : List (String × String) :=
  span.metadata.map fun (key, _) => (span.logger.name, key)

end Span

/-- The recorder inside of a span. -/
def Recorder.enter (recorder : Recorder) (span : Span) : Recorder where
  brackets := span.brackets ++ recorder.brackets
  context := span.context ++ recorder.context

namespace Trace

/-- One trace after another. -/
def append : Trace → Trace → Trace
  | .done, behind => behind
  | .single call plain rest, behind => .single call plain (rest.append behind)
  | .within span inside fault? rest, behind => .within span inside fault? (rest.append behind)

instance : Append Trace := ⟨append⟩

/-- The trace of single calls. -/
def ofCalls : (calls : List Call) → (∀ call ∈ calls, call.IsPlain) → Trace
  | [], _ => .done
  | call :: rest, plain =>
    .single call (plain call List.mem_cons_self)
      (ofCalls rest fun other member => plain other (List.mem_cons_of_mem _ member))

/-- All calls in order. -/
def calls : Trace → List Call
  | .done => []
  | .single call _ rest => call :: rest.calls
  | .within span inside fault? rest =>
    span.opening ++ inside.calls ++ span.closingWith span.metadata fault? ++ rest.calls

/-- The keys of all spans, each with its logger. -/
def keys : Trace → List (String × String)
  | .done => []
  | .single _ _ rest => rest.keys
  | .within span inside _ rest => span.keys ++ inside.keys ++ rest.keys

/-- The spans that a fault passes through which is not routine, in the order in which they are
left. -/
def failures : Trace → List (Span × Fault)
  | .done => []
  | .single _ _ rest => rest.failures
  | .within span inside fault? rest =>
    inside.failures ++ (fault?.filter (!·.isRoutine)).toList.map (span, ·) ++ rest.failures

/-- A moment between the calls of a trace at which no span is just being entered or left: the spans
that it is inside of, the innermost first, and the calls so far. -/
inductive Moment : Trace → List Span → List Call → Prop
  | here (trace : Trace) : Moment trace [] []
  | single {call : Call} {plain : call.IsPlain} {rest : Trace} {open' : List Span}
      {sofar : List Call} (later : Moment rest open' sofar) :
      Moment (.single call plain rest) open' (call :: sofar)
  | inside {span : Span} {inside : Trace} {fault? : Option Fault} {rest : Trace}
      {open' : List Span} {sofar : List Call} (later : Moment inside open' sofar) :
      Moment (.within span inside fault? rest) (open' ++ [span]) (span.opening ++ sofar)
  | behind {span : Span} {inside : Trace} {fault? : Option Fault} {rest : Trace}
      {open' : List Span} {sofar : List Call} (later : Moment rest open' sofar) :
      Moment (.within span inside fault? rest) open'
        (span.opening ++ inside.calls ++ span.closingWith span.metadata fault? ++ sofar)

/-! ## Traces one after the other -/

@[simp] theorem calls_append (front back : Trace) :
    (front ++ back).calls = front.calls ++ back.calls := by
  induction front with
  | done => rfl
  | single call plain rest ih => exact congrArg (call :: ·) ih
  | within span inside fault? rest _ ih =>
      show _ ++ (rest ++ back).calls = _
      rw [ih, calls, List.append_assoc _ rest.calls]

@[simp] theorem keys_append (front back : Trace) :
    (front ++ back).keys = front.keys ++ back.keys := by
  induction front with
  | done => rfl
  | single call plain rest ih => exact ih
  | within span inside fault? rest _ ih =>
      show _ ++ (rest ++ back).keys = _
      rw [ih, keys, List.append_assoc _ rest.keys]

@[simp] theorem calls_ofCalls (calls : List Call) (plain : ∀ call ∈ calls, call.IsPlain) :
    (ofCalls calls plain).calls = calls := by
  induction calls with
  | nil => rfl
  | cons call rest ih => exact congrArg (call :: ·) (ih _)

@[simp] theorem keys_ofCalls (calls : List Call) (plain : ∀ call ∈ calls, call.IsPlain) :
    (ofCalls calls plain).keys = [] := by
  induction calls with
  | nil => rfl
  | cons call rest ih => exact ih _

end Trace

/-! ## Replaying a span -/

namespace Recorder

variable {recorder middle : Recorder} {front back : List Call}

theorem replay_append :
    recorder.replay (front ++ back) = (recorder.replay front).bind (·.replay back) := by
  rw [replay, List.foldlM_append]
  rfl

theorem replay_ok (first : recorder.replay front = some middle) :
    recorder.replay (front ++ back) = middle.replay back := by
  rw [replay_append, first]
  rfl

/-- Plain calls leave a recorder as it is. -/
theorem record_plain {call : Call} (plain : call.IsPlain) : recorder.record call = some recorder := by
  cases call with
  | logger _ => rfl
  | message _ _ _ _ => rfl
  | _ => cases plain

variable {metadata : Fields}

/-- Metadata are added to the context. -/
theorem replay_added (logger : String)
    (distinct : (metadata.map fun field => (logger, field.1)).Nodup)
    (apart : ∀ field ∈ metadata, (logger, field.1) ∉ recorder.keys) :
    recorder.replay (metadata.map fun (key, value) => .addContext logger key value) =
      some { recorder with
        context := (metadata.map fun (key, value) => ((logger, key), value)).reverse ++
          recorder.context } := by
  induction metadata generalizing recorder with
  | nil => rfl
  | cons field rest ih =>
      obtain ⟨key, value⟩ := field
      obtain ⟨other, distinct⟩ := List.nodup_cons.mp distinct
      have fresh := apart (key, value) List.mem_cons_self
      -- The next keys are none of the recorder's, and none is the one that has just been added.
      have later : ∀ field ∈ rest, (logger, field.1) ∉
          ({ recorder with
            context := ((logger, key), value) :: recorder.context } : Recorder).keys := by
        intro field member
        rw [keys, List.map_cons, List.mem_cons, not_or]
        refine ⟨fun same => other ?_, apart field (List.mem_cons_of_mem _ member)⟩
        exact List.mem_map.mpr ⟨field, member, same⟩
      rw [List.map_cons, replay, List.foldlM_cons, record, if_neg fresh]
      refine (ih distinct later).trans ?_
      simp only [List.map_cons, List.reverse_cons, List.append_assoc, List.singleton_append]

/-- Metadata are removed from the context, the first of them first. -/
theorem replay_removed (logger : String)
    (distinct : (metadata.map fun field => (logger, field.1)).Nodup)
    (brackets : List Bracket) (context : List ((String × String) × String)) :
    Recorder.replay
        { brackets
          context := (metadata.map fun (key, value) => ((logger, key), value)).reverse ++ context }
        (metadata.map fun (key, _) => .removeContext logger key) =
      some { brackets, context } := by
  induction metadata with
  | nil => rfl
  | cons field rest ih =>
      obtain ⟨key, value⟩ := field
      obtain ⟨other, distinct⟩ := List.nodup_cons.mp distinct
      have absent : ∀ entry ∈ (rest.map fun (key, value) => ((logger, key), value)).reverse,
          ¬(entry.1 == (logger, key)) = true := by
        intro entry member same
        rw [List.mem_reverse, List.mem_map] at member
        obtain ⟨field, member, rfl⟩ := member
        exact other (List.mem_map.mpr ⟨field, member, eq_of_beq same⟩)
      rw [List.map_cons, List.map_cons, List.reverse_cons, List.append_assoc,
        List.singleton_append, replay, List.foldlM_cons, record, if_pos (by simp [keys]),
        List.eraseP_append_right _ absent, List.eraseP_cons_of_pos (by simp)]
      exact ih distinct

variable {span : Span} (distinct : span.keys.Nodup) (apart : ∀ key ∈ span.keys, key ∉ recorder.keys)
include distinct apart

/-- The calls at the beginning of a span lead into it. -/
theorem replay_opening : recorder.replay span.opening = some (recorder.enter span) := by
  have added := replay_added span.logger.name distinct
    fun field member => apart _ (List.mem_map_of_mem member)
  rw [Span.opening, List.append_assoc, replay_ok added]
  cases component : span.component? with
  | none => simp [replay, record, enter, Span.brackets, Span.context, component]
  | some name => simp [replay, record, enter, Span.brackets, Span.context, component]

omit apart in
/-- The calls at the end of a span lead out of it, also if it fails. -/
theorem replay_closing (metadata : Fields) (fault? : Option Fault) :
    (recorder.enter span).replay (span.closingWith metadata fault?) = some recorder := by
  have removed := replay_removed span.logger.name distinct
    (span.brackets ++ recorder.brackets) recorder.context
  have closed : (recorder.enter span).replay span.closing = some recorder := by
    rw [Span.closing, List.append_assoc]
    refine (replay_ok removed).trans ?_
    cases component : span.component? with
    | none => simp [replay, record, close, Span.brackets, component]
    | some name => simp [replay, record, close, Span.brackets, component]
  cases fault? with
  | none => exact closed
  | some fault =>
      rw [Span.closingWith]
      split
      · exact closed
      · rw [← closed]
        obtain ⟨rest, fields?, failure⟩ := span.failure_eq metadata fault.reason
        rw [failure]
        rfl

end Recorder

/-! ## Replaying a trace -/

namespace Trace

variable {trace : Trace} {recorder : Recorder}

theorem keys_enter (recorder : Recorder) (span : Span) :
    (recorder.enter span).keys = span.keys.reverse ++ recorder.keys := by
  simp only [Recorder.keys, Recorder.enter, Span.context, Span.keys, List.map_append,
    List.map_reverse, List.map_map]
  rfl

/-- Inside of a span, the keys are still used only once. -/
theorem apart_inside {span : Span} {inside : List (String × String)}
    (distinct : (span.keys ++ inside).Nodup) (apart : ∀ key ∈ inside, key ∉ recorder.keys) :
    ∀ key ∈ inside, key ∉ (recorder.enter span).keys := by
  intro key member there
  rw [keys_enter, List.mem_append, List.mem_reverse] at there
  rcases there with own | outer
  · exact (List.nodup_append.mp distinct).2.2 key own key member rfl
  · exact apart key member outer

/-- **The calls of a trace leave nothing open and nothing in the context.** -/
theorem replay_calls (distinct : trace.keys.Nodup) (apart : ∀ key ∈ trace.keys, key ∉ recorder.keys) :
    recorder.replay trace.calls = some recorder := by
  induction trace generalizing recorder with
  | done => rfl
  | single call plain rest ih =>
      rw [calls, Recorder.replay, List.foldlM_cons, Recorder.record_plain plain]
      exact ih distinct apart
  | within span inside fault? rest ihInside ihRest =>
      rw [keys] at distinct apart
      obtain ⟨distinctFront, distinctRest, -⟩ := List.nodup_append.mp distinct
      obtain ⟨distinctSpan, distinctInside, -⟩ := List.nodup_append.mp distinctFront
      simp only [List.mem_append] at apart
      have opened := Recorder.replay_opening distinctSpan fun key own => apart key (.inl (.inl own))
      have done := ihInside distinctInside
        (apart_inside distinctFront fun key own => apart key (.inl (.inr own)))
      have closed : (recorder.enter span).replay (span.closingWith span.metadata fault?) =
          some recorder := Recorder.replay_closing distinctSpan span.metadata fault?
      have later := ihRest distinctRest fun key own => apart key (.inr own)
      rw [calls, List.append_assoc, List.append_assoc, Recorder.replay_ok opened,
        Recorder.replay_ok done, Recorder.replay_ok closed, later]

/-- At every moment, the recorder has been led into the spans that the moment is inside of. -/
theorem Moment.replay_within {open' : List Span} {sofar : List Call}
    (moment : trace.Moment open' sofar) (distinct : trace.keys.Nodup)
    (apart : ∀ key ∈ trace.keys, key ∉ recorder.keys) :
    recorder.replay sofar = some
      { brackets := open'.flatMap Span.brackets ++ recorder.brackets
        context := open'.flatMap Span.context ++ recorder.context } := by
  induction moment generalizing recorder with
  | here trace => rfl
  | @single call plain rest open' sofar later ih =>
      rw [Recorder.replay, List.foldlM_cons, Recorder.record_plain plain]
      exact ih distinct apart
  | @inside span inside fault? rest open' sofar later ih =>
      rw [keys] at distinct apart
      obtain ⟨distinctFront, -, -⟩ := List.nodup_append.mp distinct
      obtain ⟨distinctSpan, distinctInside, -⟩ := List.nodup_append.mp distinctFront
      simp only [List.mem_append] at apart
      have opened := Recorder.replay_opening distinctSpan fun key own => apart key (.inl (.inl own))
      rw [Recorder.replay_ok opened, ih distinctInside
        (apart_inside distinctFront fun key own => apart key (.inl (.inr own)))]
      simp [Recorder.enter]
  | @behind span inside fault? rest open' sofar later ih =>
      rw [keys] at distinct apart
      obtain ⟨distinctFront, distinctRest, -⟩ := List.nodup_append.mp distinct
      simp only [List.mem_append] at apart
      have whole : recorder.replay
          (Trace.within span inside fault? .done).calls = some recorder := by
        refine replay_calls ?_ ?_
        · simpa [keys] using distinctFront
        · intro key member
          simp only [keys, List.append_nil, List.mem_append] at member
          exact apart key (.inl member)
      rw [calls, calls, List.append_nil] at whole
      rw [Recorder.replay_ok whole]
      exact ih distinctRest fun key own => apart key (.inr own)

/-- **At every moment, just the brackets and the metadata of the spans around it are open and in the
context**, the innermost first. -/
theorem Moment.replay {open' : List Span} {sofar : List Call} (moment : trace.Moment open' sofar)
    (distinct : trace.keys.Nodup) :
    Recorder.replay {} sofar = some
      { brackets := open'.flatMap Span.brackets, context := open'.flatMap Span.context } := by
  rw [moment.replay_within distinct fun _ _ there => by cases there]
  simp

end Trace

/-! ## Keys and errors -/

/-- Which of the metadata have a key of a logger. -/
def Span.having (span : Span) (logger key : String) : Fields :=
  span.metadata.filter fun field => span.logger.name == logger && field.1 == key

/-- Where no message is logged, no error is. -/
theorem filter_isError_of_silent {calls : List Call}
    (silent : ∀ call ∈ calls, call.isMessage = false) : calls.filter Call.isError = [] := by
  refine List.filter_eq_nil_iff.mpr fun call member error => ?_
  have none := silent call member
  rw [Call.isMessage_of_isError error] at none
  cases none

section Spans

variable {span : Span} {logger key : String}

/-- A key is added by the metadata that have it. -/
theorem Span.opening_concerns :
    span.opening.filter (Call.concerns logger key) =
      (span.having logger key).map fun (key, value) => .addContext span.logger.name key value := by
  have none : (span.component?.toList.map (Call.track span.logger.name) ++
      [Call.profile span.logger.name span.name]).filter (Call.concerns logger key) = [] := by
    cases span.component? with
    | none => rfl
    | some name => rfl
  rw [Span.opening, List.append_assoc, List.filter_append, none, List.append_nil, List.filter_map]
  rfl

/-- A key is removed for the metadata that have it, also if the span fails. -/
theorem Span.closing_concerns (metadata : Fields) (fault? : Option Fault) :
    (span.closingWith metadata fault?).filter (Call.concerns logger key) =
      (span.having logger key).map fun (key, _) => .removeContext span.logger.name key := by
  have closed : span.closing.filter (Call.concerns logger key) =
      (span.having logger key).map fun (key, _) => .removeContext span.logger.name key := by
    have none : ([Call.endProfile span.logger.name span.name] ++
        span.component?.toList.map (Call.endTrack span.logger.name)).filter
          (Call.concerns logger key) = [] := by
      cases span.component? with
      | none => rfl
      | some name => rfl
    rw [Span.closing, List.append_assoc, List.filter_append, none, List.append_nil, List.filter_map]
    rfl
  cases fault? with
  | none => exact closed
  | some fault =>
      rw [Span.closingWith]
      split
      · exact closed
      · obtain ⟨rest, fields?, failure⟩ := span.failure_eq metadata fault.reason
        rw [failure]
        exact closed

/-- A span either does not use a key or has it once. -/
theorem Span.having_cases (distinct : span.keys.Nodup) (logger key : String) :
    (logger, key) ∉ span.keys ∧ span.having logger key = [] ∨
      span.logger.name = logger ∧ ∃ value, span.having logger key = [(key, value)] := by
  revert distinct
  rw [Span.keys, Span.having]
  induction span.metadata with
  | nil => exact fun _ => .inl ⟨List.not_mem_nil, rfl⟩
  | cons field rest ih =>
      intro distinct
      obtain ⟨other, distinct⟩ := List.nodup_cons.mp distinct
      by_cases same : (span.logger.name, field.1) = (logger, key)
      · obtain ⟨rfl, rfl⟩ := Prod.mk.inj same
        refine .inr ⟨rfl, field.2, ?_⟩
        rcases ih distinct with ⟨-, rest⟩ | ⟨-, value, again⟩
        · rw [List.filter_cons_of_pos (by simp), rest]
        · have member := List.mem_filter.mp (again ▸ List.mem_singleton_self (field.1, value))
          exact absurd (List.mem_map.mpr ⟨_, member.1, rfl⟩) other
      · have misses : ¬(span.logger.name == logger && field.1 == key) = true := by
          simpa using same
        rw [List.filter_cons, if_neg misses, List.map_cons, List.mem_cons, not_or]
        rcases ih distinct with ⟨absent, rest⟩ | present
        · exact .inl ⟨⟨Ne.symm same, absent⟩, rest⟩
        · exact .inr present

/-- Leaving a span logs an error exactly if a fault passes through it that is not routine. -/
theorem Span.closing_errors (metadata : Fields) (fault? : Option Fault) :
    (span.closingWith metadata fault?).filter Call.isError =
      (fault?.filter (!·.isRoutine)).toList.map fun fault => span.failure metadata fault.reason := by
  have closed := filter_isError_of_silent span.not_message.2
  cases fault? with
  | none => exact closed
  | some fault =>
      cases routine : fault.isRoutine with
      | true => simp [Span.closingWith, routine, closed]
      | false =>
          obtain ⟨rest, fields?, failure⟩ := span.failure_eq metadata fault.reason
          have error : (span.failure metadata fault.reason).isError = true := by
            rw [failure]
            rfl
          simp [Span.closingWith, routine, closed, error, Option.filter_some]

end Spans

namespace Trace

variable {trace : Trace}

/-- A key that no span uses is neither added nor removed. -/
theorem context_calls_of_not_mem {logger key : String} (absent : (logger, key) ∉ trace.keys) :
    trace.calls.filter (Call.concerns logger key) = [] := by
  induction trace with
  | done => rfl
  | single call plain rest ih =>
      rw [calls, List.filter_cons_of_neg (by rw [plain.not_concerns]; decide)]
      exact ih absent
  | within span inside fault? rest ihInside ihRest =>
      simp only [keys, List.mem_append, not_or] at absent
      obtain ⟨⟨own, inner⟩, later⟩ := absent
      have none : span.having logger key = [] := by
        refine List.filter_eq_nil_iff.mpr fun field member same => own ?_
        rw [Bool.and_eq_true, beq_iff_eq, beq_iff_eq] at same
        exact List.mem_map.mpr ⟨field, member, Prod.ext same.1 same.2⟩
      rw [calls, List.filter_append, List.filter_append, List.filter_append, Span.opening_concerns,
        Span.closing_concerns, none, ihInside inner, ihRest later]
      rfl

/-- **If no key is used twice, each key that is added to the context is removed again once, and none
is removed otherwise.** -/
theorem context_calls (distinct : trace.keys.Nodup) (logger key : String) :
    trace.calls.filter (Call.concerns logger key) = [] ∨
      ∃ value, trace.calls.filter (Call.concerns logger key) =
        [.addContext logger key value, .removeContext logger key] := by
  induction trace with
  | done => exact .inl rfl
  | single call plain rest ih =>
      rw [calls, List.filter_cons_of_neg (by rw [plain.not_concerns]; decide)]
      exact ih distinct
  | within span inside fault? rest ihInside ihRest =>
      rw [keys, List.nodup_append] at distinct
      obtain ⟨distinctFront, distinctRest, apart⟩ := distinct
      obtain ⟨distinctSpan, distinctInside, own⟩ := List.nodup_append.mp distinctFront
      have others : ∀ other ∈ span.keys ++ inside.keys, other ∉ rest.keys :=
        fun other member again => apart other member other again rfl
      rw [calls, List.filter_append, List.filter_append, List.filter_append, Span.opening_concerns,
        Span.closing_concerns]
      -- The key is used by the span, or inside of it, or behind it, and nowhere else.
      rcases span.having_cases distinctSpan logger key with ⟨-, none⟩ | ⟨rfl, value, once⟩
      · rw [none]
        by_cases inner : (logger, key) ∈ inside.keys
        · have later := context_calls_of_not_mem
            (others _ (List.mem_append_right _ inner))
          simpa [later] using ihInside distinctInside
        · have middle := context_calls_of_not_mem inner
          simpa [middle] using ihRest distinctRest
      · have there : (span.logger.name, key) ∈ span.keys := by
          have member := List.mem_filter.mp (once ▸ List.mem_singleton_self (key, value))
          exact List.mem_map.mpr ⟨_, member.1, rfl⟩
        have unused : (span.logger.name, key) ∉ inside.keys := fun again => own _ there _ again rfl
        have middle := context_calls_of_not_mem unused
        have later := context_calls_of_not_mem
          (others _ (List.mem_append_left _ there))
        exact .inr ⟨value, by simp [once, middle, later]⟩

/-- **The errors that are logged are the failures of the spans that an unforeseen fault passes
through.** -/
theorem errors_calls (trace : Trace) :
    trace.calls.filter Call.isError =
      trace.failures.map fun (span, fault) => span.failure span.metadata fault.reason := by
  induction trace with
  | done => rfl
  | single call plain rest ih =>
      rw [calls, List.filter_cons_of_neg (by rw [plain.not_error]; decide)]
      exact ih
  | within span inside fault? rest ihInside ihRest =>
      rw [calls, failures, List.filter_append, List.filter_append, List.filter_append,
        filter_isError_of_silent span.not_message.1, ihInside, Span.closing_errors, ihRest, List.map_append, List.map_append,
        List.map_map]
      rfl

/-- The calls of a trace are balanced.  At every moment, just what belongs to the spans around it is
open and in the context, and in the end nothing is; each key is added and removed once; and the
errors are the failures of the spans that an unforeseen fault passes through. -/
structure Balanced (trace : Trace) : Prop where
  nested : ∀ {open' : List Span} {sofar : List Call}, trace.Moment open' sofar →
    Recorder.replay {} sofar = some
      { brackets := open'.flatMap Span.brackets, context := open'.flatMap Span.context }
  closed : Recorder.replay {} trace.calls = some {}
  paired : ∀ logger key, trace.calls.filter (Call.concerns logger key) = [] ∨
    ∃ value, trace.calls.filter (Call.concerns logger key) =
      [.addContext logger key value, .removeContext logger key]
  failed : trace.calls.filter Call.isError =
    trace.failures.map fun (span, fault) => span.failure span.metadata fault.reason

theorem balanced (distinct : trace.keys.Nodup) : trace.Balanced where
  nested moment := moment.replay distinct
  closed := replay_calls distinct fun _ _ there => by cases there
  paired := context_calls distinct
  failed := trace.errors_calls

end Trace

end LineEditor.Telemetry
