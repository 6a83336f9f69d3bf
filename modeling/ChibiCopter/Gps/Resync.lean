import ChibiCopter.Gps.Publication

/-!
# A dollar forgets what came before

What a caller can observe of a call is its result, the sentence and term the parser
is in, and the working data.  Two parsers that agree on their working data look the
same from the next dollar on: the buffer behind the current term, the type and the
offsets of an earlier sentence are never read again.
-/

namespace ChibiCopter.Gps

open Buffer

/-- What can be seen of a call: the characters of the term buffer behind the current
term are left out. -/
structure Observation where
  result : CharResult
  sentenceType : SentenceType
  sentenceOffset : Nat
  termOffset : Nat
  term : List UInt8
  working : Working
  deriving DecidableEq

def observe (call : CharResult × Globals) : Observation where
  result := call.1
  sentenceType := call.2.sentenceType
  sentenceOffset := call.2.sentenceOffset
  termOffset := call.2.termOffset
  term := filled call.2.term call.2.termOffset
  working := call.2.working

/-- The two parsers differ in parts of their buffers that are not in use. -/
structure InStep (first second : Globals) : Prop where
  first_fits : first.Fits
  second_fits : second.Fits
  first_invalid : first.valid = 0
  second_invalid : second.valid = 0
  view_eq : first.view = second.view

namespace InStep

variable {first second : Globals}

theorem call (same : InStep first second) (c : UInt8) :
    InStep (gpsParseChar c first).2 (gpsParseChar c second).2 where
  first_fits := fits_step c same.first_fits
  second_fits := fits_step c same.second_fits
  first_invalid :=
    (samePublic_gpsParseChar c same.first_invalid).valid_eq.trans same.first_invalid
  second_invalid :=
    (samePublic_gpsParseChar c same.second_invalid).valid_eq.trans same.second_invalid
  view_eq := by rw [view_step c same.first_fits, view_step c same.second_fits, same.view_eq]

theorem termOffset_eq (same : InStep first second) : first.termOffset = second.termOffset := by
  rw [← same.first_fits.length_text, ← same.second_fits.length_text, same.view_eq]

theorem result_eq (same : InStep first second) (c : UInt8) :
    (gpsParseChar c first).1 = (gpsParseChar c second).1 := by
  have valid_eq : (gpsParseChar c first).1.valid = (gpsParseChar c second).1.valid := by
    rw [gpsParseChar_valid, gpsParseChar_valid, (same.call c).first_invalid,
      (same.call c).second_invalid]
  have dispatched_eq :
      (gpsParseChar c first).1.dispatched = (gpsParseChar c second).1.dispatched := by
    rw [dispatched_step c same.first_fits, dispatched_step c same.second_fits, same.view_eq]
  cases before : (gpsParseChar c first).1
  cases after : (gpsParseChar c second).1
  rw [before, after] at valid_eq dispatched_eq
  exact congrArg₂ CharResult.mk valid_eq dispatched_eq

theorem observe_eq (same : InStep first second) (c : UInt8) :
    observe (gpsParseChar c first) = observe (gpsParseChar c second) := by
  have view_eq := (same.call c).view_eq
  have offset_eq := (same.call c).termOffset_eq
  have result_eq := same.result_eq c
  have kind_eq := congrArg Reader.kind view_eq
  have number_eq := congrArg Reader.number view_eq
  have text_eq := congrArg Reader.text view_eq
  have working_eq := congrArg Reader.working view_eq
  simp only [Globals.view] at kind_eq number_eq text_eq working_eq
  rw [offset_eq] at text_eq
  simp only [observe, result_eq, offset_eq, kind_eq, number_eq, working_eq, text_eq]

end InStep

theorem unwinding_inStep : parser.Unwinding InStep observe where
  kept c _ _ same := same.call c
  same_view c _ _ same := same.observe_eq c

/-- Two parsers with the same working data fall in step at a dollar. -/
theorem inStep_dollar {first second : Globals} (same : first.working = second.working) :
    InStep (gpsParseChar dollar first).2 (gpsParseChar dollar second).2 := by
  rw [gpsParseChar_dollar, gpsParseChar_dollar]
  refine ⟨Nat.zero_le 14, Nat.zero_le 14, rfl, rfl, ?_⟩
  have text_eq : filled first.term 0 = filled second.term 0 := by
    rw [filled_zero, filled_zero]
  exact Reader.ext rfl rfl text_eq same

theorem observe_dollar {first second : Globals} (same : first.working = second.working) :
    observe (gpsParseChar dollar first) = observe (gpsParseChar dollar second) := by
  have working_eq : (gpsParseChar dollar first).2.working =
      (gpsParseChar dollar second).2.working := by
    rw [gpsParseChar_dollar, gpsParseChar_dollar]
    exact same
  rw [gpsParseChar_dollar, gpsParseChar_dollar] at working_eq ⊢
  simp only [observe, filled_zero, working_eq]

/-- From a dollar on, all that the parser does depends on its working data alone. -/
theorem dollar_resynchronises {first second : Globals} (same : first.working = second.working)
    (stream : List UInt8) :
    (parser.trace first (dollar :: stream)).map observe =
      (parser.trace second (dollar :: stream)).map observe := by
  rw [Transducer.trace_cons, Transducer.trace_cons, List.map_cons, List.map_cons, parser_step,
    parser_step, observe_dollar same, unwinding_inStep.map_trace (inStep_dollar same) stream]

/-- A fresh parser and one that has been interrupted in a status field. -/
theorem dollar_resynchronises_interrupted :
    let stream := dollar :: body gpgllTerm [ascii ['1', '2']] ++ [star]
    (parser.trace (gpsParserInit zeroGlobals) stream).map observe =
      (parser.trace (parser.final (gpsParserInit zeroGlobals)
        (dollar :: body gprmcTerm [[], ascii ['A', 'A', 'A']])) stream).map observe :=
  dollar_resynchronises (by decide +kernel) _

end ChibiCopter.Gps
