import ChibiCopter.Spektrum.RoundTrip
import Mathlib.Data.List.ReduceOption

/-!
# The frames of a byte stream

`deframe` says what the receiver is for without its state machine: it cuts a byte
stream from the left into noise and frames.  Two bytes that begin like a preamble
and are none are skipped together.  From a state between frames the decoder
publishes exactly the channels of these frames, in their order, and holds those of
the last one.
-/

namespace ChibiCopter.Spektrum

/-- The first fourteen of at least fourteen bytes. -/
def takePayload (bytes : List UInt8) (enough : 14 ≤ bytes.length) : Payload :=
  ⟨(bytes.take 14).toArray, by rw [List.size_toArray, List.length_take_of_le enough]⟩

def deframe : List UInt8 → List Payload
  | first :: second :: rest =>
      if first = 0x03 then
        if second = 0x01 then
          if enough : 14 ≤ rest.length then
            takePayload rest enough :: deframe (rest.drop 14)
          else []
        else deframe rest
      else deframe (second :: rest)
  | _ => []
termination_by bytes => bytes.length
decreasing_by
  · rw [List.length_drop, List.length_cons, List.length_cons]
    omega
  · rw [List.length_cons, List.length_cons]
    omega
  · exact Nat.lt_succ_self _

theorem toList_takePayload {bytes : List UInt8} (enough : 14 ≤ bytes.length) :
    (takePayload bytes enough).toList = bytes.take 14 := rfl

/-- A stream that begins with a frame is that frame and the rest. -/
theorem frameBytes_takePayload {rest : List UInt8} (enough : 14 ≤ rest.length) :
    0x03 :: 0x01 :: rest = frameBytes (takePayload rest enough) ++ rest.drop 14 := by
  rw [frameBytes, toList_takePayload, List.cons_append, List.cons_append,
    List.take_append_drop]

/-- Every frame of a stream stands in it as sixteen consecutive bytes. -/
theorem frameBytes_isInfix_of_mem_deframe {payload : Payload} {bytes : List UInt8}
    (member : payload ∈ deframe bytes) : frameBytes payload <:+: bytes := by
  induction bytes using deframe.induct with
  | case1 rest enough ih =>
      rw [deframe, if_pos rfl, if_pos rfl, dif_pos enough] at member
      rw [frameBytes_takePayload enough]
      rcases List.mem_cons.mp member with rfl | later
      · exact (List.prefix_append _ _).isInfix
      · exact (ih later).trans (List.suffix_append _ _).isInfix
  | case2 rest short =>
      rw [deframe, if_pos rfl, if_pos rfl, dif_neg short] at member
      cases member
  | case3 second rest other ih =>
      rw [deframe, if_pos rfl, if_neg other] at member
      exact (ih member).trans (List.suffix_append [0x03, second] rest).isInfix
  | case4 first second rest noise ih =>
      rw [deframe, if_neg noise] at member
      exact (ih member).trans (List.suffix_append [first] (second :: rest)).isInfix
  | case5 bytes short =>
      rw [deframe] at member
      · cases member
      · exact short

/-- What a decoder holds after publishing the channels of `frames`. -/
def latestChannels (initial : Vector Int 7) (frames : List Payload) : Vector Int 7 :=
  (frames.map channels).getLastD initial

/-- What the reports of a stretch publish, without the silent calls. -/
def publishedChannels (reports : List (Option (Vector Int 7))) : List (Vector Int 7) :=
  reports.reduceOption

theorem publishedChannels_silent (count : Nat) :
    publishedChannels (List.replicate count none) = [] :=
  List.reduceOption_replicate_none

theorem publishedChannels_append (first second : List (Option (Vector Int 7))) :
    publishedChannels (first ++ second) = publishedChannels first ++ publishedChannels second :=
  List.reduceOption_append first second

theorem publishedChannels_frameReports (payload : Payload) :
    publishedChannels (frameReports payload) = [channels payload] := by
  rw [frameReports, publishedChannels_append, publishedChannels_silent]
  rfl

/-- The decoder publishes the frames of the stream and holds the last of them. -/
theorem runs_deframe (rx : Receiver) (idle : rx.state = 0) (bytes : List UInt8) :
    ∃ answers target, reporter.Runs rx bytes answers target ∧
      publishedChannels answers = (deframe bytes).map channels ∧
      target.receiverData = latestChannels rx.receiverData (deframe bytes) := by
  induction bytes using deframe.induct generalizing rx with
  | case1 rest enough ih =>
      obtain ⟨answers, target, runs, published, data_eq⟩ :=
        ih (publish (takePayload rest enough) rx) rfl
      rw [deframe, if_pos rfl, if_pos rfl, dif_pos enough, frameBytes_takePayload enough]
      refine ⟨_, target, (runs_frame rx idle (takePayload rest enough)).append runs, ?_, ?_⟩
      · rw [publishedChannels_append, publishedChannels_frameReports, published]
        rfl
      · rw [data_eq, latestChannels, latestChannels, List.map_cons, List.getLastD_cons]
        rfl
  | case2 rest short =>
      obtain ⟨target, runs, quiet⟩ := runs_short rx idle
        (show (0x03 :: 0x01 :: rest).length ≤ 15 by
          rw [List.length_cons, List.length_cons]
          omega)
      rw [deframe, if_pos rfl, if_pos rfl, dif_neg short]
      exact ⟨_, target, runs, publishedChannels_silent _, quiet.1⟩
  | case3 second rest other ih =>
      have dropped : reporter.step second { rx with valid := 0, state := 1 } =
          (none, { rx with valid := 0, state := 0 }) := by
        apply reporter_step_silent
        rw [spektrumParse_preamble second rfl, if_neg other]
      obtain ⟨answers, target, runs, published, data_eq⟩ :=
        ih { rx with valid := 0, state := 0 } rfl
      rw [deframe, if_pos rfl, if_neg other]
      exact ⟨_, target, .cons (reporter_step_first idle) (.cons dropped runs), published, data_eq⟩
  | case4 first second rest noise ih =>
      obtain ⟨answers, target, runs, published, data_eq⟩ :=
        ih { rx with valid := 0, state := 0 } rfl
      rw [deframe, if_neg noise]
      exact ⟨_, target, .cons (reporter_step_noise idle noise) runs, published, data_eq⟩
  | case5 bytes short =>
      have atMostOne : bytes.length ≤ 15 := by
        match bytes, short with
        | [], _ => exact Nat.zero_le 15
        | [_], _ => exact Nat.le_add_left 1 14
        | first :: second :: rest, short => exact absurd rfl (short first second rest)
      obtain ⟨target, runs, quiet⟩ := runs_short rx idle atMostOne
      rw [deframe]
      · exact ⟨_, target, runs, publishedChannels_silent _, quiet.1⟩
      · exact short

/-- The channels published over a stream are those of its frames, in order. -/
theorem published_eq_deframe (rx : Receiver) (idle : rx.state = 0) (bytes : List UInt8) :
    publishedChannels (reporter.outputs rx bytes) = (deframe bytes).map channels := by
  obtain ⟨answers, target, runs, published, -⟩ := runs_deframe rx idle bytes
  rw [runs.outputs_eq, published]

/-- The decoder holds the channels of the latest frame. -/
theorem receiverData_eq_latest (rx : Receiver) (idle : rx.state = 0) (bytes : List UInt8) :
    (decoder.final rx bytes).receiverData = latestChannels rx.receiverData (deframe bytes) := by
  obtain ⟨answers, target, runs, -, data_eq⟩ := runs_deframe rx idle bytes
  rw [← reporter_final, runs.final_eq, data_eq]

end ChibiCopter.Spektrum
