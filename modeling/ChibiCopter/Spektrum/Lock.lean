import ChibiCopter.Spektrum.Deframing
import ChibiCopter.Spektrum.Preamble
import Mathlib.Data.List.Rotate

/-!
# Which frame a receiver locks on

A receiver that is switched on in the middle of a stream misses every frame in front of
which it has heard an odd number of `0x03`, and is aligned from the first other one on.
When the sticks do not move all frames are the same, and what goes wrong once goes wrong
for ever: the receiver may miss every frame, or take a preamble inside the frame for the
one in front of it and publish the same wrong channels with every frame.
-/

namespace ChibiCopter.Spektrum

open TrailingRun

/-- The frames from the first one on that an even number of `0x03` is heard in front of.
Behind a missed frame its payload is what has been heard. -/
def caught : List UInt8 → List Payload → List Payload
  | _, [] => []
  | heard, next :: rest =>
      if Even (trailing 0x03 heard) then next :: rest else caught next.toList rest

theorem publishedChannels_frames (frames : List Payload) :
    publishedChannels (frames.flatMap frameReports) = frames.map channels := by
  induction frames with
  | nil => rfl
  | cons payload frames ih =>
      rw [List.flatMap_cons, publishedChannels_append, publishedChannels_frameReports, ih]
      rfl

/-- A receiver between frames that hears the end of a frame and then whole frames
publishes those that it catches, all of them and nothing else, as long as no preamble is
heard inside a frame before it is aligned. -/
theorem caught_published (rx : Receiver) (idle : rx.state = 0) {heard : List UInt8}
    {frames : List Payload} (unmistakable : Unmistakable heard frames) :
    publishedChannels (reporter.outputs rx (heard ++ stream frames)) =
      (caught heard frames).map channels := by
  induction frames generalizing rx heard with
  | nil =>
      obtain ⟨target, runs, -, -⟩ := runs_noise rx idle unmistakable.free
      rw [stream, List.flatMap_nil, List.append_nil, runs.outputs_eq, publishedChannels_silent]
      rfl
  | cons next frames ih =>
      obtain ⟨middle, runs, wellFormed, place⟩ := runs_noise rx idle unmistakable.free
      rcases place with ⟨even, middleIdle⟩ | ⟨odd, middlePreamble⟩
      · obtain ⟨target, frameRuns, -⟩ := runs_stream middle middleIdle (next :: frames)
        rw [(runs.append frameRuns).outputs_eq, publishedChannels_append,
          publishedChannels_silent, List.nil_append, publishedChannels_frames, caught, if_pos even]
      · have second : reporter.step 0x01 { middle with state := 0 } =
            (none, { middle with valid := 0, state := 0 }) :=
          reporter_step_noise rfl (by decide)
        have missed := runs.append
          ((runs_missed_preamble wellFormed middlePreamble).append (.single second))
        have split : heard ++ stream (next :: frames) =
            (heard ++ ([0x03] ++ [0x01])) ++ (next.toList ++ stream frames) := by
          simp [stream, frameBytes]
        rw [split, reporter.outputs_append, missed.outputs_eq, missed.final_eq,
          publishedChannels_append, publishedChannels_append, publishedChannels_silent,
          ih _ rfl (unmistakable.2 odd), caught, if_neg (Nat.not_even_iff_odd.mpr odd)]
        rfl

/-- How many frames are missed can be read off the text in front of each. -/
theorem caught_eq_drop (heard : List UInt8) (frames : List Payload) :
    caught heard frames = frames.drop
      ((heard :: frames.map Vector.toList).takeWhile fun text =>
        decide (Odd (trailing 0x03 text))).length := by
  induction frames generalizing heard with
  | nil => rw [caught, List.drop_nil]
  | cons next frames ih =>
      by_cases even : Even (trailing 0x03 heard)
      · rw [caught, if_pos even, List.takeWhile_cons_of_neg (by simpa using even)]
        rfl
      · have odd : Odd (trailing 0x03 heard) := Nat.not_even_iff_odd.mp even
        rw [caught, if_neg even, List.takeWhile_cons_of_pos (by simpa using odd),
          List.length_cons, List.drop_succ_cons, List.map_cons]
        exact ih next.toList

/-- A receiver between frames that hears the end of a frame and then whole frames
publishes exactly the frames behind the first text, the end or a payload, that does not
end in an odd number of `0x03`, as long as no preamble is heard inside a frame before. -/
theorem alignment_found (rx : Receiver) (idle : rx.state = 0) {heard : List UInt8}
    {frames : List Payload} (unmistakable : Unmistakable heard frames) :
    publishedChannels (reporter.outputs rx (heard ++ stream frames)) =
      (frames.drop ((heard :: frames.map Vector.toList).takeWhile fun text =>
        decide (Odd (trailing 0x03 text))).length).map channels := by
  rw [caught_published rx idle unmistakable, caught_eq_drop]

/-- Two frames that end in `0x03` are missed, and the third one is caught. -/
theorem alignment_found_third :
    let ending : Payload := #v[0, 0, 0, 0, 0, 0, 0, 0, 0, 0, 0, 0, 0, 0x03]
    let clean : Payload := Vector.replicate 14 0
    publishedChannels (reporter.outputs (spektrumInit zeroGlobals)
      ([0x03] ++ stream [ending, clean, ending])) = [channels ending] := by
  intro ending clean
  have free : ∀ payload ∈ [ending, clean, ending], ¬ HasPreamble payload.toList := by
    simp only [List.forall_mem_cons]
    exact ⟨by decide, by decide, by decide, List.forall_mem_nil _⟩
  exact (alignment_found (spektrumInit zeroGlobals) rfl
    (unmistakable_of_free (by decide) free)).trans (by decide +kernel)

/-! ## Still sticks -/

/-- A stream of equal frames that is cut inside the first is a stream of the frames that
begin at the cut. -/
theorem stream_rotated {sent seen : Payload} {cut : Nat} (inside : cut < 16)
    (rotated : (frameBytes sent).rotate cut = frameBytes seen) (count : Nat) :
    (frameBytes sent).drop cut ++ stream (List.replicate count sent) =
      stream (List.replicate count seen) ++ (frameBytes sent).drop cut := by
  induction count with
  | zero => simp [stream]
  | succ count ih =>
      have seen_eq : frameBytes seen =
          (frameBytes sent).drop cut ++ (frameBytes sent).take cut := by
        rw [← rotated]
        exact List.rotate_eq_drop_append_take (by rw [length_frameBytes]; exact inside.le)
      have sent_eq : stream (List.replicate (count + 1) sent) =
          (frameBytes sent).take cut ++
            ((frameBytes sent).drop cut ++ stream (List.replicate count sent)) := by
        rw [← List.append_assoc, List.take_append_drop]
        rfl
      have rest_eq : stream (List.replicate (count + 1) seen) =
          frameBytes seen ++ stream (List.replicate count seen) := rfl
      rw [sent_eq, ih, rest_eq, seen_eq, List.append_assoc, List.append_assoc]

/-- A receiver that is switched on at a preamble inside a frame publishes the frame that
begins there, once for every frame that is sent, however often it is sent, and never the
frame itself. -/
theorem false_lock (rx : Receiver) (idle : rx.state = 0) {sent seen : Payload} {cut : Nat}
    (positive : 0 < cut) (inside : cut < 16)
    (rotated : (frameBytes sent).rotate cut = frameBytes seen) (count : Nat) :
    publishedChannels (reporter.outputs rx
      ((frameBytes sent).drop cut ++ stream (List.replicate count sent))) =
        List.replicate count (channels seen) := by
  have short : ((frameBytes sent).drop cut).length ≤ 15 := by
    rw [List.length_drop, length_frameBytes]
    omega
  obtain ⟨middle, runs, aligned, -⟩ := runs_stream rx idle (List.replicate count seen)
  obtain ⟨target, rest, -⟩ := runs_short middle aligned short
  rw [stream_rotated inside rotated, (runs.append rest).outputs_eq, publishedChannels_append,
    publishedChannels_silent, List.append_nil, publishedChannels_frames, List.map_replicate]

/-- Channel 0 at 769 reads like a preamble, and is seen in channel 6. -/
theorem false_lock_channel :
    let sent : Payload := #v[0x03, 0x01, 0, 0, 0, 0, 0, 0, 0, 0, 0, 0, 0, 0]
    let seen : Payload := #v[0, 0, 0, 0, 0, 0, 0, 0, 0, 0, 0, 0, 0x03, 0x01]
    channels sent ≠ channels seen ∧
      publishedChannels (reporter.outputs (spektrumInit zeroGlobals)
        ((frameBytes sent).drop 2 ++ stream (List.replicate 100 sent))) =
          List.replicate 100 (channels seen) :=
  ⟨by decide, false_lock (spektrumInit zeroGlobals) rfl (by decide) (by decide) (by decide) 100⟩

end ChibiCopter.Spektrum
