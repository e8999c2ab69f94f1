import VehicleBus.Proofs.Cli.Lines
import VehicleBus.Proofs.Translator.Isolation
import VehicleBus.Proofs.Translator.Replay

/-!
# What a line does to a session

A session with recorded times takes the lines of a log one by one and asks for its limit
before each.  A line without a frame does nothing but count.  One with a frame hands its
messages to the sink (`Cli.Session.frame_sink`), and these come first in what the session
puts out when it replays all frames (`Cli.Session.replayed_cons`).
-/

namespace VehicleBus

namespace Cli

/-- The first frames up to a limit, or all of them. -/
def within (limit : Option Nat) (frames : List Frame) : List Frame :=
  limit.elim frames frames.take

@[simp] theorem within_nil (limit : Option Nat) : within limit [] = [] := by
  cases limit <;> simp [within]

/-- A larger limit, or none, only lets more frames through. -/
theorem within_isPrefix {limit limit' : Option Nat}
    (h : ∀ more ∈ limit', ∃ fewer ∈ limit, fewer ≤ more) (frames : List Frame) :
    within limit frames <+: within limit' frames := by
  cases limit' with
  | none =>
      cases limit with
      | none => exact List.prefix_rfl
      | some fewer => exact List.take_prefix fewer frames
  | some more =>
      obtain ⟨fewer, rfl, hle⟩ := h more rfl
      exact List.take_prefix_take_left hle

namespace Session

variable {session : Session} {text : List Char}

/-- How many more frames a session takes. -/
def room (session : Session) : Option Nat := session.limit.map (· - session.frames)

/-! ## Lines -/

/-- At its limit, a session ends before the line is looked at. -/
theorem line_of_limit (h : session.limit.any (· ≤ session.frames)) (now : Time)
    (line : Except HostFault Wire.Bytes) :
    session.line now line = (session, [.limitReached session.frames], some .limitReached) :=
  if_pos h

/-- A line without a frame is counted, and nothing else happens. -/
theorem line_of_skipped (h : ¬ session.limit.any (· ≤ session.frames)) (now : Time)
    (htext : Frame.ofLine? text = none) :
    ∃ reports, session.line now (.ok (utf8 text)) =
      ({ session with lines := session.lines + 1 }, reports, none) := by
  rw [Session.line, if_neg h]
  simp only [text?_utf8]
  cases hline : Frame.ofLine (String.ofList text) with
  | error fault => exact ⟨_, rfl⟩
  | ok found =>
      cases found with
      | none => exact ⟨_, rfl⟩
      | some frame => simp [Frame.ofLine?, hline, Except.toOption] at htext

/-- A line with a frame is counted, and the frame is handled. -/
theorem line_of_frame (h : ¬ session.limit.any (· ≤ session.frames)) (now : Time)
    {frame : Frame} (htext : Frame.ofLine? text = some frame) :
    ∃ reports, session.line now (.ok (utf8 text)) =
      ((Session.frame { session with lines := session.lines + 1 } now frame).1, reports, none) := by
  have hline : Frame.ofLine (String.ofList text) = .ok (some frame) := by
    rw [Frame.ofLine?] at htext
    cases hline : Frame.ofLine (String.ofList text) with
    | error fault => simp [hline, Except.toOption] at htext
    | ok found => simpa [hline, Except.toOption] using htext
  rw [Session.line, if_neg h]
  simp only [text?_utf8, hline]
  exact ⟨_, rfl⟩

/-! ## Frames -/

/-- The messages that a frame asks for, at the latest recorded time. -/
def asked (session : Session) (frame : Frame) : List Message :=
  Step.messages (session.translator.router.frame frame.key frame.payload
    (frame.timestamp.getD session.time)).2

/-- With recorded times, the time of the host does not matter to a frame. -/
theorem frame_translator (hrecorded : session.recordedTime = true) (now : Time) (frame : Frame) :
    (session.frame now frame).1.translator =
      (session.translator.frame frame.key frame.payload
        (frame.timestamp.getD session.time)).1 := by
  simp only [Session.frame, hrecorded, if_true]

/-- A frame hands the encodings of what it asks for to the sink. -/
theorem frame_sink (hrecorded : session.recordedTime = true) (now : Time) (frame : Frame) :
    (session.frame now frame).1.translator.pipeline.sink =
      session.translator.pipeline.sink.acceptAll
        (session.translator.pipeline.format.outputs (session.asked frame)) := by
  have hfeed := Clocked.feed_sink ⟨session.translator, frame.timestamp.getD session.time⟩
    (.frame frame.key frame.payload)
  rw [Clocked.map_snd_emitted] at hfeed
  rw [frame_translator hrecorded]
  exact hfeed

/-! ## Limits -/

theorem within_of_limit (h : session.limit.any (· ≤ session.frames)) (frames : List Frame) :
    within session.room frames = [] := by
  cases hlimit : session.limit with
  | none => simp [hlimit] at h
  | some limit =>
      have hreached : limit ≤ session.frames := by simpa [hlimit] using h
      simp [within, room, hlimit, Nat.sub_eq_zero_of_le hreached]

/-- One more frame fits, and there is room for one less behind it. -/
theorem within_cons (h : ¬ session.limit.any (· ≤ session.frames)) (now : Time) (frame : Frame)
    (frames : List Frame) :
    within session.room (frame :: frames) =
      frame :: within (session.frame now frame).1.room frames := by
  have hbehind : (session.frame now frame).1.room =
      session.limit.map (· - (session.frames + 1)) := rfl
  rw [hbehind]
  cases hlimit : session.limit with
  | none => simp [within, room, hlimit]
  | some limit =>
      have hopen : session.frames < limit := by simpa [hlimit] using h
      have hroom : limit - session.frames = limit - (session.frames + 1) + 1 := by omega
      simp [within, room, hlimit, hroom]

/-! ## Replays -/

/-- What a session puts out when it replays frames, the first ones if it has a limit. -/
def replayed (session : Session) (frames : List Frame) : List Wire.Bytes :=
  session.translator.pipeline.format.outputs
    (session.translator.router.asked session.time (within session.room frames))

@[simp] theorem replayed_nil (session : Session) : session.replayed [] = [] := by
  simp [replayed]

theorem replayed_of_limit (h : session.limit.any (· ≤ session.frames)) (frames : List Frame) :
    session.replayed frames = [] := by
  simp [replayed, within_of_limit h]

/-- **A session replays one frame after the other.** -/
theorem replayed_cons (hrecorded : session.recordedTime = true)
    (h : ¬ session.limit.any (· ≤ session.frames)) (now : Time) (frame : Frame)
    (frames : List Frame) :
    session.replayed (frame :: frames) =
      session.translator.pipeline.format.outputs (session.asked frame) ++
        (session.frame now frame).1.replayed frames := by
  have hformat : (session.frame now frame).1.translator.pipeline.format =
      session.translator.pipeline.format := by
    rw [frame_translator hrecorded]
    exact Clocked.feed_format ⟨session.translator, frame.timestamp.getD session.time⟩
      (.frame frame.key frame.payload)
  rw [replayed, replayed, within_cons h now, Router.asked_cons, OutputFormat.outputs_append,
    hformat, frame_translator hrecorded]
  rfl

end Session

end Cli

end VehicleBus
