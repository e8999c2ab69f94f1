import VehicleBus.Frame
import VehicleBus.Proofs.Translator.Lockstep

/-!
# Recorded frames

Frames of a log are replayed at their recorded times: before each frame the clock is set
to the latest time that was recorded up to it.  What a replay asks to be sent grows with
the frames (`Router.asked_isPrefix`), and every sink is handed the encodings of it
(`Translator.sink_replay`).
-/

namespace VehicleBus

open Wire (Bytes)

/-- The inputs that replay frames, if `time` is the latest time recorded before them. -/
def Input.replay (time : Time) : List Frame → List Input
  | [] => []
  | first :: rest =>
    .clock (first.timestamp.getD time) :: .frame first.key first.payload ::
      replay (first.timestamp.getD time) rest

/-- Later frames are replayed behind earlier ones. -/
theorem Input.replay_append (time : Time) (front back : List Frame) :
    ∃ later, replay time (front ++ back) = replay time front ++ replay later back := by
  induction front generalizing time with
  | nil => exact ⟨time, rfl⟩
  | cons first front ih =>
      obtain ⟨later, hlater⟩ := ih (first.timestamp.getD time)
      exact ⟨later, by rw [List.cons_append, replay, hlater]; rfl⟩

namespace Clocked

/-- Taking inputs is a run of operations. -/
theorem feedAll_eq_run (clocked : Clocked) (inputs : List Input) :
    clocked.feedAll inputs = clocked.run (inputs.map .input) := by
  rw [feedAll, run, List.foldl_map]
  rfl

end Clocked

namespace Router

/-- What a replay of frames asks the pipeline to send, whatever this is, if `time` is the
latest time recorded before them. -/
def asked (router : Router) (time : Time) (frames : List Frame) : List Message :=
  (⟨⟨router, { format := .json, sink := .emptyBuffer }⟩, time⟩ : Clocked).runMessages
    ((Input.replay time frames).map .input)

@[simp] theorem asked_nil (router : Router) (time : Time) : router.asked time [] = [] := rfl

end Router

namespace Clocked

/-- A translator at any time asks for the same, since the clock is set before each frame. -/
theorem runMessages_replay (clocked : Clocked) (time : Time) (frames : List Frame) :
    clocked.runMessages ((Input.replay time frames).map .input) =
      clocked.translator.router.asked time frames := by
  cases frames with
  | nil => rfl
  | cons first rest =>
      have hset : SameFront (clocked.feed (.clock (first.timestamp.getD time)))
          (feed ⟨⟨clocked.translator.router, { format := .json, sink := .emptyBuffer }⟩, time⟩
            (.clock (first.timestamp.getD time))) := ⟨rfl, rfl⟩
      exact (run_congr hset (.input (.frame first.key first.payload) ::
        (Input.replay (first.timestamp.getD time) rest).map .input)).2.2

end Clocked

namespace Router

/-- The first frame is handled at the latest time recorded up to it, the others behind it. -/
theorem asked_cons (router : Router) (time : Time) (first : Frame) (rest : List Frame) :
    router.asked time (first :: rest) =
      Step.messages (router.frame first.key first.payload (first.timestamp.getD time)).2 ++
        (router.frame first.key first.payload (first.timestamp.getD time)).1.asked
          (first.timestamp.getD time) rest := by
  rw [asked, Input.replay, List.map_cons, List.map_cons, Clocked.runMessages, Clocked.runMessages,
    Clocked.runMessages_replay]
  rfl

/-- Later frames only add to what a replay asks for. -/
theorem asked_isPrefix (router : Router) (time : Time) {front frames : List Frame}
    (h : front <+: frames) : router.asked time front <+: router.asked time frames := by
  obtain ⟨back, rfl⟩ := h
  obtain ⟨later, hlater⟩ := Input.replay_append time front back
  rw [asked, asked, hlater, List.map_append, Clocked.runMessages_append]
  exact List.prefix_append _ _

end Router

namespace Translator

/-- The messages that a translator gives away after a replay of frames from the start. -/
def replayed (translator : Translator) (frames : List Frame) : List Bytes :=
  ((⟨translator, 0⟩ : Clocked).feedAll (Input.replay 0 frames)).translator.take.2

/-- After a replay the sink was handed the encodings of what was asked for. -/
theorem sink_replay (router : Router) (format : OutputFormat) (sink : Sink)
    (frames : List Frame) :
    ((⟨⟨router, { format, sink }⟩, 0⟩ : Clocked).feedAll
        (Input.replay 0 frames)).translator.pipeline.sink =
      sink.acceptAll (format.outputs (router.asked 0 frames)) := by
  rw [Clocked.feedAll_eq_run, Clocked.run_pipeline, Clocked.runMessages_replay,
    Pipeline.sendAll_eq]

/-- With an empty buffer, a replay gives away these encodings. -/
theorem replayed_eq (router : Router) (format : OutputFormat) (frames : List Frame) :
    replayed ⟨router, { format, sink := .emptyBuffer }⟩ frames =
      format.outputs (router.asked 0 frames) := by
  rw [replayed, take, Pipeline.take, sink_replay]
  exact Sink.take_acceptAll_emptyBuffer _

end Translator

end VehicleBus
