import VehicleBus.Proofs.Catalog.Admission
import VehicleBus.Proofs.Translator.Lockstep
import VehicleBus.Proofs.Translator.Reach

/-!
# Counts and output agree

A translator counts frames, refusals and messages in three places, and its buffer is
emptied by someone else.  Still nothing gets lost: `Clocked.along` records what the
actions of a run did, and every count is a count of such records
(`Clocked.acts_countP`), while what was taken and what still waits are together the
encodings of the accepted messages (`Clocked.acts_pipeline`).

What becomes of a frame is decided by its key: `Router.fate`.
-/

namespace VehicleBus

open Wire (Bytes)

/-- A new translator has handled no frame. -/
theorem Translator.Made.unused {translator : Translator} {announced : List Config.Bus}
    (h : translator.Made announced) : translator.router.counts = {} := by
  cases h with
  | empty catalog pipeline => rfl
  | configured hbuilt =>
      obtain ⟨-, -, hrouter, -⟩ := ofVehicle_eq_ok hbuilt
      rw [hrouter]
      exact (Router.foldl_withChannel _ _).2.2.2.1

/-! ## What becomes of a frame -/

/-- What a router does with a frame. -/
inductive Fate where
  | translated
  | passedThrough
  | ignored
deriving DecidableEq, Repr

/-- What a router does with the frames of a key: it decodes them if they have signals,
or passes them on if their bus forwards, or ignores them. -/
def Router.fate (router : Router) (key : Key) : Fate :=
  if (router.channelsOf key).isEmpty then
    if router.forwards key.bus then .passedThrough else .ignored
  else .translated

/-- A frame that was handled. -/
structure Handled where
  fate : Fate
  /-- Does its key have a definition afterwards? -/
  cataloged : Bool
deriving DecidableEq, Repr

/-- A frame that was to be passed on and found no room in the catalog. -/
def Handled.turnedAway (frame : Handled) : Bool :=
  frame.fate == .passedThrough && !frame.cataloged

namespace Catalog

/-- A frame that is passed on is refused exactly if its key is not cataloged after it. -/
theorem refusals_pass (catalog : Catalog) (key : Key) (data : Payload) (now : Time) :
    (catalog.pass key data now).1.refusals =
      catalog.refusals +
        if ((catalog.pass key data now).1.find? key).isSome then 0 else 1 := by
  have hcount : (catalog.pass key data now).1.refusals = _ :=
    (catalog.serve_counts (.pass key data now)).2
  have hkeys : (catalog.pass key data now).1.keys = (catalog.register key).1.keys := by
    rw [keys_pass, keys_register]
  rw [hcount, Nat.add_left_cancel_iff, registrations]
  simp only [find?_isSome_iff_mem_keys, hkeys, ← register_eq_true_iff]
  by_cases hknown : key ∈ catalog.keys
  · simp [register_of_mem hknown, hknown]
  · cases (catalog.register key).2.1 <;> simp [hknown]

end Catalog

namespace Router

variable {router : Router}

/-- A frame counts once, under its fate. -/
theorem counts_frame (hindexed : router.Indexed) (key : Key) (data : Payload) (now : Time) :
    (router.frame key data now).1.counts =
      { processed := router.counts.processed + 1
        translated := router.counts.translated + if router.fate key = .translated then 1 else 0
        passedThrough :=
          router.counts.passedThrough + if router.fate key = .passedThrough then 1 else 0
        ignored := router.counts.ignored + if router.fate key = .ignored then 1 else 0 } := by
  by_cases hsignals : router.channelsOf key = []
  · rw [frame_undecoded hindexed hsignals]
    by_cases hforwards : router.forwards key.bus = true
    · simp [fate, hsignals, hforwards]
    · simp [fate, hsignals, hforwards]
  · rw [frame_decoded hindexed hsignals]
    simp [fate, hsignals]

/-- Only a frame that is passed on can be refused. -/
theorem refusals_frame (hindexed : router.Indexed) (key : Key) (data : Payload) (now : Time) :
    (router.frame key data now).1.catalog.refusals =
      router.catalog.refusals +
        if Handled.turnedAway
          ⟨router.fate key, ((router.frame key data now).1.catalog.find? key).isSome⟩ then 1
        else 0 := by
  by_cases hsignals : router.channelsOf key = []
  · rw [frame_undecoded hindexed hsignals]
    by_cases hforwards : router.forwards key.bus = true
    · simp only [if_pos hforwards, Catalog.refusals_pass, Handled.turnedAway, fate, hsignals]
      cases ((router.catalog.pass key data now).1.find? key).isSome <;> simp
    · simp [Handled.turnedAway, fate, hsignals, hforwards]
  · rw [frame_decoded hindexed hsignals]
    simp [Handled.turnedAway, fate, hsignals]

end Router

/-! ## Records of a run -/

namespace Clocked

/-- What is observed of the single actions of a run, in order. -/
def along {α : Type} (observe : Clocked → Action → List α) : Clocked → List Action → List α
  | _, [] => []
  | clocked, action :: rest => observe clocked action ++ along observe (clocked.act action) rest

/-- The frame that an action delivers. -/
def handled (clocked : Clocked) : Action → List Handled
  | .operate (.input (.frame key data)) =>
    let router := clocked.translator.router
    [⟨router.fate key, ((router.frame key data clocked.now).1.catalog.find? key).isSome⟩]
  | _ => []

/-- The messages that an action gives to the pipeline, in order. -/
def given (clocked : Clocked) : Action → List Message
  | .operate operation => clocked.messages operation
  | _ => []

/-- The outputs that an action takes out of the sink, in order. -/
def taken (clocked : Clocked) : Action → List Bytes
  | .take => clocked.translator.take.2
  | _ => []

variable {clocked : Clocked}

theorem along_append {α : Type} (observe : Clocked → Action → List α) (clocked : Clocked)
    (front back : List Action) :
    along observe clocked (front ++ back) =
      along observe clocked front ++ along observe (clocked.acts front) back := by
  induction front generalizing clocked with
  | nil => rfl
  | cons action rest ih =>
      rw [List.cons_append, along, along, ih, List.append_assoc]
      rfl

theorem acts_append (clocked : Clocked) (front back : List Action) :
    clocked.acts (front ++ back) = (clocked.acts front).acts back := List.foldl_append

/-- **A count of records.**  What grows with each action by the number of its records
of some kind is, after a run, larger by the number of such records. -/
theorem acts_countP {α : Type} {observe : Clocked → Action → List α} (measure : Clocked → Nat)
    {kind : α → Bool}
    (hact : ∀ clocked : Clocked, clocked.translator.router.Sound → ∀ action,
      measure (clocked.act action) = measure clocked + (observe clocked action).countP kind)
    (hsound : clocked.translator.router.Sound) (actions : List Action) :
    measure (clocked.acts actions) =
      measure clocked + (along observe clocked actions).countP kind := by
  induction actions generalizing clocked with
  | nil => rfl
  | cons action rest ih =>
      show measure ((clocked.act action).acts rest) = _
      rw [ih (act_sound hsound action), hact clocked hsound, along, List.countP_append,
        Nat.add_assoc]

/-! ## Frames -/

/-- An action that delivers no frame leaves the counts of frames and the catalog alone. -/
theorem act_of_not_isFrame (clocked : Clocked) {action : Action} (h : action.isFrame = false) :
    (clocked.act action).translator.router.counts = clocked.translator.router.counts ∧
      (clocked.act action).translator.router.catalog = clocked.translator.router.catalog ∧
      clocked.handled action = [] := by
  have hhandled : clocked.handled action = [] := by
    unfold handled
    split
    · cases h
    · rfl
  cases hbus : action.bus? with
  | some bus =>
      rw [clocked.act_of_bus? hbus]
      exact ⟨rfl, rfl, hhandled⟩
  | none =>
      obtain ⟨hcounts, hcatalog⟩ := (clocked.act_adjusts hbus h).counts_catalog
      exact ⟨hcounts, hcatalog, hhandled⟩

/-- What an action adds to the counts of frames. -/
theorem counts_act (hsound : clocked.translator.router.Sound) (action : Action) :
    (clocked.act action).translator.router.counts =
        { processed := clocked.translator.router.counts.processed + (clocked.handled action).length
          translated := clocked.translator.router.counts.translated +
            (clocked.handled action).countP (·.fate == .translated)
          passedThrough := clocked.translator.router.counts.passedThrough +
            (clocked.handled action).countP (·.fate == .passedThrough)
          ignored := clocked.translator.router.counts.ignored +
            (clocked.handled action).countP (·.fate == .ignored) } ∧
      (clocked.act action).translator.router.catalog.refusals =
        clocked.translator.router.catalog.refusals +
          (clocked.handled action).countP Handled.turnedAway := by
  cases hframe : action.isFrame with
  | false =>
      obtain ⟨hcounts, hcatalog, hhandled⟩ := clocked.act_of_not_isFrame hframe
      rw [hcounts, hcatalog, hhandled]
      exact ⟨rfl, rfl⟩
  | true =>
      obtain ⟨key, data, rfl⟩ := Action.isFrame_iff.mp hframe
      have hcounts : (clocked.act (.operate (.input (.frame key data)))).translator.router.counts = _ :=
        Router.counts_frame hsound.indexed key data clocked.now
      have hrefusals :
          (clocked.act (.operate (.input (.frame key data)))).translator.router.catalog.refusals = _ :=
        Router.refusals_frame hsound.indexed key data clocked.now
      rw [hcounts, hrefusals]
      simp [handled, List.countP_cons]

/-- As many frames are handled as the actions deliver. -/
theorem length_along_handled (clocked : Clocked) (actions : List Action) :
    (along handled clocked actions).length = actions.countP Action.isFrame := by
  induction actions generalizing clocked with
  | nil => rfl
  | cons action rest ih =>
      have hone : (clocked.handled action).length = [action].countP Action.isFrame := by
        unfold handled Action.isFrame
        split <;> simp
      rw [along, List.length_append, hone, ih, ← List.countP_append, List.singleton_append]

/-- **Every frame is counted once.**  The counts of frames and of refusals after a run
are larger by the numbers of such frames that the run handled. -/
theorem acts_frames (hsound : clocked.translator.router.Sound) (actions : List Action) :
    let before := clocked.translator.counts
    let after := (clocked.acts actions).translator.counts
    let frames := along handled clocked actions
    after.frames =
        { processed := before.frames.processed + actions.countP Action.isFrame
          translated := before.frames.translated + frames.countP (·.fate == .translated)
          passedThrough := before.frames.passedThrough + frames.countP (·.fate == .passedThrough)
          ignored := before.frames.ignored + frames.countP (·.fate == .ignored) } ∧
      after.refused = before.refused + frames.countP Handled.turnedAway := by
  intro before after frames
  have hprocessed : after.frames.processed = before.frames.processed + frames.length := by
    rw [← List.countP_true]
    refine acts_countP (·.translator.counts.frames.processed) (fun clocked h action => ?_)
      hsound actions
    rw [List.countP_true]
    exact congrArg FrameCounts.processed (counts_act h action).1
  have htranslated : after.frames.translated = _ :=
    acts_countP (·.translator.counts.frames.translated)
      (fun _ h action => congrArg FrameCounts.translated (counts_act h action).1) hsound actions
  have hpassed : after.frames.passedThrough = _ :=
    acts_countP (·.translator.counts.frames.passedThrough)
      (fun _ h action => congrArg FrameCounts.passedThrough (counts_act h action).1) hsound actions
  have hignored : after.frames.ignored = _ :=
    acts_countP (·.translator.counts.frames.ignored)
      (fun _ h action => congrArg FrameCounts.ignored (counts_act h action).1) hsound actions
  have hrefused : after.refused = _ :=
    acts_countP (·.translator.counts.refused) (fun _ h action => (counts_act h action).2) hsound actions
  refine ⟨?_, hrefused⟩
  rw [FrameCounts.mk.injEq, ← length_along_handled clocked]
  exact ⟨hprocessed, htranslated, hpassed, hignored⟩

/-- Every frame has one of three fates. -/
theorem length_eq_countP_fates (frames : List Handled) :
    frames.length = frames.countP (·.fate == .translated) +
      frames.countP (·.fate == .passedThrough) + frames.countP (·.fate == .ignored) := by
  induction frames with
  | nil => rfl
  | cons frame rest ih =>
      rw [List.length_cons, List.countP_cons, List.countP_cons, List.countP_cons, ih]
      cases frame.fate <;> simp <;> omega

end Clocked

/-! ## Messages -/

/-- The counts after some messages were sent in a format. -/
def PipelineCounts.after (counts : PipelineCounts) (format : OutputFormat)
    (messages : List Message) : PipelineCounts where
  sent := counts.sent + messages.countP Message.isAccepted
  bytes := counts.bytes + (format.outputs messages).flatten.length
  dropped := counts.dropped + messages.countP fun message => !message.isAccepted

theorem PipelineCounts.after_append (counts : PipelineCounts) (format : OutputFormat)
    (front back : List Message) :
    (counts.after format front).after format back = counts.after format (front ++ back) := by
  simp only [after, List.countP_append, OutputFormat.outputs_append, List.flatten_append,
    List.length_append, Nat.add_assoc]

/-- Counted from nothing, the messages that were sent are those that have an output. -/
theorem PipelineCounts.after_zero (format : OutputFormat) (messages : List Message) :
    let counts := PipelineCounts.after {} format messages
    let outputs := format.outputs messages
    counts.sent + counts.dropped = messages.length ∧ counts.sent = outputs.length ∧
      counts.bytes = (outputs.map List.length).sum := by
  intro counts outputs
  refine ⟨?_, ?_, ?_⟩
  · have hsplit : messages.length = _ := List.length_eq_countP_add_countP Message.isAccepted
    simp [counts, after, hsplit]
  · simp [counts, outputs, after, OutputFormat.outputs, List.countP_eq_length_filter]
  · simp [counts, outputs, after, List.length_flatten]

/-- A message that is refused has no output, -/
theorem OutputFormat.outputs_of_refused (format : OutputFormat) {message : Message}
    (h : ¬ message.isAccepted) (front back : List Message) :
    format.outputs (front ++ message :: back) = format.outputs (front ++ back) := by
  simp only [outputs, List.filter_append, List.filter_cons_of_neg h]

/-- and is counted as dropped, whatever comes after it. -/
theorem PipelineCounts.after_of_refused {counts : PipelineCounts} {format : OutputFormat}
    {message : Message} (h : ¬ message.isAccepted) (front back : List Message) :
    counts.after format (front ++ message :: back) =
      { counts.after format (front ++ back) with
        dropped := (counts.after format (front ++ back)).dropped + 1 } := by
  simp only [after, format.outputs_of_refused h, List.countP_append,
    List.countP_cons_of_neg h]
  simp [h]
  omega

namespace Clocked

variable {clocked : Clocked}

/-- What an action does to the pipeline in front of a buffer: the messages that it
gives are counted, and their outputs are taken at once or wait behind the others. -/
theorem act_pipeline {waiting : List Bytes}
    (hsink : clocked.translator.pipeline.sink = .buffer waiting) (action : Action) :
    let pipeline := clocked.translator.pipeline
    let after := (clocked.act action).translator.pipeline
    after.format = pipeline.format ∧
      after.counts = pipeline.counts.after pipeline.format (clocked.given action) ∧
      ∃ waiting', after.sink = .buffer waiting' ∧
        clocked.taken action ++ waiting'.reverse =
          waiting.reverse ++ pipeline.format.outputs (clocked.given action) := by
  intro pipeline after
  cases action with
  | operate operation =>
      have hafter : after = pipeline.sendAll (clocked.messages operation) :=
        clocked.step_pipeline operation
      rw [hafter, Pipeline.sendAll_eq, hsink, Sink.acceptAll_buffer]
      refine ⟨rfl, ?_, _, rfl, ?_⟩
      · simp only [PipelineCounts.after, List.countP_eq_length_filter]
        rfl
      · rw [List.reverse_append, List.reverse_reverse]
        rfl
  | take =>
      have hafter : after = { pipeline with sink := .buffer [] } := by
        show { pipeline with sink := pipeline.sink.take.1 } = _
        rw [hsink]
        rfl
      have htaken : clocked.taken .take = waiting.reverse := by
        show pipeline.sink.take.2 = _
        rw [hsink]
        rfl
      rw [hafter, htaken]
      exact ⟨rfl, rfl, [], rfl, rfl⟩
  | flush =>
      have hafter : after = pipeline := by
        have hflush : pipeline.flush = .ok pipeline := by
          rw [Pipeline.flush, hsink]
          show Except.ok { pipeline with sink := .buffer waiting } = _
          rw [← hsink]
        show (clocked.act .flush).translator.pipeline = _
        rw [act, Translator.flush, hflush]
        rfl
      rw [hafter]
      refine ⟨rfl, rfl, waiting, hsink, ?_⟩
      show waiting.reverse = waiting.reverse ++ []
      rw [List.append_nil]

/-- **Nothing gets lost behind the pipeline.**  In front of a buffer, the outputs that
were taken and those that wait are together the encodings of the accepted messages, in
the order in which the messages were given. -/
theorem acts_pipeline {waiting : List Bytes}
    (hsink : clocked.translator.pipeline.sink = .buffer waiting) (actions : List Action) :
    let pipeline := clocked.translator.pipeline
    let after := (clocked.acts actions).translator.pipeline
    let messages := along given clocked actions
    after.counts = pipeline.counts.after pipeline.format messages ∧
      along taken clocked actions ++ after.sink.waiting =
        waiting.reverse ++ pipeline.format.outputs messages := by
  induction actions generalizing clocked waiting with
  | nil =>
      refine ⟨rfl, ?_⟩
      show [] ++ clocked.translator.pipeline.sink.waiting = waiting.reverse ++ []
      rw [hsink, List.nil_append, List.append_nil]
      rfl
  | cons action rest ih =>
      obtain ⟨hformat, hcounts, waiting', hsink', houtputs⟩ := act_pipeline hsink action
      obtain ⟨hcountsRest, houtputsRest⟩ := ih hsink'
      rw [hformat] at hcountsRest houtputsRest
      refine ⟨?_, ?_⟩
      · rw [along, ← PipelineCounts.after_append, ← hcounts, ← hcountsRest]
        rfl
      · rw [along, along, OutputFormat.outputs_append, ← List.append_assoc, ← houtputs,
          List.append_assoc, List.append_assoc, ← houtputsRest]
        rfl

/-! ## Refused messages -/

/-- The router, and so the messages of a run, do not depend on the pipeline. -/
theorem act_congr {a b : Clocked} (h : SameFront a b) (action : Action) :
    SameFront (a.act action) (b.act action) ∧ a.given action = b.given action := by
  cases action with
  | operate operation =>
      obtain ⟨hstep, -, hmessages⟩ := step_congr h operation
      exact ⟨hstep, hmessages⟩
  | take => exact ⟨⟨h.router, h.now⟩, rfl⟩
  | flush =>
      have hfront : ∀ clocked : Clocked, SameFront (clocked.act .flush) clocked := by
        intro clocked
        rw [act]
        cases hflush : clocked.translator.pipeline.flush <;>
          simp [Translator.flush, hflush, bind, Except.bind, pure, Except.pure] <;>
          exact ⟨rfl, rfl⟩
      have ha := hfront a
      have hb := hfront b
      exact ⟨⟨ha.router.trans (h.router.trans hb.router.symm),
        ha.now.trans (h.now.trans hb.now.symm)⟩, rfl⟩

/-- Two translators with the same router and time stay so, and are given the same
messages. -/
theorem acts_congr {a b : Clocked} (h : SameFront a b) (actions : List Action) :
    SameFront (a.acts actions) (b.acts actions) ∧
      along given a actions = along given b actions := by
  induction actions generalizing a b with
  | nil => exact ⟨h, rfl⟩
  | cons action rest ih =>
      obtain ⟨hact, hgiven⟩ := act_congr h action
      obtain ⟨hacts, hrest⟩ := ih hact
      refine ⟨hacts, ?_⟩
      rw [along, along, hgiven, hrest]

/-- A message from elsewhere does not show in the router, and the run goes on as if it
had not been sent. -/
theorem acts_send (clocked : Clocked) (front back : List Action) (message : Message) :
    SameFront (clocked.acts (front ++ .operate (.send message) :: back))
        (clocked.acts (front ++ back)) ∧
      along given clocked (front ++ .operate (.send message) :: back) =
        along given clocked front ++ message :: along given (clocked.acts front) back ∧
      along given clocked (front ++ back) =
        along given clocked front ++ along given (clocked.acts front) back := by
  have hsend : SameFront ((clocked.acts front).act (.operate (.send message))) (clocked.acts front) :=
    ⟨rfl, rfl⟩
  obtain ⟨hacts, hgiven⟩ := acts_congr hsend back
  refine ⟨?_, ?_, along_append _ _ _ _⟩
  · rw [acts_append, acts_append]
    exact hacts
  · rw [along_append, along, hgiven]
    rfl

/-- What a run on an unused pipeline with an empty buffer counts and puts out. -/
theorem acts_unused {made : Clocked} {format : OutputFormat}
    (hpipeline : made.translator.pipeline = { format, sink := .emptyBuffer })
    (actions : List Action) :
    (made.acts actions).translator.pipeline.counts =
        PipelineCounts.after {} format (along given made actions) ∧
      along taken made actions ++ (made.acts actions).translator.pipeline.sink.waiting =
        format.outputs (along given made actions) := by
  have hsink : made.translator.pipeline.sink = .buffer [] := by rw [hpipeline]; rfl
  have h := acts_pipeline hsink actions
  rw [hpipeline] at h
  exact h

/-- A refused message leaves its trace in the number of dropped ones alone. -/
theorem acts_send_refused {made : Clocked} {format : OutputFormat}
    (hpipeline : made.translator.pipeline = { format, sink := .emptyBuffer })
    {message : Message} {fault : Fault} (hfault : format.encode message = .error fault)
    (front back : List Action) :
    let after := (made.acts (front ++ .operate (.send message) :: back)).translator
    let without := (made.acts (front ++ back)).translator
    after.router = without.router ∧
      along taken made (front ++ .operate (.send message) :: back) ++
          after.pipeline.sink.waiting =
        along taken made (front ++ back) ++ without.pipeline.sink.waiting ∧
      after.pipeline.counts =
        { without.pipeline.counts with dropped := without.pipeline.counts.dropped + 1 } := by
  intro after without
  have hrefused : ¬ message.isAccepted := by
    rw [Message.isAccepted_iff]
    intro hbounded
    rw [OutputFormat.encode_of_bounded format hbounded] at hfault
    cases hfault
  obtain ⟨hfront, hgiven, hgivenWithout⟩ := acts_send made front back message
  obtain ⟨hcounts, houtputs⟩ :=
    acts_unused hpipeline (front ++ .operate (.send message) :: back)
  obtain ⟨hcountsWithout, houtputsWithout⟩ := acts_unused hpipeline (front ++ back)
  refine ⟨hfront.router, ?_, ?_⟩
  · rw [houtputs, houtputsWithout, hgiven, hgivenWithout,
      OutputFormat.outputs_of_refused format hrefused]
  · rw [hcounts, hcountsWithout, hgiven, hgivenWithout, PipelineCounts.after_of_refused hrefused]

/-- **Counts and output agree.**  Whatever a program does with a new translator in front
of a buffer: each frame is counted once and under its fate, and refused exactly if it
was passed on and its key is not cataloged after it; each message that was given is
counted as sent or dropped, and the outputs that were taken and those that still wait
are the encodings of the messages that have one, in order.  What becomes of a message
has no influence on the messages that follow, and a message that is refused changes
nothing but the number of dropped ones. -/
theorem counts_agree {made : Clocked} {announced : List Config.Bus} {format : OutputFormat}
    (hmade : made.translator.Made announced)
    (hcatalog : made.translator.router.catalog.refusals = 0)
    (hpipeline : made.translator.pipeline = { format, sink := .emptyBuffer })
    (actions : List Action) :
    let after := (made.acts actions).translator
    let counts := after.counts
    let frames := along handled made actions
    let messages := along given made actions
    let outputs := along taken made actions ++ after.pipeline.sink.waiting
    (counts.frames.processed = actions.countP Action.isFrame ∧
        counts.frames.processed =
          counts.frames.translated + counts.frames.passedThrough + counts.frames.ignored ∧
        counts.frames.translated = frames.countP (·.fate == .translated) ∧
        counts.frames.passedThrough = frames.countP (·.fate == .passedThrough) ∧
        counts.frames.ignored = frames.countP (·.fate == .ignored)) ∧
      (counts.cataloged = after.router.catalog.definitions.length ∧
        counts.refused = frames.countP Handled.turnedAway) ∧
      (counts.messages.sent + counts.messages.dropped = messages.length ∧
        outputs = messages.filterMap (fun message => (format.encode message).toOption) ∧
        counts.messages.sent = outputs.length ∧
        counts.messages.bytes = (outputs.map List.length).sum) ∧
      (∀ other : Clocked, SameFront made other → along given other actions = messages) ∧
      ∀ front message fault back, actions = front ++ .operate (.send message) :: back →
        format.encode message = .error fault →
        let without := (made.acts (front ++ back)).translator
        after.router = without.router ∧
          outputs = along taken made (front ++ back) ++ without.pipeline.sink.waiting ∧
          counts.messages =
            { without.counts.messages with dropped := without.counts.messages.dropped + 1 } := by
  intro after counts frames messages outputs
  have hbefore : made.translator.counts.frames = {} := hmade.unused
  obtain ⟨hmessages, houtputs⟩ := acts_unused hpipeline actions
  obtain ⟨hframes, hrefused⟩ := acts_frames hmade.sound actions
  obtain ⟨hgiven, hsent, hbytes⟩ := PipelineCounts.after_zero format messages
  rw [← hmessages, ← houtputs] at hsent hbytes
  rw [← hmessages] at hgiven
  refine ⟨?_, ⟨rfl, ?_⟩, ⟨hgiven, ?_, hsent, hbytes⟩, ?_, ?_⟩
  · simp only [hbefore, Nat.zero_add] at hframes
    show after.counts.frames.processed = _ ∧ _
    rw [hframes, ← length_along_handled made actions]
    exact ⟨rfl, length_eq_countP_fates _, rfl, rfl, rfl⟩
  · have hnone : made.translator.counts.refused = 0 := hcatalog
    rw [hnone, Nat.zero_add] at hrefused
    exact hrefused
  · show along taken made actions ++ after.pipeline.sink.waiting = _
    rw [houtputs, OutputFormat.outputs_eq_filterMap]
  · exact fun other hfront => (acts_congr hfront actions).2.symm
  · rintro front message fault back rfl hfault
    exact acts_send_refused hpipeline hfault front back

/-- Six frames, of which one finds no room in the catalog, and a text that is too long,
sent after the outputs were taken. -/
theorem counts_agree_two_buses :
    let made : Clocked :=
      ⟨⟨Router.configured twoBuses, { format := .json, sink := .emptyBuffer }⟩, 0⟩
    let long : Message := .text "horn" ("".pushn 'o' 101)
    let front : List Action := [.operate (.input (.frame ⟨1, 0x128⟩ 5)), .take,
      .operate (.input (.frame ⟨2, 0x7E8⟩ 7))]
    let back : List Action := [.operate (.input (.frame ⟨1, 0x200⟩ 5)),
      .operate (.input (.frame ⟨1, 0x201⟩ 5)), .operate (.input (.frame ⟨1, 0x202⟩ 5)),
      .operate (.input (.frame ⟨3, 0x202⟩ 5))]
    let actions := front ++ .operate (.send long) :: back
    made.translator.Made twoBuses.buses ∧
      OutputFormat.json.encode long = .error (.tooLong .value 101 valueLimit) ∧
      (made.acts actions).translator.counts =
        { frames := ⟨6, 1, 4, 1⟩, cataloged := 4, refused := 1, messages := ⟨5, 214, 1⟩ } ∧
      (made.acts actions).translator.counts.refused =
        (along handled made actions).countP Handled.turnedAway ∧
      along taken made actions ++ (made.acts actions).translator.pipeline.sink.waiting =
        (along given made actions).filterMap
          (fun message => (OutputFormat.json.encode message).toOption) ∧
      (made.acts actions).translator.router = (made.acts (front ++ back)).translator.router := by
  intro made long front back actions
  have hbuilt : Translator.ofVehicle twoBuses .emptyBuffer =
      .ok (made.translator, [.ready 2 2 .json]) := rfl
  have hmade : made.translator.Made twoBuses.buses := .configured hbuilt
  have hlong : OutputFormat.json.encode long = .error (.tooLong .value 101 valueLimit) := by
    decide +kernel
  have hcounts : (made.acts actions).translator.counts =
      { frames := ⟨6, 1, 4, 1⟩, cataloged := 4, refused := 1, messages := ⟨5, 214, 1⟩ } := by
    decide +kernel
  have hpipeline : made.translator.pipeline = { format := .json, sink := .emptyBuffer } := rfl
  have hactions : actions = front ++ .operate (.send long) :: back := rfl
  obtain ⟨-, ⟨-, hrefused⟩, ⟨-, houtputs, -⟩, -, hsend⟩ := counts_agree hmade rfl hpipeline actions
  obtain ⟨hrouter, -⟩ := hsend front long _ back hactions hlong
  exact ⟨hmade, hlong, hcounts, hrefused, houtputs, hrouter⟩

end Clocked

end VehicleBus
