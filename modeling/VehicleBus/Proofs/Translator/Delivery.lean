import VehicleBus.Proofs.Translator.Isolation
import VehicleBus.Proofs.Translator.Lockstep
import VehicleBus.Proofs.Translator.Reach

/-!
# The frame path loses nothing

A message is dropped when one of its texts is too long.  The texts of the frame path
are names of signals and of states, which are checked when a channel is let into the
table, and answers of text strategies, which nobody checks.  So all that the frame
path can lose are such answers (`Clocked.frame_path_delivers`); `Call.overflows` says
which calls those are.

The limit for names of states and the one for values are two numbers; the first must
not exceed the second (`nameLimit_le_valueLimit`).
-/

namespace VehicleBus

/-- A text that is short enough for a name is short enough for a value. -/
theorem nameLimit_le_valueLimit : nameLimit ≤ valueLimit := by decide

/-! ## Refused messages -/

/-- A format refuses what is not accepted. -/
theorem OutputFormat.exists_encode_eq_error_iff {format : OutputFormat} {message : Message} :
    (∃ fault, format.encode message = .error fault) ↔ message.isAccepted = false := by
  rw [encode_eq, Message.isAccepted]
  cases message.overlong? <;> simp

/-- Frames that are passed on carry no text. -/
theorem Message.isAccepted_raw (key : Key) (data : Payload) :
    (Message.raw key data).isAccepted = true := rfl

/-! ## Calls -/

namespace Call

/-- Does a text strategy answer with a text that no message can carry, and leave it to
be sent? -/
def overflows (call : Call) : Bool :=
  match call.channel.handler with
  | .customText strategy =>
    match strategy call.sampled.1 call.table call.sampled.2.value call.sampled.2.send with
    | (some text, true) => decide (valueLimit < text.utf8ByteSize)
    | _ => false
  | _ => false

/-- Under a name that keeps its limit, only a text that is too long is refused. -/
theorem refused_iff_text {name : String} (hname : name.utf8ByteSize ≤ nameLimit)
    (translated : Translated) :
    (∃ message, translated.toMessage? name = some message ∧ message.isAccepted = false) ↔
      ∃ text, translated = .text (some text) ∧ valueLimit < text.utf8ByteSize := by
  have hrefused : ∀ message : Message, message.isAccepted = false ↔ ¬ message.Bounded := by
    intro message
    rw [← Message.isAccepted_iff, Bool.not_eq_true]
  cases translated with
  | numeric value => simp [Translated.toMessage?, hrefused, Message.Bounded, hname]
  | boolean value => simp [Translated.toMessage?, hrefused, Message.Bounded, hname]
  | text value =>
      cases value with
      | none => simp [Translated.toMessage?]
      | some text => simp [Translated.toMessage?, hrefused, Message.Bounded, hname]

/-- **What the frame path can lose.**  The report of a call of a valid channel is
refused exactly if a text strategy overflows. -/
theorem report?_refused_iff {call : Call} (hvalid : call.channel.Valid) :
    (∃ message, call.report? = some message ∧ message.isAccepted = false) ↔
      call.overflows = true := by
  have hreport : (∃ message, call.report? = some message ∧ message.isAccepted = false) ↔
      ∃ text, call.answer = (.text (some text), true) ∧ valueLimit < text.utf8ByteSize := by
    rw [report?]
    obtain ⟨translated, send⟩ := call.answer
    cases send with
    | false => simp
    | true => simpa using refused_iff_text hvalid.name translated
  rw [hreport, answer, overflows]
  cases hhandler : call.channel.handler with
  | passthrough => simp [Handler.apply]
  | boolean => simp [Handler.apply]
  | ignore => simp [Handler.apply]
  | state =>
      cases hfound : call.sampled.1.stateWithCode? call.sampled.2.value with
      | none => simp [Handler.apply, hfound]
      | some state =>
          -- The name of a state was checked, and its limit is that of a value.
          have hmember : state ∈ call.channel.signal.states := List.mem_of_find?_eq_some hfound
          have hlimit : state.name.utf8ByteSize ≤ valueLimit :=
            Nat.le_trans (hvalid.stateNames state hmember) nameLimit_le_valueLimit
          simp [Handler.apply, hfound, hlimit]
  | customNumeric strategy => simp [Handler.apply]
  | customBoolean strategy => simp [Handler.apply]
  | customText strategy =>
      simp only [Handler.apply]
      obtain ⟨text, send⟩ :=
        strategy call.sampled.1 call.table call.sampled.2.value call.sampled.2.send
      cases text <;> cases send <;> simp

end Call

/-! ## Frames -/

/-- The refused messages of a frame are counted by the calls that overflow. -/
theorem Router.Sound.countP_refused {router : Router} (h : router.Sound) (key : Key)
    (data : Payload) (now : Time) :
    (Step.messages (router.frame key data now).2).countP (fun message => !message.isAccepted) =
      (router.callsOf key data now).countP Call.overflows := by
  by_cases hsignals : router.channelsOf key = []
  · rw [callsOf_eq_nil hsignals, List.countP_nil]
    exact countP_messages_undecoded h.indexed hsignals (by simp [Message.isAccepted_raw])
  · rw [frame_messages_decoded h.indexed hsignals, List.countP_filterMap]
    apply List.countP_congr
    intro call hcall
    have hvalid := h.valid _ (channel_mem_of_mem_callsOf hcall).1
    rw [← Call.report?_refused_iff hvalid]
    cases call.report? <;> simp

/-! ## Runs -/

/-- A handler whose texts are never too long for a message. -/
def Handler.Brief (handler : Handler) : Prop :=
  ∀ strategy, handler = .customText strategy → ∀ signal table value send text,
    (strategy signal table value send).1 = some text → text.utf8ByteSize ≤ valueLimit

/-- An operation that brings no other handlers. -/
def Operation.Brief : Operation → Prop
  | addChannel channel => channel.handler.Brief
  | setHandler _ handler => handler.Brief
  | _ => True

/-- Built-in handlers report short texts only. -/
theorem Handler.IsBuiltIn.brief {handler : Handler} (h : handler.IsBuiltIn) : handler.Brief := by
  rintro strategy rfl
  exact h.elim

/-- A brief handler never overflows. -/
theorem Call.overflows_of_brief {call : Call} (h : call.channel.handler.Brief) :
    call.overflows = false := by
  rw [overflows]
  split
  · rename_i strategy hhandler
    split
    · rename_i text hanswer
      have hlimit := h strategy hhandler _ _ _ _ text (congrArg Prod.fst hanswer)
      simpa using hlimit
    · rfl
  · rfl

namespace Clocked

/-- The handler calls of an operation. -/
def callsOf (clocked : Clocked) : Operation → List Call
  | .input (.frame key data) => clocked.translator.router.callsOf key data clocked.now
  | _ => []

/-- The handler calls of a run, in order. -/
def runCalls : Clocked → List Operation → List Call
  | _, [] => []
  | clocked, operation :: rest => clocked.callsOf operation ++ runCalls (clocked.step operation) rest

/-- What holds of the channels in the tables of a run holds of those that are called. -/
theorem forall_runCalls {Holds : Clocked → Prop} {P : Channel → Prop} {operations : List Operation}
    (hchannels : ∀ clocked, Holds clocked → ∀ channel ∈ clocked.translator.router.channels, P channel)
    (hstep : ∀ clocked, Holds clocked → ∀ operation ∈ operations, Holds (clocked.step operation))
    {clocked : Clocked} (h : Holds clocked) :
    ∀ call ∈ clocked.runCalls operations, P call.channel := by
  induction operations generalizing clocked with
  | nil => simp [runCalls]
  | cons operation rest ih =>
      intro call hmember
      rcases List.mem_append.mp hmember with hnow | hlater
      · have hchannel : call.channel ∈ clocked.translator.router.channels := by
          unfold callsOf at hnow
          split at hnow
          · exact (Router.channel_mem_of_mem_callsOf hnow).1
          · cases hnow
        exact hchannels clocked h _ hchannel
      · exact ih (fun clocked h operation hoperation =>
          hstep clocked h operation (List.mem_cons_of_mem _ hoperation))
          (hstep clocked h operation List.mem_cons_self) call hlater

/-- Every operation keeps the router sound. -/
theorem step_sound {clocked : Clocked} (h : clocked.translator.router.Sound)
    (operation : Operation) : (clocked.step operation).translator.router.Sound :=
  act_sound h (.operate operation)

/-- All channels that a run calls are valid. -/
theorem valid_of_mem_runCalls {clocked : Clocked} (h : clocked.translator.router.Sound)
    {operations : List Operation} {call : Call} (hcall : call ∈ clocked.runCalls operations) :
    call.channel.Valid := by
  have hsteps : ∀ clocked : Clocked, clocked.translator.router.Sound →
      ∀ operation ∈ operations, (clocked.step operation).translator.router.Sound :=
    fun _ hsound operation _ => step_sound hsound operation
  exact forall_runCalls (fun _ hsound => hsound.valid) hsteps h call hcall

/-- Without messages from elsewhere, a run loses what its calls overflow. -/
theorem countP_refused_runMessages {clocked : Clocked} (h : clocked.translator.router.Sound)
    {operations : List Operation} (hsilent : ∀ message, .send message ∉ operations) :
    (clocked.runMessages operations).countP (fun message => !message.isAccepted) =
      (clocked.runCalls operations).countP Call.overflows := by
  induction operations generalizing clocked with
  | nil => rfl
  | cons operation rest ih =>
      have hrest := ih (step_sound h operation) fun message hmember =>
        hsilent message (List.mem_cons_of_mem _ hmember)
      have hnow : (clocked.messages operation).countP (fun message => !message.isAccepted) =
          (clocked.callsOf operation).countP Call.overflows := by
        cases operation with
        | input input =>
            cases input with
            | clock now => rfl
            | frame key data => exact h.countP_refused key data clocked.now
        | addBus bus => rfl
        | addChannel channel => rfl
        | setHandler name handler => rfl
        | send message => exact absurd List.mem_cons_self (hsilent message)
      rw [runMessages, runCalls, List.countP_append, List.countP_append, hnow, hrest]

/-- All handlers in the table are brief. -/
def Brief (clocked : Clocked) : Prop :=
  ∀ channel ∈ clocked.translator.router.channels, channel.handler.Brief

/-- They stay so unless an operation brings another one. -/
theorem step_brief {clocked : Clocked} (hsound : clocked.translator.router.Sound)
    (h : clocked.Brief) {operation : Operation} (hoperation : operation.Brief) :
    (clocked.step operation).Brief := by
  cases operation with
  | input input =>
      cases input with
      | clock now => exact h
      | frame key data =>
          intro channel hmember
          have hchannels : (clocked.step (.input (.frame key data))).translator.router.channels = _ :=
            Router.frame_channels hsound.indexed key data clocked.now
          rw [hchannels] at hmember
          obtain ⟨old, hold, rfl⟩ := List.mem_map.mp hmember
          rw [Channel.settleFor_handler]
          exact h old hold
  | addBus bus => exact h
  | addChannel channel =>
      rcases clocked.step_addChannel channel with ⟨extended, hadd, hrouter⟩ | hstep
      · obtain ⟨-, -, rfl⟩ := Router.addChannel_eq_ok_iff.mp hadd
        intro other hmember
        rw [hrouter] at hmember
        rcases List.mem_append.mp hmember with hold | hnew
        · exact h other hold
        · exact List.mem_singleton.mp hnew ▸ hoperation
      · rw [hstep]
        exact h
  | setHandler name handler =>
      rcases clocked.step_setHandler name handler with ⟨changed, hset, hrouter⟩ | hstep
      · obtain ⟨-, -, -, rfl⟩ := Router.setHandler_eq_ok hset
        intro other hmember
        rw [hrouter] at hmember
        obtain ⟨old, hold, rfl⟩ := List.mem_map.mp hmember
        unfold Router.giveHandler
        split
        · exact hoperation
        · exact h old hold
      · rw [hstep]
        exact h
  | send message => exact h

/-- No call of a run overflows if no handler can. -/
theorem not_overflows_of_mem_runCalls {clocked : Clocked} (hsound : clocked.translator.router.Sound)
    (h : clocked.Brief) {operations : List Operation}
    (hoperations : ∀ operation ∈ operations, operation.Brief) {call : Call}
    (hcall : call ∈ clocked.runCalls operations) : ¬ call.overflows := by
  have hsteps : ∀ clocked : Clocked, clocked.translator.router.Sound ∧ clocked.Brief →
      ∀ operation ∈ operations, (clocked.step operation).translator.router.Sound ∧
        (clocked.step operation).Brief := by
    rintro clocked ⟨hsound, h⟩ operation hmember
    exact ⟨step_sound hsound operation, step_brief hsound h (hoperations operation hmember)⟩
  have hbrief : call.channel.handler.Brief :=
    forall_runCalls (fun _ h => h.2) hsteps ⟨hsound, h⟩ call hcall
  rw [Call.overflows_of_brief hbrief]
  exact Bool.false_ne_true

/-- The handlers of a configuration are brief. -/
theorem brief_of_ofVehicle {vehicle : Config.Vehicle} {sink : Sink} {clocked : Clocked}
    {notices : List Notice}
    (hbuilt : Translator.ofVehicle vehicle sink = .ok (clocked.translator, notices)) :
    clocked.Brief := by
  obtain ⟨-, -, hrouter, -⟩ := Translator.ofVehicle_eq_ok hbuilt
  intro channel hmember
  rw [hrouter, Router.configured_channels] at hmember
  exact (vehicle.channels_builtIn channel hmember).brief

/-- **The frame path loses nothing but overlong answers.**  For a translator that was
built from a configuration and any run without messages from elsewhere: the reports
that cannot be encoded are those of the calls that overflow, and as many messages are
dropped.  If no text strategy is brought that can overflow, nothing is dropped; all
messages of the run are encoded and reach the sink. -/
theorem frame_path_delivers {vehicle : Config.Vehicle} {sink : Sink} {start : Clocked}
    {notices : List Notice}
    (hbuilt : Translator.ofVehicle vehicle sink = .ok (start.translator, notices))
    {operations : List Operation} (hsilent : ∀ message, .send message ∉ operations) :
    let pipeline := (start.run operations).translator.pipeline
    (∀ call ∈ start.runCalls operations,
      (∃ message fault, call.report? = some message ∧
        vehicle.format.encode message = .error fault) ↔ call.overflows = true) ∧
      pipeline.counts.dropped = (start.runCalls operations).countP Call.overflows ∧
      ((∀ operation ∈ operations, operation.Brief) →
        pipeline.counts.dropped = 0 ∧
        pipeline.counts.sent = (start.runMessages operations).length ∧
        ∃ outputs, (start.runMessages operations).map vehicle.format.encode = outputs.map .ok ∧
          pipeline.sink = sink.acceptAll outputs) := by
  intro pipeline
  obtain ⟨-, -, hrouter, hpipeline⟩ := Translator.ofVehicle_eq_ok hbuilt
  have hsound : start.translator.router.Sound := (Translator.Made.configured hbuilt).sound
  obtain ⟨hsent, hdropped⟩ := start.run_counts operations
  obtain ⟨outputs, hencode, hsink⟩ := start.run_sink operations
  rw [← List.countP_eq_length_filter, countP_refused_runMessages hsound hsilent, hpipeline,
    Nat.zero_add] at hdropped
  rw [hpipeline, Nat.zero_add] at hsent
  rw [hpipeline] at hencode hsink
  refine ⟨?_, hdropped, ?_⟩
  · intro call hcall
    have hvalid : call.channel.Valid := valid_of_mem_runCalls hsound hcall
    rw [← Call.report?_refused_iff hvalid]
    simp only [OutputFormat.exists_encode_eq_error_iff, exists_and_left]
  · intro hbrief
    have hnone : (start.runCalls operations).countP Call.overflows = 0 :=
      List.countP_eq_zero.mpr fun call hcall =>
        not_overflows_of_mem_runCalls hsound (brief_of_ofVehicle hbuilt) hbrief hcall
    have haccepted : start.accepted operations = start.runMessages operations := by
      rw [accepted, List.filter_eq_self]
      intro message hmember
      rw [← countP_refused_runMessages hsound hsilent] at hnone
      simpa using List.countP_eq_zero.mp hnone message hmember
    rw [haccepted] at hsent hencode
    exact ⟨hdropped.trans hnone, hsent, outputs, hencode, hsink⟩

/-- One frame answered with 101 bytes is lost, and two frames of a run whose handlers
are brief lose none of their three messages. -/
theorem frame_path_delivers_two_buses :
    let start : Clocked :=
      ⟨⟨Router.configured twoBuses, { format := .json, sink := .emptyBuffer }⟩, 0⟩
    let overlong : List Operation := [
      .addChannel {
        signal := { name := "load", key := ⟨1, 2⟩, position := 0, size := 8 }
        handler := .customText fun _ _ _ send =>
          (some (String.ofList (List.replicate 101 'x')), send) },
      .input (.frame ⟨1, 2⟩ 5), .input (.frame ⟨1, 0x128⟩ 5)]
    let brief : List Operation := [
      .setHandler "reverse" (.customNumeric fun _ _ value send => (value, send)),
      .input (.frame ⟨1, 0x128⟩ 5), .input (.frame ⟨2, 0x7E8⟩ 9)]
    Translator.ofVehicle twoBuses .emptyBuffer = .ok (start.translator, [.ready 2 2 .json]) ∧
      (start.run overlong).translator.pipeline.counts.dropped = 1 ∧
      (start.run brief).translator.pipeline.counts.dropped = 0 ∧
      (start.run brief).translator.pipeline.counts.sent = 3 := by
  intro start overlong brief
  have hbuilt : Translator.ofVehicle twoBuses .emptyBuffer =
      .ok (start.translator, [.ready 2 2 .json]) := rfl
  have hquiet : ∀ message, .send message ∉ overlong := by simp [overlong]
  have hsilent : ∀ message, .send message ∉ brief := by simp [brief]
  have hlost : (start.runCalls overlong).countP Call.overflows = 1 := by decide +kernel
  obtain ⟨-, hoverlong, -⟩ := frame_path_delivers hbuilt hquiet
  obtain ⟨-, -, hbrief⟩ := frame_path_delivers hbuilt hsilent
  obtain ⟨hnone, hsent, -⟩ := hbrief (by simp [brief, Operation.Brief, Handler.Brief])
  exact ⟨hbuilt, hoverlong.trans hlost, hnone, hsent⟩

end Clocked

end VehicleBus
