import VehicleBus.Proofs.Translator.Accounting

/-!
# Warnings count losses

In front of a buffer each step of the frame path logs one notice: a message that it was
written out or dropped, and a notice itself (`Pipeline.performAll_buffer`).  So the log of
a run can be read off its steps.

Losses are logged by two parts that do not know of each other.  The pipeline warns of
every message that it drops.  The catalog warns of the first key that finds no room, and
mentions later ones in lines that a log need not show; that line of notices is
`Catalog.refusalNotices`, and `Clocked.losses_along` says that it is what a run leaves
of them.
-/

namespace VehicleBus

open Wire (Bytes)

/-! ## Kinds of notices -/

namespace Notice

def isWarning (notice : Notice) : Bool := notice.level == .warn

/-- A key found no room in the catalog. -/
def isRefusal : Notice → Bool
  | refused _ _ _ => true
  | _ => false

/-- A message was dropped. -/
def isDrop : Notice → Bool
  | dropped _ _ => true
  | _ => false

/-- A message was dropped or a key refused. -/
def isLoss (notice : Notice) : Bool := notice.isWarning || notice.isRefusal

/-- What is warned about is a loss. -/
theorem isLoss_of_isWarning {notice : Notice} (h : notice.isWarning = true) :
    notice.isLoss = true := by
  rw [isLoss, h, Bool.true_or]

/-- A refusal is a loss. -/
theorem isLoss_of_isRefusal {notice : Notice} (h : notice.isRefusal = true) :
    notice.isLoss = true := by
  rw [isLoss, h, Bool.or_true]

/-- A dropped message is warned about. -/
theorem isWarning_of_isDrop {notice : Notice} (h : notice.isDrop = true) :
    notice.isWarning = true := by
  cases notice with
  | dropped format fault => rfl
  | _ => cases h

/-- Among the losses all of a kind are found that is one of losses. -/
theorem filter_losses {p : Notice → Bool} (h : ∀ notice, p notice = true → notice.isLoss = true)
    (notices : List Notice) : (notices.filter isLoss).filter p = notices.filter p := by
  rw [List.filter_filter]
  apply List.filter_congr
  intro notice _
  cases hnotice : p notice
  · rfl
  · rw [h notice hnotice, Bool.true_and]

end Notice

/-- What is logged about a message that is sent into a buffer. -/
def OutputFormat.noticeOf (format : OutputFormat) (message : Message) : Notice :=
  match format.encode message with
  | .ok bytes => .serialized bytes
  | .error fault => .dropped format fault

/-- A message is noted as dropped exactly if it is not accepted. -/
theorem OutputFormat.isDrop_noticeOf (format : OutputFormat) (message : Message) :
    (format.noticeOf message).isDrop = !message.isAccepted := by
  rw [noticeOf, encode_eq, Message.isAccepted]
  cases message.overlong? <;> rfl

/-- About messages, only the dropped ones are warned of. -/
theorem OutputFormat.isWarning_noticeOf (format : OutputFormat) (message : Message) :
    (format.noticeOf message).isWarning = !message.isAccepted := by
  rw [noticeOf, encode_eq, Message.isAccepted]
  cases message.overlong? <;> rfl

/-- No message is noted as refused. -/
theorem OutputFormat.isRefusal_noticeOf (format : OutputFormat) (message : Message) :
    (format.noticeOf message).isRefusal = false := by
  unfold noticeOf
  split <;> rfl

/-! ## Steps and their notices -/

namespace Step

/-- What is logged of a step in front of a buffer. -/
def notice (format : OutputFormat) : Step → Notice
  | send message => format.noticeOf message
  | note notice => notice

@[simp] theorem notices_append (front back : List Step) :
    notices (front ++ back) = notices front ++ notices back := List.filterMap_append

theorem mem_notices {steps : List Step} {notice : Notice} :
    notice ∈ notices steps ↔ .note notice ∈ steps := by
  rw [notices, List.mem_filterMap]
  constructor
  · rintro ⟨step, hmember, hnotice⟩
    cases step with
    | send message => cases hnotice
    | note other =>
        cases hnotice
        exact hmember
  · exact fun hmember => ⟨_, hmember, rfl⟩

/-- A notice of some steps is about a message or is one of their own. -/
theorem countP_notice (format : OutputFormat) (p : Notice → Bool) (steps : List Step) :
    (steps.map (notice format)).countP p =
      (messages steps).countP (p ∘ format.noticeOf) + (notices steps).countP p := by
  induction steps with
  | nil => rfl
  | cons step rest ih =>
      rw [List.map_cons, List.countP_cons, ih]
      cases step with
      | send message =>
          show _ = (message :: messages rest).countP (p ∘ format.noticeOf) + (notices rest).countP p
          rw [List.countP_cons, Function.comp_apply, notice]
          omega
      | note own =>
          show _ = (messages rest).countP (p ∘ format.noticeOf) + (own :: notices rest).countP p
          rw [List.countP_cons, notice]
          omega

/-- Notices of a kind that messages do not have are those of the steps themselves, -/
theorem filter_notice_of_own {format : OutputFormat} {p : Notice → Bool}
    (h : ∀ message, p (format.noticeOf message) = false) (steps : List Step) :
    (steps.map (notice format)).filter p = (notices steps).filter p := by
  induction steps with
  | nil => rfl
  | cons step rest ih =>
      rw [List.map_cons, List.filter_cons, ih]
      cases step with
      | send message => rw [notice, h message, if_neg Bool.false_ne_true]; rfl
      | note own => exact List.filter_cons.symm

/-- and notices of a kind that only messages have are those of the messages. -/
theorem filter_notice_of_messages {format : OutputFormat} {p : Notice → Bool} {steps : List Step}
    (h : (notices steps).filter p = []) :
    (steps.map (notice format)).filter p =
      ((messages steps).filter (p ∘ format.noticeOf)).map format.noticeOf := by
  induction steps with
  | nil => rfl
  | cons step rest ih =>
      rw [List.map_cons, List.filter_cons]
      cases step with
      | send message =>
          show _ = ((message :: messages rest).filter (p ∘ format.noticeOf)).map format.noticeOf
          rw [ih h, notice, List.filter_cons, Function.comp_apply]
          split <;> rfl
      | note own =>
          have hown : (own :: notices rest).filter p = [] := h
          rw [List.filter_cons] at hown
          split at hown
          · cases hown
          · rename_i hother
            rw [notice, if_neg hother]
            exact ih hown

end Step

namespace Pipeline

variable {pipeline : Pipeline} {waiting : List Bytes}

/-- A message that is sent into a buffer logs one notice. -/
theorem send_buffer (h : pipeline.sink = .buffer waiting) (message : Message) :
    (pipeline.send message).2 = [pipeline.format.noticeOf message] ∧
      (pipeline.send message).1.format = pipeline.format ∧
      ∃ waiting', (pipeline.send message).1.sink = .buffer waiting' := by
  rw [send, OutputFormat.noticeOf, h]
  cases pipeline.format.encode message with
  | ok bytes => exact ⟨rfl, rfl, bytes :: waiting, rfl⟩
  | error fault => exact ⟨rfl, rfl, waiting, rfl⟩

/-- **Each step logs one notice.** -/
theorem performAll_buffer (h : pipeline.sink = .buffer waiting) (steps : List Step) :
    (pipeline.performAll steps).2 = steps.map (Step.notice pipeline.format) := by
  induction steps generalizing pipeline waiting with
  | nil => rfl
  | cons step rest ih =>
      cases step with
      | send message =>
          obtain ⟨hnotices, hformat, waiting', hsink⟩ := send_buffer h message
          have hrest := ih hsink
          rw [hformat] at hrest
          show (pipeline.send message).2 ++ ((pipeline.send message).1.performAll rest).2 = _
          rw [hnotices, hrest]
          rfl
      | note own => exact congrArg (own :: ·) (ih h)

end Pipeline

/-! ## Refusals -/

namespace Catalog

/-- What is logged of keys that find no room, after some others did not either. -/
def refusalNotices (capacity before : Nat) (keys : List Key) : List Notice :=
  keys.mapIdx fun place key => .refused (before + place == 0) key capacity

/-- Refusals are numbered on from those before them. -/
theorem refusalNotices_append (capacity before : Nat) (front back : List Key) :
    refusalNotices capacity before (front ++ back) =
      refusalNotices capacity before front ++
        refusalNotices capacity (before + front.length) back := by
  simp only [refusalNotices, List.mapIdx_append, Nat.add_comm, Nat.add_left_comm]

theorem filter_refusalNotices {p : Notice → Bool}
    (h : ∀ first key capacity, p (.refused first key capacity) = true) (capacity before : Nat)
    (keys : List Key) :
    (refusalNotices capacity before keys).filter p = refusalNotices capacity before keys := by
  rw [List.filter_eq_self]
  intro notice hmember
  obtain ⟨place, hplace, rfl⟩ := List.mem_mapIdx.mp hmember
  exact h _ _ _

/-- Only the first refusal of all is a warning. -/
theorem countP_isWarning_refusalNotices (capacity : Nat) (keys : List Key) :
    (refusalNotices capacity 0 keys).countP Notice.isWarning = if keys.length = 0 then 0 else 1 := by
  cases keys with
  | nil => rfl
  | cons key rest =>
      have hlater : (refusalNotices capacity 1 rest).countP Notice.isWarning = 0 := by
        rw [List.countP_eq_zero]
        intro notice hmember
        obtain ⟨place, hplace, rfl⟩ := List.mem_mapIdx.mp hmember
        have hbefore : (1 + place == 0) = false := by simp
        rw [hbefore]
        exact Bool.false_ne_true
      have hsplit := refusalNotices_append capacity 0 [key] rest
      rw [List.singleton_append] at hsplit
      rw [hsplit, List.countP_append, List.length_singleton, Nat.zero_add, hlater]
      rfl

/-- All refusals read alike, and only the level tells the first of all. -/
theorem map_level_text_refusalNotices (capacity : Nat) (keys : List Key) :
    (refusalNotices capacity 0 keys).map (fun notice => (notice.level, notice.text)) =
      keys.mapIdx fun place key =>
        (if place = 0 then Level.warn else Level.debug, (Fault.catalogFull key capacity).message) := by
  rw [refusalNotices, List.mapIdx_eq_zipIdx_map, List.mapIdx_eq_zipIdx_map, List.map_map]
  apply List.map_congr_left
  rintro ⟨key, place⟩ _
  cases place with
  | zero => rfl
  | succ place =>
      have hlater : (0 + (place + 1) == 0) = false := by simp
      simp only [Function.comp_apply, hlater, if_neg (Nat.succ_ne_zero place)]
      rfl

/-- What a frame that is passed on logs of losses: that its key found no room. -/
theorem losses_pass (catalog : Catalog) (key : Key) (data : Payload) (now : Time) :
    (Step.notices (catalog.pass key data now).2).filter Notice.isLoss =
      if ((catalog.pass key data now).1.find? key).isSome then []
      else [.refused (catalog.refusals == 0) key catalog.capacity] := by
  have hforward : ∀ send,
      (Step.notices [forward key data send]).filter Notice.isLoss = [] := by
    intro send
    cases send <;> rfl
  simp only [find?_isSome_iff_mem_keys, keys_pass]
  obtain hknown | ⟨hnew, hroom⟩ | ⟨hnew, hfull⟩ := catalog.mem_or_room_or_full key
  · obtain ⟨definition, hfound⟩ := exists_find?_of_mem hknown
    rw [(pass_of_find? hfound data now).2, enroll_of_mem hknown, if_pos hknown]
    exact hforward _
  · rw [enroll_of_new hnew hroom, if_pos (List.mem_append_right _ List.mem_cons_self)]
    simp only [pass, find?_eq_none_iff.mpr hnew, register_of_new hnew hroom]
    exact hforward true
  · rw [enroll_of_full hfull, if_neg hnew]
    simp only [pass, find?_eq_none_iff.mpr hnew, register_of_full hnew hfull]
    cases (catalog.refusals == 0) <;> rfl

end Catalog

/-- A call logs nothing but that its handler had no value. -/
theorem Call.losses_steps (call : Call) (notice : Notice) (h : .note notice ∈ call.steps) :
    notice.isLoss = false := by
  rw [steps, Channel.steps] at h
  split at h
  · split at h
    · cases List.mem_singleton.mp h
    · cases List.mem_singleton.mp h
      rfl
  · cases h

/-- What a frame logs of losses. -/
theorem Router.losses_frame {router : Router} (hindexed : router.Indexed) (key : Key)
    (data : Payload) (now : Time) :
    (Step.notices (router.frame key data now).2).filter Notice.isLoss =
      if Handled.turnedAway
        ⟨router.fate key, ((router.frame key data now).1.catalog.find? key).isSome⟩ then
        [.refused (router.catalog.refusals == 0) key router.catalog.capacity]
      else [] := by
  by_cases hsignals : router.channelsOf key = []
  · rw [frame_undecoded hindexed hsignals]
    by_cases hforwards : router.forwards key.bus = true
    · simp only [if_pos hforwards, Catalog.losses_pass, Handled.turnedAway, fate, hsignals]
      cases ((router.catalog.pass key data now).1.find? key).isSome <;> rfl
    · simp only [if_neg hforwards, Handled.turnedAway, fate, hsignals]
      rfl
  · have hquiet : ¬ Handled.turnedAway
        ⟨router.fate key, ((router.frame key data now).1.catalog.find? key).isSome⟩ = true := by
      simp [Handled.turnedAway, fate, hsignals]
    rw [if_neg hquiet, frame_steps_eq_calls hindexed hsignals, List.filter_eq_nil_iff]
    intro notice hmember
    rw [Bool.not_eq_true]
    rcases List.mem_cons.mp (Step.mem_notices.mp hmember) with hfirst | hcalls
    · cases hfirst
      rfl
    · obtain ⟨call, -, hstep⟩ := List.mem_flatMap.mp hcalls
      exact call.losses_steps notice hstep

/-- A frame does not change the capacity of the catalog. -/
theorem Router.capacity_frame (router : Router) (key : Key) (data : Payload) (now : Time) :
    (router.frame key data now).1.catalog.capacity = router.catalog.capacity := by
  rcases router.catalog_frame key data now with hcatalog | ⟨-, hcatalog⟩
  · rw [hcatalog]
  · rw [hcatalog]
    exact (router.catalog.serve_counts (.pass key data now)).1

/-! ## Runs -/

namespace Clocked

/-- The steps that an action takes, in order. -/
def steps (clocked : Clocked) : Action → List Step
  | .operate (.input (.frame key data)) =>
    (clocked.translator.router.frame key data clocked.now).2
  | .operate (.send message) => [.send message]
  | _ => []

/-- The notices that an action logs, in order. -/
def logged (clocked : Clocked) : Action → List Notice
  | .operate (.input (.frame key data)) => (clocked.translator.frame key data clocked.now).2
  | .operate (.send message) => (clocked.translator.send message).2
  | _ => []

/-- The key of a frame that an action delivers to a catalog without room. -/
def refusedKeys (clocked : Clocked) : Action → List Key
  | .operate (.input (.frame key data)) =>
    let router := clocked.translator.router
    if Handled.turnedAway
      ⟨router.fate key, ((router.frame key data clocked.now).1.catalog.find? key).isSome⟩ then [key]
    else []
  | _ => []

variable {clocked : Clocked}

/-- The messages among the steps of an action are those that it is given. -/
theorem messages_steps (clocked : Clocked) (action : Action) :
    Step.messages (clocked.steps action) = clocked.given action := by
  cases action with
  | operate operation =>
      cases operation with
      | input input => cases input <;> rfl
      | addBus bus => rfl
      | addChannel channel => rfl
      | setHandler name handler => rfl
      | send message => rfl
  | take => rfl
  | flush => rfl

theorem along_messages_steps (clocked : Clocked) (actions : List Action) :
    Step.messages (along steps clocked actions) = along given clocked actions := by
  induction actions generalizing clocked with
  | nil => rfl
  | cons action rest ih =>
      rw [along, along, Step.messages_append, messages_steps, ih]

/-- An action logs the notices of its steps. -/
theorem logged_buffer {waiting : List Bytes}
    (hsink : clocked.translator.pipeline.sink = .buffer waiting) (action : Action) :
    clocked.logged action =
      (clocked.steps action).map (Step.notice clocked.translator.pipeline.format) := by
  cases action with
  | operate operation =>
      cases operation with
      | input input =>
          cases input with
          | clock now => rfl
          | frame key data => exact Pipeline.performAll_buffer hsink _
      | addBus bus => rfl
      | addChannel channel => rfl
      | setHandler name handler => rfl
      | send message => exact (Pipeline.send_buffer hsink message).1
  | take => rfl
  | flush => rfl

/-- **A log is read off the steps of its run.** -/
theorem along_logged {waiting : List Bytes}
    (hsink : clocked.translator.pipeline.sink = .buffer waiting) (actions : List Action) :
    along logged clocked actions =
      (along steps clocked actions).map (Step.notice clocked.translator.pipeline.format) := by
  induction actions generalizing clocked waiting with
  | nil => rfl
  | cons action rest ih =>
      obtain ⟨hformat, -, waiting', hsink', -⟩ := act_pipeline hsink action
      have hrest := ih hsink'
      rw [hformat] at hrest
      rw [along, along, List.map_append, ← logged_buffer hsink action, hrest]

/-- What an action logs of losses besides those of messages, and how it counts them. -/
theorem losses_act (hsound : clocked.translator.router.Sound) (action : Action) :
    let catalog := clocked.translator.router.catalog
    let after := (clocked.act action).translator.router.catalog
    (Step.notices (clocked.steps action)).filter Notice.isLoss =
        Catalog.refusalNotices catalog.capacity catalog.refusals (clocked.refusedKeys action) ∧
      after.refusals = catalog.refusals + (clocked.refusedKeys action).length ∧
      after.capacity = catalog.capacity := by
  intro catalog after
  cases hframe : action.isFrame with
  | false =>
      obtain ⟨-, hcatalog, -⟩ := clocked.act_of_not_isFrame hframe
      have hsteps : Step.notices (clocked.steps action) = [] := by
        unfold steps
        split
        · cases hframe
        · rfl
        · rfl
      have hkeys : clocked.refusedKeys action = [] := by
        unfold refusedKeys
        split
        · cases hframe
        · rfl
      rw [hsteps, hkeys, show after = catalog from hcatalog]
      exact ⟨rfl, rfl, rfl⟩
  | true =>
      obtain ⟨key, data, rfl⟩ := Action.isFrame_iff.mp hframe
      have hlosses := Router.losses_frame hsound.indexed key data clocked.now
      have hrefusals := Router.refusals_frame hsound.indexed key data clocked.now
      refine ⟨hlosses.trans ?_, hrefusals.trans ?_, Router.capacity_frame _ key data clocked.now⟩
      · rw [refusedKeys]
        split <;> rfl
      · rw [refusedKeys]
        split <;> rfl

/-- **What a run logs of refusals**, and how many it counts. -/
theorem losses_along (hsound : clocked.translator.router.Sound) (actions : List Action) :
    let catalog := clocked.translator.router.catalog
    let keys := along refusedKeys clocked actions
    (Step.notices (along steps clocked actions)).filter Notice.isLoss =
        Catalog.refusalNotices catalog.capacity catalog.refusals keys ∧
      (clocked.acts actions).translator.counts.refused = catalog.refusals + keys.length := by
  induction actions generalizing clocked with
  | nil => exact ⟨rfl, rfl⟩
  | cons action rest ih =>
      obtain ⟨hlosses, hrefusals, hcapacity⟩ := losses_act hsound action
      obtain ⟨hlossesRest, hrefusalsRest⟩ := ih (act_sound hsound action)
      rw [hrefusals, hcapacity] at hlossesRest
      refine ⟨?_, ?_⟩
      · rw [along, along, Step.notices_append, List.filter_append, hlosses, hlossesRest,
          Catalog.refusalNotices_append]
      · rw [along, List.length_append, ← Nat.add_assoc, ← hrefusals]
        exact hrefusalsRest

/-! ## Logs -/

variable {waiting : List Bytes}

/-- The lines of a log that report refusals, -/
theorem filter_isRefusal_logged (hsink : clocked.translator.pipeline.sink = .buffer waiting)
    (hsound : clocked.translator.router.Sound) (actions : List Action) :
    (along logged clocked actions).filter Notice.isRefusal =
      Catalog.refusalNotices clocked.translator.router.catalog.capacity
        clocked.translator.router.catalog.refusals (along refusedKeys clocked actions) := by
  rw [along_logged hsink, Step.filter_notice_of_own (OutputFormat.isRefusal_noticeOf _),
    ← Notice.filter_losses fun _ => Notice.isLoss_of_isRefusal, (losses_along hsound actions).1]
  exact Catalog.filter_refusalNotices (fun _ _ _ => rfl) _ _ _

/-- those that report dropped messages, -/
theorem filter_isDrop_logged (hsink : clocked.translator.pipeline.sink = .buffer waiting)
    (hsound : clocked.translator.router.Sound) (actions : List Action) :
    (along logged clocked actions).filter Notice.isDrop =
      ((along given clocked actions).filter fun message => !message.isAccepted).map
        clocked.translator.pipeline.format.noticeOf := by
  have hnone : (Step.notices (along steps clocked actions)).filter Notice.isDrop = [] := by
    rw [← Notice.filter_losses fun _ h => Notice.isLoss_of_isWarning (Notice.isWarning_of_isDrop h),
      (losses_along hsound actions).1, List.filter_eq_nil_iff]
    intro notice hmember
    obtain ⟨place, hplace, rfl⟩ := List.mem_mapIdx.mp hmember
    exact Bool.false_ne_true
  rw [along_logged hsink, Step.filter_notice_of_messages hnone, along_messages_steps]
  congr 2
  funext message
  exact OutputFormat.isDrop_noticeOf _ message

/-- and the number of warnings. -/
theorem countP_isWarning_logged (hsink : clocked.translator.pipeline.sink = .buffer waiting)
    (hsound : clocked.translator.router.Sound) (actions : List Action) :
    (along logged clocked actions).countP Notice.isWarning =
      ((along given clocked actions).countP fun message => !message.isAccepted) +
        (Catalog.refusalNotices clocked.translator.router.catalog.capacity
          clocked.translator.router.catalog.refusals
          (along refusedKeys clocked actions)).countP Notice.isWarning := by
  rw [along_logged hsink, Step.countP_notice, along_messages_steps,
    ← (losses_along hsound actions).1]
  congr 1
  · congr 1
    funext message
    exact OutputFormat.isWarning_noticeOf _ message
  · rw [List.countP_eq_length_filter, List.countP_eq_length_filter,
      Notice.filter_losses fun _ => Notice.isLoss_of_isWarning]

/-- **Warnings count losses.**  In a run of a new translator in front of a buffer there are
as many warnings as messages that were dropped, and one more if a key found no room in the
catalog.  Each dropped message is reported in a line of its own, a warning.  The refusals
are reported in the order of the frames, with the same text, the first one as a warning
and all others below that, and there are as many of these lines as are counted. -/
theorem warnings_count_losses {made : Clocked} {announced : List Config.Bus}
    {format : OutputFormat} (hmade : made.translator.Made announced)
    (hcatalog : made.translator.router.catalog.refusals = 0)
    (hpipeline : made.translator.pipeline = { format, sink := .emptyBuffer })
    (actions : List Action) :
    let counts := (made.acts actions).translator.counts
    let capacity := made.translator.router.catalog.capacity
    let log := along logged made actions
    let messages := along given made actions
    let keys := along refusedKeys made actions
    log.countP Notice.isWarning =
        counts.messages.dropped + (if counts.refused = 0 then 0 else 1) ∧
      (log.filter Notice.isDrop =
          (messages.filter fun message => !message.isAccepted).map format.noticeOf ∧
        (log.filter Notice.isDrop).length = counts.messages.dropped ∧
        ∀ notice ∈ log, notice.isDrop = true → notice.level = .warn) ∧
      (log.filter Notice.isRefusal).map (fun notice => (notice.level, notice.text)) =
          keys.mapIdx (fun place key =>
            (if place = 0 then Level.warn else Level.debug,
              (Fault.catalogFull key capacity).message)) ∧
        (log.filter Notice.isRefusal).length = counts.refused := by
  intro counts capacity log messages keys
  have hsink : made.translator.pipeline.sink = .buffer [] := by rw [hpipeline]; rfl
  have hformat : made.translator.pipeline.format = format := by rw [hpipeline]
  have hdropped : counts.messages.dropped = messages.countP fun message => !message.isAccepted := by
    have h : counts.messages.dropped = (PipelineCounts.after {} format messages).dropped :=
      congrArg PipelineCounts.dropped (acts_unused hpipeline actions).1
    rw [h, PipelineCounts.after]
    exact Nat.zero_add _
  have hrefused : counts.refused = keys.length := by
    have h := (losses_along hmade.sound actions).2
    rwa [hcatalog, Nat.zero_add] at h
  have hwarnings := countP_isWarning_logged hsink hmade.sound actions
  have hdrops := filter_isDrop_logged hsink hmade.sound actions
  have hrefusals := filter_isRefusal_logged hsink hmade.sound actions
  rw [hcatalog] at hwarnings hrefusals
  rw [hformat] at hdrops
  refine ⟨?_, ⟨hdrops, ?_, ?_⟩, ?_, ?_⟩
  · rw [hwarnings, Catalog.countP_isWarning_refusalNotices, hdropped, hrefused]
  · rw [hdrops, List.length_map, hdropped, List.countP_eq_length_filter]
  · exact fun notice _ hdrop => eq_of_beq (Notice.isWarning_of_isDrop hdrop)
  · rw [hrefusals, Catalog.map_level_text_refusalNotices]
  · rw [hrefusals, Catalog.refusalNotices, List.length_mapIdx, hrefused]

/-- Of five frames three find no room in the catalog, and one message is dropped before
the second of them. -/
theorem warnings_count_losses_two_buses :
    let made : Clocked :=
      ⟨⟨Router.configured twoBuses, { format := .json, sink := .emptyBuffer }⟩, 0⟩
    let actions : List Action := [.operate (.input (.frame ⟨1, 0x200⟩ 5)),
      .operate (.input (.frame ⟨1, 0x201⟩ 5)), .operate (.input (.frame ⟨1, 0x202⟩ 5)),
      .operate (.send (.text "horn" ("".pushn 'o' 101))),
      .operate (.input (.frame ⟨2, 0x203⟩ 5)), .operate (.input (.frame ⟨1, 0x202⟩ 6))]
    let log := along logged made actions
    made.translator.Made twoBuses.buses ∧ made.translator.router.catalog.refusals = 0 ∧
      (made.acts actions).translator.counts.messages.dropped = 1 ∧
      along refusedKeys made actions = [⟨1, 0x202⟩, ⟨2, 0x203⟩, ⟨1, 0x202⟩] ∧
      log.countP Notice.isWarning = 2 ∧ (log.filter Notice.isDrop).length = 1 ∧
      (log.filter Notice.isRefusal).map (fun notice => (notice.level, notice.text)) =
        [(.warn, (Fault.catalogFull ⟨1, 0x202⟩ 4).message),
          (.debug, (Fault.catalogFull ⟨2, 0x203⟩ 4).message),
          (.debug, (Fault.catalogFull ⟨1, 0x202⟩ 4).message)] := by
  intro made actions log
  have hbuilt : Translator.ofVehicle twoBuses .emptyBuffer =
      .ok (made.translator, [.ready 2 2 .json]) := rfl
  have hmade : made.translator.Made twoBuses.buses := .configured hbuilt
  have hdropped : (made.acts actions).translator.counts.messages.dropped = 1 := by decide +kernel
  have hrefused : (made.acts actions).translator.counts.refused = 3 := by decide +kernel
  have hkeys : along refusedKeys made actions = [⟨1, 0x202⟩, ⟨2, 0x203⟩, ⟨1, 0x202⟩] := by
    decide +kernel
  obtain ⟨hwarnings, ⟨-, hdrops, -⟩, hrefusals, -⟩ :=
    warnings_count_losses hmade rfl rfl actions
  rw [hdropped, hrefused] at hwarnings
  rw [hkeys] at hrefusals
  exact ⟨hmade, rfl, hdropped, hkeys, hwarnings, hdrops.trans hdropped, hrefusals⟩

end Clocked

end VehicleBus
