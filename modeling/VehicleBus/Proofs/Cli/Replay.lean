import VehicleBus.Proofs.Cli.Delivery

/-!
# Runs depend on frames

A run of the command that replays recorded times leaves the messages that a translator
with the chosen format gives away when it replays the frames of the log, up to the limit
(`Cli.run_replays`).  Lines without a frame, the verbosity, the host's clock, and where log
and messages are kept have no part in them, and a larger limit only adds messages.
-/

namespace VehicleBus

open Wire (Bytes)

namespace Cli

/-! ## Files of a run -/

/-- The bytes of an input: of a file, or of standard input. -/
def Host.inputBytes (host : Host) : Option String → Except HostFault Bytes
  | none => .ok host.input
  | some path => host.read path

/-- Where the messages go that given options ask for. -/
def Options.destination (options : Options) (host : Host) : Except Failure Destination :=
  match options.output with
  | none => .ok .standardOutput
  | some path => (host.destination path).mapError (.output path)

variable (clock : Nat → Time) {console : Console} {options : Options} {destination : Destination}

/-- The output of a run is its destination, which is cleared. -/
theorem output_run (h : options.destination console.host = .ok destination) :
    ((onHost clock).output options).run console = (.ok destination, console.clear destination) := by
  cases hpath : options.output with
  | none =>
      simp only [Options.destination, hpath, Except.ok.injEq] at h
      subst h
      simp only [Machine.output, hpath]
      rfl
  | some path =>
      simp only [Options.destination, hpath] at h
      cases hfound : console.host.destination path with
      | error cause => simp [hfound, Except.mapError] at h
      | ok found =>
          have hcreate : ((onHost clock).createFile path).run console =
              (.ok found, console.clear found) := by
            show console.create path = _
            rw [Console.create, hfound]
            rfl
          simp only [hfound, Except.mapError, Except.ok.injEq] at h
          subst h
          simp only [Machine.output, hpath]
          exact run_bind_of hcreate _

/-- The input of a run are the lines of its bytes. -/
theorem input_run {bytes : Bytes} (h : console.host.inputBytes options.input = .ok bytes) :
    ((onHost clock).input options).run console = (.ok ((linesOf bytes).map .ok), console) := by
  cases hpath : options.input with
  | none =>
      simp only [Host.inputBytes, hpath, Except.ok.injEq] at h
      subst h
      simp only [Machine.input, hpath]
      rfl
  | some path =>
      simp only [Host.inputBytes, hpath] at h
      have hopen : ((onHost clock).openFile path).run console =
          (.ok ((linesOf bytes).map .ok), console) := by
        show (console.host.lines path, console) = _
        rw [Host.lines, h]
        rfl
      simp only [Machine.input, hpath]
      exact run_bind_of hopen _

/-! ## Sessions -/

namespace Session

/-- A session before its first line. -/
def opened (options : Options) (translator : Translator) : Session where
  translator := translator
  recordedTime := options.recordedTime
  limit := options.limit

/-- A session that was just opened replays as many frames as its options allow. -/
theorem replayed_opened (options : Options) (translator : Translator) (frames : List Frame) :
    (opened options translator).replayed frames = translator.pipeline.format.outputs
      (translator.router.asked 0 (within options.limit frames)) := by
  have hroom : (opened options translator).room = options.limit := by
    cases hlimit : options.limit <;> simp [room, opened, hlimit]
  rw [replayed, hroom]
  rfl

/-- A configuration that is built for one sink starts a session on any other. -/
theorem start_of_built {vehicle : Config.Vehicle} {translator : Translator}
    {notices : List Notice} {unused : Sink}
    (hbuilt : Translator.ofVehicle vehicle unused = .ok (translator, notices))
    (options : Options) (sink : Sink) :
    ∃ reports, start options vehicle sink =
      .ok (opened options ⟨translator.router, { format := vehicle.format, sink }⟩, reports) := by
  obtain ⟨hvalid, hkeys, hrouter, -⟩ := Translator.ofVehicle_eq_ok hbuilt
  have hrouters := Router.ofVehicle_of_nodup hvalid hkeys
  rw [start, Translator.ofVehicle_eq, hrouters, hrouter]
  exact ⟨_, rfl⟩

end Session

/-! ## Translators -/

variable {vehicle : Config.Vehicle} {translator : Translator} {notices : List Notice}

/-- What a translator with an empty buffer gives away are the encodings in its format. -/
theorem replayed_of_built
    (hbuilt : Translator.ofVehicle vehicle .emptyBuffer = .ok (translator, notices))
    (frames : List Frame) :
    translator.replayed frames = vehicle.format.outputs (translator.router.asked 0 frames) := by
  obtain ⟨-, -, -, hpipeline⟩ := Translator.ofVehicle_eq_ok hbuilt
  rw [← Translator.replayed_eq, ← hpipeline]

/-- What a translator gives away grows with the frames. -/
theorem replayed_isPrefix_of_built
    (hbuilt : Translator.ofVehicle vehicle .emptyBuffer = .ok (translator, notices))
    {front frames : List Frame} (h : front <+: frames) :
    translator.replayed front <+: translator.replayed frames := by
  obtain ⟨more, hmore⟩ := translator.router.asked_isPrefix 0 h
  rw [replayed_of_built hbuilt, replayed_of_built hbuilt, ← hmore, OutputFormat.outputs_append]
  exact List.prefix_append _ _

/-! ## Runs -/

/-- The format of a configuration that was loaded is the one that the options ask for. -/
theorem Options.format_of_vehicle {options : Options} {file : Except HostFault Bytes}
    (h : options.vehicle file = .ok vehicle) {format : OutputFormat}
    (hformat : options.format = some format) : vehicle.format = format := by
  unfold Options.vehicle at h
  split at h
  · cases h
  split at h
  · cases h
  split at h
  · cases h
  split at h
  · cases h
  · cases h
    simp [hformat]

/-- A run that replays a log at its recorded times: from the arguments and the host to
the options, the configuration, the destination of the messages and the text of the log. -/
structure Replays (surroundings : Surroundings) (arguments : List String) (options : Options)
    (vehicle : Config.Vehicle) (destination : Destination) (text : List Char) : Prop where
  requested : Request.ofArguments arguments = .ok (.run options)
  recordedTime : options.recordedTime = true
  loaded : options.vehicle (surroundings.host.read options.config) = .ok vehicle
  reached : options.destination surroundings.host = .ok destination
  keeps : destination.keeps = true
  /-- The file of the messages is emptied before the log is read. -/
  log : (surroundings.host.write destination []).inputBytes options.input = .ok (utf8 text)

variable {surroundings : Surroundings} {arguments : List String} {text : List Char}

/-- A replaying run meets no failure, and its messages are those of the translator. -/
theorem Replays.perform (h : Replays surroundings arguments options vehicle destination text)
    (hbuilt : Translator.ofVehicle vehicle .emptyBuffer = .ok (translator, notices)) :
    ∃ after, ((onHost surroundings.clock).perform options).run { host := surroundings.host } =
        (none, after) ∧
      after.messages? destination =
        some (translator.replayed (within options.limit (Frame.inLog text))).flatten := by
  obtain ⟨opened, hopening, hopened⟩ :=
    report_sameFiles surroundings.clock options opening { host := surroundings.host }
  have hread : ((onHost surroundings.clock).readFile options.config).run opened =
      (opened.host.read options.config, opened) := rfl
  have hvehicle : options.vehicle (opened.host.read options.config) = .ok vehicle := by
    rw [hopened.host]
    exact h.loaded
  obtain ⟨loaded, hconfig, hloaded⟩ :=
    report_sameFiles surroundings.clock options [.configLoaded options.config] opened
  have hfiles := hopened.trans hloaded
  have hreached : options.destination loaded.host = .ok destination := by
    rw [hfiles.host]
    exact h.reached
  have houtput := output_run surroundings.clock hreached
  obtain ⟨reports, hstart⟩ := Session.start_of_built hbuilt options (.blocks {})
  obtain ⟨started, hreports, hstarted⟩ :=
    report_sameFiles surroundings.clock options reports (loaded.clear destination)
  have hlog : started.host.inputBytes options.input = .ok (utf8 text) := by
    rw [hstarted.host, Console.clear, hfiles.host]
    exact h.log
  have hempty : started.messages? destination = some [] := by
    rw [hstarted.messages?]
    exact Console.messages?_clear h.keeps hfiles.standardOutput
  have hdelivers : (Session.opened options ⟨translator.router,
      { format := vehicle.format, sink := .blocks {} }⟩).Delivers started destination [] :=
    ⟨{}, [], rfl, ⟨rfl, rfl⟩, hempty, rfl⟩
  obtain ⟨lines, hlines, hframes⟩ := exists_linesOf_utf8 text
  have hinput := input_run surroundings.clock hlog
  rw [hlines] at hinput
  obtain ⟨last, replayed, hreplay, hmessages⟩ :=
    replay_texts surroundings.clock h.keeps options hdelivers h.recordedTime lines
  obtain ⟨after, hsummary, hafter⟩ :=
    report_sameFiles surroundings.clock options last.summary replayed
  refine ⟨after, ?_, ?_⟩
  · refine (run_bind_of hopening _).trans ((run_bind_of hread _).trans ?_)
    simp only [hvehicle]
    refine (run_bind_of hconfig _).trans ((run_bind_of houtput _).trans ?_)
    simp only [hstart]
    refine (run_bind_of hreports _).trans ((run_bind_of hinput _).trans ?_)
    exact (run_bind_of hreplay _).trans (run_bind_of hsummary _)
  · rw [hafter.messages?, hmessages, hframes, Session.replayed_opened, List.nil_append,
      replayed_of_built hbuilt]

/-- A replaying run succeeds, and its messages are those of the translator. -/
theorem Replays.outcome (h : Replays surroundings arguments options vehicle destination text)
    (hbuilt : Translator.ofVehicle vehicle .emptyBuffer = .ok (translator, notices)) :
    (run surroundings arguments).code = 0 ∧
      (run surroundings arguments).messages? destination =
        some (translator.replayed (within options.limit (Frame.inLog text))).flatten := by
  obtain ⟨after, hperform, hmessages⟩ := h.perform hbuilt
  have hcommand : ((onHost surroundings.clock).command arguments).run
      { host := surroundings.host } = (0, after) := by
    simp only [Machine.command, h.requested]
    exact run_bind_of hperform _
  rw [run, hcommand]
  exact ⟨rfl, (Console.messages?_outcome after 0 destination).trans hmessages⟩

/-- **Runs depend on frames.**  A run that replays a log succeeds, and leaves what a
translator in the format asked for gives away on the frames of the log up to the limit.
Other arguments for verbosity and limit replay the same log.  A second run with the same
configuration, on a log with the same readable lines, leaves the same bytes if its limit
is the same, and these bytes with others behind them if its limit is larger.  Lines that
are not readable may be put in or left out anywhere (`Frame.linesIn_insert`). -/
theorem run_replays
    (hbuilt : Translator.ofVehicle vehicle .emptyBuffer = .ok (translator, notices))
    (hrun : Replays surroundings arguments options vehicle destination text) :
    (run surroundings arguments).code = 0 ∧
      (run surroundings arguments).messages? destination =
        some (translator.replayed (within options.limit (Frame.inLog text))).flatten ∧
      (∀ format, options.format = some format → translator.pipeline.format = format) ∧
      (∀ arguments' verbosity quiet limit,
        Request.ofArguments arguments' = .ok (.run { options with verbosity, quiet, limit }) →
          Replays surroundings arguments' { options with verbosity, quiet, limit } vehicle
            destination text) ∧
      ∀ surroundings' arguments' options' destination' text',
        Replays surroundings' arguments' options' vehicle destination' text' →
        Frame.linesIn text' = Frame.linesIn text →
          (options'.limit = options.limit →
            (run surroundings' arguments').messages? destination' =
              (run surroundings arguments).messages? destination) ∧
          ((∀ more ∈ options'.limit, ∃ fewer ∈ options.limit, fewer ≤ more) →
            ∃ rest, (run surroundings' arguments').messages? destination' =
              ((run surroundings arguments).messages? destination).map (· ++ rest)) := by
  obtain ⟨hcode, hmessages⟩ := hrun.outcome hbuilt
  refine ⟨hcode, hmessages, ?_, ?_, ?_⟩
  · intro format hformat
    obtain ⟨-, -, -, hpipeline⟩ := Translator.ofVehicle_eq_ok hbuilt
    rw [hpipeline]
    exact Options.format_of_vehicle hrun.loaded hformat
  · intro arguments' verbosity quiet limit hrequested
    exact ⟨hrequested, hrun.recordedTime, hrun.loaded, hrun.reached, hrun.keeps, hrun.log⟩
  · intro surroundings' arguments' options' destination' text' hrun' hlines
    have hmessages' := (hrun'.outcome hbuilt).2
    rw [Frame.inLog_congr hlines] at hmessages'
    refine ⟨fun hlimit => ?_, fun hlimit => ?_⟩
    · rw [hmessages', hmessages, hlimit]
    · obtain ⟨rest, hrest⟩ := replayed_isPrefix_of_built hbuilt
        (within_isPrefix hlimit (Frame.inLog text))
      refine ⟨rest.flatten, ?_⟩
      rw [hmessages', hmessages, ← hrest, List.flatten_append]
      rfl

/-- A vehicle with one bus, all of whose frames are forwarded. -/
def oneBus : Config.Vehicle where
  buses := [{ address := 1, rawPassthrough := true }]

/-- A host with this vehicle in a file, and a log in another one. -/
def loggingHost (log : List Char) : Host :=
  .ofFiles (.ofPath "/work")
    [("car.toml", utf8 "[[buses]]\naddress = 1\nraw_passthrough = true\n".toList),
      ("frames.log", utf8 log)]
    "frames.log"

/-- Two frames, with nothing between them. -/
def plainLog : List Char := "(2.5) can1 128#05\n1 7E8#02\n".toList

/-- The same frames between a comment, a blank line, and a line with half a byte. -/
def noisyLog : List Char := "; start\n(2.5) can1 128#05\n\n(9.0) can1 128#0\n1 7E8#02".toList

/-- The lines that only one of these logs has hold no frame. -/
theorem linesIn_noisyLog : Frame.linesIn noisyLog = Frame.linesIn plainLog := by
  let first := "(2.5) can1 128#05".toList
  let second := "1 7E8#02".toList
  have hnoisy : noisyLog = "; start".toList ++ '\n' :: (first ++ '\n' :: ([] ++ '\n' ::
      ("(9.0) can1 128#0".toList ++ '\n' :: second))) := by decide +kernel
  have hplain : plainLog = first ++ '\n' :: (second ++ '\n' :: []) := by decide +kernel
  have hend : Frame.linesIn [] = [] := by decide +kernel
  calc Frame.linesIn noisyLog
      = Frame.linesIn (first ++ '\n' :: second) := by
        rw [hnoisy, Frame.linesIn_skip (by decide +kernel) (by decide +kernel),
          Frame.linesIn_insert (by decide +kernel) (by decide +kernel),
          Frame.linesIn_insert (by decide +kernel) (by decide +kernel)]
    _ = Frame.linesIn plainLog := by
        rw [hplain, Frame.linesIn_append, Frame.linesIn_append first, Frame.linesIn_append second,
          hend, List.append_nil]

/-- One frame of the plain log goes to a file, and that message also comes first when the
whole noisy log goes to standard output. -/
theorem run_replays_one_bus :
    (run { host := loggingHost plainLog }
        ["-c", "car.toml", "-o", "out.json", "--replay-time", "--max-frames", "1"]).messages?
          (.file ⟨["out.json", "work"]⟩) =
      some (utf8 "\x7b\"bus\":1,\"id\":296,\"data\":\"0x0500000000000000\"\x7d\r\n".toList) ∧
    ∃ rest, (run { host := loggingHost noisyLog, clock := UInt64.ofNat }
        ["-vvqc", "car.toml", "--input=frames.log", "--replay-time"]).messages?
          .standardOutput =
      some (utf8 "\x7b\"bus\":1,\"id\":296,\"data\":\"0x0500000000000000\"\x7d\r\n".toList
        ++ rest) := by
  have hbuilt : Translator.ofVehicle oneBus .emptyBuffer =
      .ok (⟨Router.configured oneBus, { format := .json, sink := .emptyBuffer }⟩,
        [.ready 0 1 .json]) := rfl
  have hplain : Replays { host := loggingHost plainLog }
      ["-c", "car.toml", "-o", "out.json", "--replay-time", "--max-frames", "1"]
      { config := "car.toml", input := none, output := some "out.json", format := none,
        recordedTime := true, limit := some 1, verbosity := 0, quiet := false }
      oneBus (.file ⟨["out.json", "work"]⟩) plainLog :=
    ⟨by decide +kernel, rfl, by decide +kernel, by decide +kernel, rfl, by decide +kernel⟩
  have hnoisy : Replays { host := loggingHost noisyLog, clock := UInt64.ofNat }
      ["-vvqc", "car.toml", "--input=frames.log", "--replay-time"]
      { config := "car.toml", input := some "frames.log", output := none, format := none,
        recordedTime := true, limit := none, verbosity := 2, quiet := true }
      oneBus .standardOutput noisyLog :=
    ⟨by decide +kernel, rfl, by decide +kernel, by decide +kernel, rfl, by decide +kernel⟩
  obtain ⟨-, hmessages, -, -, hsecond⟩ := run_replays hbuilt hplain
  obtain ⟨-, hmore⟩ := hsecond _ _ _ _ _ hnoisy linesIn_noisyLog
  obtain ⟨rest, hrest⟩ := hmore (by simp)
  have hbytes : (Translator.replayed
      ⟨Router.configured oneBus, { format := .json, sink := .emptyBuffer }⟩
      (within (some 1) (Frame.inLog plainLog))).flatten =
      utf8 "\x7b\"bus\":1,\"id\":296,\"data\":\"0x0500000000000000\"\x7d\r\n".toList := by
    decide +kernel
  rw [hbytes] at hmessages
  refine ⟨hmessages, rest, ?_⟩
  rw [hrest, hmessages]
  rfl

end Cli

end VehicleBus
