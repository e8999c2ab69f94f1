import VehicleBus.Cli.Run
import VehicleBus.Proofs.BlockWriter
import VehicleBus.Proofs.Cli.Session

/-!
# Messages reach their destination

On a host, what a session hands to its sink is written to a destination block by block.
The bytes that lie there and those that still wait are together all that came so far
(`Cli.Session.Delivers`).  A step of a session keeps it that way (`Cli.deliver_delivers`),
so does a whole input (`Cli.eachLine_texts`), and at the end nothing waits
(`Cli.replay_texts`).
-/

namespace VehicleBus

open Wire (Bytes)

namespace Cli

/-! ## Destinations -/

/-- Does a destination keep what is written to it, apart from everything else? -/
def Destination.keeps : Destination → Bool
  | .standardOutput => true
  | .file _ => true
  | _ => false

/-- The messages that a run left at a destination, if this keeps any. -/
def Outcome.messages? (outcome : Outcome) : Destination → Option Bytes
  | .standardOutput => some outcome.standardOutput
  | .file place => outcome.host.file? place
  | _ => none

/-- What was written to a file is found there. -/
theorem Host.file?_write (host : Host) (place : Place) (bytes : Bytes) :
    (host.write (.file place) bytes).file? place = some bytes := by
  simp [Host.write, Host.file?]

namespace Console

/-- The messages that lie at a destination by now, if this keeps any. -/
def messages? (console : Console) (destination : Destination) : Option Bytes :=
  (console.outcome 0).messages? destination

/-- The exit code has no part in the messages. -/
theorem messages?_outcome (console : Console) (code : Nat) (destination : Destination) :
    (console.outcome code).messages? destination = console.messages? destination := by
  cases destination <;> rfl

/-- Two consoles that differ in their logs only. -/
structure SameFiles (before after : Console) : Prop where
  host : after.host = before.host
  standardOutput : after.standardOutput = before.standardOutput

variable {console before after later : Console} {destination : Destination}

/-- What differs in logs only before and after differs in logs only. -/
theorem SameFiles.trans (h : SameFiles before after) (h' : SameFiles after later) :
    SameFiles before later :=
  ⟨h'.host.trans h.host, h'.standardOutput.trans h.standardOutput⟩

/-- The log is kept apart from the messages. -/
theorem SameFiles.messages? (h : SameFiles before after) (destination : Destination) :
    after.messages? destination = before.messages? destination := by
  cases destination <;> simp [Console.messages?, outcome, Outcome.messages?, h.host,
    h.standardOutput]

/-- A destination that keeps messages is empty once it is cleared, if nothing was printed
before. -/
theorem messages?_clear (hkeeps : destination.keeps = true)
    (hprinted : console.standardOutput = []) :
    (console.clear destination).messages? destination = some [] := by
  cases destination with
  | standardOutput => simp [messages?, clear, outcome, Outcome.messages?, hprinted]
  | file place => exact Host.file?_write console.host place []
  | _ => cases hkeeps

/-- A destination that keeps messages takes more of them behind those that lie there. -/
theorem messages?_write (hkeeps : destination.keeps = true) {held : Bytes}
    (hheld : console.messages? destination = some held) (bytes : Bytes) :
    ∃ after, console.write destination bytes = (.ok (), after) ∧
      after.messages? destination = some (held ++ bytes) := by
  cases destination with
  | standardOutput =>
      refine ⟨_, rfl, ?_⟩
      have hflat : console.standardOutput.reverse.flatten = held := Option.some.inj hheld
      simp [messages?, outcome, Outcome.messages?, hflat]
  | file place =>
      refine ⟨_, rfl, ?_⟩
      have hfile : console.host.file? place = some held := hheld
      rw [hfile]
      exact Host.file?_write console.host place (held ++ bytes)
  | _ => cases hkeeps

end Console

/-! ## Runs on a host -/

/-- What follows a computation starts where this ends. -/
theorem run_bind_of {α β : Type} {x : StateM Console α} {console after : Console} {value : α}
    (h : x.run console = (value, after)) (rest : α → StateM Console β) :
    (x >>= rest).run console = (rest value).run after := by
  rw [StateT.run_bind, h]
  rfl

variable (clock : Nat → Time) {console : Console} {destination : Destination}

/-- Reports go to the log. -/
theorem report_sameFiles (options : Options) (reports : List Report) (console : Console) :
    ∃ after, ((onHost clock).report options reports).run console = ((), after) ∧
      console.SameFiles after := by
  rw [Machine.report]
  induction reports.filter (·.shownFrom options.threshold) generalizing console with
  | nil => exact ⟨console, rfl, rfl, rfl⟩
  | cons report rest ih =>
      have hlog : console.SameFiles (console.log report.line) := ⟨rfl, rfl⟩
      obtain ⟨after, hrun, hsame⟩ := ih (console.log report.line)
      exact ⟨after, hrun, hlog.trans hsame⟩

/-! ## Sessions on a host -/

/-- What lies at a destination and what waits in the sink of a session are together some
bytes. -/
def Session.Delivers (session : Session) (console : Console) (destination : Destination)
    (bytes : Bytes) : Prop :=
  ∃ writer held, session.translator.pipeline.sink = .blocks writer ∧ writer.Sound ∧
    console.messages? destination = some held ∧ held ++ writer.bytes = bytes

variable {α : Type} (step : Session → Session × α) {session next : Session} {value : α}
  {bytes : Bytes} {outputs : List Bytes}

/-- What a session gives away is what its sink passed on, and the sink keeps the rest. -/
theorem take_of_blocks {writer : BlockWriter}
    (h : session.translator.pipeline.sink = .blocks writer) :
    session.take.2 = writer.passed.reverse.flatten ∧
      session.take.1.translator.pipeline.sink = .blocks { writer with passed := [] } := by
  simp [Session.take, Translator.take, Pipeline.take, h, Sink.take]

/-- What the sink passes on in a step comes behind what lies at the destination. -/
theorem deliver_run (hkeeps : destination.keeps = true) (hstep : step session = (next, value))
    {writer : BlockWriter} (hsink : next.translator.pipeline.sink = .blocks writer) {held : Bytes}
    (hheld : console.messages? destination = some held) :
    ∃ after, ((onHost clock).deliver destination step session).run console =
        ((next.take.1, value), after) ∧
      after.messages? destination = some (held ++ writer.passed.reverse.flatten) := by
  have htaken := (take_of_blocks hsink).1
  by_cases hempty : next.take.2.isEmpty = true
  · refine ⟨console, ?_, ?_⟩
    · simp only [Machine.deliver, hstep, hempty, if_true]
      rfl
    · rw [← htaken, List.isEmpty_iff.mp hempty, List.append_nil, hheld]
  · obtain ⟨after, hwrite, hafter⟩ := Console.messages?_write hkeeps hheld next.take.2
    have hrun : ((onHost clock).write destination next.take.2).run console = (.ok (), after) :=
      hwrite
    refine ⟨after, ?_, by rw [hafter, htaken]⟩
    simp only [Machine.deliver, hstep, if_neg hempty]
    exact run_bind_of hrun _

/-- **A step delivers what it hands to the sink.** -/
theorem deliver_delivers (hkeeps : destination.keeps = true)
    (h : session.Delivers console destination bytes) (hstep : step session = (next, value))
    (hsink : next.translator.pipeline.sink =
      session.translator.pipeline.sink.acceptAll outputs) :
    ∃ after, ((onHost clock).deliver destination step session).run console =
        ((next.take.1, value), after) ∧
      next.take.1.Delivers after destination (bytes ++ outputs.flatten) := by
  obtain ⟨writer, held, hblocks, hsound, hheld, rfl⟩ := h
  obtain ⟨later, haccept, hlater, hbytes⟩ := Sink.acceptAll_blocks hsound outputs
  rw [hblocks, haccept] at hsink
  obtain ⟨after, hrun, hafter⟩ := deliver_run clock step hkeeps hstep hsink hheld
  refine ⟨after, hrun, { later with passed := [] }, _, (take_of_blocks hsink).2,
    ⟨hlater.room, hlater.size⟩, hafter, ?_⟩
  rw [List.append_assoc, List.append_assoc, ← hbytes]
  rfl

/-- A line delivers what it hands to the sink. -/
theorem takeLine_delivers (hkeeps : destination.keeps = true)
    (h : session.Delivers console destination bytes) (options : Options) {now : Time}
    {line : Except HostFault Bytes} {reports : List Report} {ending : Option Ending}
    (hline : session.line now line = (next, reports, ending))
    (hsink : next.translator.pipeline.sink =
      session.translator.pipeline.sink.acceptAll outputs) :
    ∃ after, ((onHost clock).takeLine options destination now line (session, none)).run console =
        (next.take.1.proceed ending, after) ∧
      next.take.1.Delivers after destination (bytes ++ outputs.flatten) := by
  obtain ⟨middle, hdeliver, writer, held, hblocks, hsound, hheld, hbytes⟩ :=
    deliver_delivers clock (·.line now line) hkeeps h hline hsink
  obtain ⟨after, hreport, hsame⟩ := report_sameFiles clock options reports middle
  refine ⟨after, ?_, writer, held, hblocks, hsound, ?_, hbytes⟩
  · exact (run_bind_of hdeliver _).trans (run_bind_of hreport _)
  · rw [hsame.messages?, hheld]

/-- **An input delivers what a replay of its frames puts out.** -/
theorem eachLine_texts (hkeeps : destination.keeps = true) (options : Options)
    (h : session.Delivers console destination bytes) (hrecorded : session.recordedTime = true)
    (number : Nat) (lines : List (List Char)) :
    ∃ last after,
      (eachLine clock ((onHost clock).takeLine options destination) number
        ((lines.map utf8).map .ok) (session, none)).run console = ((last, none), after) ∧
      last.Delivers after destination
        (bytes ++ (session.replayed (lines.filterMap Frame.ofLine?)).flatten) := by
  -- What was delivered so far and what the session still replays stay together the same.
  induction lines generalizing session console bytes number with
  | nil => exact ⟨session, console, rfl, by simpa using h⟩
  | cons text lines ih =>
      rw [List.map_cons, List.map_cons]
      by_cases hlimit : session.limit.any (· ≤ session.frames)
      · have hline := Session.line_of_limit hlimit (clock number) (.ok (utf8 text))
        obtain ⟨after, htake, hdelivers⟩ := takeLine_delivers clock hkeeps h options hline
          (Sink.acceptAll_nil _).symm
        refine ⟨session.take.1, after, run_bind_of htake _, ?_⟩
        rw [Session.replayed_of_limit hlimit]
        exact hdelivers
      cases htext : Frame.ofLine? text with
      | none =>
          obtain ⟨reports, hline⟩ := Session.line_of_skipped hlimit (clock number) htext
          obtain ⟨middle, htake, hdelivers⟩ := takeLine_delivers clock hkeeps h options hline
            (Sink.acceptAll_nil _).symm
          rw [List.flatten_nil, List.append_nil] at hdelivers
          obtain ⟨last, after, hrest, hlast⟩ := ih hdelivers hrecorded (number + 1)
          rw [List.filterMap_cons_none htext]
          exact ⟨last, after, (run_bind_of htake _).trans hrest, hlast⟩
      | some frame =>
          obtain ⟨reports, hline⟩ := Session.line_of_frame hlimit (clock number) htext
          obtain ⟨middle, htake, hdelivers⟩ := takeLine_delivers clock hkeeps h options hline
            (Session.frame_sink hrecorded (clock number) frame)
          obtain ⟨last, after, hrest, hlast⟩ := ih hdelivers hrecorded (number + 1)
          refine ⟨last, after, (run_bind_of htake _).trans hrest, ?_⟩
          rw [List.filterMap_cons_some htext,
            Session.replayed_cons hrecorded hlimit (clock number), List.flatten_append,
            ← List.append_assoc]
          exact hlast

/-- At the end, all that was put out lies at the destination. -/
theorem replay_texts (hkeeps : destination.keeps = true) (options : Options)
    (h : session.Delivers console destination bytes) (hrecorded : session.recordedTime = true)
    (lines : List (List Char)) :
    ∃ last after,
      ((onHost clock).replay options destination ((lines.map utf8).map .ok) session).run console =
        ((last, none), after) ∧
      after.messages? destination =
        some (bytes ++ (session.replayed (lines.filterMap Frame.ofLine?)).flatten) := by
  obtain ⟨last, middle, hlines, writer, held, hblocks, hsound, hheld, hbytes⟩ :=
    eachLine_texts clock hkeeps options h hrecorded 0 lines
  obtain ⟨flushed, hflush, -, hall, hnone⟩ := hsound.flush
  have hstep : last.flush = ({ last with translator := { last.translator with
      pipeline := { last.translator.pipeline with sink := .blocks flushed } } }, none) := by
    simp [Session.flush, Translator.flush, Pipeline.flush, Sink.flush, hblocks, hflush, bind,
      Except.bind, Except.map, pure, Except.pure]
  obtain ⟨after, hdeliver, hafter⟩ := deliver_run clock Session.flush hkeeps hstep rfl hheld
  refine ⟨_, after, (run_bind_of hlines _).trans (run_bind_of hdeliver _), ?_⟩
  rw [hafter, ← BlockWriter.bytes_of_waiting hnone, hall, hbytes]

end Cli

end VehicleBus
