import VehicleBus.Translator
import VehicleBus.Proofs.Pipeline

/-!
# Runs of a translator

A translator is driven from outside: its clock is set, frames arrive, its tables
are changed, messages are sent past the frame path.  `Clocked` is a translator
with the time of its clock, and `Clocked.run` carries out such operations in
order.

Two facts are used everywhere.  What an operation does to the router, which
faults it reports and which messages it asks for depend on the router and the
time alone (`Clocked.step_congr`); and all that the pipeline sees of it are these
messages (`Clocked.step_pipeline`).  Both are lifted to runs.
-/

namespace VehicleBus

open Wire (Bytes)

/-- What reaches a translator while it works. -/
inductive Input where
  /-- The clock shows a new time, which may be an earlier one. -/
  | clock (now : Time)
  | frame (key : Key) (data : Payload)
deriving DecidableEq, Repr

/-- What can be done to a translator. -/
inductive Operation where
  | input (input : Input)
  | addBus (bus : Config.Bus)
  | addChannel (channel : Channel)
  | setHandler (name : String) (handler : Handler)
  | send (message : Message)

/-- A translator with the time that its clock shows. -/
structure Clocked where
  translator : Translator
  now : Time

namespace Clocked

/-! ## One operation -/

/-- Take an input. -/
def feed (clocked : Clocked) : Input → Clocked
  | .clock now => { clocked with now }
  | .frame key data =>
    { clocked with translator := (clocked.translator.frame key data clocked.now).1 }

/-- Carry out an operation; one that is refused changes nothing. -/
def step (clocked : Clocked) : Operation → Clocked
  | .input input => clocked.feed input
  | .addBus bus => { clocked with translator := clocked.translator.addBus bus }
  | .addChannel channel =>
    match clocked.translator.addChannel channel with
    | .ok translator => { clocked with translator }
    | .error _ => clocked
  | .setHandler name handler =>
    match clocked.translator.setHandler name handler with
    | .ok translator => { clocked with translator }
    | .error _ => clocked
  | .send message => { clocked with translator := (clocked.translator.send message).1 }

/-- The fault that refuses an operation. -/
def fault? (clocked : Clocked) : Operation → Option Fault
  | .addChannel channel =>
    match clocked.translator.addChannel channel with
    | .ok _ => none
    | .error fault => some fault
  | .setHandler name handler =>
    match clocked.translator.setHandler name handler with
    | .ok _ => none
    | .error fault => some fault
  | _ => none

/-- The messages that an input asks the pipeline to send, in order. -/
def asked (clocked : Clocked) : Input → List Message
  | .clock _ => []
  | .frame key data => Step.messages (clocked.translator.router.frame key data clocked.now).2

/-- The messages that an operation asks the pipeline to send, in order. -/
def messages (clocked : Clocked) : Operation → List Message
  | .input input => clocked.asked input
  | .send message => [message]
  | _ => []

/-! ## Runs -/

/-- Carry out operations in order. -/
def run (clocked : Clocked) (operations : List Operation) : Clocked :=
  operations.foldl step clocked

/-- Take inputs in order. -/
def feedAll (clocked : Clocked) (inputs : List Input) : Clocked := inputs.foldl feed clocked

/-- The faults of the operations of a run, one place for each. -/
def faults : Clocked → List Operation → List (Option Fault)
  | _, [] => []
  | clocked, operation :: rest => clocked.fault? operation :: faults (clocked.step operation) rest

/-- The messages that a run asks the pipeline to send, in order. -/
def runMessages : Clocked → List Operation → List Message
  | _, [] => []
  | clocked, operation :: rest =>
    clocked.messages operation ++ runMessages (clocked.step operation) rest

/-! ## The router decides -/

/-- Two translators with the same router that read the same time. -/
structure SameFront (a b : Clocked) : Prop where
  router : a.translator.router = b.translator.router
  now : a.now = b.now

/-- **The pipeline has no say.**  The router after an operation, its fault and its
messages are the same for any two pipelines. -/
theorem step_congr {a b : Clocked} (h : SameFront a b) (operation : Operation) :
    SameFront (a.step operation) (b.step operation) ∧
      a.fault? operation = b.fault? operation ∧ a.messages operation = b.messages operation := by
  obtain ⟨⟨router, pipeline⟩, now⟩ := a
  obtain ⟨⟨router', pipeline'⟩, now'⟩ := b
  obtain ⟨hrouter, hnow⟩ := h
  dsimp only at hrouter hnow
  subst hrouter hnow
  cases operation with
  | input input => cases input <;> exact ⟨⟨rfl, rfl⟩, rfl, rfl⟩
  | addBus bus => exact ⟨⟨rfl, rfl⟩, rfl, rfl⟩
  | addChannel channel =>
      cases hadd : router.addChannel channel <;>
        simp [step, fault?, messages, Translator.addChannel, hadd, bind, Except.bind, pure,
          Except.pure] <;> exact ⟨rfl, rfl⟩
  | setHandler name handler =>
      cases hset : router.setHandler name handler <;>
        simp [step, fault?, messages, Translator.setHandler, hset, bind, Except.bind, pure,
          Except.pure] <;> exact ⟨rfl, rfl⟩
  | send message => exact ⟨⟨rfl, rfl⟩, rfl, rfl⟩

/-- All that the pipeline sees of an operation are the messages it asks for. -/
theorem step_pipeline (clocked : Clocked) (operation : Operation) :
    (clocked.step operation).translator.pipeline =
      clocked.translator.pipeline.sendAll (clocked.messages operation) := by
  cases operation with
  | input input =>
      cases input with
      | clock now => rfl
      | frame key data =>
          exact Pipeline.performAll_fst clocked.translator.pipeline
            (clocked.translator.router.frame key data clocked.now).2
  | addBus bus => rfl
  | addChannel channel =>
      cases hadd : clocked.translator.router.addChannel channel <;>
        simp [step, messages, Translator.addChannel, hadd, bind, Except.bind, pure, Except.pure]
  | setHandler name handler =>
      cases hset : clocked.translator.router.setHandler name handler <;>
        simp [step, messages, Translator.setHandler, hset, bind, Except.bind, pure, Except.pure]
  | send message => rfl

/-- The same for runs: equal routers at the start stay equal, and so do the faults
and the messages on the way. -/
theorem run_congr {a b : Clocked} (h : SameFront a b) (operations : List Operation) :
    SameFront (a.run operations) (b.run operations) ∧
      a.faults operations = b.faults operations ∧
      a.runMessages operations = b.runMessages operations := by
  induction operations generalizing a b with
  | nil => exact ⟨h, rfl, rfl⟩
  | cons operation rest ih =>
      obtain ⟨hstep, hfault, hmessages⟩ := step_congr h operation
      obtain ⟨hrun, hfaults, hrest⟩ := ih hstep
      refine ⟨hrun, ?_, ?_⟩
      · rw [faults, faults, hfault, hfaults]
      · rw [runMessages, runMessages, hmessages, hrest]

/-- A run leaves the pipeline that sends the messages of the run. -/
theorem run_pipeline (clocked : Clocked) (operations : List Operation) :
    (clocked.run operations).translator.pipeline =
      clocked.translator.pipeline.sendAll (clocked.runMessages operations) := by
  induction operations generalizing clocked with
  | nil => rfl
  | cons operation rest ih =>
      show ((clocked.step operation).run rest).translator.pipeline = _
      rw [ih, step_pipeline, runMessages, Pipeline.sendAll_append]

end Clocked

end VehicleBus
