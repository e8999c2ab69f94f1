import VehicleBus.Pipeline
import VehicleBus.Router

/-!
# Translators

A translator is a router in front of a pipeline: frames go in, encoded messages
come out.  Handling a frame never fails; what goes wrong on the way is counted
and noted.
-/

namespace VehicleBus

structure Translator where
  router : Router
  pipeline : Pipeline

namespace Translator

/-- All that is counted about a translator. -/
structure Counts where
  frames : FrameCounts
  /-- Number of definitions in the catalog. -/
  cataloged : Nat
  /-- How often a key found no room in the catalog. -/
  refused : Nat
  messages : PipelineCounts
deriving DecidableEq, Repr, Inhabited

/-- The counts of a translator. -/
def counts (translator : Translator) : Counts where
  frames := translator.router.counts
  cataloged := translator.router.catalog.definitions.length
  refused := translator.router.catalog.refusals
  messages := translator.pipeline.counts

/-- A translator that knows no signals and no buses. -/
def ofCatalog (catalog : Catalog) (pipeline : Pipeline) : Translator where
  router := { catalog }
  pipeline := pipeline

/-- The translator of a configuration, with a notice that it is ready. -/
def ofVehicle (vehicle : Config.Vehicle) (sink : Sink) :
    Except Fault (Translator × List Notice) := do
  let router ← Router.ofVehicle vehicle
  return ({ router, pipeline := { format := vehicle.format, sink } },
    [.ready router.channels.length router.buses.length vehicle.format])

/-- Handle one frame at a given time. -/
def frame (translator : Translator) (key : Key) (data : Payload) (now : Time) :
    Translator × List Notice :=
  let (router, steps) := translator.router.frame key data now
  let (pipeline, notices) := translator.pipeline.performAll steps
  ({ router, pipeline }, notices)

/-- Send a message that comes from elsewhere. -/
def send (translator : Translator) (message : Message) : Translator × List Notice :=
  let (pipeline, notices) := translator.pipeline.send message
  ({ translator with pipeline }, notices)

def addBus (translator : Translator) (bus : Config.Bus) : Translator :=
  { translator with router := translator.router.addBus bus }

def addChannel (translator : Translator) (channel : Channel) : Except Fault Translator := do
  return { translator with router := ← translator.router.addChannel channel }

def setHandler (translator : Translator) (name : String) (handler : Handler) :
    Except Fault Translator := do
  return { translator with router := ← translator.router.setHandler name handler }

/-- Let a device behind the sink refuse what is passed on to it from now on. -/
def refuse (fault : OutputFault) (translator : Translator) : Translator :=
  { translator with pipeline := translator.pipeline.refuse fault }

/-- Take the messages that the sink gives away. -/
def take (translator : Translator) : Translator × List Wire.Bytes :=
  let (pipeline, messages) := translator.pipeline.take
  ({ translator with pipeline }, messages)

/-- Pass on whatever waits in the sink. -/
def flush (translator : Translator) : Except OutputFault Translator := do
  return { translator with pipeline := ← translator.pipeline.flush }

end Translator

end VehicleBus
