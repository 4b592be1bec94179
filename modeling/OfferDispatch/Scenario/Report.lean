import OfferDispatch.Cluster.Recorder
import OfferDispatch.Config.Environment
import OfferDispatch.Document.Worker
import OfferDispatch.Matching.Evaluate
import OfferDispatch.Offer.Buffer
import OfferDispatch.Pipeline.Desk
import OfferDispatch.Session.Basic
import OfferDispatch.Supervision
import OfferDispatch.Tracking.Tracker

/-!
# Reports

What happens in a scenario is reported in documents. A float is reported by its bits, so that two
reports are equal only if all floats are.
-/

namespace OfferDispatch.Report

def object (fields : List (String × Json)) : Json := .obj fields

/-- Nothing but success. -/
def done : Json := .str "ok"

def failure (kind message : String) : Json :=
  object [("error", .str kind), ("message", .str message)]

/-- The bits of a float in hexadecimal; one that is not a number has none of its own. -/
def float (x : Float) : Json :=
  let digits := Nat.toDigits 16 x.toBits.toNat
  .str (if x.isNaN then "nan" else
    String.ofList (List.replicate (16 - digits.length) '0' ++ digits))

def number (n : Nat) : Json := .ofNat n

def strings (l : List String) : Json := .arr (l.map .str)

def pairs (l : List (String × String)) : Json := .arr (l.map fun p => strings [p.1, p.2])

def duration (d : Duration) : Json :=
  object [("secs", number d.seconds), ("nanos", number d.subsecond)]

def range (r : PortRange) : Json := .arr [number r.first.toNat, number r.last.toNat]

/-- The kind of a resource, and how much there is of it. -/
def resourceValue : ResourceValue Float → String × Json
  | .scalar x => ("scalar", float x)
  | .ranges l => ("ranges", .arr (l.map range))
  | .set l => ("set", strings l)

def resource (r : Resource Float) : Json :=
  object [("name", .str r.name), ("role", .str r.role), ("type", .str (resourceValue r.value).1),
    ("value", (resourceValue r.value).2)]

def file (f : FetchedFile) : Json := .arr [.str f.uri, .bool f.executable, .bool f.extract]

def command (c : CommandLine) : List (String × Json) :=
  [("value", .str c.value), ("shell", .bool c.shell), ("arguments", strings c.arguments),
    ("uris", .arr (c.files.map file))]

def boundPort (p : BoundPort) : Json :=
  .arr [number p.containerPort.toNat, number p.hostPort.toNat, .str p.protocol]

def volume (v : Volume) : Json :=
  .arr [.str v.containerPath, .ofOption v.hostPath, .bool v.readOnly]

def container (c : HostContainer) : Json :=
  object [("image", .str c.image), ("network", .str (Document.networkName c.network)),
    ("privileged", .bool c.privileged), ("force_pull_image", .bool c.forcePull),
    ("parameters", pairs c.parameters), ("ports", .arr (c.ports.map boundPort)),
    ("volumes", .arr (c.volumes.map volume)), ("networks", strings c.networks),
    ("hostname", .ofOption c.hostname)]

def task (t : Task Float) : Json :=
  object [("task_id", .str t.id.text), ("name", .str t.title), ("agent", .str t.agent.text),
    ("resources", .arr (t.resources.map resource)), ("command", object (command t.command)),
    ("container", (t.container.map container).getD .null)]

def frameworkId (id : Option FrameworkId) : Json := .ofOption (id.map (·.text))

def callFields : Call → List (String × Json)
  | .register info => [("name", .str info.name), ("user", .str info.user), ("role", .str info.role),
      ("principal", .str info.principal), ("id", frameworkId info.id)]
  | .launch offer t => [("offer", .str offer.text), ("task", task t)]
  | .kill task => [("task", .str task.text)]
  | .decline offer refuse => [("offer", .str offer.text), ("refuse", duration refuse)]
  | .revive => []
  | .stop => []

def isSuccess : Answer → Bool
  | .ok _ => true
  | .error _ => false

/-- The calls on a link, each with some fields more. -/
def calls (more : List (String × Json)) (log : List Exchange) : List Json :=
  log.filterMap fun
    | .call c answer => some (object
        (("call", .str c.name) :: callFields c ++ ("ok", .bool (isSuccess answer)) :: more))
    | .pause _ => none

def event (kind : NoticeKind) (place : WorkerPlace) : Json :=
  object [("event", .str kind.name), ("worker", .str place.worker.text),
    ("agent", .ofOption (place.agent.map (·.text)))]

def recorder (r : Recorder) : Json :=
  object [("calls", number r.calls.length),
    ("launched", .arr (r.launched.map fun t => .str t.id.text)),
    ("declined", .arr (r.declined.map fun d => .arr [.str d.1.text, number d.2.millis])),
    ("killed", .arr (r.killed.map fun t => .str t.text))]

/-- How full a buffer is, and what has passed through it. -/
def buffer (b : OfferBuffer Float) : Json :=
  object [("len", number b.offers.length), ("empty", .bool b.offers.isEmpty),
    ("remaining", number b.remaining), ("added", number b.added), ("dropped", number b.dropped),
    ("removed", number b.removed)]

def outcome : StatusOutcome → Json
  | .updated s => object [("updated", .str s.text)]
  | .terminal s => object [("terminal", .str s.text)]
  | .rejected => .str "rejected"

def decision : Decision → Json
  | .retained pending active nodes => object [("retained", object
      [("pending", number pending), ("active", number active), ("nodes", number nodes)])]
  | .tornDown => .str "torn_down"
  | .alreadyStopped => .str "already_stopped"

/-- What a look at a scheduler found and did. -/
def settled (s : Settled) : Json :=
  object [("pending", number s.pending), ("active", number s.active), ("nodes", number s.nodes),
    ("cleared", number s.cleared), ("stopped", .bool s.stopped)]

/-- The attributes a selector asks for, and whether some attributes are what it asks for. -/
def selector (s : Selector) (attributes : List Attribute) : Json :=
  object [("empty", .bool s.isEmpty), ("pairs", pairs s.pairs.entries),
    ("unmet", pairs (s.unmet attributes)), ("matches", .bool (s.isMetBy attributes))]

/-- How many labels have a selector, and those of some labels. -/
def labels (labels : LabelSelectors) (shown : List String) : Json :=
  object [("len", number labels.size), ("empty", .bool labels.isEmpty),
    ("found", .arr (shown.map fun label => match labels.find? label with
      | some s => pairs s.pairs.entries
      | none => .null))]

/-- A configuration, with the selectors of some labels. -/
def config (c : Config) (shown : List String) : Json :=
  object [("master_url", .str c.master), ("log_level", .str c.logLevel),
    ("framework", object [("name", .str c.framework.name), ("user", .str c.framework.user),
      ("role", .str c.framework.role), ("principal", .str c.framework.principal),
      ("id", frameworkId c.framework.id)]),
    ("settings", object [("role", .str c.scheduler.role),
      ("controller_url", .str c.scheduler.controller), ("capacity", number c.scheduler.capacity),
      ("offer_wait", duration c.scheduler.offerWait),
      ("decline_offer", duration c.scheduler.declineFor),
      ("multi_threaded", .bool c.scheduler.multiThreaded),
      ("on_demand", .bool c.scheduler.onDemand),
      ("affinity", number c.scheduler.affinitySize), ("labels", labels c.scheduler.labels shown)]),
    ("session", object [("queue", number c.pipeline.queueSize),
      ("timeout", duration c.pipeline.agentTimeout), ("poll", duration c.pipeline.pollInterval)])]

def shortfall (s : Shortfall Float) : Json :=
  let fields := match s with
    | .cpus requested offered => [("kind", Json.str "cpus"), ("requested", float requested),
        ("offered", float offered)]
    | .mem requested offered => [("kind", Json.str "mem"), ("requested", float requested),
        ("offered", float offered)]
    | .unmet name value => [("kind", Json.str "attribute"), ("name", .str name),
        ("value", .str value)]
    | .ports requested available => [("kind", Json.str "ports"), ("requested", number requested),
        ("available", number available)]
  object (fields ++ [("text", .str s.message)])

def published : StateEvent → Json
  | .enqueued worker => object [("event", .str "enqueued"), ("worker", .str worker.text)]
  | .notice kind place => event kind place
  | .killRequested worker =>
    object [("event", .str "kill_requested"), ("worker", .str worker.text)]

def flowEntry : FlowEntry → Json
  | .handling c => object [("handling", .str c.operation), ("target", .str c.target.text)]
  | .dropped => object [("flow", .str "dropped")]

mutual

/-- A document in which floats are reported by their bits. -/
def document : Json → Json
  | .num (.float x) => float x
  | .arr l => .arr (documents l)
  | .obj l => .obj (fields l)
  | j => j

def documents : List Json → List Json
  | [] => []
  | j :: rest => document j :: documents rest

def fields : List (String × Json) → List (String × Json)
  | [] => []
  | (key, j) :: rest => (key, document j) :: fields rest

end

end OfferDispatch.Report
