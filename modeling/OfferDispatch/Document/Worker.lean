import OfferDispatch.Document.Basic
import OfferDispatch.Worker.Spec

/-!
# Workers as documents
-/

namespace OfferDispatch.Document

def styleName : CommandStyle → String
  | .linux => "linux"
  | .windows => "windows"

def style? (name : String) : Option CommandStyle :=
  [.linux, .windows].find? fun style => styleName style == name

instance : Document CommandStyle where
  encode style := .str (styleName style)
  decode? document := (choice? document).bind style?

def networkName : NetworkMode → String
  | .host => "host"
  | .bridge => "bridge"
  | .user => "user"

def network? (name : String) : Option NetworkMode :=
  [.host, .bridge, .user].find? fun mode => networkName mode == name

instance : Document NetworkMode where
  encode mode := .str (networkName mode)
  decode? document := (choice? document).bind network?

instance : Document FetchedFile where
  encode f := .obj [("value", encode f.uri), ("executable", encode f.executable),
    ("extract", encode f.extract)]
  decode? document := do
    let [uri, executable, extract] ← parts? ["value", "executable", "extract"] document | none
    return ⟨← decode? uri, ← decode? executable, ← decode? extract⟩

instance : Document PortMapping where
  encode m := .obj [("container_port", encode m.containerPort), ("host_port", encode m.hostPort),
    ("protocol", encode m.protocol)]
  decode? document := do
    let [containerPort, hostPort, protocol] ← parts?
      ["container_port", "host_port", "protocol"] document | none
    return ⟨← decode? containerPort, ← decode? hostPort, ← decode? protocol⟩

instance : Document Volume where
  encode v := .obj [("container_path", encode v.containerPath), ("host_path", encode v.hostPath),
    ("read_only", encode v.readOnly)]
  decode? document := do
    let [containerPath, hostPath, readOnly] ← parts?
      ["container_path", "host_path", "read_only"] document | none
    return ⟨← decode? containerPath, ← decode? hostPath, ← decode? readOnly⟩

instance : Document ContainerSpec where
  encode c := .obj [("image", encode c.image), ("network", encode c.network),
    ("privileged", encode c.privileged), ("force_pull_image", encode c.forcePull),
    ("parameters", encode c.parameters), ("port_mappings", encode c.ports),
    ("volumes", encode c.volumes), ("networks", encode c.networks),
    ("custom_shell", encode c.shell)]
  decode? document := do
    let [image, network, privileged, forcePull, parameters, ports, volumes, networks, shell] ←
      parts? ["image", "network", "privileged", "force_pull_image", "parameters", "port_mappings",
        "volumes", "networks", "custom_shell"] document | none
    return ⟨← decode? image, ← decode? network, ← decode? privileged, ← decode? forcePull,
      ← decode? parameters, ← decode? ports, ← decode? volumes, ← decode? networks,
      ← decode? shell⟩

/-- The pair of a field whose value is a text. -/
def textField? (field : String × Json) : Option (String × String) :=
  (text? field.2).map fun value => (field.1, value)

/-- A selector is an object of texts. -/
instance : Document Selector where
  encode s := .obj (s.pairs.entries.map fun pair => (pair.1, .str pair.2))
  decode?
    | .obj fields => (fields.mapM textField?).map Selector.ofPairs
    | _ => none

instance : Document (WorkerSpec Float) where
  encode w := .obj [("name", encode w.name), ("label", encode w.label), ("cpus", encode w.cpus),
    ("memory_mb", encode w.memory), ("disk_mb", encode w.disk), ("attributes", encode w.selector),
    ("jvm_args", encode w.jvmArguments), ("jnlp_args", encode w.agentArguments),
    ("secret", encode w.secret), ("command_style", encode w.style),
    ("additional_uris", encode w.files), ("container", encode w.container)]
  decode? document := do
    let [name, label, cpus, memory, disk, selector, jvm, agent, secret, style, files, container] ←
      parts? ["name", "label", "cpus", "memory_mb", "disk_mb", "attributes", "jvm_args",
        "jnlp_args", "secret", "command_style", "additional_uris", "container"] document | none
    return ⟨← decode? name, ← decode? label, ← decode? cpus, ← decode? memory, ← decode? disk,
      ← decode? selector, ← decode? jvm, ← decode? agent, ← decode? secret, ← decode? style,
      ← decode? files, ← decode? container⟩

end OfferDispatch.Document
