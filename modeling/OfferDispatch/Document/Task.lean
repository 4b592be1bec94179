import OfferDispatch.Document.Offer
import OfferDispatch.Document.Worker
import OfferDispatch.Launch.Task
import OfferDispatch.Tracking.Status

/-!
# Tasks and their statuses as documents
-/

namespace OfferDispatch.Document

instance : Document TaskState where
  encode state := .str state.name
  decode? document := (choice? document).bind TaskState.ofName?

instance : Document TaskStatus where
  encode s := .obj [("task_id", encode s.task), ("state", encode s.state),
    ("message", encode s.message)]
  decode? document := do
    let [task, state, message] ← parts? ["task_id", "state", "message"] document | none
    return ⟨← decode? task, ← decode? state, ← decode? message⟩

instance : Document CommandLine where
  encode c := .obj [("value", encode c.value), ("shell", encode c.shell),
    ("arguments", encode c.arguments), ("uris", encode c.files)]
  decode? document := do
    let [value, shell, arguments, files] ←
      parts? ["value", "shell", "arguments", "uris"] document | none
    return ⟨← decode? value, ← decode? shell, ← decode? arguments, ← decode? files⟩

instance : Document BoundPort where
  encode b := .obj [("container_port", encode b.containerPort), ("host_port", encode b.hostPort),
    ("protocol", encode b.protocol)]
  decode? document := do
    let [containerPort, hostPort, protocol] ← parts?
      ["container_port", "host_port", "protocol"] document | none
    return ⟨← decode? containerPort, ← decode? hostPort, ← decode? protocol⟩

instance : Document HostContainer where
  encode c := .obj [("image", encode c.image), ("network", encode c.network),
    ("privileged", encode c.privileged), ("force_pull_image", encode c.forcePull),
    ("parameters", encode c.parameters), ("port_mappings", encode c.ports),
    ("volumes", encode c.volumes), ("networks", encode c.networks),
    ("hostname", encode c.hostname)]
  decode? document := do
    let [image, network, privileged, forcePull, parameters, ports, volumes, networks, hostname] ←
      parts? ["image", "network", "privileged", "force_pull_image", "parameters", "port_mappings",
        "volumes", "networks", "hostname"] document | none
    return ⟨← decode? image, ← decode? network, ← decode? privileged, ← decode? forcePull,
      ← decode? parameters, ← decode? ports, ← decode? volumes, ← decode? networks,
      ← decode? hostname⟩

instance : Document (Task Float) where
  encode t := .obj [("task_id", encode t.id), ("name", encode t.title),
    ("agent_id", encode t.agent), ("resources", encode t.resources), ("command", encode t.command),
    ("container", encode t.container)]
  decode? document := do
    let [id, title, agent, resources, command, container] ← parts?
      ["task_id", "name", "agent_id", "resources", "command", "container"] document | none
    return ⟨← decode? id, ← decode? title, ← decode? agent, ← decode? resources, ← decode? command,
      ← decode? container⟩

end OfferDispatch.Document
