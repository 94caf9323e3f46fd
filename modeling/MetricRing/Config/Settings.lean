import MetricRing.Config.Layers
import MetricRing.Ring.Basic
/-!
# The cluster configuration

The settings the tool runs with: the cluster's members, the port their metric servers listen
on, the number of download workers, the virtual node count of the ring, the download timeout
and whether a metric may be taken from the next replica when its owner fails.

Settings are gathered from defaults (no servers, port 4242, 5 workers, 100 replicas, a 30 second
timeout, no fallback), the optional file `config/reference.toml`, the file given on the command
line and the environment variables starting `BUCKY_`, in that order of precedence. Command line
servers, port and workers then replace the gathered ones.

`servers` is either a list of strings or one string of comma separated members, blanks around
each trimmed and empty ones dropped. The numbers are read leniently (see `Value.toInt`) and
keep the low bits of their type: 16 for the port, 64 for the others.

A configuration is checked in this order: every member parses, there is at least one member,
workers are positive, replicas are positive.

* `Configuration.ring_replicas` and `Configuration.ring_nodes` say the ring is built with the
  configured replica count and registers the members in order.
-/

namespace MetricRing.Config

/-- The members as written in the configuration. -/
inductive ServerList where
  /-- One string of comma separated members. -/
  | delimited (s : String)
  /-- A list of members. -/
  | listed (items : List String)
deriving DecidableEq, Repr

/-- The member texts, a comma separated string split, trimmed and without empty parts. -/
def ServerList.toList : ServerList → List String
  | .listed items => items
  | .delimited s => ((s.splitOn ",").map Text.trimBlank).filter (· != "")

/-- The settings as read, before they are checked. -/
structure Schema where
  servers : ServerList
  port : Nat
  workers : Nat
  replicas : Nat
  timeoutSecs : Nat
  fallback : Bool
deriving DecidableEq, Repr

/-- The string items of an array, `none` if one of them is not a string. -/
def stringItems : List Value → Option (List String)
  | [] => some []
  | .leaf _ (.str s) :: rest => (stringItems rest).map (s :: ·)
  | _ :: _ => none

/-- Reads the members: a string or a list of strings. -/
def decodeServers : Value → Except ConfigError ServerList
  | .leaf _ (.str s) => .ok (.delimited s)
  | .array _ items =>
    match stringItems items with
    | some xs => .ok (.listed xs)
    | none => .error (.message "data did not match any variant of untagged enum ServerList")
  | _ => .error (.message "data did not match any variant of untagged enum ServerList")

/-- Reads one field of the top-level table, naming the key in a type error. -/
def field {α : Type} (entries : Entries) (key : String) (read : Value → Except ConfigError α) :
    Except ConfigError α :=
  match lookup entries key with
  | some v => (read v).mapError (ConfigError.withKey key)
  | none => .error (.message ("missing field `" ++ key ++ "`"))

/-- Reads the settings from a gathered tree. -/
def decodeSchema (tree : Value) : Except ConfigError Schema := do
  let entries := match tree with
    | .table _ es => es
    | _ => []
  let servers ← field entries "servers" decodeServers
  let port ← field entries "port" fun v => (v.toInt).map (toUnsigned 16)
  let workers ← field entries "workers" fun v => (v.toInt).map (toUnsigned 64)
  let replicas ← field entries "replicas" fun v => (v.toInt).map (toUnsigned 64)
  let timeoutSecs ← field entries "timeout_secs" fun v => (v.toInt).map (toUnsigned 64)
  let fallback ← field entries "fallback" Value.toBool
  pure { servers, port, workers, replicas, timeoutSecs, fallback }

/-- The default settings, each at its key, with no origin. -/
def defaults : List (Path × Value) :=
  [ (.ident "servers", .array none []),
    (.ident "port", .leaf none (.int 4242)),
    (.ident "workers", .leaf none (.int 5)),
    (.ident "replicas", .leaf none (.int defaultReplicas)),
    (.ident "timeout_secs", .leaf none (.int 30)),
    (.ident "fallback", .leaf none (.bool false)) ]

/-- The sources gathered after the defaults: the optional reference file, the configuration
file if one is given, and the environment. -/
def sources (configPath : Option String) : List Source :=
  [.file "config/reference.toml" false] ++
    (match configPath with | some p => [.file p true] | none => []) ++
    [.environment "BUCKY"]

/-- Why the settings cannot be used. -/
inductive ConfigurationError where
  | noServers
  | invalidNode (e : NodeError)
  | zeroWorkers
  | zeroReplicas
  | configSource (e : ConfigError)
deriving DecidableEq, Repr

namespace ConfigurationError

/-- The variant's name. -/
def kind : ConfigurationError → String
  | noServers => "NoServers"
  | invalidNode _ => "InvalidNode"
  | zeroWorkers => "ZeroWorkers"
  | zeroReplicas => "ZeroReplicas"
  | configSource _ => "ConfigSource"

/-- The description of the error. -/
def message : ConfigurationError → String
  | noServers => "no cluster servers configured"
  | invalidNode _ => "invalid cluster server"
  | zeroWorkers => "workers must be positive"
  | zeroReplicas => "replicas must be positive"
  | configSource _ => "application misconfigured"

/-- The description of the error's cause, if it has one. -/
def source : ConfigurationError → Option String
  | invalidNode e => some e.message
  | configSource e => some e.text
  | _ => none

end ConfigurationError

/-- Checked settings. -/
structure Configuration where
  servers : List Node
  port : Nat
  workers : Nat
  replicas : Nat
  timeoutSecs : Nat
  fallback : Bool
  servers_ne : servers ≠ []
  workers_pos : 0 < workers
  replicas_pos : 0 < replicas

/-- Parses every member text, stopping at the first that is not a node. -/
def parseNodes : List String → Except NodeError (List Node)
  | [] => .ok []
  | s :: rest => do
    let n ← Node.parse s
    let ns ← parseNodes rest
    pure (n :: ns)

/-- Checks read settings. -/
def Schema.check (schema : Schema) : Except ConfigurationError Configuration :=
  match parseNodes schema.servers.toList with
  | .error e => .error (.invalidNode e)
  | .ok nodes =>
    if hs : nodes = [] then .error .noServers
    else if hw : schema.workers = 0 then .error .zeroWorkers
    else if hr : schema.replicas = 0 then .error .zeroReplicas
    else .ok
      { servers := nodes, port := schema.port, workers := schema.workers,
        replicas := schema.replicas, timeoutSecs := schema.timeoutSecs,
        fallback := schema.fallback, servers_ne := hs,
        workers_pos := Nat.pos_of_ne_zero hw, replicas_pos := Nat.pos_of_ne_zero hr }

/-- Settings given on the command line, replacing the configured ones. -/
structure Overrides where
  /-- Members; none given keeps the configured ones. -/
  servers : List String
  port : Option Nat
  workers : Option Nat
deriving DecidableEq, Repr

/-- Applies command line settings to read ones. -/
def Schema.override (schema : Schema) (ov : Overrides) : Schema :=
  { schema with
    servers := if ov.servers.isEmpty then schema.servers else .listed ov.servers
    port := ov.port.getD schema.port
    workers := ov.workers.getD schema.workers }

/-- Reads and checks a gathered tree. -/
def Configuration.ofTree (tree : Value) : Except ConfigurationError Configuration :=
  match decodeSchema tree with
  | .ok schema => schema.check
  | .error e => .error (.configSource e)

/-- Gathers the defaults with no files or environment, then text in a format: the tree, or the
error of the text. -/
def gatherText (f : Format) (text : String) : Except ConfigError Value :=
  gather ⟨"", [], []⟩ defaults (sources none ++ [.text text f])

/-- Gathers every source of a workspace, applies command line settings and checks the result. -/
def Configuration.load (ws : Workspace) (configPath : Option String) (ov : Overrides) :
    Except ConfigurationError Configuration :=
  match gather ws defaults (sources configPath) with
  | .error e => .error (.configSource e)
  | .ok tree =>
    match decodeSchema tree with
    | .error e => .error (.configSource e)
    | .ok schema => (schema.override ov).check

namespace Configuration

/-- The ring of the cluster: the configured replica count, members registered in order. -/
def ring (c : Configuration) : HashRing :=
  c.servers.foldl HashRing.addNode ⟨Store.empty, [], c.replicas, c.replicas_pos⟩

theorem foldl_addNode_replicas (ns : List Node) (r : HashRing) :
    (ns.foldl HashRing.addNode r).replicas = r.replicas := by
  induction ns generalizing r with
  | nil => rfl
  | cons n rest ih => simp only [List.foldl_cons, ih]; rfl

theorem foldl_addNode_nodes (ns : List Node) (r : HashRing) :
    (ns.foldl HashRing.addNode r).nodes = r.nodes ++ ns := by
  induction ns generalizing r with
  | nil => simp
  | cons n rest ih => simp only [List.foldl_cons, ih]; simp [HashRing.addNode]

theorem ring_replicas (c : Configuration) : c.ring.replicas = c.replicas := by
  unfold ring; rw [foldl_addNode_replicas]

theorem ring_nodes (c : Configuration) : c.ring.nodes = c.servers := by
  unfold ring; rw [foldl_addNode_nodes]; rfl

end Configuration

end MetricRing.Config
