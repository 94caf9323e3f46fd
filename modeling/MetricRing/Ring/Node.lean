import MetricRing.Text.Blank
import MetricRing.Text.Quoted
/-!
# Ring members

A `Node` is a placement target: a server with an optional instance qualifier for servers that
run several logical processes. An empty qualifier means "no instance", and the server is never
empty. A node is written `server` or `server:instance`; that text is its identity, the only
thing equality of members, removal and duplicate detection look at. Its key value
`('server', None)` or `('server', 'instance')` is what the positions of its virtual nodes are
computed from.

* `Node.parse` reads `server` or `server:instance` after trimming blanks, and refuses an empty
  server with `NodeError.emptyServer`;
* `Node.parse_eq_ok_iff` says which texts it accepts.
-/

namespace MetricRing

/-- A ring member: a non-empty server and an instance qualifier, empty for none. -/
structure Node where
  server : String
  instanceName : String
  server_ne : server ≠ ""
deriving DecidableEq

/-- Why a text is not a node. -/
inductive NodeError where
  /-- The text, as given, has nothing before its first colon once trimmed. -/
  | emptyServer (text : String)
deriving DecidableEq, Repr

namespace NodeError

/-- The description of the error. -/
def message : NodeError → String
  | emptyServer text => "node, " ++ Text.quote text ++ ", has an empty server"

end NodeError

namespace Node

/-- A node from its parts, `none` when the server is empty. -/
def ofParts? (server instanceName : String) : Option Node :=
  if h : server = "" then none else some ⟨server, instanceName, h⟩

/-- The instance qualifier, if there is one. -/
def instance? (n : Node) : Option String :=
  if n.instanceName = "" then none else some n.instanceName

/-- The written form `server` or `server:instance`. -/
def render (n : Node) : String :=
  match n.instance? with
  | none => n.server
  | some i => n.server ++ ":" ++ i

/-- The identity of a node: its written form. -/
def identity (n : Node) : String := n.render

/-- Two nodes share an identity. -/
def sameIdentity (a b : Node) : Bool := a.identity == b.identity

/-- The key value `('server', None)` or `('server', 'instance')` from which the positions of
the node's virtual nodes are computed. Nothing in it is escaped. -/
def keyValue (n : Node) : String :=
  match n.instance? with
  | none => "('" ++ n.server ++ "', None)"
  | some i => "('" ++ n.server ++ "', '" ++ i ++ "')"

/-- The diagnostic form `Node(server:instance)`. -/
def debugText (n : Node) : String := "Node(" ++ n.render ++ ")"

/-- The part of a character list before its first colon, and the part after it. -/
def splitColon (cs : List Char) : List Char × List Char :=
  (cs.takeWhile (· != ':'), (cs.dropWhile (· != ':')).drop 1)

/-- Reads `server` or `server:instance`: blanks around the text are dropped and the first colon
divides server from instance; without a colon the whole text is the server. -/
def parse (s : String) : Except NodeError Node :=
  let parts := splitColon (Text.trimBlank s).toList
  if h : String.ofList parts.1 = "" then .error (.emptyServer s)
  else .ok ⟨String.ofList parts.1, String.ofList parts.2, h⟩

theorem parse_eq_ok_iff (s : String) (n : Node) :
    parse s = .ok n ↔
      n.server = String.ofList (splitColon (Text.trimBlank s).toList).1 ∧
        n.instanceName = String.ofList (splitColon (Text.trimBlank s).toList).2 := by
  unfold parse
  simp only
  split
  · rename_i h
    constructor
    · intro hc; exact absurd hc (by simp)
    · rintro ⟨hs, _⟩
      exact absurd (hs ▸ h) n.server_ne
  · constructor
    · intro hc
      have hn := (Except.ok.inj hc).symm
      subst hn
      exact ⟨rfl, rfl⟩
    · rintro ⟨hs, hi⟩
      obtain ⟨server, inst, hne⟩ := n
      simp only at hs hi
      subst hs hi
      rfl

theorem render_of_instance_empty (n : Node) (h : n.instanceName = "") : n.render = n.server := by
  simp [render, instance?, h]

end Node

end MetricRing
