/-
NodeBootstrap/Seeds/Client.lean

The client of the cluster's API.  Inside a cluster it finds the server through
two variables and the pod's service account in a directory: a token, sent with
every request, and the authority that the server is checked against.
-/
import NodeBootstrap.Environment
import NodeBootstrap.Json.Reader
import NodeBootstrap.Seeds.Network
import NodeBootstrap.Seeds.Topology

namespace NodeBootstrap

structure Client where
  /-- The server's address, without a slash at its end. -/
  server : String
  trust : Trust
  authorization : Option String
  deriving DecidableEq, Repr

namespace Client

/-- A client with a token, unless that is empty. -/
def make (server : String) (token : Option String) (trust : Trust) : Client :=
  { server := String.ofList (server.toList.reverse.dropWhile (· == '/')).reverse
    trust
    authorization := (token.filter (· != "")).map ("Bearer " ++ ·) }

/-! ### Inside a cluster -/

def hostVariable : String := "KUBERNETES_SERVICE_HOST"
def portVariable : String := "KUBERNETES_SERVICE_PORT"
def defaultHost : String := "kubernetes.default.svc"
def defaultPort : String := "443"

/-- The server's host in an address.  A host with colons stands in brackets;
one that is present without a value cannot be looked into. -/
def serverHost (env : Environment) : Except Fault String :=
  match env.read hostVariable (some defaultHost) with
  | none => .error (.broken .wrongKind)
  | some host => .ok (if host.toList.contains ':' then "[" ++ host ++ "]" else host)

/-- The server's address. -/
def serverAddress (env : Environment) : Except Fault String :=
  (serverHost env).map fun host =>
    let portText := (env.read portVariable (some defaultPort)).getD Value.null.toText
    "https://" ++ host ++ ":" ++ portText

/-- The entry in a directory, if there is one. -/
def accountEntry (tree : Tree) (directory : Path) (name : String) : Except Fault (Option Entry) :=
  match tree.locate (directory.join name) with
  | .ok l => .ok (tree.entryAt l)
  | .error .nameTooLong => .error (.broken .system)
  | .error _ => .ok none

/-- The token in a file: its text without blanks at its ends. -/
def tokenOf : Entry → Except Fault String
  | .directory => .error (.broken .isDirectory)
  | .file bytes =>
    match String.fromUTF8? bytes with
    | none => .error (.broken .undecodable)
    | some text => .ok (String.ofList (Blank.trim Blank.isBlank (Lines.unified text.toList)))

/-- The file of a service account's token. -/
def tokenFile : String := "token"

/-- The file of the authority that a service account trusts. -/
def authorityFile : String := "ca.crt"

/-- The token of a service account, if it has one. -/
def accountToken (tree : Tree) (directory : Path) : Except Fault (Option String) := do
  match ← accountEntry tree directory tokenFile with
  | none => return none
  | some entry => return some (← tokenOf entry)

/-- How a service account checks the server. -/
def accountTrust (tree : Tree) (directory : Path) : Except Fault Trust := do
  match ← accountEntry tree directory authorityFile with
  | none => return .system
  | some _ => return .authorities (directory.join authorityFile).text

/-- The client of a pod. -/
def inCluster (tree : Tree) (directory : Path) (env : Environment) : Except Fault Client := do
  let server ← serverAddress env
  let token ← accountToken tree directory
  let trust ← accountTrust tree directory
  return make server token trust

/-! ### The cluster's resource -/

/-- Where the resource of a cluster is. -/
def resourceUrl (c : Client) (clusterNamespace cluster : String) : String :=
  c.server ++ "/apis/core.sky.uk/v1alpha1/namespaces/" ++ clusterNamespace
    ++ "/cassandras/" ++ cluster

/-- How long a request may take, in seconds. -/
def timeoutSeconds : Nat := 15

/-- The request for a resource. -/
def request (c : Client) (url : String) : Request := ⟨url, timeoutSeconds, c.trust, c.authorization⟩

/-- The racks in the body of an answer. -/
def racksOf (body : String) : Except Fault (List Rack) :=
  match Json.read body.toList with
  | .ok resource => Topology.ofResource resource
  | .error (.syntactic expected left) => .error (.notJson (expected.messageAt body.toList left))
  | .error .numberTooLong => .error (.broken .badValue)

/-- The racks that an answer holds; there are none if there is no such
resource. -/
def racksIn (url : String) : Answer → Except Fault (Option (List Rack))
  | .unreachable reason => .error (.unreachable reason)
  | .response status reason body =>
    if status = 404 then .ok none
    else if 400 ≤ status ∧ status < 600 then .error (.refused status reason url)
    else (racksOf body).map some

/-- Asks for the racks of a cluster. -/
def topology (c : Client) (net : Network) (clusterNamespace cluster : String) :
    Run (Option (List Rack)) := do
  let url := c.resourceUrl clusterNamespace cluster
  Run.note .info
    ("Запрос топологии кластера " ++ clusterNamespace ++ "." ++ cluster ++ " -> " ++ url)
  Run.noteRequest (c.request url)
  match ← Run.ofExcept (racksIn url (net.answer (c.request url))) with
  | some racks => return some racks
  | none =>
    Run.note .warn ("Ресурс cassandras/" ++ cluster ++ " не найден в " ++ clusterNamespace)
    return none

end Client

end NodeBootstrap
