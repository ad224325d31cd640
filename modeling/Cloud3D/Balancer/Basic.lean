import Cloud3D.Wire
import Mathlib.Order.Lattice
import Mathlib.Data.List.Basic

/-!
# The load balancer

`LoadBalanceImpl` keeps the registered providers in a vector. The three handlers and
the sweep are functions of the registry and of the clock reading they take, in
nanoseconds since the epoch of `std::chrono::system_clock`. The clock is read by the
handlers themselves, so it is an argument here.

`EstablishServer` leaves the member `usage` of its local node without a value, hence
`usage` is optional; `unset` is what reading it yields before the first heartbeat. It is
taken to be the same for all nodes of a vector, which the language does not promise.
The random draw of `minUsageServer` is an argument with the contract of
`std::uniform_int_distribution`. Reading outside the vector is `none`, not a default.
-/

namespace Cloud3D

variable {float : Type}

structure ServerNode (float : Type) where
  address : String
  operations : List String
  version : float
  usage : Option Int32
  lastBeat : Int
deriving DecidableEq, Repr

structure LoadBalanceImpl (float : Type) where
  servers : List (ServerNode float)
  heartBeatRate : Int
deriving DecidableEq, Repr

/-- `duration_cast<milliseconds>` of a duration in nanoseconds: truncation toward zero. -/
def milliseconds (duration : Int) : Int := duration.tdiv 1000000

/-- What an `int` member yields when it is read, assigned or not. All nodes without a value
share `unset`. -/
def ServerNode.load (server : ServerNode float) (unset : Int32) : Int32 :=
  server.usage.getD unset

/-- What a heartbeat changes in the node it is credited to. -/
def ServerNode.beat (server : ServerNode float) (request : HeartBeat) (now : Int) :
    ServerNode float :=
  { server with usage := some request.usage.toInt32, lastBeat := now }

/-- One value of `std::uniform_int_distribution<int> dist(0, hi)` for every bound. -/
structure Draw where
  dist : Nat → Nat
  dist_le : ∀ hi, dist hi ≤ hi

namespace LoadBalanceImpl

/-! ### `EstablishServer` -/

/-- The node which is appended for a registration. -/
def newNode (request : NewServer float) (now : Int) : ServerNode float where
  address := request.serverAddress
  operations := request.operation
  version := request.version
  usage := none
  lastBeat := now

def establishServer (balancer : LoadBalanceImpl float) (request : NewServer float) (now : Int) :
    LoadBalanceImpl float × Status × Confirmation :=
  ({ balancer with servers := balancer.servers ++ [newNode request now] }, .OK, ⟨true⟩)

/-! ### `SendHeartbeat` -/

/-- The loop of `SendHeartbeat`: it returns at the first node with the address. -/
def refresh (request : HeartBeat) (now : Int) :
    List (ServerNode float) → Option (List (ServerNode float))
  | [] => none
  | server :: servers =>
      if server.address = request.serverAddresss then some (server.beat request now :: servers)
      else (refresh request now servers).map (server :: ·)

def sendHeartbeat (balancer : LoadBalanceImpl float) (request : HeartBeat) (now : Int) :
    LoadBalanceImpl float × Status × HeartBeatReply :=
  match refresh request now balancer.servers with
  | some servers => ({ balancer with servers }, .OK, ⟨true⟩)
  | none => (balancer, .CANCELLED, ⟨false⟩)

/-! ### The sweep -/

/-- The predicate of `remove_if`. -/
def inactive (balancer : LoadBalanceImpl float) (now : Int) (server : ServerNode float) : Bool :=
  balancer.heartBeatRate < milliseconds (now - server.lastBeat)

def removeInactiveServer (balancer : LoadBalanceImpl float) (now : Int) : LoadBalanceImpl float :=
  { balancer with servers := balancer.servers.filter fun server => !balancer.inactive now server }

/-! ### `ListServer` -/

/-- The innermost loop: one operation of a node is counted at most once. -/
def countOperation (sOperation : String) (opCounter : Nat) : List String → Nat
  | [] => opCounter
  | rOperation :: rOperations =>
      if sOperation = rOperation then opCounter + 1
      else countOperation sOperation opCounter rOperations

/-- The value of `opCounter` after the loop over the operations of a node. -/
def countOperations (sOperations rOperations : List String) : Nat :=
  sOperations.foldl (fun opCounter sOperation => countOperation sOperation opCounter rOperations) 0

/-- The vector which `findBestServer` collects. -/
def possibleServers [LinearOrder float] (balancer : LoadBalanceImpl float)
    (sNode : ServerNode float) : List (ServerNode float) :=
  balancer.servers.filter fun server =>
    sNode.version ≤ server.version ∧
      countOperations server.operations sNode.operations = sNode.operations.length

/-- The local variables of the loop in `minUsageServer`. -/
structure Selected (float : Type) where
  minUsage : Int32
  minUsageAddress : String
  sameUsageProviders : List (ServerNode float)

/-- One turn of that loop. -/
def Selected.visit (unset : Int32) (selected : Selected float) (server : ServerNode float) :
    Selected float :=
  if server.load unset < selected.minUsage then
    { minUsage := server.load unset
      minUsageAddress := server.address
      sameUsageProviders := [server] }
  else if server.load unset = selected.minUsage then
    { selected with sameUsageProviders := selected.sameUsageProviders ++ [server] }
  else selected

/-- The loop starts from the front element, which it visits again. -/
def select (unset : Int32) (front : ServerNode float) (servers : List (ServerNode float)) :
    Selected float :=
  servers.foldl (Selected.visit unset)
    { minUsage := front.load unset
      minUsageAddress := front.address
      sameUsageProviders := [] }

def minUsageServer (unset : Int32) (draw : Draw) : List (ServerNode float) → Option String
  | [] => some ""
  | front :: servers =>
      let selected := select unset front (front :: servers)
      let size := selected.sameUsageProviders.length
      if 1 < size then
        selected.sameUsageProviders[draw.dist (size - 1)]?.map fun server => server.address
      else some selected.minUsageAddress

def findBestServer [LinearOrder float] (balancer : LoadBalanceImpl float) (unset : Int32)
    (draw : Draw) (sNode : ServerNode float) : Option String :=
  minUsageServer unset draw (balancer.possibleServers sNode)

/-- The node which `ListServer` fills from the request. -/
def requested (request : ServerRequest float) : ServerNode float where
  address := ""
  operations := request.operation
  version := request.version
  usage := none
  lastBeat := 0

def listServer [LinearOrder float] (balancer : LoadBalanceImpl float) (unset : Int32)
    (draw : Draw) (request : ServerRequest float) : Option (Status × ServerReply) :=
  (balancer.findBestServer unset draw (requested request)).map fun address => (.OK, ⟨address⟩)

end LoadBalanceImpl

end Cloud3D
