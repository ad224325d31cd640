/-!
# Messages between client, balancer and provider

The messages of the `Cloud3D` package and the status of a call. Repeated fields are
lists in the order of the wire. `float` and `double` are parameters: no component
computes with a version, a coordinate or a result, they are compared, converted or
passed on. Vertex indices are natural numbers, which covers every `uint32`.

A message read by no component is the message without its unread fields: the
`priority` of a `ServerRequest` is neither set by the client nor read.
-/

namespace Cloud3D

/-- The part of `grpc::Status` that the components tell apart. A call whose request
or reply is lost ends in `UNAVAILABLE`; a handler returns `OK` or `CANCELLED`. -/
inductive Status where
  | OK
  | CANCELLED
  | UNAVAILABLE
deriving DecidableEq, Repr

/-- The only question which the callers ask. -/
def Status.ok : Status → Bool
  | .OK => true
  | .CANCELLED => false
  | .UNAVAILABLE => false

@[simp] theorem Status.ok_iff (status : Status) : status.ok = true ↔ status = .OK := by
  cases status <;> simp [Status.ok]

/-! ### `LoadBalance` -/

structure NewServer (float : Type) where
  version : float
  serverAddress : String
  operation : List String
deriving DecidableEq, Repr

structure Confirmation where
  status : Bool
deriving DecidableEq, Repr

structure HeartBeat where
  status : Bool
  usage : UInt32
  serverAddresss : String
deriving DecidableEq, Repr

structure HeartBeatReply where
  status : Bool
deriving DecidableEq, Repr

structure ServerRequest (float : Type) where
  version : float
  operation : List String
deriving DecidableEq, Repr

structure ServerReply where
  serverAddresss : String
deriving DecidableEq, Repr

/-! ### `ServiceProvide` -/

/-- The contents of a `bytes` field. -/
abbrev Bytes := List UInt8

structure Model where
  operation : String
  data : List Bytes
deriving DecidableEq, Repr

structure VectorofNumbers (double : Type) where
  operation : String
  point : List double
deriving DecidableEq, Repr

structure Vertex (double : Type) where
  x : double
  y : double
  z : double
deriving DecidableEq, Repr

structure Face where
  index : List Nat
deriving DecidableEq, Repr

structure Mesh (double : Type) where
  face : List Face
  vertex : List (Vertex double)
deriving DecidableEq, Repr

structure OpenMeshModel (double : Type) where
  operation : String
  mesh : List (Mesh double)
deriving DecidableEq, Repr

end Cloud3D
