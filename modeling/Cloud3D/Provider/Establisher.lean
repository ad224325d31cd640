import Cloud3D.Wire

/-!
# What a provider sends to the balancer

`BalancerEstablisher` fills in two messages: the registration carries the names that
the services of the provider have at the time of the call, the heartbeat the usage as
the user-defined function left it.
-/

namespace Cloud3D

structure BalancerEstablisher (float : Type) where
  srvAddress : String
  version : float
  usage : Int32
deriving DecidableEq

namespace BalancerEstablisher

variable {float : Type}

/-- The request of `establishServer`. -/
def newServer (establisher : BalancerEstablisher float) (listOfServiceNames : List String) :
    NewServer float where
  version := establisher.version
  serverAddress := establisher.srvAddress
  operation := listOfServiceNames

/-- The request of `sendBeat`. -/
def heartBeat (establisher : BalancerEstablisher float) : HeartBeat where
  status := true
  usage := establisher.usage.toUInt32
  serverAddresss := establisher.srvAddress

end BalancerEstablisher

end Cloud3D
