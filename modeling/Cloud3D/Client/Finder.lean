import Cloud3D.Balancer.Selection

/-!
# Finding a provider

`ProviderFinder::getServer` forwards the version and the operations of a client to the
balancer. An address which it returns is not empty when a provider was found; a call
that fails is answered with the empty address, like a request without candidates.
-/

namespace Cloud3D

variable {float : Type}

structure ProviderFinder (float : Type) where
  version : float
deriving DecidableEq, Repr

namespace ProviderFinder

/-- The request of `getServer`. -/
def serverRequest (finder : ProviderFinder float) (operations : List String) :
    ServerRequest float :=
  ⟨finder.version, operations⟩

/-- What `getServer` makes of the outcome of its call. -/
def address (status : Status) (response : ServerReply) : String :=
  if status.ok then response.serverAddresss else ""

/-- A call that reaches the balancer and returns. -/
def getServer [LinearOrder float] (finder : ProviderFinder float)
    (balancer : LoadBalanceImpl float) (unset : Int32) (draw : Draw) (operations : List String) :
    Option String :=
  (balancer.listServer unset draw (finder.serverRequest operations)).map fun outcome =>
    address outcome.1 outcome.2

/-- The balancer always answers `OK`, so `getServer` returns what it selects. -/
theorem getServer_eq [LinearOrder float] (finder : ProviderFinder float)
    (balancer : LoadBalanceImpl float) (unset : Int32) (draw : Draw) (operations : List String) :
    finder.getServer balancer unset draw operations =
      LoadBalanceImpl.minUsageServer unset draw
        (balancer.possibleServers
          (LoadBalanceImpl.requested (finder.serverRequest operations))) := by
  simp [getServer, LoadBalanceImpl.listServer, LoadBalanceImpl.findBestServer, address, Status.ok,
    Function.comp_def]

end ProviderFinder

end Cloud3D
