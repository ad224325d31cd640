import Cloud3D.Client.Finder
import Cloud3D.Provider.Service
import Cloud3D.Session.Basic

/-!
# The whole cloud

Providers, balancer and clients together. A provider is a process with a table of
services, which its owner fills at any time and which a crash empties; its calls go
through the network of `Session` and announce the names that the table holds when the
call is made. A client asks the balancer once, in its constructor, and keeps the address
it was given. Requests and replies of both kinds may be lost.

A step is one label, so the lists of labels are all interleavings of all parties.
-/

namespace Cloud3D

/-- What the constructor of a client has come to. -/
inductive Connection (float : Type) where
  | unconnected
  | asking (request : ServerRequest float)
  | answered (status : Status) (response : ServerReply)
  | connected (providerAddress : String)
  | failed
deriving DecidableEq

/-- How `init` and `initWithSSL` go on after the call of `getServer`. Without an address
the constructor throws. -/
def Connection.conclude {float : Type} (status : Status) (response : ServerReply) :
    Connection float :=
  let providerAddress := ProviderFinder.address status response
  if providerAddress.isEmpty then .failed else .connected providerAddress

/-- What a client is constructed with. -/
structure ClientSpec (float : Type) where
  minVersion : float
  services : List String
deriving DecidableEq, Repr

/-- The request which the constructor sends. -/
def ClientSpec.request {float : Type} (spec : ClientSpec float) : ServerRequest float :=
  ProviderFinder.serverRequest ⟨spec.minVersion⟩ spec.services

structure Cloud (ι κ float double : Type) where
  session : Session.System ι float
  tables : ι → ServiceProviderImpl float double
  clients : κ → Connection float

namespace Cloud

variable {ι κ float double : Type}

/-- A crash may happen while a request is under way, which may still arrive. -/
inductive Label (ι κ float double : Type) where
  | register (i : ι) (registration : Registration float double)
  | crash (i : ι) (arrives : Bool)
  | session (label : Session.Label ι)
  | ask (c : κ)
  | list (c : κ) (unset : Int32) (draw : Draw)
  | receive (c : κ)
  | lose (c : κ)

/-- A call announces the names in the table of its provider. -/
def announced (cloud : Cloud ι κ float double) : Session.Label ι → Session.Label ι
  | .call i usage _ => .call i usage (cloud.tables i).listOfServiceNames
  | .process i now => .process i now
  | .processLate k now => .processLate k now
  | .answer i => .answer i
  | .lose i arrives => .lose i arrives
  | .sweep now => .sweep now
  | .restart => .restart

section Step

variable [DecidableEq ι] [DecidableEq κ] [LinearOrder float]
  (establisher : ι → BalancerEstablisher float) (spec : κ → ClientSpec float)

def setClient (cloud : Cloud ι κ float double) (c : κ) (connection : Connection float) :
    Cloud ι κ float double :=
  { cloud with clients := Function.update cloud.clients c connection }

def setTable (cloud : Cloud ι κ float double) (i : ι) (table : ServiceProviderImpl float double) :
    Cloud ι κ float double :=
  { cloud with tables := Function.update cloud.tables i table }

def step (cloud : Cloud ι κ float double) : Label ι κ float double → Cloud ι κ float double
  | .register i registration => cloud.setTable i ((cloud.tables i).attempt registration)
  | .crash i arrives =>
      { cloud with
        session := (Session.step establisher cloud.session (.lose i arrives)).setControl i
          (.calling .run) }.setTable i .getInstance
  | .session label =>
      { cloud with session := Session.step establisher cloud.session (cloud.announced label) }
  | .ask c =>
      match cloud.clients c with
      | .unconnected => cloud.setClient c (.asking (spec c).request)
      | _ => cloud
  | .list c unset draw =>
      match cloud.clients c with
      | .asking request =>
          match cloud.session.balancer.listServer unset draw request with
          | some (status, response) => cloud.setClient c (.answered status response)
          | none => cloud
      | _ => cloud
  | .receive c =>
      match cloud.clients c with
      | .answered status response => cloud.setClient c (.conclude status response)
      | _ => cloud
  | .lose c =>
      match cloud.clients c with
      | .asking _ => cloud.setClient c (.conclude .UNAVAILABLE ⟨""⟩)
      | .answered _ _ => cloud.setClient c (.conclude .UNAVAILABLE ⟨""⟩)
      | _ => cloud

/-- Nothing is registered, and no one has called yet. -/
def start (heartBeatRate : Int) : Cloud ι κ float double :=
  ⟨Session.start heartBeatRate, fun _ => .getInstance, fun _ => .unconnected⟩

def after (heartBeatRate : Int) (labels : List (Label ι κ float double)) :
    Cloud ι κ float double :=
  Transition.run (step establisher spec) (start heartBeatRate) labels

end Step

end Cloud

end Cloud3D
