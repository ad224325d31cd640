import Cloud3D.Client.Operation
import Cloud3D.Cloud.Advertised

/-!
# What a connected client gets

The names which a client has asked for stay names of the table it is connected to, and a
name of a table belongs to one service in one of its lists. So for each of its operations
one pair of overloads runs this service, and the other pair is refused.

The answer to a client is exact: it gets an address if and only if it asks for no
operation twice and some node of the registry offers all of them.
-/

namespace Cloud3D

variable {float double : Type}

/-- Operations of this name run a service of one kind, and are refused for the other. -/
inductive ServedBy (openMesh : OpenMesh float) (scalars : Scalars float double)
    (impl : ServiceProviderImpl float double) (serviceName : String) : Prop where
  | models (service : ModelToModelService float) (member : service ∈ impl.modelsToModelsServices)
      (named : service.getName = serviceName)
      (bytes : ∀ outgoingModels incomingModels,
        CloudClient.performOperationModels impl serviceName outgoingModels incomingModels =
          some (0, incomingModels ++ service.runModels outgoingModels))
      (meshes : ∀ outgoingModels incomingModels,
        CloudClient.performOperationMeshes openMesh scalars impl serviceName outgoingModels
            incomingModels =
          some (0, incomingModels ++ service.runMeshes openMesh scalars outgoingModels))
      (noNumbers : ∀ outgoingModels incomingNumbers,
        CloudClient.performOperationNumbers impl serviceName outgoingModels incomingNumbers =
          some (1, incomingNumbers))
      (noMeshNumbers : ∀ outgoingModels incomingNumbers,
        CloudClient.performOperationMeshNumbers openMesh scalars impl serviceName outgoingModels
            incomingNumbers = some (1, incomingNumbers))
  | numbers (service : ModelToNumberService float double)
      (member : service ∈ impl.modelToNumbersServices) (named : service.getName = serviceName)
      (bytes : ∀ outgoingModels incomingNumbers,
        CloudClient.performOperationNumbers impl serviceName outgoingModels incomingNumbers =
          some (0, incomingNumbers ++ service.runModels outgoingModels))
      (meshes : ∀ outgoingModels incomingNumbers,
        CloudClient.performOperationMeshNumbers openMesh scalars impl serviceName outgoingModels
            incomingNumbers =
          some (0, incomingNumbers ++ service.runMeshes openMesh scalars outgoingModels))
      (noModels : ∀ outgoingModels incomingModels,
        CloudClient.performOperationModels impl serviceName outgoingModels incomingModels =
          some (1, incomingModels))
      (noMeshes : ∀ outgoingModels incomingModels,
        CloudClient.performOperationMeshes openMesh scalars impl serviceName outgoingModels
            incomingModels = some (1, incomingModels))

namespace ServiceProviderImpl

/-- Every name of a table is served. -/
theorem servedBy_of_mem (openMesh : OpenMesh float) (scalars : Scalars float double)
    {impl : ServiceProviderImpl float double} (consistent : impl.Consistent) {serviceName : String}
    (member : serviceName ∈ impl.listOfServiceNames) :
    ServedBy openMesh scalars impl serviceName := by
  have apart := consistent.nodup_names.2.2
  cases (consistent.mem_names_iff serviceName).mp member with
  | inl inModels =>
      obtain ⟨service, listed, named⟩ := List.mem_map.mp inModels
      have other : ∀ service ∈ impl.modelToNumbersServices, service.getName ≠ serviceName :=
        fun service listed same => apart inModels (List.mem_map.mpr ⟨service, listed, same⟩)
      exact .models service listed named
        (fun _ _ => (remoteEqualsLocal_models consistent _ _ _).served service listed named)
        (fun _ _ => (remoteEqualsLocal_meshes openMesh scalars consistent _ _ _).served service
          listed named)
        (fun _ _ => (remoteEqualsLocal_numbers consistent _ _ _).rejected other)
        (fun _ _ => (remoteEqualsLocal_meshNumbers openMesh scalars consistent _ _ _).rejected
          other)
  | inr inNumbers =>
      obtain ⟨service, listed, named⟩ := List.mem_map.mp inNumbers
      have other : ∀ service ∈ impl.modelsToModelsServices, service.getName ≠ serviceName :=
        fun service listed same => apart (List.mem_map.mpr ⟨service, listed, same⟩) inNumbers
      exact .numbers service listed named
        (fun _ _ => (remoteEqualsLocal_numbers consistent _ _ _).served service listed named)
        (fun _ _ => (remoteEqualsLocal_meshNumbers openMesh scalars consistent _ _ _).served
          service listed named)
        (fun _ _ => (remoteEqualsLocal_models consistent _ _ _).rejected other)
        (fun _ _ => (remoteEqualsLocal_meshes openMesh scalars consistent _ _ _).rejected other)

end ServiceProviderImpl

namespace Cloud

variable {ι κ : Type} [DecidableEq ι] [DecidableEq κ] [LinearOrder float]
variable {establisher : ι → BalancerEstablisher float} {spec : κ → ClientSpec float}

/-- Two providers, the first of an older version. -/
def olderAndNewer : Bool → BalancerEstablisher Int
  | false => ⟨"provider:1", 1, 0⟩
  | true => ⟨"provider:2", 2, 0⟩

/-- The registration of the first provider is late, and the second one registers a
further service after its call. -/
def asked : List (Label Bool Unit Int Int) :=
  [.register true (.modelsToModels ⟨⟨⟨"MeshCut", [], [], []⟩, []⟩, id⟩),
    .register true (.modelsToNumbers ⟨⟨⟨"Volume", [], [], []⟩, []⟩, id⟩),
    .session (.call false 0 []), .ask (), .session (.lose false true),
    .session (.call true 0 []),
    .register true (.modelsToModels ⟨⟨⟨"MeshSmooth", [], [], []⟩, []⟩, id⟩),
    .session (.process true 1000), .session (.processLate 0 2000)]

/-- The first draw that there may be. -/
def drawFront : Draw := ⟨fun _ => 0, fun _ => Nat.zero_le _⟩

/-- A sweep comes between the answer and its receipt. -/
def overlapping : List (Label Bool Unit Int Int) :=
  asked ++ .list () 0 drawFront :: [.session (.sweep 3000)] ++ [.receive ()]

/-- The label is an action of this client, or of the balancer for it. -/
def Label.concerns (c : κ) : Label ι κ float double → Bool
  | .ask d => d = c
  | .list d _ _ => d = c
  | .receive d => d = c
  | .lose d => d = c
  | _ => false

variable (establisher spec) in
theorem clients_step_of_unconcerned (cloud : Cloud ι κ float double) {c : κ}
    {label : Label ι κ float double} (unconcerned : label.concerns c = false) :
    (step establisher spec cloud label).clients c = cloud.clients c := by
  cases label with
  | register i registration => rfl
  | crash i arrives => rfl
  | session label => rfl
  | ask d =>
      have other : c ≠ d := fun same => by simp [Label.concerns, same] at unconcerned
      simp only [step]
      split <;> simp [setClient_other, other]
  | list d unset draw =>
      have other : c ≠ d := fun same => by simp [Label.concerns, same] at unconcerned
      simp only [step]
      split
      · split <;> simp [setClient_other, other]
      · rfl
  | receive d =>
      have other : c ≠ d := fun same => by simp [Label.concerns, same] at unconcerned
      simp only [step]
      split <;> simp [setClient_other, other]
  | lose d =>
      have other : c ≠ d := fun same => by simp [Label.concerns, same] at unconcerned
      simp only [step]
      split <;> simp [setClient_other, other]

variable (establisher spec) in
theorem clients_run_of_unconcerned (cloud : Cloud ι κ float double) {c : κ}
    {labels : List (Label ι κ float double)}
    (unconcerned : ∀ label ∈ labels, label.concerns c = false) :
    (Transition.run (step establisher spec) cloud labels).clients c = cloud.clients c :=
  Transition.run_unchanged (fun cloud : Cloud ι κ float double => cloud.clients c)
    fun cloud label member =>
      clients_step_of_unconcerned establisher spec cloud (unconcerned label member)

/-- The answer of the balancer waits for the client, whatever the others do. -/
theorem clients_received (cloud : Cloud ι κ float double) {c : κ}
    {request : ServerRequest float} (asking : cloud.clients c = .asking request)
    {unset : Int32} {draw : Draw} {status : Status} {response : ServerReply}
    (result : cloud.session.balancer.listServer unset draw request = some (status, response))
    {others : List (Label ι κ float double)}
    (unconcerned : ∀ label ∈ others, label.concerns c = false) :
    (Transition.run (step establisher spec) cloud
      (.list c unset draw :: others ++ [.receive c])).clients c = .conclude status response := by
  have answered : (step establisher spec cloud (.list c unset draw)).clients c =
      .answered status response := by
    simp [step, asking, result, setClient_same]
  have waiting := (clients_run_of_unconcerned establisher spec
    (step establisher spec cloud (.list c unset draw)) unconcerned).trans answered
  rw [Transition.run_append, Transition.run_cons, Transition.run_cons, Transition.run_nil]
  generalize Transition.run (step establisher spec)
    (step establisher spec cloud (.list c unset draw)) others = later at waiting ⊢
  simp only [step, waiting, setClient_same]

/-- The steps of a lookup make up `getServer`: the client goes on with the address that it
returns for the registry at the time of the answer. -/
theorem clients_getServer {cloud : Cloud ι κ float double} {c : κ}
    (asking : cloud.clients c = .asking (spec c).request) {unset : Int32} {draw : Draw}
    {providerAddress : String}
    (result : (ProviderFinder.mk (spec c).minVersion).getServer cloud.session.balancer unset draw
      (spec c).services = some providerAddress)
    {others : List (Label ι κ float double)}
    (unconcerned : ∀ label ∈ others, label.concerns c = false) :
    (Transition.run (step establisher spec) cloud
      (.list c unset draw :: others ++ [.receive c])).clients c =
        if providerAddress.isEmpty then .failed else .connected providerAddress := by
  obtain ⟨⟨status, response⟩, answer, rfl⟩ := Option.map_eq_some_iff.mp result
  exact clients_received cloud asking answer unconcerned

omit [DecidableEq ι] [DecidableEq κ] in
/-- A node is a candidate if and only if it offers what is asked for, and nothing is asked
for twice. -/
theorem Advertised.candidate_iff {cloud : Cloud ι κ float double}
    (advertised : Advertised establisher spec cloud) (request : ServerRequest float)
    (server : ServerNode float) :
    server ∈ cloud.session.balancer.possibleServers (LoadBalanceImpl.requested request) ↔
      request.operation.Nodup ∧ server ∈ cloud.session.balancer.servers ∧
        LoadBalanceImpl.Offers server request := by
  constructor
  · intro candidate
    obtain ⟨member, version, _⟩ :=
      (LoadBalanceImpl.mem_possibleServers_iff _ _ server).mp candidate
    have distinct : server.operations.Nodup := (advertised.carries.nodes server member).1
    obtain ⟨once, subset⟩ := LoadBalanceImpl.offers_of_mem_possibleServers distinct candidate
    exact ⟨once, member, version, subset⟩
  · rintro ⟨once, member, offers⟩
    have distinct : server.operations.Nodup := (advertised.carries.nodes server member).1
    exact ((LoadBalanceImpl.candidate_exact_iff _ request member).mpr fun _ =>
      LoadBalanceImpl.unambiguous_of_nodup distinct once).mpr offers

/-- How a request ends which reaches the balancer: the client is connected to a node, or it
fails, and which of both it is depends only on what the registry held. -/
theorem clients_answered {cloud : Cloud ι κ float double}
    (advertised : Advertised establisher spec cloud)
    (nonempty : ∀ i, (establisher i).srvAddress ≠ "") {c : κ} {request : ServerRequest float}
    (asking : cloud.clients c = .asking request) {others : List (Label ι κ float double)}
    (unconcerned : ∀ label ∈ others, label.concerns c = false) (unset : Int32) (draw : Draw) :
    ((spec c).services.Nodup ∧ ∃ server ∈ cloud.session.balancer.servers,
      LoadBalanceImpl.Offers server (spec c).request ∧
        (Transition.run (step establisher spec) cloud
          (.list c unset draw :: others ++ [.receive c])).clients c =
            .connected server.address) ∨
    (¬ ((spec c).services.Nodup ∧ ∃ server ∈ cloud.session.balancer.servers,
        LoadBalanceImpl.Offers server (spec c).request) ∧
      (Transition.run (step establisher spec) cloud
        (.list c unset draw :: others ++ [.receive c])).clients c = .failed) := by
  obtain rfl := advertised.requests c request asking
  have exact := advertised.candidate_iff (spec c).request
  let finder : ProviderFinder float := ⟨(spec c).minVersion⟩
  cases candidates :
      cloud.session.balancer.possibleServers (LoadBalanceImpl.requested (spec c).request) with
  | nil =>
      refine .inr ⟨?_, ?_⟩
      · rintro ⟨once, server, member, offers⟩
        have candidate := (exact server).mpr ⟨once, member, offers⟩
        rw [candidates] at candidate
        cases candidate
      · have result : finder.getServer cloud.session.balancer unset draw (spec c).services =
            some "" := by
          rw [ProviderFinder.getServer_eq]
          exact congrArg (LoadBalanceImpl.minUsageServer unset draw) candidates
        exact clients_getServer asking result unconcerned
  | cons front rest =>
      obtain ⟨server, minimal, chosen⟩ :=
        LoadBalanceImpl.minUsageServer_cons unset draw front rest
      rw [← candidates] at chosen
      have candidate := minimal.1
      rw [← candidates] at candidate
      obtain ⟨once, member, offers⟩ := (exact server).mp candidate
      obtain ⟨_, i, _, address⟩ := advertised.carries.nodes server member
      have result : finder.getServer cloud.session.balancer unset draw (spec c).services =
          some server.address := (ProviderFinder.getServer_eq _ _ _ _ _).trans chosen
      have named : ¬ server.address.isEmpty = true := by
        rw [String.isEmpty_iff]
        exact fun empty => nonempty i (address.symm.trans empty)
      refine .inl ⟨once, server, member, offers, ?_⟩
      exact (clients_getServer asking result unconcerned).trans (if_neg named)

variable (establisher spec) in
/-- The rest of a run. -/
theorem after_answered (heartBeatRate : Int) (labels others : List (Label ι κ float double))
    (c : κ) (unset : Int32) (draw : Draw) :
    after establisher spec heartBeatRate (labels ++ .list c unset draw :: others ++ [.receive c]) =
      Transition.run (step establisher spec) (after establisher spec heartBeatRate labels)
        (.list c unset draw :: others ++ [.receive c]) := by
  rw [List.append_assoc]
  exact Transition.run_append _ _ _

/-- A request that reaches the balancer is answered, and however the others go on in the
meantime, the client which receives the answer is connected to a node offering what it
asked for. If it asked for a name twice, or there was no such node, it fails. -/
theorem lookup_exact (nonempty : ∀ i, (establisher i).srvAddress ≠ "") (heartBeatRate : Int)
    {labels others : List (Label ι κ float double)} {c : κ} {request : ServerRequest float}
    (asking : (after establisher spec heartBeatRate labels).clients c = .asking request)
    (unconcerned : ∀ label ∈ others, label.concerns c = false) (unset : Int32) (draw : Draw) :
    let servers := (after establisher spec heartBeatRate labels).session.balancer.servers
    let later := after establisher spec heartBeatRate
      (labels ++ .list c unset draw :: others ++ [.receive c])
    ((spec c).services.Nodup →
      (∃ server ∈ servers, LoadBalanceImpl.Offers server (spec c).request) →
      ∃ server ∈ servers, LoadBalanceImpl.Offers server (spec c).request ∧
        later.clients c = .connected server.address) ∧
    (¬ ((spec c).services.Nodup ∧
        ∃ server ∈ servers, LoadBalanceImpl.Offers server (spec c).request) →
      later.clients c = .failed) := by
  have advertised : Advertised establisher spec (after establisher spec heartBeatRate labels) :=
    advertised_after heartBeatRate labels
  intro servers later
  have run : later = _ := after_answered establisher spec heartBeatRate labels others c unset draw
  rw [run]
  cases clients_answered advertised nonempty asking unconcerned unset draw with
  | inl found =>
      obtain ⟨once, server, member, offers, connected⟩ := found
      exact ⟨fun _ _ => ⟨server, member, offers, connected⟩,
        fun absent => absurd ⟨once, server, member, offers⟩ absent⟩
  | inr failed =>
      obtain ⟨absent, failed⟩ := failed
      exact ⟨fun once offered => absurd ⟨once, offered⟩ absent, fun _ => failed⟩

theorem lookup_exact_overlapping :
    ∃ server ∈ (after olderAndNewer (fun _ : Unit => ⟨2, ["Volume", "MeshCut"]⟩) 1000
        asked).session.balancer.servers,
      LoadBalanceImpl.Offers server ⟨2, ["Volume", "MeshCut"]⟩ ∧
        (after olderAndNewer (fun _ : Unit => ⟨2, ["Volume", "MeshCut"]⟩) 1000
          overlapping).clients () = .connected server.address :=
  (lookup_exact (by decide) 1000
    (show (after olderAndNewer (fun _ : Unit => ⟨2, ["Volume", "MeshCut"]⟩) 1000
      asked).clients () = .asking ⟨2, ["Volume", "MeshCut"]⟩ by decide)
    (List.forall_mem_singleton.mpr rfl) 0 drawFront).1 (by decide)
      (by unfold LoadBalanceImpl.Offers; decide)

end Cloud

end Cloud3D
