import Cloud3D.Provider.Handlers

/-!
# Remote operations

The four overloads of `performOperation` build a request, call the handler of their
kind and append what it returns to the output vector of the caller. `RemoteEqualsLocal`
states what a remote operation is for: running the function of the registered service
on its object, with the inputs of the caller in its incoming list. Meshes do not pass
unchanged, they are `transported` on the way to the provider and on the way back.

A served call leaves no trace at the provider, so the outcome is that of the
registrations alone, whatever has been called before.
-/

namespace Cloud3D

variable {float double : Type}

namespace CloudClient

/-- What the overloads do with the outcome of their call. The code is 0 if it was
served and 1 otherwise. -/
def receive {response β : Type} (outcome : Option (Status × response))
    (append : List β → response → Option (List β)) (incoming : List β) :
    Option (Int × List β) := do
  let (status, reply) ← outcome
  if status.ok then
    let incoming ← append incoming reply
    return (0, incoming)
  else
    return (1, incoming)

/-- Bytes to bytes. -/
def performOperationModels (provider : ServiceProviderImpl float double) (serviceName : String)
    (outgoingModels incomingModels : List Bytes) : Option (Int × List Bytes) :=
  receive (provider.modelstoModels ⟨serviceName, outgoingModels⟩)
    (fun incoming reply => some (incoming ++ reply.data)) incomingModels

/-- Bytes to numbers. -/
def performOperationNumbers (provider : ServiceProviderImpl float double) (serviceName : String)
    (outgoingModels : List Bytes) (incomingNumbers : List double) : Option (Int × List double) :=
  receive (provider.modelstoNumbers ⟨serviceName, outgoingModels⟩)
    (fun incoming reply => some (incoming ++ reply.point)) incomingNumbers

/-- The client decodes each mesh of the reply into a mesh variable of its own. -/
def appendMesh (openMesh : OpenMesh float) (scalars : Scalars float double)
    (incomingModels : List (CloudMesh float)) (model : Mesh double) :
    Option (List (CloudMesh float)) := do
  let mesh ← ModelProcessor.deserializeModel openMesh scalars .empty model
  return incomingModels ++ [mesh]

/-- Meshes to meshes. -/
def performOperationMeshes (openMesh : OpenMesh float) (scalars : Scalars float double)
    (provider : ServiceProviderImpl float double) (serviceName : String)
    (outgoingModels incomingModels : List (CloudMesh float)) :
    Option (Int × List (CloudMesh float)) :=
  receive (ServiceProviderImpl.meshtoMesh openMesh scalars provider
      (outgoingModels.foldl (ModelProcessor.serializeModel scalars) ⟨serviceName, []⟩))
    (fun incoming reply => reply.mesh.foldlM (appendMesh openMesh scalars) incoming)
    incomingModels

/-- Meshes to numbers. -/
def performOperationMeshNumbers (openMesh : OpenMesh float) (scalars : Scalars float double)
    (provider : ServiceProviderImpl float double) (serviceName : String)
    (outgoingModels : List (CloudMesh float)) (incomingNumbers : List double) :
    Option (Int × List double) :=
  receive (ServiceProviderImpl.meshtoNumbers openMesh scalars provider
      (outgoingModels.foldl (ModelProcessor.serializeModel scalars) ⟨serviceName, []⟩))
    (fun incoming reply => some (incoming ++ reply.point)) incomingNumbers

end CloudClient

/-! ### Local operations -/

def ModelToModelService.runModels (service : ModelToModelService float) (models : List Bytes) :
    List Bytes :=
  (service.fp { service.object with
    incomingModels := service.object.incomingModels ++ models }).outgoingModels

def ModelToNumberService.runModels (service : ModelToNumberService float double)
    (models : List Bytes) : List double :=
  (service.fp { service.object with
    incomingModels := service.object.incomingModels ++ models }).outgoingVector

section Meshes

variable (openMesh : OpenMesh float) (scalars : Scalars float double)

/-- The function runs on transported meshes, and its results are transported. -/
def ModelToModelService.runMeshes (service : ModelToModelService float)
    (meshes : List (CloudMesh float)) : List (CloudMesh float) :=
  (service.fp { service.object with
    incomingMeshModels := service.object.incomingMeshModels ++
      meshes.map (ModelProcessor.transported openMesh scalars) }).outgoingMeshModels.map
    (ModelProcessor.transported openMesh scalars)

def ModelToNumberService.runMeshes (service : ModelToNumberService float double)
    (meshes : List (CloudMesh float)) : List double :=
  (service.fp { service.object with
    incomingMeshModels := service.object.incomingMeshModels ++
      meshes.map (ModelProcessor.transported openMesh scalars) }).outgoingVector

end Meshes

/-- The outcome of a remote operation is that of running the service of the given name
locally: its results are appended to the output, if there is such a service. -/
structure RemoteEqualsLocal {α β : Type} (services : List (Callable α)) (name : α → String)
    (serviceName : String) (run : Callable α → List β) (incoming : List β)
    (outcome : Option (Int × List β)) : Prop where
  zero_iff : outcome.map Prod.fst = some 0 ↔
    ∃ service ∈ services, name service.object = serviceName
  served : ∀ service ∈ services, name service.object = serviceName →
    outcome = some (0, incoming ++ run service)
  rejected : (∀ service ∈ services, name service.object ≠ serviceName) →
    outcome = some (1, incoming)

/-- A handler and its client together are right once the inputs reach the object and
the results of the function reach the output. -/
theorem remoteEqualsLocal_receive_serve {α β response : Type} {name : α → String}
    {load : α → Option α} {reply : α → response} {unset : response}
    {services : List (Callable α)} {append : List β → response → Option (List β)}
    {run : Callable α → List β}
    (distinct : (services.map fun service => name service.object).Nodup)
    (carried : ∀ service ∈ services, ∀ incoming, ∃ loaded, load service.object = some loaded ∧
      append incoming (reply (service.fp loaded)) = some (incoming ++ run service))
    (serviceName : String) (incoming : List β) :
    RemoteEqualsLocal services name serviceName run incoming
      (CloudClient.receive (serve name serviceName load reply unset services) append
        incoming) := by
  have served : ∀ service ∈ services, name service.object = serviceName →
      CloudClient.receive (serve name serviceName load reply unset services) append incoming =
        some (0, incoming ++ run service) := by
    intro service member same
    obtain ⟨loaded, result, appended⟩ := carried service member incoming
    rw [serve_of_mem distinct member same, result]
    simp [CloudClient.receive, Status.ok, appended]
  have rejected : (∀ service ∈ services, name service.object ≠ serviceName) →
      CloudClient.receive (serve name serviceName load reply unset services) append incoming =
        some (1, incoming) := by
    intro absent
    rw [serve_of_forall_ne absent]
    rfl
  refine ⟨⟨?_, ?_⟩, served, rejected⟩
  · intro zero
    by_contra absent
    rw [rejected fun service member same => absent ⟨service, member, same⟩] at zero
    exact absurd zero (by simp)
  · rintro ⟨service, member, same⟩
    rw [served service member same]
    rfl

/-- Encoded meshes arrive in the object of the service. -/
theorem receiveMeshes_map_meshModel (openMesh : OpenMesh float) (scalars : Scalars float double)
    (meshes incoming : List (CloudMesh float)) :
    ∃ mesh, ModelProcessor.receiveMeshes openMesh scalars
        (meshes.map (ModelProcessor.meshModel scalars)) .empty incoming =
      some (mesh, incoming ++ meshes.map (ModelProcessor.transported openMesh scalars)) := by
  have received := ModelProcessor.receiveMeshes_eq openMesh scalars
    (meshes.map (ModelProcessor.meshModel scalars)) .empty incoming
  rw [ModelProcessor.mapM_deserializeModel_meshModel, Option.map_some,
    Option.map_eq_some_iff] at received
  obtain ⟨⟨mesh, _⟩, result, rfl⟩ := received
  exact ⟨mesh, result⟩

/-- The meshes of a reply are decoded independently of each other. -/
theorem foldlM_appendMesh_eq (openMesh : OpenMesh float) (scalars : Scalars float double)
    (models : List (Mesh double)) (incoming : List (CloudMesh float)) :
    models.foldlM (CloudClient.appendMesh openMesh scalars) incoming =
      (models.mapM (ModelProcessor.deserializeModel openMesh scalars .empty)).map
        (incoming ++ ·) := by
  induction models generalizing incoming with
  | nil => simp
  | cons model models ih =>
      rw [List.foldlM_cons, List.mapM_cons, CloudClient.appendMesh]
      cases ModelProcessor.deserializeModel openMesh scalars .empty model with
      | none => rfl
      | some decoded =>
          simp only [Option.bind_eq_bind, Option.bind_some, Option.pure_def, ih]
          cases models.mapM (ModelProcessor.deserializeModel openMesh scalars .empty) <;> simp

theorem foldlM_appendMesh (openMesh : OpenMesh float) (scalars : Scalars float double)
    (meshes incoming : List (CloudMesh float)) :
    (meshes.map (ModelProcessor.meshModel scalars)).foldlM
        (CloudClient.appendMesh openMesh scalars) incoming =
      some (incoming ++ meshes.map (ModelProcessor.transported openMesh scalars)) := by
  rw [foldlM_appendMesh_eq, ModelProcessor.mapM_deserializeModel_meshModel, Option.map_some]

section Routes

open CloudClient

variable {provider : ServiceProviderImpl float double}

theorem remoteEqualsLocal_models (consistent : provider.Consistent) (serviceName : String)
    (outgoingModels incomingModels : List Bytes) :
    RemoteEqualsLocal provider.modelsToModelsServices (fun service => service.name) serviceName
      (fun service => ModelToModelService.runModels service outgoingModels) incomingModels
      (performOperationModels provider serviceName outgoingModels incomingModels) := by
  apply remoteEqualsLocal_receive_serve consistent.nodup_names.1
  exact fun service _ incoming => ⟨_, rfl, rfl⟩

theorem remoteEqualsLocal_numbers (consistent : provider.Consistent) (serviceName : String)
    (outgoingModels : List Bytes) (incomingNumbers : List double) :
    RemoteEqualsLocal provider.modelToNumbersServices (fun service => service.name) serviceName
      (fun service => ModelToNumberService.runModels service outgoingModels) incomingNumbers
      (performOperationNumbers provider serviceName outgoingModels incomingNumbers) := by
  apply remoteEqualsLocal_receive_serve consistent.nodup_names.2.1
  exact fun service _ incoming => ⟨_, rfl, rfl⟩

theorem remoteEqualsLocal_meshes (openMesh : OpenMesh float) (scalars : Scalars float double)
    (consistent : provider.Consistent) (serviceName : String)
    (outgoingModels incomingModels : List (CloudMesh float)) :
    RemoteEqualsLocal provider.modelsToModelsServices (fun service => service.name) serviceName
      (fun service => ModelToModelService.runMeshes openMesh scalars service outgoingModels)
      incomingModels
      (performOperationMeshes openMesh scalars provider serviceName outgoingModels
        incomingModels) := by
  rw [performOperationMeshes, ModelProcessor.foldl_serializeModel]
  apply remoteEqualsLocal_receive_serve consistent.nodup_names.1
  intro service _ incoming
  obtain ⟨mesh, arrived⟩ := receiveMeshes_map_meshModel openMesh scalars outgoingModels
    service.object.incomingMeshModels
  refine ⟨{ service.object with
    incomingMeshModels := service.object.incomingMeshModels ++
      outgoingModels.map (ModelProcessor.transported openMesh scalars) }, ?_, ?_⟩
  · simp [arrived]
  · rw [ModelProcessor.foldl_serializeModel]
    exact foldlM_appendMesh openMesh scalars _ incoming

theorem remoteEqualsLocal_meshNumbers (openMesh : OpenMesh float)
    (scalars : Scalars float double) (consistent : provider.Consistent) (serviceName : String)
    (outgoingModels : List (CloudMesh float)) (incomingNumbers : List double) :
    RemoteEqualsLocal provider.modelToNumbersServices (fun service => service.name) serviceName
      (fun service => ModelToNumberService.runMeshes openMesh scalars service outgoingModels)
      incomingNumbers
      (performOperationMeshNumbers openMesh scalars provider serviceName outgoingModels
        incomingNumbers) := by
  rw [performOperationMeshNumbers, ModelProcessor.foldl_serializeModel]
  apply remoteEqualsLocal_receive_serve consistent.nodup_names.2.1
  intro service _ incoming
  obtain ⟨mesh, arrived⟩ := receiveMeshes_map_meshModel openMesh scalars outgoingModels
    service.object.incomingMeshModels
  refine ⟨{ service.object with
    incomingMeshModels := service.object.incomingMeshModels ++
      outgoingModels.map (ModelProcessor.transported openMesh scalars) }, ?_, rfl⟩
  simp [arrived]

end Routes

open CloudClient ServiceProviderImpl in
/-- After any registrations and any served calls, each of the four overloads runs the
service of its kind which has been registered under the requested name. -/
theorem remote_equals_local {openMesh : OpenMesh float} {scalars : Scalars float double}
    {events : List (Activity float double)} {provider : ServiceProviderImpl float double}
    (reached : after openMesh scalars events = some provider) (serviceName : String) :
    let models := (registered (events.filterMap Activity.registration?)).modelsToModelsServices
    let numbers := (registered (events.filterMap Activity.registration?)).modelToNumbersServices
    (∀ outgoingModels incomingModels,
      RemoteEqualsLocal models (fun service => service.name) serviceName
        (fun service => ModelToModelService.runModels service outgoingModels) incomingModels
        (performOperationModels provider serviceName outgoingModels incomingModels)) ∧
    (∀ outgoingModels incomingNumbers,
      RemoteEqualsLocal numbers (fun service => service.name) serviceName
        (fun service => ModelToNumberService.runModels service outgoingModels) incomingNumbers
        (performOperationNumbers provider serviceName outgoingModels incomingNumbers)) ∧
    (∀ outgoingModels incomingModels,
      RemoteEqualsLocal models (fun service => service.name) serviceName
        (fun service => ModelToModelService.runMeshes openMesh scalars service outgoingModels)
        incomingModels
        (performOperationMeshes openMesh scalars provider serviceName outgoingModels
          incomingModels)) ∧
    (∀ outgoingModels incomingNumbers,
      RemoteEqualsLocal numbers (fun service => service.name) serviceName
        (fun service => ModelToNumberService.runMeshes openMesh scalars service outgoingModels)
        incomingNumbers
        (performOperationMeshNumbers openMesh scalars provider serviceName outgoingModels
          incomingNumbers)) := by
  obtain rfl := after_eq_registered reached
  have consistent := consistent_registered (events.filterMap Activity.registration?)
  exact ⟨remoteEqualsLocal_models consistent serviceName,
    remoteEqualsLocal_numbers consistent serviceName,
    remoteEqualsLocal_meshes openMesh scalars consistent serviceName,
    remoteEqualsLocal_meshNumbers openMesh scalars consistent serviceName⟩

/-- A service which returns its models in reverse. -/
def mirror : ModelToModelService Int :=
  ⟨⟨⟨"Mirror", [], [], []⟩, []⟩, fun service =>
    { service with outgoingModels := service.incomingModels.reverse }⟩

/-- A service which counts its meshes. -/
def count : ModelToNumberService Int Int :=
  ⟨⟨⟨"Count", [], [], []⟩, []⟩, fun service =>
    { service with outgoingVector := [service.incomingMeshModels.length] }⟩

def twoServices : ServiceProviderImpl Int Int := ⟨[mirror], [count], ["Mirror", "Count"]⟩

/-- A call is served between the two registrations. -/
theorem remote_equals_local_two :
    CloudClient.performOperationModels twoServices "Mirror" [[3], [4]] [[0]] =
        some (0, [[0], [4], [3]]) ∧
      CloudClient.performOperationMeshNumbers orientable ⟨id, id⟩ twoServices "Mirror"
        [quad, quad] [5] = some (1, [5]) ∧
      CloudClient.performOperationMeshNumbers orientable ⟨id, id⟩ twoServices "Count"
        [quad, quad] [5] = some (0, [5, 2]) := by
  have reached : ServiceProviderImpl.after orientable ⟨id, id⟩
      [.register (.modelsToModels mirror), .modelstoModels ⟨"Mirror", [[1], [2]]⟩,
        .register (.modelsToNumbers count)] = some twoServices := rfl
  obtain ⟨models, _, _, absent⟩ := remote_equals_local reached "Mirror"
  obtain ⟨_, _, _, numbers⟩ := remote_equals_local reached "Count"
  refine ⟨?_, ?_, ?_⟩
  · exact (models _ _).served mirror (List.mem_singleton.mpr rfl) rfl
  · exact (absent _ _).rejected (by decide)
  · exact (numbers _ _).served count (List.mem_singleton.mpr rfl) rfl

end Cloud3D
