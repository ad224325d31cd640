import Cloud3D.Mesh.Connectivity
import Cloud3D.Provider.Service

/-!
# The handlers of a provider

All four handlers go through copies of the services of one of the two lists, in order,
and serve the request with the first one of the requested name: they append what the
request brings to an incoming list of the copy, run the function on it and send one of
its outgoing lists back. `serve` is this loop, and `serve_eq` its specification. The
singleton itself is never written to.
-/

namespace Cloud3D

variable {float double : Type}

namespace ModelProcessor

/-- One mesh of a request: the mesh variable is cleared, filled and copied. -/
def receiveMesh (openMesh : OpenMesh float) (scalars : Scalars float double)
    (state : CloudMesh float × List (CloudMesh float)) (model : Mesh double) :
    Option (CloudMesh float × List (CloudMesh float)) := do
  let mesh ← deserializeModel openMesh scalars state.1.clear model
  return (mesh, state.2 ++ [mesh])

/-- The loop of the two mesh handlers over the meshes of a request. One mesh variable
serves all of them. -/
def receiveMeshes (openMesh : OpenMesh float) (scalars : Scalars float double)
    (models : List (Mesh double)) (mesh : CloudMesh float)
    (incomingMeshModels : List (CloudMesh float)) :
    Option (CloudMesh float × List (CloudMesh float)) :=
  models.foldlM (receiveMesh openMesh scalars) (mesh, incomingMeshModels)

/-- The meshes of a request are decoded independently of each other. -/
theorem receiveMeshes_eq (openMesh : OpenMesh float) (scalars : Scalars float double)
    (models : List (Mesh double)) (mesh : CloudMesh float)
    (incomingMeshModels : List (CloudMesh float)) :
    (receiveMeshes openMesh scalars models mesh incomingMeshModels).map Prod.snd =
      (models.mapM (deserializeModel openMesh scalars .empty)).map (incomingMeshModels ++ ·) := by
  induction models generalizing mesh incomingMeshModels with
  | nil => simp [receiveMeshes]
  | cons model models ih =>
      rw [receiveMeshes, List.foldlM_cons, List.mapM_cons, receiveMesh]
      simp only [CloudMesh.clear]
      cases deserializeModel openMesh scalars .empty model with
      | none => rfl
      | some decoded =>
          simp only [Option.bind_eq_bind, Option.bind_some, Option.pure_def]
          rw [← receiveMeshes, ih]
          cases models.mapM (deserializeModel openMesh scalars .empty) <;> simp

theorem foldl_serializeModel (scalars : Scalars float double) (message : OpenMeshModel double)
    (meshes : List (CloudMesh float)) :
    meshes.foldl (serializeModel scalars) message =
      { message with mesh := message.mesh ++ meshes.map (meshModel scalars) } := by
  induction meshes generalizing message with
  | nil => simp
  | cons mesh meshes ih => simp [ih, serializeModel]

theorem mapM_deserializeModel_meshModel (openMesh : OpenMesh float)
    (scalars : Scalars float double) (meshes : List (CloudMesh float)) :
    (meshes.map (meshModel scalars)).mapM (deserializeModel openMesh scalars .empty) =
      some (meshes.map (transported openMesh scalars)) := by
  induction meshes with
  | nil => rfl
  | cons mesh meshes ih =>
      rw [List.map_cons, List.mapM_cons, deserializeModel_meshModel, ih]
      rfl

/-- A list of meshes can be decoded exactly when no index leaves the table of its mesh. -/
theorem mapM_deserializeModel_isSome_iff (openMesh : OpenMesh float)
    (scalars : Scalars float double) (models : List (Mesh double)) :
    (models.mapM (deserializeModel openMesh scalars .empty)).isSome ↔
      ∀ model ∈ models, ∀ face ∈ model.face, ∀ index ∈ face.index,
        index < model.vertex.length := by
  rw [Table.mapM_isSome_iff]
  exact forall₂_congr fun model _ => deserializeModel_isSome_iff openMesh scalars .empty model

/-- Whatever is done with them, the meshes arrive in the object of a service exactly when
they can be decoded. -/
theorem load_isSome_iff {α : Type} (openMesh : OpenMesh float) (scalars : Scalars float double)
    (models : List (Mesh double)) (mesh : CloudMesh float)
    (incomingMeshModels : List (CloudMesh float))
    (load : CloudMesh float × List (CloudMesh float) → α) :
    (do
      let received ← receiveMeshes openMesh scalars models mesh incomingMeshModels
      return load received : Option α).isSome ↔
      ∀ model ∈ models, ∀ face ∈ model.face, ∀ index ∈ face.index,
        index < model.vertex.length := by
  have decoded := congrArg Option.isSome
    (receiveMeshes_eq openMesh scalars models mesh incomingMeshModels)
  rw [Option.isSome_map, Option.isSome_map] at decoded
  rw [← mapM_deserializeModel_isSome_iff openMesh scalars models, ← decoded]
  cases receiveMeshes openMesh scalars models mesh incomingMeshModels <;> rfl

end ModelProcessor

section Serve

variable {α response : Type}

/-- The loop of the handlers. `load` may have no defined result. -/
def serve (name : α → String) (operation : String) (load : α → Option α) (reply : α → response)
    (unset : response) : List (Callable α) → Option (Status × response)
  | [] => some (.CANCELLED, unset)
  | service :: services =>
      if operation == name service.object then
        (load service.object).map fun loaded => (.OK, reply (service.fp loaded))
      else
        serve name operation load reply unset services

/-- The first service of the requested name serves the request. -/
theorem serve_eq (name : α → String) (operation : String) (load : α → Option α)
    (reply : α → response) (unset : response) (services : List (Callable α)) :
    serve name operation load reply unset services =
      match services.find? fun service => operation == name service.object with
      | some service => (load service.object).map fun loaded => (.OK, reply (service.fp loaded))
      | none => some (.CANCELLED, unset) := by
  induction services with
  | nil => rfl
  | cons service services ih =>
      rw [serve, List.find?_cons]
      cases operation == name service.object with
      | true => rfl
      | false => exact ih

/-- Where names are unique, any service of the requested name is the first one. -/
theorem serve_of_mem {name : α → String} {operation : String} {load : α → Option α}
    {reply : α → response} {unset : response} {services : List (Callable α)}
    (distinct : (services.map fun service => name service.object).Nodup)
    {service : Callable α} (member : service ∈ services)
    (same : name service.object = operation) :
    serve name operation load reply unset services =
      (load service.object).map fun loaded => (.OK, reply (service.fp loaded)) := by
  induction services with
  | nil => exact absurd member List.not_mem_nil
  | cons first services ih =>
      rw [List.map_cons, List.nodup_cons] at distinct
      rcases List.mem_cons.mp member with rfl | later
      · simp [serve, same]
      · have other : name first.object ≠ operation := by
          rintro rfl
          exact distinct.1 (List.mem_map.mpr ⟨service, later, same⟩)
        rw [serve, if_neg (by simpa using other.symm)]
        exact ih distinct.2 later

theorem serve_of_forall_ne {name : α → String} {operation : String} {load : α → Option α}
    {reply : α → response} {unset : response} {services : List (Callable α)}
    (absent : ∀ service ∈ services, name service.object ≠ operation) :
    serve name operation load reply unset services = some (.CANCELLED, unset) := by
  rw [serve_eq, List.find?_eq_none.mpr fun service member => by
    simpa using (absent service member).symm]

/-- The loop has a defined result unless a service of the requested name cannot load. -/
theorem serve_isSome_iff {name : α → String} {operation : String} {load : α → Option α}
    {reply : α → response} {unset : response} {services : List (Callable α)} {P : Prop}
    (loads : ∀ service ∈ services, (load service.object).isSome ↔ P) :
    (serve name operation load reply unset services).isSome ↔
      (∀ service ∈ services, name service.object ≠ operation) ∨ P := by
  by_cases absent : ∀ service ∈ services, name service.object ≠ operation
  · rw [serve_of_forall_ne absent]
    exact ⟨fun _ => .inl absent, fun _ => rfl⟩
  · have named : ∃ service ∈ services, name service.object = operation := by simpa using absent
    have exists_first :
        (services.find? fun service => operation == name service.object).isSome := by
      obtain ⟨service, member, same⟩ := named
      apply List.find?_isSome.mpr
      exact ⟨service, member, beq_iff_eq.mpr same.symm⟩
    obtain ⟨service, found⟩ := Option.isSome_iff_exists.mp exists_first
    rw [serve_eq, found]
    simp only [Option.isSome_map, loads service (List.mem_of_find?_eq_some found), absent,
      false_or]

end Serve

namespace ServiceProviderImpl

def modelstoModels (impl : ServiceProviderImpl float double) (request : Model) :
    Option (Status × Model) :=
  serve (fun service => service.name) request.operation
    (fun service => some { service with
      incomingModels := service.incomingModels ++ request.data })
    (fun service => ⟨"", service.outgoingModels⟩) ⟨"", []⟩ impl.modelsToModelsServices

def modelstoNumbers (impl : ServiceProviderImpl float double) (request : Model) :
    Option (Status × VectorofNumbers double) :=
  serve (fun service => service.name) request.operation
    (fun service => some { service with
      incomingModels := service.incomingModels ++ request.data })
    (fun service => ⟨"", service.outgoingVector⟩) ⟨"", []⟩ impl.modelToNumbersServices

def meshtoMesh (openMesh : OpenMesh float) (scalars : Scalars float double)
    (impl : ServiceProviderImpl float double) (request : OpenMeshModel double) :
    Option (Status × OpenMeshModel double) :=
  serve (fun service => service.name) request.operation
    (fun service => do
      let received ← ModelProcessor.receiveMeshes openMesh scalars request.mesh .empty
        service.incomingMeshModels
      return { service with incomingMeshModels := received.2 })
    (fun service =>
      service.outgoingMeshModels.foldl (ModelProcessor.serializeModel scalars) ⟨"", []⟩)
    ⟨"", []⟩ impl.modelsToModelsServices

def meshtoNumbers (openMesh : OpenMesh float) (scalars : Scalars float double)
    (impl : ServiceProviderImpl float double) (request : OpenMeshModel double) :
    Option (Status × VectorofNumbers double) :=
  serve (fun service => service.name) request.operation
    (fun service => do
      let received ← ModelProcessor.receiveMeshes openMesh scalars request.mesh .empty
        service.incomingMeshModels
      return { service with incomingMeshModels := received.2 })
    (fun service => ⟨"", service.outgoingVector⟩) ⟨"", []⟩ impl.modelToNumbersServices

/-! ### What a provider is used for -/

/-- A registration by the owner of the provider, or a call by a client. -/
inductive Activity (float double : Type) where
  | register (registration : Registration float double)
  | modelstoModels (request : Model)
  | modelstoNumbers (request : Model)
  | meshtoMesh (request : OpenMeshModel double)
  | meshtoNumbers (request : OpenMeshModel double)

def Activity.registration? : Activity float double → Option (Registration float double)
  | .register registration => some registration
  | .modelstoModels _ => none
  | .modelstoNumbers _ => none
  | .meshtoMesh _ => none
  | .meshtoNumbers _ => none

/-- The singleton after an event, if the event has a defined outcome. -/
def step (openMesh : OpenMesh float) (scalars : Scalars float double)
    (impl : ServiceProviderImpl float double) :
    Activity float double → Option (ServiceProviderImpl float double)
  | .register registration => some (impl.attempt registration)
  | .modelstoModels request => (impl.modelstoModels request).map fun _ => impl
  | .modelstoNumbers request => (impl.modelstoNumbers request).map fun _ => impl
  | .meshtoMesh request => (meshtoMesh openMesh scalars impl request).map fun _ => impl
  | .meshtoNumbers request => (meshtoNumbers openMesh scalars impl request).map fun _ => impl

def after (openMesh : OpenMesh float) (scalars : Scalars float double)
    (events : List (Activity float double)) : Option (ServiceProviderImpl float double) :=
  events.foldlM (step openMesh scalars) getInstance

theorem step_eq {openMesh : OpenMesh float} {scalars : Scalars float double}
    {impl next : ServiceProviderImpl float double} {event : Activity float double}
    (taken : step openMesh scalars impl event = some next) :
    next = event.registration?.elim impl impl.attempt := by
  cases event with
  | register registration => exact (Option.some.inj taken).symm
  | modelstoModels request => exact (Option.map_eq_some_iff.mp taken).choose_spec.2.symm
  | modelstoNumbers request => exact (Option.map_eq_some_iff.mp taken).choose_spec.2.symm
  | meshtoMesh request => exact (Option.map_eq_some_iff.mp taken).choose_spec.2.symm
  | meshtoNumbers request => exact (Option.map_eq_some_iff.mp taken).choose_spec.2.symm

/-- Served calls leave no trace: the singleton is that of the registrations alone. -/
theorem after_eq_registered {openMesh : OpenMesh float} {scalars : Scalars float double}
    {impl : ServiceProviderImpl float double} {events : List (Activity float double)}
    (reached : after openMesh scalars events = some impl) :
    impl = registered (events.filterMap Activity.registration?) := by
  rw [after] at reached
  rw [registered]
  generalize getInstance = start at reached ⊢
  induction events generalizing start with
  | nil => exact (Option.some.inj reached).symm
  | cons event events ih =>
      rw [List.foldlM_cons] at reached
      obtain ⟨next, taken, rest⟩ := Option.bind_eq_some_iff.mp reached
      rw [ih next rest, step_eq taken, List.filterMap_cons]
      cases event.registration? <;> rfl

end ServiceProviderImpl

end Cloud3D
