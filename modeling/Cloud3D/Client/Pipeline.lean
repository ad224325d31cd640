import Cloud3D.Client.Operation
import Cloud3D.Mesh.Geometry

/-!
# Chains of remote operations

A client may give the meshes of one operation to the next one, at the same provider or at
another. Every operation transports them twice, and the transport only keeps the polygons:
two meshes are the same to a provider exactly when they have the same polygons. A chain
therefore computes the polygons of the local chain, for all inputs and all services of a
collection, if and only if none of these services sees more of a mesh than its polygons.
-/

namespace Cloud3D

variable {float double : Type}

/-! ### What the transport forgets -/

namespace ModelProcessor

variable {scalars : Scalars float double}

/-- The transported mesh is a normal form of the meshes with the same polygons. -/
theorem transported_eq_iff (narrowing : ∀ x, scalars.narrow (scalars.widen x) = x)
    (openMesh : OpenMesh float) (mesh other : CloudMesh float) :
    transported openMesh scalars mesh = transported openMesh scalars other ↔
      mesh.polygons = other.polygons := by
  constructor
  · intro same
    rw [← polygons_transported narrowing openMesh mesh, same,
      polygons_transported narrowing openMesh other]
  · intro same
    obtain ⟨polygons, read, points, faces⟩ := transported_eq narrowing openMesh mesh
    obtain ⟨polygons', read', points', faces'⟩ := transported_eq narrowing openMesh other
    obtain rfl : polygons = polygons' := Option.some.inj (read.symm.trans (same.trans read'))
    exact CloudMesh.ext (points.trans points'.symm) (faces.trans faces'.symm)

theorem map_transported_eq_iff (narrowing : ∀ x, scalars.narrow (scalars.widen x) = x)
    (openMesh : OpenMesh float) (meshes others : List (CloudMesh float)) :
    meshes.map (transported openMesh scalars) = others.map (transported openMesh scalars) ↔
      meshes.map CloudMesh.polygons = others.map CloudMesh.polygons := by
  simp only [← List.forall₂_eq_eq_eq, List.forall₂_map_left_iff, List.forall₂_map_right_iff,
    transported_eq_iff narrowing]

theorem map_polygons_transported (narrowing : ∀ x, scalars.narrow (scalars.widen x) = x)
    (openMesh : OpenMesh float) (meshes : List (CloudMesh float)) :
    (meshes.map (transported openMesh scalars)).map CloudMesh.polygons =
      meshes.map CloudMesh.polygons := by
  rw [List.map_map]
  exact List.map_congr_left fun mesh _ => polygons_transported narrowing openMesh mesh

end ModelProcessor

/-! ### Chains -/

/-- The function of a service on meshes which have not been transported. -/
def ModelToModelService.runDirectly (service : ModelToModelService float)
    (meshes : List (CloudMesh float)) : List (CloudMesh float) :=
  (service.fp { service.object with
    incomingMeshModels := service.object.incomingMeshModels ++ meshes }).outgoingMeshModels

/-- What the function computes is determined by the polygons of its inputs, up to the
polygons of its outputs. -/
def ModelToModelService.Geometric (service : ModelToModelService float) : Prop :=
  ∀ meshes others, meshes.map CloudMesh.polygons = others.map CloudMesh.polygons →
    (service.runDirectly meshes).map CloudMesh.polygons =
      (service.runDirectly others).map CloudMesh.polygons

/-- Each operation of the chain appends to a vector of its own, which is the input of the
next one. The codes are not looked at. -/
def performOperations (openMesh : OpenMesh float) (scalars : Scalars float double)
    (stages : List (ServiceProviderImpl float double × String))
    (meshes : List (CloudMesh float)) : Option (List (CloudMesh float)) :=
  stages.foldlM (fun meshes stage =>
    (CloudClient.performOperationMeshes openMesh scalars stage.1 stage.2 meshes []).map
      Prod.snd) meshes

/-- The same functions, one after the other in the process of the client. -/
def runChain (services : List (ModelToModelService float)) (meshes : List (CloudMesh float)) :
    List (CloudMesh float) :=
  services.foldl (fun meshes service => service.runDirectly meshes) meshes

/-- A service at a provider whose table holds it. -/
structure Stage (float double : Type) where
  provider : ServiceProviderImpl float double
  consistent : provider.Consistent
  service : ModelToModelService float
  member : service ∈ provider.modelsToModelsServices

/-- What the client needs to know of a stage. -/
def Stage.call (stage : Stage float double) : ServiceProviderImpl float double × String :=
  (stage.provider, stage.service.getName)

section Chain

variable {openMesh : OpenMesh float} {scalars : Scalars float double}

/-- The first operation of a chain is its function between two transports. -/
theorem performOperations_cons (openMesh : OpenMesh float) (scalars : Scalars float double)
    (stage : Stage float double) (stages : List (ServiceProviderImpl float double × String))
    (meshes : List (CloudMesh float)) :
    performOperations openMesh scalars (stage.call :: stages) meshes =
      performOperations openMesh scalars stages ((stage.service.runDirectly
        (meshes.map (ModelProcessor.transported openMesh scalars))).map
          (ModelProcessor.transported openMesh scalars)) := by
  have served := (remoteEqualsLocal_meshes openMesh scalars stage.consistent
    stage.service.getName meshes []).served stage.service stage.member rfl
  rw [performOperations, List.foldlM_cons, Stage.call, served]
  rfl

/-- A chain of geometric services keeps its place beside the local chain. -/
theorem performOperations_of_geometric
    (narrowing : ∀ x, scalars.narrow (scalars.widen x) = x) {stages : List (Stage float double)}
    (geometric : ∀ stage ∈ stages, stage.service.Geometric)
    {meshes others : List (CloudMesh float)}
    (same : meshes.map CloudMesh.polygons = others.map CloudMesh.polygons) :
    ∃ result, performOperations openMesh scalars (stages.map Stage.call) meshes = some result ∧
      result.map CloudMesh.polygons =
        (runChain (stages.map Stage.service) others).map CloudMesh.polygons := by
  induction stages generalizing meshes others with
  | nil => exact ⟨meshes, rfl, same⟩
  | cons stage stages ih =>
      rw [List.forall_mem_cons] at geometric
      have next := geometric.1 (meshes.map (ModelProcessor.transported openMesh scalars)) others
        ((ModelProcessor.map_polygons_transported narrowing openMesh meshes).trans same)
      rw [← ModelProcessor.map_polygons_transported narrowing openMesh] at next
      obtain ⟨result, performed, polygons⟩ := ih geometric.2 next
      refine ⟨result, ?_, polygons⟩
      rw [List.map_cons, performOperations_cons]
      exact performed

/-- A service which is the only one of its provider. -/
def Stage.alone (service : ModelToModelService float) : Stage float double where
  provider := .registered [.modelsToModels service]
  consistent := ServiceProviderImpl.consistent_registered _
  service := service
  member := List.mem_singleton_self service

/-- Every chain over a collection of services is performed, and computes the polygons of
the local chain, if and only if all these services are geometric. -/
theorem chains_exact_iff (openMesh : OpenMesh float) (scalars : Scalars float double)
    (narrowing : ∀ x, scalars.narrow (scalars.widen x) = x)
    (services : ModelToModelService float → Prop) :
    (∀ stages : List (Stage float double), (∀ stage ∈ stages, services stage.service) →
      ∀ meshes, ∃ result,
        performOperations openMesh scalars (stages.map Stage.call) meshes = some result ∧
          result.map CloudMesh.polygons =
            (runChain (stages.map Stage.service) meshes).map CloudMesh.polygons) ↔
      ∀ service, services service → service.Geometric := by
  constructor
  · intro exact service member meshes others same
    -- One stage runs the service on what the polygons determine.
    have alone : ∀ meshes, ((service.runDirectly
        (meshes.map (ModelProcessor.transported openMesh scalars))).map CloudMesh.polygons) =
          (service.runDirectly meshes).map CloudMesh.polygons := by
      intro meshes
      obtain ⟨result, performed, polygons⟩ :=
        exact [Stage.alone service] (List.forall_mem_singleton.mpr member) meshes
      rw [List.map_singleton, performOperations_cons] at performed
      obtain rfl := Option.some.inj performed
      rw [ModelProcessor.map_polygons_transported narrowing] at polygons
      exact polygons
    rw [← alone meshes, ← alone others,
      (ModelProcessor.map_transported_eq_iff narrowing openMesh meshes others).mpr same]
  · intro geometric stages members meshes
    exact performOperations_of_geometric narrowing
      (fun stage member => geometric _ (members stage member)) rfl

/-- It returns what it is given. -/
def copyService : ModelToModelService Int :=
  ⟨⟨⟨"MeshCopy", [], [], []⟩, []⟩, fun object =>
    { object with outgoingMeshModels := object.incomingMeshModels }⟩

theorem chains_exact_iff_copy :
    ∃ result, performOperations orientable (Scalars.mk (id : Int → Int) id)
        ([Stage.alone copyService, Stage.alone copyService].map Stage.call) [quad] = some result ∧
      result.map CloudMesh.polygons = [quad.polygons] :=
  (chains_exact_iff orientable (Scalars.mk (id : Int → Int) id) (fun _ => rfl)
    (· = copyService)).mpr (by
      rintro _ rfl meshes others same
      exact same) [Stage.alone copyService, Stage.alone copyService] (by simp [Stage.alone]) [quad]

end Chain

end Cloud3D
