import Cloud3D.Client.Operation

/-!
# Decoding what the peer sends

The indices of a mesh message are chosen by the peer. `deserializeModel` uses them
without a check, so a dangling index is read outside of the vertex table, at the
provider as well as at the client. `decoding_inside_iff` says which messages avoid it.
-/

namespace Cloud3D

variable {float double : Type}

/-- Every index of a message is in the vertex table of its own mesh. -/
def OpenMeshModel.InRange (request : OpenMeshModel double) : Prop :=
  ∀ model ∈ request.mesh, ∀ face ∈ model.face, ∀ index ∈ face.index,
    index < model.vertex.length

namespace ServiceProviderImpl

theorem meshtoMesh_isSome_iff (openMesh : OpenMesh float) (scalars : Scalars float double)
    (impl : ServiceProviderImpl float double) (request : OpenMeshModel double) :
    (meshtoMesh openMesh scalars impl request).isSome ↔
      (∀ service ∈ impl.modelsToModelsServices, service.getName ≠ request.operation) ∨
        request.InRange := by
  apply serve_isSome_iff
  intro service _
  exact ModelProcessor.load_isSome_iff openMesh scalars request.mesh _ _ _

theorem meshtoNumbers_isSome_iff (openMesh : OpenMesh float) (scalars : Scalars float double)
    (impl : ServiceProviderImpl float double) (request : OpenMeshModel double) :
    (meshtoNumbers openMesh scalars impl request).isSome ↔
      (∀ service ∈ impl.modelToNumbersServices, service.getName ≠ request.operation) ∨
        request.InRange := by
  apply serve_isSome_iff
  intro service _
  exact ModelProcessor.load_isSome_iff openMesh scalars request.mesh _ _ _

end ServiceProviderImpl

namespace CloudClient

/-- What the client does with the reply to a mesh operation. -/
def receiveMeshes (openMesh : OpenMesh float) (scalars : Scalars float double)
    (outcome : Status × OpenMeshModel double) (incomingModels : List (CloudMesh float)) :
    Option (Int × List (CloudMesh float)) :=
  receive (some outcome)
    (fun incoming reply => reply.mesh.foldlM (appendMesh openMesh scalars) incoming)
    incomingModels

/-- An operation on meshes is a call of the handler and the decoding of its reply. -/
theorem performOperationMeshes_eq (openMesh : OpenMesh float) (scalars : Scalars float double)
    (provider : ServiceProviderImpl float double) (serviceName : String)
    (outgoingModels incomingModels : List (CloudMesh float)) :
    performOperationMeshes openMesh scalars provider serviceName outgoingModels incomingModels =
      (ServiceProviderImpl.meshtoMesh openMesh scalars provider
        (outgoingModels.foldl (ModelProcessor.serializeModel scalars) ⟨serviceName, []⟩)).bind
          fun outcome => receiveMeshes openMesh scalars outcome incomingModels := by
  rw [performOperationMeshes, receive]
  cases ServiceProviderImpl.meshtoMesh openMesh scalars provider
    (outgoingModels.foldl (ModelProcessor.serializeModel scalars) ⟨serviceName, []⟩) <;> rfl

theorem receiveMeshes_isSome_iff (openMesh : OpenMesh float) (scalars : Scalars float double)
    (outcome : Status × OpenMeshModel double) (incomingModels : List (CloudMesh float)) :
    (receiveMeshes openMesh scalars outcome incomingModels).isSome ↔
      outcome.1.ok = false ∨ outcome.2.InRange := by
  obtain ⟨status, reply⟩ := outcome
  simp only [receiveMeshes, receive, Option.bind_eq_bind, Option.bind_some, Option.pure_def]
  cases status.ok with
  | false => simp
  | true =>
      rw [if_pos rfl, foldlM_appendMesh_eq]
      have decoded :=
        ModelProcessor.mapM_deserializeModel_isSome_iff openMesh scalars reply.mesh
      rw [OpenMeshModel.InRange, ← decoded]
      cases reply.mesh.mapM (ModelProcessor.deserializeModel openMesh scalars .empty) <;> simp

theorem performOperationMeshes_isSome_iff (openMesh : OpenMesh float)
    (scalars : Scalars float double) (provider : ServiceProviderImpl float double)
    (serviceName : String) (outgoingModels incomingModels : List (CloudMesh float)) :
    (performOperationMeshes openMesh scalars provider serviceName outgoingModels
        incomingModels).isSome ↔
      ∃ outcome, ServiceProviderImpl.meshtoMesh openMesh scalars provider
          (outgoingModels.foldl (ModelProcessor.serializeModel scalars) ⟨serviceName, []⟩) =
            some outcome ∧
        (outcome.1.ok = false ∨ outcome.2.InRange) := by
  rw [performOperationMeshes_eq]
  cases ServiceProviderImpl.meshtoMesh openMesh scalars provider
    (outgoingModels.foldl (ModelProcessor.serializeModel scalars) ⟨serviceName, []⟩) with
  | none => simp
  | some outcome => simp [receiveMeshes_isSome_iff]

end CloudClient

/-- No index is read outside of its vertex table, at a provider if and only if no service
of the requested name receives the meshes or all their indices are in range, at a client
if and only if the call failed or the indices of the reply are in range. An operation on
meshes is defined exactly when both its sides are. -/
theorem decoding_inside_iff (openMesh : OpenMesh float) (scalars : Scalars float double) :
    (∀ (impl : ServiceProviderImpl float double) (request : OpenMeshModel double),
      (ServiceProviderImpl.meshtoMesh openMesh scalars impl request).isSome ↔
        (∀ service ∈ impl.modelsToModelsServices, service.getName ≠ request.operation) ∨
          request.InRange) ∧
    (∀ (impl : ServiceProviderImpl float double) (request : OpenMeshModel double),
      (ServiceProviderImpl.meshtoNumbers openMesh scalars impl request).isSome ↔
        (∀ service ∈ impl.modelToNumbersServices, service.getName ≠ request.operation) ∨
          request.InRange) ∧
    (∀ (outcome : Status × OpenMeshModel double) (incomingModels : List (CloudMesh float)),
      (CloudClient.receiveMeshes openMesh scalars outcome incomingModels).isSome ↔
        outcome.1.ok = false ∨ outcome.2.InRange) ∧
    ∀ (provider : ServiceProviderImpl float double) (serviceName : String)
      (outgoingModels incomingModels : List (CloudMesh float)),
      (CloudClient.performOperationMeshes openMesh scalars provider serviceName outgoingModels
          incomingModels).isSome ↔
        ∃ outcome, ServiceProviderImpl.meshtoMesh openMesh scalars provider
            (outgoingModels.foldl (ModelProcessor.serializeModel scalars) ⟨serviceName, []⟩) =
              some outcome ∧
          (outcome.1.ok = false ∨ outcome.2.InRange) :=
  ⟨ServiceProviderImpl.meshtoMesh_isSome_iff openMesh scalars,
    ServiceProviderImpl.meshtoNumbers_isSome_iff openMesh scalars,
    CloudClient.receiveMeshes_isSome_iff openMesh scalars,
    CloudClient.performOperationMeshes_isSome_iff openMesh scalars⟩

/-- A triangle without vertices. -/
def dangling : Mesh Int where
  face := [⟨[0, 1, 2]⟩]
  vertex := []

/-- Neither side refuses it: there is no defined result. -/
theorem dangling_index_is_read :
    ServiceProviderImpl.meshtoMesh orientable ⟨id, id⟩ twoServices ⟨"Mirror", [dangling]⟩ =
        none ∧
      ServiceProviderImpl.meshtoNumbers orientable ⟨id, id⟩ twoServices ⟨"Count", [dangling]⟩ =
        none ∧
      CloudClient.receiveMeshes orientable (Scalars.mk (id : Int → Int) id)
        (.OK, ⟨"", [dangling]⟩) [] = none :=
  ⟨rfl, rfl, rfl⟩

end Cloud3D
