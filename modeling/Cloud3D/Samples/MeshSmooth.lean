import Cloud3D.Cloud.Served
import Cloud3D.Mesh.Boundary

/-!
# The smoothing samples

`SmoothSample` loads a mesh, smooths it and saves it. `ClientSample` has this done by a
provider which runs `ProviderSample`. The mesh reaches the smoother with all of its faces
torn apart. A smoother which holds the boundary in place, as that of `OpenMesh` does, has
nothing left to move: the client saves the polygons that it has loaded.
-/

namespace Cloud3D

variable {float double : Type}

/-- The input and output of `OpenMesh`. `readMesh` is what a new mesh is filled with, unless
an exception is thrown, and `writeMesh` what becomes of the files. -/
structure MeshFiles (files float : Type) where
  readMesh : files → String → Except String (CloudMesh float)
  writeMesh : files → String → CloudMesh float → files

/-- `loadMeshFromFile`, which goes through `loadModel`. -/
def CloudClient.loadMeshFromFile {files : Type} (io : MeshFiles files float) (state : files)
    (file : String) : Except String (CloudMesh float) :=
  io.readMesh state file

/-- `saveMeshToFile`, which goes through `saveModel`. No exception passes. -/
def CloudClient.saveMeshToFile {files : Type} (io : MeshFiles files float) (state : files)
    (file : String) (mesh : CloudMesh float) : files :=
  io.writeMesh state file mesh

def ModelToModel.addOutgoingMeshModel (service : ModelToModel float)
    (outgoingMeshModel : CloudMesh float) : ModelToModel float :=
  { service with outgoingMeshModels := service.outgoingMeshModels ++ [outgoingMeshModel] }

namespace ProviderSample

/-- The function of the service. `smooth` is the smoother of the library with its settings. -/
def meshSmooth (smooth : CloudMesh float → CloudMesh float) (service : ModelToModel float) :
    ModelToModel float :=
  service.incomingMeshModels.foldl
    (fun service mesh => service.addOutgoingMeshModel (smooth mesh)) service

def service (smooth : CloudMesh float → CloudMesh float) : ModelToModelService float :=
  ⟨⟨⟨"MeshSmooth", [], [], []⟩, []⟩, meshSmooth smooth⟩

theorem outgoing_foldl (smooth : CloudMesh float → CloudMesh float) (object : ModelToModel float)
    (meshes : List (CloudMesh float)) :
    (meshes.foldl (fun service mesh => service.addOutgoingMeshModel (smooth mesh))
      object).outgoingMeshModels = object.outgoingMeshModels ++ meshes.map smooth := by
  induction meshes generalizing object with
  | nil => simp
  | cons mesh meshes ih =>
      rw [List.foldl_cons, ih]
      simp [ModelToModel.addOutgoingMeshModel]

/-- Every mesh is transported, smoothed and transported back. -/
theorem runMeshes_service (openMesh : OpenMesh float) (scalars : Scalars float double)
    (smooth : CloudMesh float → CloudMesh float) (meshes : List (CloudMesh float)) :
    (service smooth).runMeshes openMesh scalars meshes = meshes.map fun mesh =>
      ModelProcessor.transported openMesh scalars
        (smooth (ModelProcessor.transported openMesh scalars mesh)) := by
  simp [ModelToModelService.runMeshes, service, meshSmooth, outgoing_foldl, Function.comp_def]

end ProviderSample

/-- The `main` of `SmoothSample`, from the state of the files. -/
def SmoothSample.main {files : Type} (smooth : CloudMesh float → CloudMesh float)
    (io : MeshFiles files float) (state : files) (inputFile outputFile : String) :
    Except String files := do
  let mesh ← CloudClient.loadMeshFromFile io state inputFile
  return CloudClient.saveMeshToFile io state outputFile (smooth mesh)

namespace ClientSample

section

variable {files : Type} (openMesh : OpenMesh float) (scalars : Scalars float double)
  (io : MeshFiles files float) (state : files) (inputFile outputFile : String)

/-- The `main` of `ClientSample`, after the constructor of the client. `provider` is what
the call reaches, if it is not lost. Its code is not looked at, and all meshes that come
back are saved to the same file. -/
def main (provider : Option (ServiceProviderImpl float double)) :
    Option (Except String files) :=
  match CloudClient.loadMeshFromFile io state inputFile with
  | .error what => some (.error what)
  | .ok loadedMesh =>
      let outcome := match provider with
        | some impl => CloudClient.performOperationMeshes openMesh scalars impl "MeshSmooth"
            [loadedMesh] []
        | none => some (1, [])
      outcome.map fun (_, cloudMesh) => .ok (cloudMesh.foldl
        (fun state mesh => CloudClient.saveMeshToFile io state outputFile mesh) state)

/-- A call that is served does what `SmoothSample` does with a smoother between two
transports. -/
theorem main_served {impl : ServiceProviderImpl float double}
    {smooth : CloudMesh float → CloudMesh float}
    (served : ∀ outgoingModels incomingModels,
      CloudClient.performOperationMeshes openMesh scalars impl "MeshSmooth" outgoingModels
          incomingModels =
        some (0, incomingModels ++
          (ProviderSample.service smooth).runMeshes openMesh scalars outgoingModels)) :
    main openMesh scalars io state inputFile outputFile (some impl) =
      some (SmoothSample.main (fun mesh => ModelProcessor.transported openMesh scalars
        (smooth (ModelProcessor.transported openMesh scalars mesh))) io state inputFile
          outputFile) := by
  rw [main, SmoothSample.main]
  cases CloudClient.loadMeshFromFile io state inputFile with
  | error what => rfl
  | ok mesh =>
      simp only [served, ProviderSample.runMeshes_service]
      rfl

end

/-! ### In the cloud -/

variable {ι κ : Type} [DecidableEq ι] [DecidableEq κ] [LinearOrder float]
variable {establisher : ι → BalancerEstablisher float} {spec : κ → ClientSpec float}

variable (establisher spec) in
/-- Where only the service of `ProviderSample` is registered, it is the only one. -/
theorem services_after {smooth : CloudMesh float → CloudMesh float} (heartBeatRate : Int)
    {labels : List (Cloud.Label ι κ float double)}
    (only : ∀ i registration, Cloud.Label.register i registration ∈ labels →
      registration = .modelsToModels (ProviderSample.service smooth)) (i : ι) :
    (∀ service ∈ ((Cloud.after establisher spec heartBeatRate
        labels).tables i).modelsToModelsServices, service = ProviderSample.service smooth) ∧
      ((Cloud.after establisher spec heartBeatRate
        labels).tables i).modelToNumbersServices = [] := by
  refine Transition.run_preserves (P := fun cloud : Cloud ι κ float double =>
    (∀ service ∈ (cloud.tables i).modelsToModelsServices,
      service = ProviderSample.service smooth) ∧ (cloud.tables i).modelToNumbersServices = [])
    ⟨fun service member => absurd member List.not_mem_nil, rfl⟩ ?_
  intro cloud label member holds
  cases Cloud.tables_step establisher spec cloud label i with
  | stays same => rwa [same]
  | registers registration added =>
      obtain rfl := only i registration member
      rw [added]
      by_cases known : (ProviderSample.service smooth).getName ∈
          (cloud.tables i).listOfServiceNames
      · have taken : (Registration.modelsToModels (ProviderSample.service smooth) :
            Registration float double).name ∈ (cloud.tables i).listOfServiceNames := known
        rwa [ServiceProviderImpl.attempt_of_mem taken]
      · rw [ServiceProviderImpl.attempt_modelsToModels known]
        exact ⟨List.forall_mem_append.mpr ⟨holds.1, List.forall_mem_singleton.mpr rfl⟩, holds.2⟩
  | crashes _ emptied =>
      rw [emptied]
      exact ⟨fun service member => absurd member List.not_mem_nil, rfl⟩

/-- The smoother leaves a mesh alone that has no vertex off the boundary. -/
def KeepsBoundary (smooth : CloudMesh float → CloudMesh float) : Prop :=
  ∀ mesh, (∀ v < mesh.points.length, mesh.Boundary v) → smooth mesh = mesh

/-- In every interleaving, a `ClientSample` that is connected and whose call is not lost does
what `SmoothSample` does with a smoother between two transports, unless its provider has
crashed. If this smoother keeps the boundary, it makes no difference: what is saved is the
transported mesh. -/
theorem saved_unsmoothed (openMesh : OpenMesh float) (scalars : Scalars float double)
    (narrowing : ∀ x, scalars.narrow (scalars.widen x) = x)
    (distinct : Function.Injective fun i => (establisher i).srvAddress)
    (smooth : CloudMesh float → CloudMesh float) (heartBeatRate : Int)
    {labels : List (Cloud.Label ι κ float double)}
    (only : ∀ i registration, Cloud.Label.register i registration ∈ labels →
      registration = .modelsToModels (ProviderSample.service smooth))
    {c : κ} (asks : "MeshSmooth" ∈ (spec c).services) {providerAddress : String}
    (connected : (Cloud.after establisher spec heartBeatRate labels).clients c =
      .connected providerAddress) :
    ∃ i, (establisher i).srvAddress = providerAddress ∧
      ((∀ label ∈ labels, label.crashes i = false) →
        ∀ files (io : MeshFiles files float) state inputFile outputFile,
          main openMesh scalars io state inputFile outputFile
              (some ((Cloud.after establisher spec heartBeatRate labels).tables i)) =
            some (SmoothSample.main (fun mesh => ModelProcessor.transported openMesh scalars
              (smooth (ModelProcessor.transported openMesh scalars mesh))) io state inputFile
                outputFile) ∧
          (KeepsBoundary smooth →
            main openMesh scalars io state inputFile outputFile
                (some ((Cloud.after establisher spec heartBeatRate labels).tables i)) =
              some (SmoothSample.main (ModelProcessor.transported openMesh scalars) io state
                inputFile outputFile))) := by
  have advertised : Cloud.Advertised establisher spec
      (Cloud.after establisher spec heartBeatRate labels) :=
    Cloud.advertised_after heartBeatRate labels
  have holds : ((Cloud.after establisher spec heartBeatRate labels).clients c).Holds
      providerAddress := by
    rw [connected]
    rfl
  obtain ⟨i, rfl⟩ := advertised.addresses c providerAddress holds
  refine ⟨i, rfl, fun alive files io state inputFile outputFile => ?_⟩
  obtain ⟨models, numbers⟩ := services_after establisher spec heartBeatRate only i
  obtain ⟨_, offered⟩ := (Cloud.offered_after distinct heartBeatRate alive).clients c holds
  have saved : main openMesh scalars io state inputFile outputFile
      (some ((Cloud.after establisher spec heartBeatRate labels).tables i)) =
        some (SmoothSample.main (fun mesh => ModelProcessor.transported openMesh scalars
          (smooth (ModelProcessor.transported openMesh scalars mesh))) io state inputFile
            outputFile) := by
    apply main_served
    cases ServiceProviderImpl.servedBy_of_mem openMesh scalars (advertised.tables i)
        (offered asks) with
    | models service member _ _ meshes =>
        obtain rfl := models service member
        exact meshes
    | numbers service member =>
        rw [numbers] at member
        cases member
  refine ⟨saved, fun keeps => ?_⟩
  have unmoved : ∀ mesh, smooth (ModelProcessor.transported openMesh scalars mesh) =
      ModelProcessor.transported openMesh scalars mesh := fun mesh =>
    keeps _ fun v _ => ModelProcessor.boundary_transported openMesh scalars mesh v
  rw [saved]
  simp only [unmoved, ModelProcessor.transported_transported narrowing]

/-- A smoother which moves all vertices off the boundary to the same point. -/
def collapse (mesh : CloudMesh Int) : CloudMesh Int where
  points := mesh.points.mapIdx fun v point => if mesh.Boundary v then point else ⟨0, 0, 0⟩
  faces := mesh.faces
  inside := by simpa using mesh.inside
  corners := mesh.corners

theorem keepsBoundary_collapse : KeepsBoundary collapse := by
  intro mesh boundary
  apply CloudMesh.ext
  · apply List.ext_getElem
    · simp [collapse]
    · intro v _ inside
      simp [collapse, boundary v inside]
  · rfl

/-- One provider, which runs `ProviderSample`, and one client. -/
def smoothing : List (Cloud.Label Unit Unit Int Int) :=
  [.register () (.modelsToModels (ProviderSample.service collapse)), .session (.call () 0 []),
    .session (.process () 1000), .ask (), .list () 0 Cloud.drawFront, .receive ()]

theorem saved_unsmoothed_quad :
    main orientable (Scalars.mk (id : Int → Int) id)
        (MeshFiles.mk (fun _ _ => .ok quad) fun _ _ mesh => mesh) CloudMesh.empty "in.obj" "out.obj"
        (some ((Cloud.after (fun _ : Unit => ⟨"provider:1", 1, 0⟩)
          (fun _ : Unit => ⟨1, ["MeshSmooth"]⟩) 1000 smoothing).tables ())) =
      some (.ok (ModelProcessor.transported orientable (Scalars.mk (id : Int → Int) id) quad)) := by
  have only : ∀ i registration, Cloud.Label.register i registration ∈ smoothing →
      registration = .modelsToModels (ProviderSample.service collapse) := by
    intro i registration member
    simpa [smoothing] using member
  have connected : (Cloud.after (fun _ : Unit => ⟨"provider:1", 1, 0⟩)
      (fun _ : Unit => ⟨1, ["MeshSmooth"]⟩) 1000 smoothing).clients () =
        .connected "provider:1" := by decide
  obtain ⟨⟨⟩, _, saved⟩ := saved_unsmoothed orientable (Scalars.mk (id : Int → Int) id)
    (fun _ => rfl) (Function.injective_of_subsingleton _) collapse 1000 only
    (show "MeshSmooth" ∈ ["MeshSmooth"] by decide) connected
  exact (saved (by decide) _ _ CloudMesh.empty "in.obj" "out.obj").2 keepsBoundary_collapse

end ClientSample

end Cloud3D
