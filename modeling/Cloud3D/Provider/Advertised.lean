import Cloud3D.Balancer.Matching
import Cloud3D.Provider.Establisher
import Cloud3D.Provider.Handlers

/-!
# A connection handed out can be served

The names which a provider advertises are pairwise different, so the balancer accepts
its node only for requests all of whose operations are among them. Each of these names
belongs to a service in exactly one of the two lists, and the handlers of that list
answer while those of the other refuse. Later registrations change nothing about it.
-/

namespace Cloud3D

variable {float double : Type}

/-- A handler answers every admissible request with a given status. -/
def Answers {request response : Type} (status : Status) (admissible : request → Prop)
    (handler : request → Option (Status × response)) : Prop :=
  ∀ r, admissible r → ∃ reply, handler r = some (status, reply)

theorem Answers.serve {α request response : Type} {name : α → String}
    {operation : request → String} {load : request → α → Option α} {reply : α → response}
    {unset : response} {services : List (Callable α)} {admissible : request → Prop}
    {service : Callable α} (member : service ∈ services)
    (distinct : (services.map fun service => name service.object).Nodup)
    (requested : ∀ r, admissible r → operation r = name service.object)
    (loads : ∀ r, admissible r → (load r service.object).isSome) :
    Answers .OK admissible fun r =>
      Cloud3D.serve name (operation r) (load r) reply unset services := by
  intro r admitted
  obtain ⟨loaded, result⟩ := Option.isSome_iff_exists.mp (loads r admitted)
  refine ⟨reply (service.fp loaded), ?_⟩
  exact (serve_of_mem distinct member (requested r admitted).symm).trans (by rw [result]; rfl)

theorem Answers.refuse {α request response : Type} {name : α → String}
    {operation : request → String} {load : request → α → Option α} {reply : α → response}
    {unset : response} {services : List (Callable α)} {admissible : request → Prop}
    (absent : ∀ r, admissible r → ∀ service ∈ services, name service.object ≠ operation r) :
    Answers .CANCELLED admissible fun r =>
      Cloud3D.serve name (operation r) (load r) reply unset services :=
  fun r admitted => ⟨unset, serve_of_forall_ne (absent r admitted)⟩

namespace ServiceProviderImpl

/-- Both handlers of the first list answer requests for an operation with a status. -/
def ModelsAnswer (openMesh : OpenMesh float) (scalars : Scalars float double)
    (impl : ServiceProviderImpl float double) (operation : String) (status : Status) : Prop :=
  Answers status (fun request : Model => request.operation = operation) impl.modelstoModels ∧
    Answers status (fun request : OpenMeshModel double =>
      request.operation = operation ∧ ∀ model ∈ request.mesh, model.WellFormed)
      (meshtoMesh openMesh scalars impl)

/-- Both handlers of the second list answer requests for an operation with a status. -/
def NumbersAnswer (openMesh : OpenMesh float) (scalars : Scalars float double)
    (impl : ServiceProviderImpl float double) (operation : String) (status : Status) : Prop :=
  Answers status (fun request : Model => request.operation = operation) impl.modelstoNumbers ∧
    Answers status (fun request : OpenMeshModel double =>
      request.operation = operation ∧ ∀ model ∈ request.mesh, model.WellFormed)
      (meshtoNumbers openMesh scalars impl)

theorem modelsAnswer_OK (openMesh : OpenMesh float) (scalars : Scalars float double)
    {impl : ServiceProviderImpl float double} (consistent : impl.Consistent)
    {service : ModelToModelService float} (member : service ∈ impl.modelsToModelsServices) :
    impl.ModelsAnswer openMesh scalars service.getName .OK := by
  have distinct := consistent.nodup_names.1
  constructor
  · exact Answers.serve member distinct (fun _ same => same) fun _ _ => rfl
  · apply Answers.serve member distinct (fun _ admitted => admitted.1)
    exact fun _ admitted => (ModelProcessor.load_isSome_iff openMesh scalars _ _ _ _).mpr
      fun model inside => (admitted.2 model inside).inside

theorem numbersAnswer_OK (openMesh : OpenMesh float) (scalars : Scalars float double)
    {impl : ServiceProviderImpl float double} (consistent : impl.Consistent)
    {service : ModelToNumberService float double}
    (member : service ∈ impl.modelToNumbersServices) :
    impl.NumbersAnswer openMesh scalars service.getName .OK := by
  have distinct := consistent.nodup_names.2.1
  constructor
  · exact Answers.serve member distinct (fun _ same => same) fun _ _ => rfl
  · apply Answers.serve member distinct (fun _ admitted => admitted.1)
    exact fun _ admitted => (ModelProcessor.load_isSome_iff openMesh scalars _ _ _ _).mpr
      fun model inside => (admitted.2 model inside).inside

theorem modelsAnswer_CANCELLED (openMesh : OpenMesh float) (scalars : Scalars float double)
    {impl : ServiceProviderImpl float double} {operation : String}
    (absent : operation ∉ impl.modelsToModelsServices.map ModelToModelService.getName) :
    impl.ModelsAnswer openMesh scalars operation .CANCELLED := by
  have other : ∀ service ∈ impl.modelsToModelsServices, service.getName ≠ operation :=
    fun service member same => absent (List.mem_map.mpr ⟨service, member, same⟩)
  exact ⟨Answers.refuse fun _ same => same ▸ other,
    Answers.refuse fun _ admitted => admitted.1 ▸ other⟩

theorem numbersAnswer_CANCELLED (openMesh : OpenMesh float) (scalars : Scalars float double)
    {impl : ServiceProviderImpl float double} {operation : String}
    (absent : operation ∉ impl.modelToNumbersServices.map ModelToNumberService.getName) :
    impl.NumbersAnswer openMesh scalars operation .CANCELLED := by
  have other : ∀ service ∈ impl.modelToNumbersServices, service.getName ≠ operation :=
    fun service member same => absent (List.mem_map.mpr ⟨service, member, same⟩)
  exact ⟨Answers.refuse fun _ same => same ▸ other,
    Answers.refuse fun _ admitted => admitted.1 ▸ other⟩

end ServiceProviderImpl

open ServiceProviderImpl in
/-- Whatever else is registered at the balancer and however the node has been refreshed:
if the node of a provider is a candidate for a request, then every requested operation
names a service of the provider, and exactly one pair of its handlers serves it, also
after further registrations. -/
theorem candidate_can_be_served [LinearOrder float] (openMesh : OpenMesh float)
    (scalars : Scalars float double) (establisher : BalancerEstablisher float)
    (registrations more : List (Registration float double)) (balancer : LoadBalanceImpl float)
    (usage : Option Int32) (lastBeat now : Int) (request : ServerRequest float)
    (candidate : { LoadBalanceImpl.newNode (establisher.newServer
          (registered registrations).listOfServiceNames) now with
        usage := usage, lastBeat := lastBeat } ∈
      balancer.possibleServers (LoadBalanceImpl.requested request)) :
    ∀ operation ∈ request.operation,
      operation ∈ (registered registrations).modelsToModelsServices.map
          ModelToModelService.getName ++
        (registered registrations).modelToNumbersServices.map ModelToNumberService.getName ∧
      let impl := registered (registrations ++ more)
      (impl.ModelsAnswer openMesh scalars operation .OK ∧
          impl.NumbersAnswer openMesh scalars operation .CANCELLED) ∨
        (impl.NumbersAnswer openMesh scalars operation .OK ∧
          impl.ModelsAnswer openMesh scalars operation .CANCELLED) := by
  intro operation wanted
  have before := consistent_registered registrations
  have later := consistent_registered (registrations ++ more)
  obtain ⟨moreModels, moreNumbers⟩ := extends_registered registrations more
  have offered := (LoadBalanceImpl.offers_of_mem_possibleServers before.nodup candidate).2
    operation wanted
  have named := before.names.mem_iff.mpr offered
  have apart := later.nodup_names.2.2
  refine ⟨named, ?_⟩
  rcases List.mem_append.mp named with inModels | inNumbers
  · obtain ⟨service, member, rfl⟩ := List.mem_map.mp inModels
    have kept := moreModels.subset member
    have absent := apart (List.mem_map.mpr ⟨service, kept, rfl⟩)
    exact .inl ⟨modelsAnswer_OK openMesh scalars later kept,
      numbersAnswer_CANCELLED openMesh scalars absent⟩
  · obtain ⟨service, member, rfl⟩ := List.mem_map.mp inNumbers
    have kept := moreNumbers.subset member
    have absent := fun inModels => apart inModels (List.mem_map.mpr ⟨service, kept, rfl⟩)
    exact .inr ⟨numbersAnswer_OK openMesh scalars later kept,
      modelsAnswer_CANCELLED openMesh scalars absent⟩

/-- A provider with a service of each kind, whose last registration is rejected. -/
def advertised : List (Registration Int Int) :=
  [.modelsToModels ⟨⟨⟨"MeshSmooth", [], [], []⟩, []⟩, id⟩,
    .modelsToNumbers ⟨⟨⟨"Volume", [], [], []⟩, []⟩, id⟩,
    .modelsToModels ⟨⟨⟨"Volume", [], [], []⟩, []⟩, id⟩]

theorem candidate_can_be_served_volume :
    let impl := ServiceProviderImpl.registered
      (advertised ++ [.modelsToModels ⟨⟨⟨"MeshCut", [], [], []⟩, []⟩, id⟩])
    let scalars : Scalars Int Int := ⟨id, id⟩
    (impl.ModelsAnswer orientable scalars "Volume" .OK ∧
        impl.NumbersAnswer orientable scalars "Volume" .CANCELLED) ∨
      (impl.NumbersAnswer orientable scalars "Volume" .OK ∧
        impl.ModelsAnswer orientable scalars "Volume" .CANCELLED) :=
  (candidate_can_be_served orientable ⟨id, id⟩ ⟨"provider:1", 2, 40⟩ advertised _
    ⟨[⟨"provider:2", ["MeshCut"], 2, none, 0⟩,
      ⟨"provider:1", ["MeshSmooth", "Volume"], 2, some 40, 1000⟩], 1000⟩
    (some 40) 1000 0 ⟨1, ["Volume", "MeshSmooth"]⟩ (by decide) "Volume" (by decide)).2

end Cloud3D
