import Cloud3D.Provider.Handlers

/-!
# The service table

Every `ServiceProvider` of a process reaches the same singleton, so the calls of their
setters are one sequence of registrations, some of which throw. The invariant of
registration gives what a call does with a name that is taken, and that a request name
selects at most one service of the whole table: `find?` over either list is membership.
The handlers then answer as over a table which holds the selected services alone.
-/

namespace Cloud3D

variable {float double : Type}

section Selection

variable {α response : Type}

/-- Where names are unique, the first service of a name is the only one. -/
theorem find?_eq_some_iff_of_nodup {name : α → String} {services : List α}
    (distinct : (services.map name).Nodup) (operation : String) (service : α) :
    services.find? (fun service => operation == name service) = some service ↔
      service ∈ services ∧ name service = operation := by
  constructor
  · intro found
    have same := List.find?_some found
    exact ⟨List.mem_of_find?_eq_some found, (beq_iff_eq.mp same).symm⟩
  · rintro ⟨member, same⟩
    cases found : services.find? (fun service => operation == name service) with
    | none =>
        have absent := List.find?_eq_none.mp found service member
        simp [same] at absent
    | some first =>
        have first_same := List.find?_some found
        apply congrArg some
        apply List.inj_on_of_nodup_map distinct (List.mem_of_find?_eq_some found) member
        rw [← beq_iff_eq.mp first_same, same]

/-- The loop of the handlers answers as over the service which it selects alone. -/
theorem serve_find? (name : α → String) (operation : String) (load : α → Option α)
    (reply : α → response) (unset : response) (services : List (Callable α)) :
    serve name operation load reply unset services =
      serve name operation load reply unset
        (services.find? fun service => operation == name service.object).toList := by
  rw [serve_eq]
  cases found : services.find? fun service => operation == name service.object with
  | none => rfl
  | some service =>
      have same := List.find?_some found
      simp only [Option.toList_some, serve, same, if_true]

end Selection

namespace ServiceProviderImpl

/-- The singleton after calls of the setters, each through some object of
`ServiceProvider`. All objects hold the address of the singleton. -/
def registeredThrough {ι : Type} (calls : List (ι × Registration float double)) :
    ServiceProviderImpl float double :=
  Transition.run (fun impl call => impl.attempt call.2) getInstance calls

theorem registeredThrough_eq {ι : Type} (calls : List (ι × Registration float double)) :
    registeredThrough calls = registered (calls.map Prod.snd) := by
  rw [registeredThrough, registered, Transition.run, Transition.run, List.foldl_map]

/-- Names are kept in the order of registration. -/
theorem listOfServiceNames_sublist (registrations : List (Registration float double)) :
    (registered registrations).listOfServiceNames.Sublist
      (registrations.map Registration.name) := by
  refine Transition.run_induction
    (P := fun registrations (impl : ServiceProviderImpl float double) =>
      impl.listOfServiceNames.Sublist (registrations.map Registration.name)) ?_ ?_
  · exact List.Sublist.refl _
  · intro registrations registration _ sublist
    generalize Transition.run attempt getInstance registrations = impl at sublist ⊢
    rw [List.map_append]
    by_cases taken : registration.name ∈ impl.listOfServiceNames
    · rw [attempt_of_mem taken]
      exact sublist.trans (List.sublist_append_left _ _)
    · rw [attempt_listOfServiceNames taken]
      exact sublist.append_right _

/-- A setter throws exactly when the name is taken, and only the one text. -/
theorem register_eq_error_iff (impl : ServiceProviderImpl float double)
    (registration : Registration float double) (text : String) :
    impl.register registration = .error text ↔
      registration.name ∈ impl.listOfServiceNames ∧ text = "Service name_ already exists.\n" := by
  constructor
  · intro thrown
    by_cases taken : registration.name ∈ impl.listOfServiceNames
    · rw [register_of_mem taken] at thrown
      exact ⟨taken, (Except.error.inj thrown).symm⟩
    · rw [register_of_not_mem taken] at thrown
      cases thrown
  · rintro ⟨taken, rfl⟩
    exact register_of_mem taken

/-- The table which holds no more than the given services. -/
def only (model : Option (ModelToModelService float))
    (number : Option (ModelToNumberService float double)) : ServiceProviderImpl float double :=
  ⟨model.toList, number.toList, []⟩

/-- For requests of an operation, the handlers select `model` and `number`: they answer
as if the table held nothing else. -/
structure Selects (openMesh : OpenMesh float) (scalars : Scalars float double)
    (impl : ServiceProviderImpl float double) (operation : String)
    (model : Option (ModelToModelService float))
    (number : Option (ModelToNumberService float double)) : Prop where
  modelstoModels : ∀ request : Model, request.operation = operation →
    impl.modelstoModels request = (only model number).modelstoModels request
  meshtoMesh : ∀ request : OpenMeshModel double, request.operation = operation →
    meshtoMesh openMesh scalars impl request =
      meshtoMesh openMesh scalars (only model number) request
  modelstoNumbers : ∀ request : Model, request.operation = operation →
    impl.modelstoNumbers request = (only model number).modelstoNumbers request
  meshtoNumbers : ∀ request : OpenMeshModel double, request.operation = operation →
    meshtoNumbers openMesh scalars impl request =
      meshtoNumbers openMesh scalars (only model number) request

theorem selects_find? (openMesh : OpenMesh float) (scalars : Scalars float double)
    (impl : ServiceProviderImpl float double) (operation : String) :
    impl.Selects openMesh scalars operation
      (impl.modelsToModelsServices.find? fun service => operation == service.getName)
      (impl.modelToNumbersServices.find? fun service => operation == service.getName) := by
  refine ⟨?_, ?_, ?_, ?_⟩
  · rintro request rfl
    exact serve_find? _ _ _ _ _ _
  · rintro request rfl
    exact serve_find? _ _ _ _ _ _
  · rintro request rfl
    exact serve_find? _ _ _ _ _ _
  · rintro request rfl
    exact serve_find? _ _ _ _ _ _

/-- No name selects a service of both kinds. -/
theorem Consistent.find?_eq_none {impl : ServiceProviderImpl float double}
    (consistent : impl.Consistent) (operation : String) :
    impl.modelsToModelsServices.find? (fun service => operation == service.getName) = none ∨
      impl.modelToNumbersServices.find? (fun service => operation == service.getName) = none := by
  obtain ⟨nodup_models, nodup_numbers, disjoint⟩ := consistent.nodup_names
  by_contra both
  obtain ⟨some_model, some_number⟩ := not_or.mp both
  obtain ⟨model, found⟩ := Option.ne_none_iff_exists'.mp some_model
  obtain ⟨number, found'⟩ := Option.ne_none_iff_exists'.mp some_number
  obtain ⟨member, named⟩ :=
    (find?_eq_some_iff_of_nodup nodup_models operation model).mp found
  obtain ⟨member', named'⟩ :=
    (find?_eq_some_iff_of_nodup nodup_numbers operation number).mp found'
  apply disjoint (List.mem_map.mpr ⟨model, member, named⟩)
  exact List.mem_map.mpr ⟨number, member', named'⟩

/-- The lists of a provider stay in step over calls through any number of objects: no
name is repeated, the names are those of the two lists in the order of registration, a
call throws exactly when its name is in either list, and then changes nothing. A request
name selects one service of one kind or none, for models and for meshes alike. -/
theorem table_consistent {ι : Type} (openMesh : OpenMesh float) (scalars : Scalars float double)
    (calls : List (ι × Registration float double)) :
    let impl : ServiceProviderImpl float double := registeredThrough calls
    let models := impl.modelsToModelsServices.map ModelToModelService.getName
    let numbers := impl.modelToNumbersServices.map ModelToNumberService.getName
    impl.listOfServiceNames.Nodup ∧ models.Nodup ∧ numbers.Nodup ∧ models.Disjoint numbers ∧
    models.Sublist impl.listOfServiceNames ∧ numbers.Sublist impl.listOfServiceNames ∧
    impl.listOfServiceNames.Sublist (calls.map fun call => call.2.name) ∧
    (models ++ numbers).Perm impl.listOfServiceNames ∧
    (∀ (object : ι) (registration : Registration float double),
      ((∃ text, impl.register registration = .error text) ↔
        registration.name ∈ models ∨ registration.name ∈ numbers) ∧
      ((∃ text, impl.register registration = .error text) →
        registeredThrough (calls ++ [(object, registration)]) = impl)) ∧
    (∀ operation, ∃ model number, impl.Selects openMesh scalars operation model number ∧
      (model = none ∨ number = none) ∧
      (∀ service, model = some service ↔
        service ∈ impl.modelsToModelsServices ∧ service.getName = operation) ∧
      (∀ service, number = some service ↔
        service ∈ impl.modelToNumbersServices ∧ service.getName = operation)) := by
  intro impl models numbers
  have same : impl = registered (calls.map Prod.snd) := registeredThrough_eq calls
  have consistent : impl.Consistent := same ▸ consistent_registered _
  obtain ⟨nodup_models, nodup_numbers, disjoint⟩ := consistent.nodup_names
  refine ⟨consistent.nodup, nodup_models, nodup_numbers, disjoint, consistent.models,
    consistent.numbers, ?_, consistent.names, fun object registration => ⟨?_, ?_⟩,
    fun operation => ?_⟩
  · rw [same]
    simpa [Function.comp_def] using listOfServiceNames_sublist (calls.map Prod.snd)
  · simp only [register_eq_error_iff, exists_and_left, exists_eq, and_true]
    exact consistent.mem_names_iff registration.name
  · rintro ⟨text, thrown⟩
    have taken := ((register_eq_error_iff impl registration text).mp thrown).1
    rw [registeredThrough, Transition.run_append]
    exact attempt_of_mem taken
  · exact ⟨_, _, impl.selects_find? openMesh scalars operation,
      consistent.find?_eq_none operation, find?_eq_some_iff_of_nodup nodup_models operation,
      find?_eq_some_iff_of_nodup nodup_numbers operation⟩

end ServiceProviderImpl

end Cloud3D
