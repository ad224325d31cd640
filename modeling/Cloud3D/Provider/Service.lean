import Mathlib.Data.List.Nodup
import Mathlib.Data.List.Perm.Basic
import Cloud3D.Transition.Run
import Cloud3D.Mesh.Basic

/-!
# The services of a provider

A service has an object, which holds its name and the lists that its function reads and
fills, and the function itself, which runs on an object. `ServiceProviderImpl` is the
singleton of a provider process: two lists of services and the names of both.

`Consistent` is the invariant of registration: the names are pairwise different and are
those of the two lists, each list in the order in which its services were registered.
-/

namespace Cloud3D

structure Service (float : Type) where
  name : String
  incomingModels : List Bytes
  outgoingModels : List Bytes
  incomingMeshModels : List (CloudMesh float)
deriving DecidableEq

/-- What the function of a `ModelToModelService` runs on. -/
structure ModelToModel (float : Type) extends Service float where
  outgoingMeshModels : List (CloudMesh float)
deriving DecidableEq

/-- What the function of a `ModelToNumberService` runs on. -/
structure ModelToNumber (float double : Type) extends Service float where
  outgoingVector : List double
deriving DecidableEq

/-- A service with its function. -/
structure Callable (α : Type) where
  object : α
  fp : α → α

abbrev ModelToModelService (float : Type) := Callable (ModelToModel float)

abbrev ModelToNumberService (float double : Type) := Callable (ModelToNumber float double)

structure ServiceProviderImpl (float double : Type) where
  modelsToModelsServices : List (ModelToModelService float)
  modelToNumbersServices : List (ModelToNumberService float double)
  listOfServiceNames : List String

variable {float double : Type}

def ModelToModelService.getName (service : ModelToModelService float) : String :=
  service.object.name

def ModelToNumberService.getName (service : ModelToNumberService float double) : String :=
  service.object.name

/-- A call of one of the two setters of `ServiceProvider`. -/
inductive Registration (float double : Type) where
  | modelsToModels (newService : ModelToModelService float)
  | modelsToNumbers (newService : ModelToNumberService float double)

def Registration.name : Registration float double → String
  | .modelsToModels newService => newService.getName
  | .modelsToNumbers newService => newService.getName

namespace ServiceProviderImpl

/-- The singleton when it is created. -/
def getInstance : ServiceProviderImpl float double := ⟨[], [], []⟩

def setModelsToModelsService (impl : ServiceProviderImpl float double)
    (newService : ModelToModelService float) : Except String (ServiceProviderImpl float double) :=
  if impl.listOfServiceNames.any (· == newService.getName) then
    throw "Service name_ already exists.\n"
  else
    return { impl with
      modelsToModelsServices := impl.modelsToModelsServices ++ [newService]
      listOfServiceNames := impl.listOfServiceNames ++ [newService.getName] }

def setModelsToNumbersService (impl : ServiceProviderImpl float double)
    (newService : ModelToNumberService float double) :
    Except String (ServiceProviderImpl float double) :=
  if impl.listOfServiceNames.any (· == newService.getName) then
    throw "Service name_ already exists.\n"
  else
    return { impl with
      modelToNumbersServices := impl.modelToNumbersServices ++ [newService]
      listOfServiceNames := impl.listOfServiceNames ++ [newService.getName] }

def register (impl : ServiceProviderImpl float double) :
    Registration float double → Except String (ServiceProviderImpl float double)
  | .modelsToModels newService => impl.setModelsToModelsService newService
  | .modelsToNumbers newService => impl.setModelsToNumbersService newService

/-- A call that throws leaves the singleton as it is. -/
def attempt (impl : ServiceProviderImpl float double) (registration : Registration float double) :
    ServiceProviderImpl float double :=
  match impl.register registration with
  | .ok next => next
  | .error _ => impl

/-- The singleton after some registrations, rejected ones included. -/
def registered (registrations : List (Registration float double)) :
    ServiceProviderImpl float double :=
  Transition.run attempt getInstance registrations

theorem registered_append (registrations more : List (Registration float double)) :
    registered (registrations ++ more) = Transition.run attempt (registered registrations) more :=
  Transition.run_append getInstance registrations more

theorem register_of_mem {impl : ServiceProviderImpl float double}
    {registration : Registration float double}
    (taken : registration.name ∈ impl.listOfServiceNames) :
    impl.register registration = .error "Service name_ already exists.\n" := by
  cases registration with
  | modelsToModels newService =>
      simp_all [register, setModelsToModelsService, Registration.name, throw, throwThe,
        MonadExceptOf.throw]
  | modelsToNumbers newService =>
      simp_all [register, setModelsToNumbersService, Registration.name, throw, throwThe,
        MonadExceptOf.throw]

theorem attempt_of_mem {impl : ServiceProviderImpl float double}
    {registration : Registration float double}
    (taken : registration.name ∈ impl.listOfServiceNames) : impl.attempt registration = impl := by
  rw [attempt, register_of_mem taken]

theorem attempt_modelsToModels {impl : ServiceProviderImpl float double}
    {newService : ModelToModelService float}
    (fresh : newService.getName ∉ impl.listOfServiceNames) :
    impl.attempt (.modelsToModels newService) =
      ⟨impl.modelsToModelsServices ++ [newService], impl.modelToNumbersServices,
        impl.listOfServiceNames ++ [newService.getName]⟩ := by
  simp [attempt, register, setModelsToModelsService, fresh, pure, Except.pure]

theorem attempt_modelsToNumbers {impl : ServiceProviderImpl float double}
    {newService : ModelToNumberService float double}
    (fresh : newService.getName ∉ impl.listOfServiceNames) :
    impl.attempt (.modelsToNumbers newService) =
      ⟨impl.modelsToModelsServices, impl.modelToNumbersServices ++ [newService],
        impl.listOfServiceNames ++ [newService.getName]⟩ := by
  simp [attempt, register, setModelsToNumbersService, fresh, pure, Except.pure]

/-- A new name is added behind the names of all services, whatever the kind. -/
theorem attempt_listOfServiceNames {impl : ServiceProviderImpl float double}
    {registration : Registration float double}
    (fresh : registration.name ∉ impl.listOfServiceNames) :
    (impl.attempt registration).listOfServiceNames =
      impl.listOfServiceNames ++ [registration.name] := by
  cases registration with
  | modelsToModels newService =>
      rw [attempt_modelsToModels fresh]
      rfl
  | modelsToNumbers newService =>
      rw [attempt_modelsToNumbers fresh]
      rfl

theorem register_of_not_mem {impl : ServiceProviderImpl float double}
    {registration : Registration float double}
    (fresh : registration.name ∉ impl.listOfServiceNames) :
    impl.register registration = .ok (impl.attempt registration) := by
  cases registration with
  | modelsToModels newService =>
      have absent : newService.getName ∉ impl.listOfServiceNames := fresh
      simp [attempt_modelsToModels fresh, register, setModelsToModelsService, absent, pure,
        Except.pure]
  | modelsToNumbers newService =>
      have absent : newService.getName ∉ impl.listOfServiceNames := fresh
      simp [attempt_modelsToNumbers fresh, register, setModelsToNumbersService, absent, pure,
        Except.pure]

/-- Registrations only add services at the end of the lists. -/
def Extends (impl more : ServiceProviderImpl float double) : Prop :=
  impl.modelsToModelsServices <+: more.modelsToModelsServices ∧
    impl.modelToNumbersServices <+: more.modelToNumbersServices

theorem extends_attempt (impl : ServiceProviderImpl float double)
    (registration : Registration float double) : impl.Extends (impl.attempt registration) := by
  by_cases taken : registration.name ∈ impl.listOfServiceNames
  · rw [attempt_of_mem taken]
    exact ⟨List.prefix_refl _, List.prefix_refl _⟩
  · cases registration with
    | modelsToModels newService =>
        rw [attempt_modelsToModels taken]
        exact ⟨List.prefix_append _ _, List.prefix_refl _⟩
    | modelsToNumbers newService =>
        rw [attempt_modelsToNumbers taken]
        exact ⟨List.prefix_refl _, List.prefix_append _ _⟩

theorem extends_registered (registrations more : List (Registration float double)) :
    (registered registrations).Extends (registered (registrations ++ more)) := by
  rw [registered_append]
  generalize registered registrations = impl
  induction more generalizing impl with
  | nil => exact ⟨List.prefix_refl _, List.prefix_refl _⟩
  | cons registration more ih =>
      obtain ⟨models, numbers⟩ := impl.extends_attempt registration
      obtain ⟨models', numbers'⟩ := ih (impl.attempt registration)
      exact ⟨models.trans models', numbers.trans numbers'⟩

/-- The invariant of registration. -/
structure Consistent (impl : ServiceProviderImpl float double) : Prop where
  nodup : impl.listOfServiceNames.Nodup
  models : (impl.modelsToModelsServices.map ModelToModelService.getName).Sublist
    impl.listOfServiceNames
  numbers : (impl.modelToNumbersServices.map ModelToNumberService.getName).Sublist
    impl.listOfServiceNames
  names : (impl.modelsToModelsServices.map ModelToModelService.getName ++
    impl.modelToNumbersServices.map ModelToNumberService.getName).Perm impl.listOfServiceNames

theorem Consistent.attempt {impl : ServiceProviderImpl float double} (consistent : impl.Consistent)
    (registration : Registration float double) : (impl.attempt registration).Consistent := by
  by_cases taken : registration.name ∈ impl.listOfServiceNames
  · rw [attempt_of_mem taken]
    exact consistent
  · have nodup : (impl.listOfServiceNames ++ [registration.name]).Nodup :=
      List.nodup_append'.mpr ⟨consistent.nodup, List.nodup_singleton _, by simpa using taken⟩
    cases registration with
    | modelsToModels newService =>
        rw [attempt_modelsToModels taken]
        refine ⟨nodup, ?_, ?_, ?_⟩
        · simpa using consistent.models.append_right [newService.getName]
        · exact consistent.numbers.trans (List.sublist_append_left _ _)
        · simp only [List.map_append, List.map_cons, List.map_nil, List.append_assoc]
          apply (List.perm_append_comm.append_left _).trans
          rw [← List.append_assoc]
          exact consistent.names.append_right _
    | modelsToNumbers newService =>
        rw [attempt_modelsToNumbers taken]
        refine ⟨nodup, ?_, ?_, ?_⟩
        · exact consistent.models.trans (List.sublist_append_left _ _)
        · simpa using consistent.numbers.append_right [newService.getName]
        · simp only [List.map_append, List.map_cons, List.map_nil, ← List.append_assoc]
          exact consistent.names.append_right _

theorem consistent_registered (registrations : List (Registration float double)) :
    (registered registrations).Consistent := by
  refine Transition.run_induction
    (P := fun _ (impl : ServiceProviderImpl float double) => impl.Consistent) ?_ ?_
  · exact ⟨List.nodup_nil, List.Sublist.refl _, List.Sublist.refl _, List.Perm.refl _⟩
  · exact fun _ registration _ consistent => consistent.attempt registration

/-- No name is that of two services, in one list or in both. -/
theorem Consistent.nodup_names {impl : ServiceProviderImpl float double}
    (consistent : impl.Consistent) :
    (impl.modelsToModelsServices.map ModelToModelService.getName).Nodup ∧
      (impl.modelToNumbersServices.map ModelToNumberService.getName).Nodup ∧
      (impl.modelsToModelsServices.map ModelToModelService.getName).Disjoint
        (impl.modelToNumbersServices.map ModelToNumberService.getName) :=
  List.nodup_append'.mp (consistent.names.nodup_iff.mpr consistent.nodup)

/-- The names of both kinds are the names of the table. -/
theorem Consistent.mem_names_iff {impl : ServiceProviderImpl float double}
    (consistent : impl.Consistent) (name : String) :
    name ∈ impl.listOfServiceNames ↔
      name ∈ impl.modelsToModelsServices.map ModelToModelService.getName ∨
        name ∈ impl.modelToNumbersServices.map ModelToNumberService.getName :=
  consistent.names.mem_iff.symm.trans List.mem_append

end ServiceProviderImpl

end Cloud3D
