import Cloud3D.Client.Operation

/-!
# The calls of a client

The overloads of `performOperation` append to vectors of their caller and return a code.
A client is here its calls with these vectors. `Operation.perform` makes a call at a
provider; `Operation.locally` finds the service itself and runs it without a provider.

For a table with unique names both are the same, and the second one depends only on the
service of the requested name, so registrations after it do not matter.
-/

namespace Cloud3D

/-- A call of one of the four overloads. -/
inductive Operation (float : Type) where
  | models (serviceName : String) (outgoingModels : List Bytes)
  | numbers (serviceName : String) (outgoingModels : List Bytes)
  | meshes (serviceName : String) (outgoingModels : List (CloudMesh float))
  | meshNumbers (serviceName : String) (outgoingModels : List (CloudMesh float))
deriving DecidableEq

def Operation.serviceName {float : Type} : Operation float → String
  | .models serviceName _ => serviceName
  | .numbers serviceName _ => serviceName
  | .meshes serviceName _ => serviceName
  | .meshNumbers serviceName _ => serviceName

/-- The codes which the calls so far have returned, and the vectors which they have been
given in turn. -/
structure Results (float double : Type) where
  codes : List Int
  models : List Bytes
  numbers : List double
  meshes : List (CloudMesh float)

variable {float double : Type}

namespace Results

/-- Before the first call. -/
def none : Results float double := ⟨[], [], [], []⟩

/-- The other branch of all overloads: the call was not served, or it was lost. -/
def giveUp (results : Results float double) : Results float double :=
  { results with codes := results.codes ++ [1] }

def withModels (results : Results float double) (outcome : Int × List Bytes) :
    Results float double :=
  { results with codes := results.codes ++ [outcome.1], models := outcome.2 }

def withNumbers (results : Results float double) (outcome : Int × List double) :
    Results float double :=
  { results with codes := results.codes ++ [outcome.1], numbers := outcome.2 }

def withMeshes (results : Results float double) (outcome : Int × List (CloudMesh float)) :
    Results float double :=
  { results with codes := results.codes ++ [outcome.1], meshes := outcome.2 }

end Results

/-- The service of this name, if there is one, runs and its results are appended. -/
def localOutcome {α β : Type} (services : List (Callable α)) (name : α → String)
    (serviceName : String) (run : Callable α → List β) (incoming : List β) : Int × List β :=
  match services.find? fun service => serviceName == name service.object with
  | some service => (0, incoming ++ run service)
  | none => (1, incoming)

namespace Operation

section Perform

variable (openMesh : OpenMesh float) (scalars : Scalars float double)
  (provider : ServiceProviderImpl float double) (results : Results float double)

/-- A call which reaches the provider and returns. -/
def perform : Operation float → Option (Results float double)
  | .models serviceName outgoingModels =>
      (CloudClient.performOperationModels provider serviceName outgoingModels
        results.models).map results.withModels
  | .numbers serviceName outgoingModels =>
      (CloudClient.performOperationNumbers provider serviceName outgoingModels
        results.numbers).map results.withNumbers
  | .meshes serviceName outgoingModels =>
      (CloudClient.performOperationMeshes openMesh scalars provider serviceName outgoingModels
        results.meshes).map results.withMeshes
  | .meshNumbers serviceName outgoingModels =>
      (CloudClient.performOperationMeshNumbers openMesh scalars provider serviceName
        outgoingModels results.numbers).map results.withNumbers

/-- What a call is for, without a network and a request. -/
def locally : Operation float → Results float double
  | .models serviceName outgoingModels =>
      results.withModels (localOutcome provider.modelsToModelsServices
        (fun service => service.name) serviceName
        (fun service => ModelToModelService.runModels service outgoingModels) results.models)
  | .numbers serviceName outgoingModels =>
      results.withNumbers (localOutcome provider.modelToNumbersServices
        (fun service => service.name) serviceName
        (fun service => ModelToNumberService.runModels service outgoingModels) results.numbers)
  | .meshes serviceName outgoingModels =>
      results.withMeshes (localOutcome provider.modelsToModelsServices
        (fun service => service.name) serviceName
        (fun service => ModelToModelService.runMeshes openMesh scalars service outgoingModels)
        results.meshes)
  | .meshNumbers serviceName outgoingModels =>
      results.withNumbers (localOutcome provider.modelToNumbersServices
        (fun service => service.name) serviceName
        (fun service => ModelToNumberService.runMeshes openMesh scalars service outgoingModels)
        results.numbers)

end Perform

end Operation

end Cloud3D
