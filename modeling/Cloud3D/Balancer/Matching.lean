import Cloud3D.Balancer.Registry
import Cloud3D.List.Occurrence
import Mathlib.Data.Int.Order.Basic

/-!
# Which providers are candidates

`findBestServer` decides whether a node offers all requested operations by counting
the operations of the node which occur in the request and comparing the count with
the length of the request. `mem_possibleServers_iff` states the test;
`candidates_exact_iff` says for which registrations and requests it agrees with the
subset relation it stands for.
-/

namespace Cloud3D.LoadBalanceImpl

variable {float : Type} [LinearOrder float]

theorem countOperation_eq (sOperation : String) (opCounter : Nat) (rOperations : List String) :
    countOperation sOperation opCounter rOperations =
      opCounter + if sOperation ∈ rOperations then 1 else 0 := by
  induction rOperations with
  | nil => simp [countOperation]
  | cons rOperation rOperations ih =>
      by_cases same : sOperation = rOperation
      · simp [countOperation, same]
      · simp [countOperation, same, ih]

theorem countOperations_eq (sOperations rOperations : List String) :
    countOperations sOperations rOperations =
      sOperations.countP (fun sOperation => sOperation ∈ rOperations) := by
  have total : ∀ opCounter, sOperations.foldl
      (fun opCounter sOperation => countOperation sOperation opCounter rOperations) opCounter =
        opCounter + sOperations.countP (fun sOperation => sOperation ∈ rOperations) := by
    induction sOperations with
    | nil => simp
    | cons sOperation sOperations ih =>
        intro opCounter
        rw [List.foldl_cons, ih, countOperation_eq, List.countP_cons]
        simp only [decide_eq_true_eq]
        omega
  simpa [countOperations] using total 0

theorem mem_possibleServers_iff (balancer : LoadBalanceImpl float)
    (sNode server : ServerNode float) :
    server ∈ balancer.possibleServers sNode ↔
      server ∈ balancer.servers ∧ sNode.version ≤ server.version ∧
        server.operations.countP (fun operation => operation ∈ sNode.operations) =
          sNode.operations.length := by
  simp [possibleServers, countOperations_eq]

/-- A node without repeated operations is only accepted for requests without repeated
operations, all of which it offers. -/
theorem offers_of_mem_possibleServers {balancer : LoadBalanceImpl float}
    {sNode server : ServerNode float} (distinct : server.operations.Nodup)
    (candidate : server ∈ balancer.possibleServers sNode) :
    sNode.operations.Nodup ∧ ∀ operation ∈ sNode.operations, operation ∈ server.operations :=
  Occurrence.nodup_and_subset_of_countP distinct
    ((mem_possibleServers_iff balancer sNode server).mp candidate).2.2

/-- The registry after a sequence of registrations. -/
def registry (heartBeatRate : Int) (registrations : List (NewServer float × Int)) :
    LoadBalanceImpl float :=
  Transition.run (fun balancer registration =>
    (balancer.establishServer registration.1 registration.2).1)
    (initial heartBeatRate) registrations

omit [LinearOrder float] in
theorem registry_servers (heartBeatRate : Int) (registrations : List (NewServer float × Int)) :
    (registry heartBeatRate registrations).servers =
      registrations.map fun registration => newNode registration.1 registration.2 :=
  Transition.run_induction
    (P := fun (done : List (NewServer float × Int)) (balancer : LoadBalanceImpl float) =>
      balancer.servers = done.map fun registration => newNode registration.1 registration.2) rfl
    fun done registration _ appended => by
      rw [List.map_append, ← appended]
      rfl

/-- What the test is meant to decide. -/
def Offers (server : ServerNode float) (request : ServerRequest float) : Prop :=
  request.version ≤ server.version ∧
    ∀ operation ∈ request.operation, operation ∈ server.operations

/-- Where no requested operation is missing, the surplus copies on the side of the provider
balance the repetitions in the request; where some are, they do not hide them. -/
def Unambiguous (offered requested : List String) : Prop :=
  (Occurrence.missing offered requested = 0 →
    Occurrence.surplus offered requested = Occurrence.repeats requested) ∧
  (Occurrence.missing offered requested ≠ 0 →
    Occurrence.surplus offered requested ≠
      Occurrence.repeats requested + Occurrence.missing offered requested)

theorem unambiguous_of_nodup {offered requested : List String} (offeredOnce : offered.Nodup)
    (requestedOnce : requested.Nodup) : Unambiguous offered requested := by
  have balance := Occurrence.surplus_eq_zero offeredOnce requested
  have single := (Occurrence.repeats_eq_zero_iff requested).mpr requestedOnce
  simp only [Unambiguous]
  omega

theorem candidate_exact_iff (balancer : LoadBalanceImpl float) (request : ServerRequest float)
    {server : ServerNode float} (member : server ∈ balancer.servers) :
    (server ∈ balancer.possibleServers (LoadBalanceImpl.requested request) ↔
        Offers server request) ↔
      (request.version ≤ server.version → Unambiguous server.operations request.operation) := by
  have subset := Occurrence.missing_eq_zero_iff server.operations request.operation
  rw [mem_possibleServers_iff, Occurrence.countP_mem_eq_length_iff]
  have balanced : Unambiguous server.operations request.operation ↔
      (Occurrence.surplus server.operations request.operation =
          Occurrence.repeats request.operation +
            Occurrence.missing server.operations request.operation ↔
        request.operation ⊆ server.operations) := by
    rw [← subset, Unambiguous]
    omega
  simp only [member, true_and, LoadBalanceImpl.requested, Offers, balanced, List.subset_def]
  tauto

/-- The candidates of a request are exactly the nodes which offer what it asks for. -/
def CandidatesExact (balancer : LoadBalanceImpl float) (request : ServerRequest float) : Prop :=
  ∀ server ∈ balancer.servers,
    (server ∈ balancer.possibleServers (LoadBalanceImpl.requested request) ↔
      Offers server request)

/-- For every sequence of registrations and every request, the candidates are exact if
and only if every registration of sufficient version is unambiguous for the request. -/
theorem candidates_exact_iff (heartBeatRate : Int)
    (registrations : List (NewServer float × Int)) (request : ServerRequest float) :
    CandidatesExact (registry heartBeatRate registrations) request ↔
      ∀ registration ∈ registrations, request.version ≤ registration.1.version →
        Unambiguous registration.1.operation request.operation := by
  have each : ∀ server ∈ (registry heartBeatRate registrations).servers, _ :=
    fun server member =>
      candidate_exact_iff (registry heartBeatRate registrations) request member
  rw [CandidatesExact, forall₂_congr each, registry_servers, List.forall_mem_map]
  rfl

/-- A provider is refused although it offers what is asked for twice, and one is
accepted although it lacks an operation, because it lists another one twice. -/
theorem candidates_not_exact :
    ¬ CandidatesExact (registry 1000 [(⟨(1 : Int), "provider:1", ["MeshSmooth"]⟩, 0)])
        ⟨1, ["MeshSmooth", "MeshSmooth"]⟩ ∧
      ¬ CandidatesExact (registry 1000 [(⟨(1 : Int), "provider:2", ["MeshCut", "MeshCut"]⟩, 0)])
        ⟨1, ["MeshCut", "MeshSmooth"]⟩ := by
  unfold CandidatesExact Offers
  decide

end Cloud3D.LoadBalanceImpl
