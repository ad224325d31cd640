import Cloud3D.Balancer.Matching
import Cloud3D.Balancer.Selection

/-!
# Registrations of a restarted provider

A provider which is restarted at its address registers again, possibly with another
version or other services. `EstablishServer` appends the new node and leaves the nodes
of the earlier registrations to the sweep, while a heartbeat refreshes the first node
it finds at the address. Besides, a registration which lists an operation twice is also
accepted for operations that it does not list. `latestWins_iff` characterizes the runs in
which a provider is only ever returned for what its latest registration announced.
-/

namespace Cloud3D.LoadBalanceImpl

variable {float : Type}

/-- The registration that an event makes for an address. -/
def registrationFor (a : String) (timed : Timed float) : Option (NewServer float) :=
  match timed.event with
  | .message (.establishServer request) =>
      if request.serverAddress = a then some request else none
  | _ => none

@[simp] theorem registrationFor_establishServer (a : String) (now : Int)
    (request : NewServer float) :
    registrationFor a ⟨now, .message (.establishServer request)⟩ =
      if request.serverAddress = a then some request else none := rfl

theorem registrationFor_eq_none {timed : Timed float}
    (silent : ∀ registration, timed.event ≠ .message (.establishServer registration))
    (a : String) : registrationFor a timed = none := by
  unfold registrationFor
  split
  · exact absurd ‹_› (silent _)
  · rfl

/-- The most recent registration accepted for an address. Every registration is. -/
def lastRegistration (a : String) (events : List (Timed float)) : Option (NewServer float) :=
  events.foldl (fun latest timed => (registrationFor a timed).or latest) none

@[simp] theorem lastRegistration_concat (a : String) (events : List (Timed float))
    (timed : Timed float) :
    lastRegistration a (events ++ [timed]) =
      (registrationFor a timed).or (lastRegistration a events) := by
  simp [lastRegistration]

/-- The node carries what the registration announced. -/
def Carries (server : ServerNode float) (registration : NewServer float) : Prop :=
  server.version = registration.version ∧ server.operations = registration.operation

/-- Every node carries what was announced last for its address. -/
def NodesLatest (events : List (Timed float)) (balancer : LoadBalanceImpl float) : Prop :=
  ∀ server ∈ balancer.servers, ∃ registration,
    lastRegistration server.address events = some registration ∧ Carries server registration

/-- A condition on one step: a registration finds no node of its address that carries
anything else. -/
def LeavesNoneOutdated (balancer : LoadBalanceImpl float) (timed : Timed float) : Prop :=
  ∀ registration, timed.event = .message (.establishServer registration) →
    ∀ server ∈ balancer.servers, server.address = registration.serverAddress →
      Carries server registration

theorem nodesLatest_establishServer {events : List (Timed float)}
    {balancer : LoadBalanceImpl float} (latest : NodesLatest events balancer) (now : Int)
    (request : NewServer float) :
    NodesLatest (events ++ [⟨now, .message (.establishServer request)⟩])
        (balancer.step ⟨now, .message (.establishServer request)⟩) ↔
      LeavesNoneOutdated balancer ⟨now, .message (.establishServer request)⟩ := by
  constructor
  · rintro kept registration announced server member same
    obtain rfl : request = registration := by simpa using announced
    obtain ⟨last, found, carries⟩ := kept server (List.mem_append_left _ member)
    rw [lastRegistration_concat, registrationFor_establishServer, if_pos same.symm] at found
    exact Option.some.inj found ▸ carries
  · intro none server member
    rw [lastRegistration_concat, registrationFor_establishServer]
    rcases List.mem_append.mp member with old | new
    · by_cases same : request.serverAddress = server.address
      · exact ⟨request, by simp [same], none request rfl server old same.symm⟩
      · obtain ⟨last, found, carries⟩ := latest server old
        exact ⟨last, by simp [same, found], carries⟩
    · obtain rfl := List.mem_singleton.mp new
      exact ⟨request, by simp [newNode], rfl, rfl⟩

/-- A node after a step has kept the registration of one from before, or it is new. -/
theorem registration_of_step {balancer : LoadBalanceImpl float} {timed : Timed float}
    {server : ServerNode float} (member : server ∈ (balancer.step timed).servers) :
    (∃ old ∈ balancer.servers, server.registration = old.registration) ∨
      timed.event = .message (.establishServer server.registration) := by
  obtain ⟨now, event⟩ := timed
  cases event with
  | message message => exact (registration_of_receive member).imp_right (congrArg Event.message)
  | removeInactiveServer =>
      have kept := (mem_removeInactiveServer balancer now server).mp member
      exact .inl ⟨server, kept.1, rfl⟩
  | listServer request => exact .inl ⟨server, member, rfl⟩

/-- Any event but a registration keeps the property. -/
theorem nodesLatest_of_silent {events : List (Timed float)} {balancer : LoadBalanceImpl float}
    (latest : NodesLatest events balancer) {timed : Timed float}
    (silent : ∀ registration, timed.event ≠ .message (.establishServer registration)) :
    NodesLatest (events ++ [timed]) (balancer.step timed) := by
  intro server member
  rcases registration_of_step member with ⟨old, before, same⟩ | new
  · obtain ⟨last, found, carries⟩ := latest old before
    obtain ⟨version, address, operations⟩ := NewServer.mk.inj same
    refine ⟨last, ?_, version.trans carries.1, operations.trans carries.2⟩
    rw [lastRegistration_concat, registrationFor_eq_none silent, Option.none_or, address, found]
  · exact absurd new (silent _)

theorem nodesLatest_step {events : List (Timed float)} {balancer : LoadBalanceImpl float}
    (latest : NodesLatest events balancer) (timed : Timed float) :
    NodesLatest (events ++ [timed]) (balancer.step timed) ↔ LeavesNoneOutdated balancer timed := by
  by_cases registers : ∃ registration, timed.event = .message (.establishServer registration)
  · obtain ⟨registration, announced⟩ := registers
    obtain ⟨now, event⟩ := timed
    obtain rfl : event = .message (.establishServer registration) := announced
    exact nodesLatest_establishServer latest now registration
  · have silent := not_exists.mp registers
    exact iff_of_true (nodesLatest_of_silent latest silent)
      fun registration announced => absurd announced (silent registration)

/-! ### Operations listed twice -/

/-- A second condition: a registration which can be returned, so one for an address which is
not empty, lists no operation twice. -/
def ListsOnce (timed : Timed float) : Prop :=
  ∀ registration, timed.event = .message (.establishServer registration) →
    registration.serverAddress ≠ "" → registration.operation.Nodup

/-- Every node which can be returned lists no operation twice. -/
def NodesOnce (balancer : LoadBalanceImpl float) : Prop :=
  ∀ server ∈ balancer.servers, server.address ≠ "" → server.operations.Nodup

theorem nodesOnce_step {balancer : LoadBalanceImpl float} (once : NodesOnce balancer)
    {timed : Timed float} (lists : ListsOnce timed) : NodesOnce (balancer.step timed) := by
  intro server member
  rcases registration_of_step member with ⟨old, before, same⟩ | new
  · obtain ⟨_, address, operations⟩ := NewServer.mk.inj same
    rw [address, operations]
    exact once old before
  · exact lists server.registration new

/-! ### What `ListServer` returns -/

variable [LinearOrder float]

/-- The provider returned for a request announced last a version which suffices and every
requested operation. -/
def ListsLatest (events : List (Timed float)) (balancer : LoadBalanceImpl float) : Prop :=
  ∀ unset draw (request : ServerRequest float) reply,
    balancer.listServer unset draw request = some (.OK, reply) → reply.serverAddresss ≠ "" →
      ∃ registration, lastRegistration reply.serverAddresss events = some registration ∧
        request.version ≤ registration.version ∧
        ∀ operation ∈ request.operation, operation ∈ registration.operation

/-- The latest registration wins. -/
structure LatestWins (events : List (Timed float)) (balancer : LoadBalanceImpl float) :
    Prop where
  nodes : NodesLatest events balancer
  lists : ListsLatest events balancer

theorem NodesLatest.lists {events : List (Timed float)} {balancer : LoadBalanceImpl float}
    (latest : NodesLatest events balancer) (once : NodesOnce balancer) :
    ListsLatest events balancer := by
  intro unset draw request reply returned nonempty
  obtain ⟨server, candidate, address⟩ := mem_of_listServer returned nonempty
  obtain ⟨member, version, _⟩ := (mem_possibleServers_iff balancer _ server).mp candidate
  obtain ⟨registration, found, carries⟩ := latest server member
  have distinct := once server member (address ▸ nonempty)
  refine ⟨registration, address ▸ found, carries.1 ▸ version, ?_⟩
  rw [← carries.2]
  exact (offers_of_mem_possibleServers distinct candidate).2

/-- The node of a registration has no usage yet, so the one read may be the least. It is
then returned for whatever it is accepted for. -/
theorem exists_listServer_establishServer (balancer : LoadBalanceImpl float)
    (registration : NewServer float) (now : Int) {operations : List String}
    (accepted : registration.operation.countP (fun operation => operation ∈ operations) =
      operations.length) :
    ∃ unset draw, (balancer.establishServer registration now).1.listServer unset draw
      ⟨registration.version, operations⟩ = some (.OK, ⟨registration.serverAddress⟩) := by
  have least : LeastLoaded Int32.minValue
      ((balancer.establishServer registration now).1.possibleServers
        (requested ⟨registration.version, operations⟩)) (newNode registration now) := by
    refine ⟨?_, fun other _ => Int32.minValue_le (other.load Int32.minValue)⟩
    rw [mem_possibleServers_iff]
    exact ⟨List.mem_append_right _ (List.mem_singleton_self _), le_refl _, accepted⟩
  obtain ⟨draw, result⟩ := exists_draw_minUsageServer least
  exact ⟨Int32.minValue, draw, (listServer_eq_some_iff _ _ _ _ _).mpr result⟩

/-- A registration for a non-empty address which is only returned for what it announced
lists no operation twice. -/
theorem listsOnce_of_listsLatest {events : List (Timed float)}
    {balancer : LoadBalanceImpl float} {timed : Timed float}
    (lists : ListsLatest (events ++ [timed]) (balancer.step timed)) : ListsOnce timed := by
  obtain ⟨now, event⟩ := timed
  rintro request rfl nonempty
  rw [Occurrence.nodup_iff_sound]
  intro operations accepted
  obtain ⟨unset, draw, returned⟩ :=
    exists_listServer_establishServer balancer request now accepted
  obtain ⟨registration, found, _, offered⟩ := lists unset draw _ _ returned nonempty
  have last : request = registration := by
    simpa [lastRegistration_concat] using found
  rw [last]
  exact offered

/-- In a run the latest registration wins in every state if and only if every registration
finds no node of its address which carries something else and, unless its address is
empty, lists no operation twice. -/
theorem latestWins_iff (heartBeatRate : Int) (events : List (Timed float)) :
    Transition.Always step (initial heartBeatRate) events LatestWins ↔
      ∀ done timed, done ++ [timed] <+: events →
        LeavesNoneOutdated (after heartBeatRate done) timed ∧ ListsOnce timed := by
  constructor
  · intro always done timed taken
    have latest := always done ((List.prefix_append done [timed]).trans taken)
    have next := always (done ++ [timed]) taken
    rw [Transition.run_append] at next
    exact ⟨(nodesLatest_step latest.nodes timed).mp next.nodes,
      listsOnce_of_listsLatest next.lists⟩
  · intro conditions
    have kept : Transition.Always step (initial heartBeatRate) events
        fun done balancer => NodesLatest done balancer ∧ NodesOnce balancer := by
      apply Transition.always_of_step
      · exact ⟨fun _ member => absurd member List.not_mem_nil,
          fun _ member => absurd member List.not_mem_nil⟩
      · rintro done timed taken ⟨latest, once⟩
        obtain ⟨noneOutdated, lists⟩ := conditions done timed taken
        exact ⟨(nodesLatest_step latest timed).mpr noneOutdated, nodesOnce_step once lists⟩
    intro done taken
    obtain ⟨latest, once⟩ := kept done taken
    exact ⟨latest, latest.lists once⟩

/-- The restart of a provider with another service: the old node is refreshed by the
heartbeat of the new process and survives the sweep, which removes the fresh node. The
balancer then returns the provider for the service that it no longer offers. -/
def restarted : List (Timed Int) :=
  [⟨0, .message (.establishServer ⟨1, "provider:1", ["MeshSmooth"]⟩)⟩,
    ⟨500000000, .message (.establishServer ⟨1, "provider:1", ["MeshCut"]⟩)⟩,
    ⟨1500000000, .message (.sendHeartbeat ⟨true, 0, "provider:1"⟩)⟩,
    ⟨2000000000, .removeInactiveServer⟩]

/-- A provider which is gone from the registry comes back and lists one operation twice. -/
def repeating : List (Timed Int) :=
  [⟨0, .message (.establishServer ⟨1, "provider:1", ["MeshSmooth"]⟩)⟩,
    ⟨2000000000, .removeInactiveServer⟩,
    ⟨2500000000, .message (.establishServer ⟨1, "provider:1", ["MeshCut", "MeshCut"]⟩)⟩]

/-- In both runs the provider is returned for what it does not offer any more. -/
theorem latest_not_wins :
    ((restarted.map Timed.now).Pairwise (· ≤ ·) ∧
      ¬ Transition.Always step (initial 1000) restarted LatestWins ∧
      ∃ draw, (after 1000 restarted).listServer 0 draw ⟨1, ["MeshSmooth"]⟩ =
        some (.OK, ⟨"provider:1"⟩)) ∧
    (repeating.map Timed.now).Pairwise (· ≤ ·) ∧
      ¬ Transition.Always step (initial 1000) repeating LatestWins ∧
      ∀ unset draw, (after 1000 repeating).listServer unset draw ⟨1, ["MeshCut", "MeshSmooth"]⟩ =
        some (.OK, ⟨"provider:1"⟩) := by
  have candidates : (after 1000 repeating).possibleServers
      (requested ⟨1, ["MeshCut", "MeshSmooth"]⟩) =
        [⟨"provider:1", ["MeshCut", "MeshCut"], 1, none, 2500000000⟩] := by decide
  have returned : ∀ unset draw, (after 1000 repeating).listServer unset draw
      ⟨1, ["MeshCut", "MeshSmooth"]⟩ = some (.OK, ⟨"provider:1"⟩) := by
    intro unset draw
    obtain ⟨server, least, result⟩ := minUsageServer_cons unset draw
      ⟨"provider:1", ["MeshCut", "MeshCut"], (1 : Int), none, 2500000000⟩ []
    rw [listServer_eq_some_iff, candidates, result, List.mem_singleton.mp least.1]
  refine ⟨⟨by decide, ?_, ⟨fun _ => 0, by simp⟩, by decide⟩, by decide, ?_, returned⟩
  · intro always
    obtain ⟨registration, found, _, carries⟩ :=
      (always restarted (List.prefix_refl _)).nodes
        ⟨"provider:1", ["MeshSmooth"], 1, some 0, 1500000000⟩ (by decide)
    have last : registration = ⟨1, "provider:1", ["MeshCut"]⟩ :=
      Option.some.inj (found.symm.trans (by decide :
        lastRegistration "provider:1" restarted = some ⟨1, "provider:1", ["MeshCut"]⟩))
    rw [last] at carries
    exact absurd carries (by decide)
  · intro always
    obtain ⟨registration, found, _, offered⟩ :=
      (always repeating (List.prefix_refl _)).lists 0 ⟨fun _ => 0, by simp⟩
        ⟨1, ["MeshCut", "MeshSmooth"]⟩ ⟨"provider:1"⟩ (returned _ _) (by decide)
    have last : registration = ⟨1, "provider:1", ["MeshCut", "MeshCut"]⟩ :=
      Option.some.inj (found.symm.trans (by decide :
        lastRegistration "provider:1" repeating = some ⟨1, "provider:1", ["MeshCut", "MeshCut"]⟩))
    rw [last] at offered
    exact absurd (offered "MeshSmooth" (by decide)) (by decide)

end Cloud3D.LoadBalanceImpl
