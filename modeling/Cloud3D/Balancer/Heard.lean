import Cloud3D.Balancer.Matching
import Cloud3D.Balancer.Selection

/-!
# Nodes without a load

A registration leaves the member `usage` of its node without a value, and a heartbeat
assigns that of the first node of its address. `reported` follows the messages: it is
the usage of the last heartbeat credited to the node which is the first of an address
now. The invariant `Heard` relates it to the registry, and `reads_assigned_iff` says
when a request makes the selection read a value that was never assigned.
-/

namespace Cloud3D

namespace LoadBalanceImpl

variable {float : Type}

/-- The node to which a heartbeat of this address is credited. -/
def first (a : String) (servers : List (ServerNode float)) : Option (ServerNode float) :=
  servers.find? fun server => server.address = a

/-- What is known of the usage at an address, from the messages. A sweep that removes the
first node of the address takes it away. -/
def note (balancer : LoadBalanceImpl float) (timed : Timed float)
    (reported : String → Option UInt32) (a : String) : Option UInt32 :=
  match timed.event with
  | .message (.establishServer _) => reported a
  | .message (.sendHeartbeat request) =>
      if request.serverAddresss = a ∧ balancer.Registered a then some request.usage
      else reported a
  | .removeInactiveServer =>
      if (first a balancer.servers).any (balancer.inactive timed.now) then none else reported a
  | .listServer _ => reported a

/-- The usage of the last heartbeat credited to the first node of an address, after a run. -/
def reported (heartBeatRate : Int) (events : List (Timed float)) : String → Option UInt32 :=
  Transition.ghost step note (initial heartBeatRate) (fun _ => none) events

/-- The invariant: the first node of an address has the usage reported for the address,
the nodes behind it have none. -/
structure Heard (balancer : LoadBalanceImpl float) (reported : String → Option UInt32) :
    Prop where
  known : ∀ a, (first a balancer.servers).bind ServerNode.usage =
    (reported a).map UInt32.toInt32
  behind : balancer.servers.Pairwise fun earlier later =>
    earlier.address = later.address → later.usage = none

/-! ### The first node of an address -/

theorem first_eq_some_iff (a : String) (servers : List (ServerNode float))
    (server : ServerNode float) :
    first a servers = some server ↔ server.address = a ∧ ∃ front back,
      servers = front ++ server :: back ∧ ∀ other ∈ front, other.address ≠ a := by
  simp [first, List.find?_eq_some_iff_append]

theorem first_eq_none_iff (a : String) (servers : List (ServerNode float)) :
    first a servers = none ↔ ∀ server ∈ servers, server.address ≠ a := by
  simp [first]

theorem first_append (a : String) (front back : List (ServerNode float)) :
    first a (front ++ back) = (first a front).or (first a back) := by
  simp [first]

theorem first_filter_eq_none {a : String} {servers : List (ServerNode float)}
    (absent : first a servers = none) (keep : ServerNode float → Bool) :
    first a (servers.filter keep) = none := by
  apply (first_eq_none_iff a _).mpr
  intro server member
  exact (first_eq_none_iff a servers).mp absent server (List.mem_of_mem_filter member)

theorem first_filter_of_keep {a : String} {servers : List (ServerNode float)}
    {server : ServerNode float} (found : first a servers = some server)
    {keep : ServerNode float → Bool} (kept : keep server = true) :
    first a (servers.filter keep) = some server := by
  obtain ⟨same, front, back, split, skipped⟩ := (first_eq_some_iff a servers server).mp found
  apply (first_eq_some_iff a _ server).mpr
  refine ⟨same, front.filter keep, back.filter keep, ?_, ?_⟩
  · rw [split, List.filter_append, List.filter_cons_of_pos kept]
  · exact fun other member => skipped other (List.mem_of_mem_filter member)

@[simp] theorem first_cons (a : String) (server : ServerNode float)
    (servers : List (ServerNode float)) :
    first a (server :: servers) = if server.address = a then some server else first a servers := by
  by_cases same : server.address = a <;> simp [first, same]

/-! ### The invariant -/

theorem Heard.of_absent {balancer : LoadBalanceImpl float} {reported : String → Option UInt32}
    (heard : Heard balancer reported) {a : String} (absent : first a balancer.servers = none) :
    reported a = none := by
  have known := heard.known a
  rw [absent, Option.bind_none] at known
  exact Option.map_eq_none_iff.mp known.symm

/-- The other nodes of an address have no usage. -/
theorem Heard.usage_eq_none {balancer : LoadBalanceImpl float}
    {reported : String → Option UInt32} (heard : Heard balancer reported)
    {server other : ServerNode float} (found : first other.address balancer.servers = some server)
    (member : other ∈ balancer.servers) (distinct : other ≠ server) : other.usage = none := by
  obtain ⟨same, front, back, split, skipped⟩ := (first_eq_some_iff _ _ server).mp found
  have behind := heard.behind
  rw [split, List.pairwise_append, List.pairwise_cons] at behind
  rw [split] at member
  rcases List.mem_append.mp member with before | rest
  · exact absurd rfl (skipped other before)
  · rcases List.mem_cons.mp rest with here | after
    · exact absurd here distinct
    · exact behind.2.1.1 other after same

theorem Heard.establishServer {balancer : LoadBalanceImpl float}
    {reported : String → Option UInt32} (heard : Heard balancer reported)
    (request : NewServer float) (now : Int) :
    Heard (balancer.step ⟨now, .message (.establishServer request)⟩) reported := by
  constructor
  · intro a
    show (first a (balancer.servers ++ [newNode request now])).bind ServerNode.usage = _
    rw [first_append]
    cases absent : first a balancer.servers with
    | none =>
        rw [heard.of_absent absent, Option.none_or, first_cons]
        split <;> rfl
    | some server =>
        rw [Option.some_or, ← absent]
        exact heard.known a
  · apply List.pairwise_append.mpr
    refine ⟨heard.behind, List.pairwise_singleton _ _, ?_⟩
    intro earlier _ later new _
    obtain rfl := List.mem_singleton.mp new
    rfl

theorem Heard.sendHeartbeat {balancer : LoadBalanceImpl float}
    {reported : String → Option UInt32} (heard : Heard balancer reported)
    (request : HeartBeat) (now : Int) :
    Heard (balancer.step ⟨now, .message (.sendHeartbeat request)⟩)
      (note balancer ⟨now, .message (.sendHeartbeat request)⟩ reported) := by
  rcases balancer.receive_sendHeartbeat now request with
    ⟨unknown, refused⟩ | ⟨front, server, back, split, skipped, same, accepted⟩
  · have kept : balancer.step ⟨now, .message (.sendHeartbeat request)⟩ = balancer := by
      simp [step, refused]
    have silent : note balancer ⟨now, .message (.sendHeartbeat request)⟩ reported = reported := by
      funext a
      apply if_neg
      rintro ⟨rfl, registered⟩
      exact unknown registered
    rw [kept, silent]
    exact heard
  · have registered : balancer.Registered request.serverAddresss :=
      ⟨server, by simp [split], same⟩
    have next : balancer.step ⟨now, .message (.sendHeartbeat request)⟩ =
        { balancer with servers := front ++ server.beat request now :: back } := by
      simp [step, accepted]
    obtain ⟨known, behind⟩ := heard
    rw [split] at known behind
    rw [next]
    constructor
    · intro a
      have before := known a
      rw [first_append, first_cons] at before ⊢
      by_cases credited : request.serverAddresss = a
      · have absent : first a front = none := (first_eq_none_iff a front).mpr (credited ▸ skipped)
        simp [note, credited, absent, same, credited ▸ registered, ServerNode.beat]
      · have other : server.address ≠ a := by rwa [same]
        simpa [note, credited, other] using before
    · rw [List.pairwise_append, List.pairwise_cons] at behind ⊢
      obtain ⟨within, ⟨here, rest⟩, across⟩ := behind
      refine ⟨within, ⟨here, rest⟩, fun earlier member later inside => ?_⟩
      rcases List.mem_cons.mp inside with rfl | beyond
      · intro shared
        exact absurd (shared.trans same) (skipped earlier member)
      · exact across earlier member later (List.mem_cons_of_mem _ beyond)

theorem Heard.removeInactiveServer {balancer : LoadBalanceImpl float}
    {reported : String → Option UInt32} (heard : Heard balancer reported) (now : Int) :
    Heard (balancer.step ⟨now, .removeInactiveServer⟩)
      (note balancer ⟨now, .removeInactiveServer⟩ reported) := by
  refine ⟨fun a => ?_, heard.behind.filter _⟩
  show (first a (balancer.servers.filter fun server => !balancer.inactive now server)).bind
    ServerNode.usage = _
  cases found : first a balancer.servers with
  | none =>
      rw [first_filter_eq_none found]
      simp [note, found, heard.of_absent found]
  | some server =>
      cases gone : balancer.inactive now server with
      | false =>
          have known := heard.known a
          rw [found] at known
          rw [first_filter_of_keep found (by simp [gone])]
          simpa [note, found, gone] using known
      | true =>
          have silent : note balancer ⟨now, .removeInactiveServer⟩ reported a = none := by
            simp [note, found, gone]
          rw [silent, Option.map_none, Option.bind_eq_none_iff]
          intro later next
          obtain ⟨inside, active⟩ := List.mem_filter.mp (List.mem_of_find?_eq_some next)
          obtain ⟨rfl, _⟩ := (first_eq_some_iff a _ later).mp next
          apply heard.usage_eq_none found inside
          rintro rfl
          simp [gone] at active

theorem Heard.step {balancer : LoadBalanceImpl float} {reported : String → Option UInt32}
    (heard : Heard balancer reported) (timed : Timed float) :
    Heard (balancer.step timed) (note balancer timed reported) := by
  obtain ⟨now, event⟩ := timed
  cases event with
  | message message =>
      cases message with
      | establishServer request => exact heard.establishServer request now
      | sendHeartbeat request => exact heard.sendHeartbeat request now
  | removeInactiveServer => exact heard.removeInactiveServer now
  | listServer request => exact heard

theorem heard_after (heartBeatRate : Int) (events : List (Timed float)) :
    Heard (after heartBeatRate events) (reported heartBeatRate events) := by
  apply Transition.ghost_induction (P := Heard)
  · exact fun _ timed _ heard => heard.step timed
  · exact ⟨fun _ => rfl, List.Pairwise.nil⟩

/-- A node has a load exactly when it is the first of its address and has been heard. -/
theorem Heard.usage_isSome_iff {balancer : LoadBalanceImpl float}
    {reported : String → Option UInt32} (heard : Heard balancer reported)
    {server : ServerNode float} (member : server ∈ balancer.servers) :
    server.usage.isSome ↔
      first server.address balancer.servers = some server ∧ (reported server.address).isSome := by
  have known := heard.known server.address
  constructor
  · intro assigned
    cases found : first server.address balancer.servers with
    | none => exact absurd rfl ((first_eq_none_iff _ _).mp found server member)
    | some earliest =>
        have here : server = earliest := by
          by_contra distinct
          rw [heard.usage_eq_none found member distinct] at assigned
          cases assigned
        rw [found, ← here, Option.bind_some] at known
        rw [known, Option.isSome_map] at assigned
        exact ⟨by rw [here], assigned⟩
  · rintro ⟨found, told⟩
    rw [found, Option.bind_some] at known
    rwa [known, Option.isSome_map]

/-! ### What the selection reads -/

/-- The members `usage` which `minUsageServer` reads: that of the front element, and then
that of every element. -/
def usagesRead : List (ServerNode float) → List (Option Int32)
  | [] => []
  | front :: servers => front.usage :: (front :: servers).map ServerNode.usage

theorem forall_usagesRead_iff (servers : List (ServerNode float)) :
    (∀ usage ∈ usagesRead servers, usage.isSome) ↔
      ∀ server ∈ servers, server.usage.isSome := by
  cases servers with
  | nil => simp [usagesRead]
  | cons front servers => simp [usagesRead]

theorem load_eq_of_isSome {server : ServerNode float} (assigned : server.usage.isSome)
    (unset unset' : Int32) : server.load unset = server.load unset' := by
  obtain ⟨usage, found⟩ := Option.isSome_iff_exists.mp assigned
  simp [ServerNode.load, found]

/-- Where all loads are assigned, the result does not depend on anything else. -/
theorem minUsageServer_unset {servers : List (ServerNode float)}
    (assigned : ∀ server ∈ servers, server.usage.isSome) (unset unset' : Int32) (draw : Draw) :
    minUsageServer unset draw servers = minUsageServer unset' draw servers := by
  cases servers with
  | nil => rfl
  | cons front servers =>
      have turn : ∀ (selected : Selected float), ∀ server ∈ front :: servers,
          selected.visit unset server = selected.visit unset' server := by
        intro selected server member
        simp only [Selected.visit, load_eq_of_isSome (assigned server member) unset unset']
      have start := load_eq_of_isSome (assigned front List.mem_cons_self) unset unset'
      have same : select unset front (front :: servers) =
          select unset' front (front :: servers) := by
        rw [select, select, start]
        exact List.foldl_ext _ _ _ turn
      simp only [minUsageServer, same]

variable [LinearOrder float]

/-- In every state of a run and for every request, the selection reads assigned loads
only, and its answer depends on the messages and the draw alone, if and only if every
candidate is the first node of its address and has been heard since it is. -/
theorem reads_assigned_iff (heartBeatRate : Int) (events : List (Timed float))
    (request : ServerRequest float) :
    let balancer := after heartBeatRate events
    let candidates := balancer.possibleServers (requested request)
    ((∀ usage ∈ usagesRead candidates, usage.isSome) ∧
      ∀ unset unset' draw,
        balancer.listServer unset draw request = balancer.listServer unset' draw request) ↔
    ∀ server ∈ candidates, first server.address balancer.servers = some server ∧
      (reported heartBeatRate events server.address).isSome := by
  intro balancer candidates
  have heard := heard_after heartBeatRate events
  have each : ∀ server ∈ candidates, server.usage.isSome ↔
      first server.address balancer.servers = some server ∧
        (reported heartBeatRate events server.address).isSome := by
    intro server candidate
    exact heard.usage_isSome_iff ((mem_possibleServers_iff balancer _ server).mp candidate).1
  rw [forall_usagesRead_iff, forall₂_congr each]
  constructor
  · exact And.left
  · intro conditions
    refine ⟨conditions, fun unset unset' draw => ?_⟩
    have assigned : ∀ server ∈ candidates, server.usage.isSome :=
      fun server candidate => (each server candidate).mpr (conditions server candidate)
    simp only [listServer, findBestServer]
    rw [minUsageServer_unset assigned unset unset' draw]

/-- A provider has been heard, another one has only registered. -/
def halfHeard : List (Timed Int) :=
  [⟨0, .message (.establishServer ⟨1, "provider:1", ["MeshSmooth"]⟩)⟩,
    ⟨100000000, .message (.sendHeartbeat ⟨true, 5, "provider:1"⟩)⟩,
    ⟨200000000, .message (.establishServer ⟨1, "provider:2", ["MeshSmooth"]⟩)⟩]

/-- A request before the first heartbeat of the other one: what its node happens to hold
decides the answer. -/
theorem unset_load_is_read :
    (none ∈ usagesRead
        ((after 1000 halfHeard).possibleServers (requested ⟨1, ["MeshSmooth"]⟩))) ∧
      ∃ draw, (after 1000 halfHeard).listServer 0 draw ⟨1, ["MeshSmooth"]⟩ =
          some (.OK, ⟨"provider:2"⟩) ∧
        (after 1000 halfHeard).listServer 9 draw ⟨1, ["MeshSmooth"]⟩ =
          some (.OK, ⟨"provider:1"⟩) :=
  ⟨by decide, ⟨fun _ => 0, by simp⟩, by decide⟩

end LoadBalanceImpl

end Cloud3D
