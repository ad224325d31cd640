import Cloud3D.Balancer.Matching
import Cloud3D.Balancer.Selection
import Cloud3D.Transition.Simulation
import Mathlib.Logic.Function.Basic

/-!
# The registry as a directory

What the balancer is for: a directory of providers by address, in which a heartbeat
changes the entry of its sender, a sweep removes what is too old, and a client is sent to
an entry of least load among those that offer what it asks for. It has no order, and no
address twice.

The vector refines it as long as no address is registered again before it is removed, and
no name is listed twice: every call is then answered in the same way (`directory_refined`).
On both sides the providers which have not sent a heartbeat yet have the same load `unset`.
-/

namespace Cloud3D

/-- What is known of a provider, besides its address. -/
structure Directory.Entry (float : Type) where
  operations : List String
  version : float
  usage : Option Int32
  lastBeat : Int

variable {float : Type}

/-- The entry of a node. -/
def ServerNode.entry (server : ServerNode float) : Directory.Entry float :=
  ⟨server.operations, server.version, server.usage, server.lastBeat⟩

theorem ServerNode.eq_of_entry {server other : ServerNode float}
    (address : server.address = other.address) (entry : server.entry = other.entry) :
    server = other := by
  obtain ⟨a, operations, version, usage, lastBeat⟩ := server
  obtain ⟨b, operations', version', usage', lastBeat'⟩ := other
  simp only [ServerNode.entry, Directory.Entry.mk.injEq] at address entry
  simp [address, entry]

abbrev Directory (float : Type) := String → Option (Directory.Entry float)

namespace Directory

def receive (directory : Directory float) (now : Int) :
    Message float → Directory float × Status
  | .establishServer request =>
      (Function.update directory request.serverAddress
        (some ⟨request.operation, request.version, none, now⟩), .OK)
  | .sendHeartbeat request =>
      match directory request.serverAddresss with
      | some entry =>
          (Function.update directory request.serverAddresss
            (some { entry with usage := some request.usage.toInt32, lastBeat := now }), .OK)
      | none => (directory, .CANCELLED)

/-- An entry which has not been renewed for longer than the rate is removed. -/
def sweep (heartBeatRate : Int) (directory : Directory float) (now : Int) : Directory float :=
  fun a => (directory a).filter fun entry => milliseconds (now - entry.lastBeat) ≤ heartBeatRate

def step (heartBeatRate : Int) (directory : Directory float) (timed : Timed float) :
    Directory float :=
  match timed.event with
  | .message message => (directory.receive timed.now message).1
  | .removeInactiveServer => directory.sweep heartBeatRate timed.now
  | .listServer _ => directory

/-- The entry of this address offers what is asked for. -/
def Offers [LinearOrder float] (directory : Directory float) (request : ServerRequest float)
    (a : String) (entry : Entry float) : Prop :=
  directory a = some entry ∧ request.version ≤ entry.version ∧
    ∀ operation ∈ request.operation, operation ∈ entry.operations

/-- The possible answers to a request: the addresses of least load among those which offer
what is asked for, or else the empty one. All entries without a usage count as `unset`. -/
def answers [LinearOrder float] (unset : Int32) (directory : Directory float)
    (request : ServerRequest float) : Set String :=
  {a | (∃ entry, directory.Offers request a entry ∧ ∀ b other, directory.Offers request b other →
      entry.usage.getD unset ≤ other.usage.getD unset) ∨
    (a = "" ∧ ∀ b other, ¬ directory.Offers request b other)}

/-- What the sender of an event sees: a status, or one of these addresses. -/
def observe [LinearOrder float] (unset : Int32) (directory : Directory float)
    (timed : Timed float) : Option Status × Set String :=
  match timed.event with
  | .message message => (some (directory.receive timed.now message).2, ∅)
  | .removeInactiveServer => (none, ∅)
  | .listServer request => (none, directory.answers unset request)

/-- A registration of a new address, or a request, that lists nothing twice. -/
def Admissible (directory : Directory float) (timed : Timed float) : Prop :=
  match timed.event with
  | .message (.establishServer request) =>
      directory request.serverAddress = none ∧ request.operation.Nodup
  | .message (.sendHeartbeat _) => True
  | .removeInactiveServer => True
  | .listServer request => request.operation.Nodup

end Directory

namespace LoadBalanceImpl

/-- The same of the vector. A request is answered by some draw. -/
def observe [LinearOrder float] (unset : Int32) (balancer : LoadBalanceImpl float)
    (timed : Timed float) : Option Status × Set String :=
  match timed.event with
  | .message message => (some (balancer.receive timed.now message).2, ∅)
  | .removeInactiveServer => (none, ∅)
  | .listServer request =>
      (none, {a | ∃ draw, balancer.listServer unset draw request = some (.OK, ⟨a⟩)})

/-- The nodes are the entries of the directory, each once. -/
structure Refines (heartBeatRate : Int) (balancer : LoadBalanceImpl float)
    (directory : Directory float) : Prop where
  rate : balancer.heartBeatRate = heartBeatRate
  nodup : (balancer.servers.map ServerNode.address).Nodup
  distinct : ∀ server ∈ balancer.servers, server.operations.Nodup
  listed : ∀ server, server ∈ balancer.servers ↔ directory server.address = some server.entry

variable {heartBeatRate : Int} {balancer : LoadBalanceImpl float} {directory : Directory float}

/-- An address is registered exactly when it has an entry. -/
theorem Refines.registered_iff (refines : Refines heartBeatRate balancer directory) (a : String) :
    balancer.Registered a ↔ (directory a).isSome := by
  constructor
  · rintro ⟨server, member, rfl⟩
    rw [(refines.listed server).mp member]
    rfl
  · intro known
    obtain ⟨⟨operations, version, usage, lastBeat⟩, found⟩ := Option.isSome_iff_exists.mp known
    exact ⟨⟨a, operations, version, usage, lastBeat⟩, (refines.listed _).mpr found, rfl⟩

theorem refines_initial (heartBeatRate : Int) :
    Refines heartBeatRate (initial heartBeatRate : LoadBalanceImpl float) fun _ => none where
  rate := rfl
  nodup := List.nodup_nil
  distinct _ member := absurd member List.not_mem_nil
  listed _ := by simp [initial]

theorem Refines.establishServer (refines : Refines heartBeatRate balancer directory)
    {request : NewServer float} (fresh : directory request.serverAddress = none)
    (once : request.operation.Nodup) (now : Int) :
    Refines heartBeatRate (balancer.receive now (.establishServer request)).1
      (directory.receive now (.establishServer request)).1 := by
  have absent : ¬ balancer.Registered request.serverAddress := by
    rw [refines.registered_iff, fresh]
    exact Bool.false_ne_true
  refine ⟨refines.rate, ?_, ?_, ?_⟩
  · rw [registered_iff_mem] at absent
    rw [receive_establishServer, List.map_append, List.nodup_append']
    refine ⟨refines.nodup, List.nodup_singleton _, ?_⟩
    exact List.disjoint_singleton.mpr absent
  · intro server member
    cases List.mem_append.mp member with
    | inl old => exact refines.distinct server old
    | inr new =>
        obtain rfl := List.mem_singleton.mp new
        exact once
  · intro server
    simp only [receive_establishServer, Directory.receive, List.mem_append, List.mem_singleton]
    by_cases own : server.address = request.serverAddress
    · have none : server ∉ balancer.servers := fun member => absent ⟨server, member, own⟩
      rw [own, Function.update_self, Option.some.injEq]
      simp only [none, false_or]
      constructor
      · rintro rfl
        rfl
      · exact fun entry => ServerNode.eq_of_entry own entry.symm
    · rw [Function.update_of_ne own, ← refines.listed]
      refine or_iff_left ?_
      rintro rfl
      exact own rfl

/-- A heartbeat changes the one entry of its sender, or none and is refused. -/
theorem Refines.sendHeartbeat (refines : Refines heartBeatRate balancer directory)
    (request : HeartBeat) (now : Int) :
    (balancer.receive now (.sendHeartbeat request)).2 =
        (directory.receive now (.sendHeartbeat request)).2 ∧
      Refines heartBeatRate (balancer.receive now (.sendHeartbeat request)).1
        (directory.receive now (.sendHeartbeat request)).1 := by
  rcases balancer.receive_sendHeartbeat now request with
    ⟨absent, refused⟩ | ⟨front, server, back, split, skipped, same, refreshed⟩
  · rw [refines.registered_iff, Option.not_isSome_iff_eq_none] at absent
    rw [refused, Directory.receive, absent]
    exact ⟨rfl, refines⟩
  · have member : server ∈ balancer.servers := by simp [split]
    have found := (refines.listed server).mp member
    rw [same] at found
    rw [Directory.receive, found]
    refine ⟨by rw [refreshed], ?_, ?_, ?_, ?_⟩
    · rw [receive_heartBeatRate, refines.rate]
    · rw [receive_sendHeartbeat_addresses]
      exact refines.nodup
    · intro node present
      cases mem_of_receive_sendHeartbeat present with
      | inl old => exact refines.distinct node old
      | inr renewed =>
          obtain ⟨old, before, _, rfl⟩ := renewed
          exact refines.distinct old before
    · intro node
      have unique := refines.nodup
      rw [split, List.map_append, List.map_cons, List.nodup_append', List.nodup_cons] at unique
      have behind : ∀ other ∈ back, other.address ≠ request.serverAddresss := by
        intro other later address
        exact unique.2.1.1 (List.mem_map.mpr ⟨other, later, address.trans same.symm⟩)
      simp only [refreshed, List.mem_append, List.mem_cons]
      by_cases own : node.address = request.serverAddresss
      · rw [own, Function.update_self, Option.some.injEq]
        constructor
        · rintro (earlier | rfl | later)
          · exact absurd own (skipped node earlier)
          · rfl
          · exact absurd own (behind node later)
        · intro entry
          exact .inr (.inl (ServerNode.eq_of_entry (own.trans same.symm) entry.symm))
      · rw [Function.update_of_ne own, ← refines.listed, split, List.mem_append, List.mem_cons]
        have first : node ≠ server.beat request now := by
          rintro rfl
          exact own same
        have old : node ≠ server := by
          rintro rfl
          exact own same
        simp only [first, old, false_or]

theorem Refines.sweep (refines : Refines heartBeatRate balancer directory) (now : Int) :
    Refines heartBeatRate (balancer.removeInactiveServer now)
      (directory.sweep heartBeatRate now) := by
  refine ⟨refines.rate, ?_, ?_, ?_⟩
  · exact refines.nodup.sublist (List.filter_sublist.map ServerNode.address)
  · exact fun server member => refines.distinct server (List.mem_of_mem_filter member)
  · intro server
    rw [mem_removeInactiveServer, refines.listed, refines.rate, Directory.sweep,
      Option.filter_eq_some_iff, decide_eq_true_eq]
    rfl

section Answers

variable [LinearOrder float]

/-- The candidates are the entries that offer what is asked for. -/
theorem Refines.candidate_iff (refines : Refines heartBeatRate balancer directory)
    {request : ServerRequest float} (once : request.operation.Nodup) (server : ServerNode float) :
    server ∈ balancer.possibleServers (requested request) ↔
      directory.Offers request server.address server.entry := by
  rw [Directory.Offers, ← refines.listed]
  constructor
  · intro candidate
    obtain ⟨member, version, _⟩ := (mem_possibleServers_iff _ _ server).mp candidate
    exact ⟨member, version,
      (offers_of_mem_possibleServers (refines.distinct server member) candidate).2⟩
  · rintro ⟨member, version, offered⟩
    exact ((candidate_exact_iff balancer request member).mpr fun _ =>
      unambiguous_of_nodup (refines.distinct server member) once).mpr ⟨version, offered⟩

theorem Refines.answers (refines : Refines heartBeatRate balancer directory)
    {request : ServerRequest float} (once : request.operation.Nodup) (unset : Int32) :
    {a | ∃ draw, balancer.listServer unset draw request = some (.OK, ⟨a⟩)} =
      directory.answers unset request := by
  have exact := refines.candidate_iff once
  have entries : ∀ a entry, directory.Offers request a entry →
      ∃ server ∈ balancer.possibleServers (requested request),
        server.address = a ∧ server.entry = entry := by
    rintro a ⟨operations, version, usage, lastBeat⟩ offered
    exact ⟨⟨a, operations, version, usage, lastBeat⟩, (exact _).mpr offered, rfl, rfl⟩
  ext a
  simp only [Set.mem_ofPred_eq, listServer_eq_some_iff, Directory.answers]
  by_cases none : balancer.possibleServers (requested request) = []
  · have nothing : ∀ b entry, ¬ directory.Offers request b entry := by
      intro b entry offered
      obtain ⟨server, candidate, _⟩ := entries b entry offered
      rw [none] at candidate
      cases candidate
    simp only [none, minUsageServer, Option.some.injEq, nothing, false_and, exists_false,
      not_false_iff, implies_true, and_true, false_or]
    constructor
    · rintro ⟨_, same⟩
      exact same.symm
    · intro same
      exact ⟨⟨fun _ => 0, fun _ => Nat.zero_le _⟩, same.symm⟩
  · rw [exists_minUsageServer_iff unset none]
    constructor
    · rintro ⟨server, ⟨candidate, least⟩, rfl⟩
      refine .inl ⟨server.entry, (exact server).mp candidate, ?_⟩
      intro b other offered
      obtain ⟨node, member, rfl, rfl⟩ := entries b other offered
      exact least node member
    · rintro (⟨entry, offered, least⟩ | ⟨_, nothing⟩)
      · obtain ⟨server, candidate, rfl, rfl⟩ := entries a entry offered
        exact ⟨server, ⟨candidate, fun other member =>
          least other.address other.entry ((exact other).mp member)⟩, rfl⟩
      · obtain ⟨server, candidate⟩ := List.exists_mem_of_ne_nil _ none
        exact absurd ((exact server).mp candidate) (nothing _ _)

/-- One admissible event is answered in the same way by both. -/
theorem Refines.observe (refines : Refines heartBeatRate balancer directory)
    {timed : Timed float} (admissible : directory.Admissible timed) (unset : Int32) :
    balancer.observe unset timed = directory.observe unset timed := by
  obtain ⟨now, event⟩ := timed
  cases event with
  | message message =>
      cases message with
      | establishServer request => rfl
      | sendHeartbeat request =>
          exact congrArg (fun status => (some status, ∅)) (refines.sendHeartbeat request now).1
  | removeInactiveServer => rfl
  | listServer request => exact congrArg (Prod.mk none) (refines.answers admissible unset)

end Answers

theorem Refines.step (refines : Refines heartBeatRate balancer directory) {timed : Timed float}
    (admissible : directory.Admissible timed) :
    Refines heartBeatRate (balancer.step timed) (directory.step heartBeatRate timed) := by
  obtain ⟨now, event⟩ := timed
  cases event with
  | message message =>
      cases message with
      | establishServer request => exact refines.establishServer admissible.1 admissible.2 now
      | sendHeartbeat request => exact (refines.sendHeartbeat request now).2
  | removeInactiveServer => exact refines.sweep now
  | listServer request => exact refines

/-- A run in which every registration is of an address without an entry, and nothing is
listed twice, is answered by the vector as by the directory, event by event. -/
theorem directory_refined [LinearOrder float] (unset : Int32) (heartBeatRate : Int)
    {events : List (Timed float)}
    (admitted : Transition.Admitted (Directory.step heartBeatRate) Directory.Admissible
      (fun _ => none) events) :
    Transition.log LoadBalanceImpl.step (observe unset) (initial heartBeatRate) events =
        Transition.log (Directory.step heartBeatRate) (Directory.observe unset) (fun _ => none)
          events ∧
      Refines heartBeatRate (after heartBeatRate events)
        (Transition.run (Directory.step heartBeatRate) (fun _ => none) events) := by
  refine Transition.log_eq_of_simulation (R := Refines heartBeatRate) ?_ ?_
    (refines_initial heartBeatRate) admitted
  · exact fun balancer directory timed refines admissible => refines.observe admissible unset
  · exact fun balancer directory timed refines admissible => refines.step admissible

/-- A provider comes back under its address after it has been removed. -/
def returning : List (Timed Int) :=
  [⟨0, .message (.establishServer ⟨1, "provider:1", ["MeshSmooth"]⟩)⟩,
    ⟨500000000, .message (.sendHeartbeat ⟨true, 30, "provider:1"⟩)⟩,
    ⟨3000000000, .removeInactiveServer⟩,
    ⟨3500000000, .message (.sendHeartbeat ⟨true, 30, "provider:1"⟩)⟩,
    ⟨3500000001, .message (.establishServer ⟨1, "provider:1", ["MeshSmooth", "MeshCut"]⟩)⟩,
    ⟨3600000000, .listServer ⟨1, ["MeshCut"]⟩⟩]

theorem directory_refined_returning :
    Transition.log LoadBalanceImpl.step (observe 0) (initial 1000) returning =
        Transition.log (Directory.step 1000) (Directory.observe 0) (fun _ => none) returning ∧
      Refines 1000 (after 1000 returning)
        (Transition.run (Directory.step 1000) (fun _ => none) returning) :=
  directory_refined 0 1000 ⟨⟨rfl, by decide⟩, trivial, trivial, trivial, ⟨rfl, by decide⟩,
    show ["MeshCut"].Nodup by decide, trivial⟩

end LoadBalanceImpl

end Cloud3D
