import Cloud3D.Balancer.Basic
import Cloud3D.Transition.Run

/-!
# Runs of the load balancer

A run is a list of events with the clock reading at which each is processed. Calls
are taken one at a time; the answer of every call is kept in the log of the run.
The lemmas of this file say once what each operation does to the registry, and the
later files never unfold the handlers again.
-/

namespace Cloud3D

variable {float : Type}

/-- A call of a provider. -/
inductive Message (float : Type) where
  | establishServer (request : NewServer float)
  | sendHeartbeat (request : HeartBeat)
deriving DecidableEq, Repr

/-- The provider address which a message carries. -/
def Message.address : Message float → String
  | .establishServer request => request.serverAddress
  | .sendHeartbeat request => request.serverAddresss

inductive Event (float : Type) where
  | message (message : Message float)
  | removeInactiveServer
  | listServer (request : ServerRequest float)
deriving DecidableEq, Repr

/-- An event together with the clock reading it takes. -/
structure Timed (float : Type) where
  now : Int
  event : Event float
deriving DecidableEq, Repr

/-- The event is a message of the provider at this address. -/
def Timed.isFrom (a : String) (timed : Timed float) : Bool :=
  match timed.event with
  | .message message => message.address = a
  | _ => false

/-- The event is a sweep. -/
def Timed.isSweep (timed : Timed float) : Bool :=
  match timed.event with
  | .removeInactiveServer => true
  | _ => false

/-- The registration which a node has kept. -/
def ServerNode.registration (server : ServerNode float) : NewServer float :=
  ⟨server.version, server.address, server.operations⟩

namespace LoadBalanceImpl

/-- The balancer right after its construction. -/
def initial (heartBeatRate : Int) : LoadBalanceImpl float := ⟨[], heartBeatRate⟩

/-- A node with this address is in `servers_`. -/
def Registered (balancer : LoadBalanceImpl float) (a : String) : Prop :=
  ∃ server ∈ balancer.servers, server.address = a

instance (balancer : LoadBalanceImpl float) (a : String) : Decidable (balancer.Registered a) :=
  inferInstanceAs (Decidable (∃ server ∈ balancer.servers, server.address = a))

/-- Registry and status after one message. -/
def receive (balancer : LoadBalanceImpl float) (now : Int) :
    Message float → LoadBalanceImpl float × Status
  | .establishServer request =>
      let result := balancer.establishServer request now
      (result.1, result.2.1)
  | .sendHeartbeat request =>
      let result := balancer.sendHeartbeat request now
      (result.1, result.2.1)

def step (balancer : LoadBalanceImpl float) (timed : Timed float) : LoadBalanceImpl float :=
  match timed.event with
  | .message message => (balancer.receive timed.now message).1
  | .removeInactiveServer => balancer.removeInactiveServer timed.now
  | .listServer _ => balancer

/-- The status with which a message is answered; other events answer no provider. -/
def answer (balancer : LoadBalanceImpl float) (timed : Timed float) : Option Status :=
  match timed.event with
  | .message message => some (balancer.receive timed.now message).2
  | _ => none

/-- The registry after a run of a new balancer. -/
def after (heartBeatRate : Int) (events : List (Timed float)) : LoadBalanceImpl float :=
  Transition.run step (initial heartBeatRate) events

/-- The events of that run with their answers. -/
def logged (heartBeatRate : Int) (events : List (Timed float)) :
    List (Timed float × Option Status) :=
  Transition.log step answer (initial heartBeatRate) events

@[simp] theorem after_nil (heartBeatRate : Int) :
    after heartBeatRate ([] : List (Timed float)) = initial heartBeatRate := rfl

theorem after_concat (heartBeatRate : Int) (events : List (Timed float)) (timed : Timed float) :
    after heartBeatRate (events ++ [timed]) = (after heartBeatRate events).step timed := by
  simp [after]

theorem logged_concat (heartBeatRate : Int) (events : List (Timed float)) (timed : Timed float) :
    logged heartBeatRate (events ++ [timed]) =
      logged heartBeatRate events ++ [(timed, (after heartBeatRate events).answer timed)] := by
  simp [logged, after]

/-! ### Registration -/

@[simp] theorem receive_establishServer (balancer : LoadBalanceImpl float) (now : Int)
    (request : NewServer float) :
    balancer.receive now (.establishServer request) =
      ({ balancer with servers := balancer.servers ++ [newNode request now] }, .OK) := rfl

/-! ### Heartbeats -/

theorem refresh_eq_none_iff (request : HeartBeat) (now : Int) (servers : List (ServerNode float)) :
    refresh request now servers = none ↔
      ∀ server ∈ servers, server.address ≠ request.serverAddresss := by
  induction servers with
  | nil => simp [refresh]
  | cons server servers ih =>
      by_cases first : server.address = request.serverAddresss
      · simp [refresh, first]
      · simp [refresh, first, ih]

/-- Exactly one node is refreshed: the first with the address of the heartbeat. -/
theorem refresh_eq_some {request : HeartBeat} {now : Int} {servers next : List (ServerNode float)}
    (found : refresh request now servers = some next) :
    ∃ front server back, servers = front ++ server :: back ∧
      (∀ other ∈ front, other.address ≠ request.serverAddresss) ∧
      server.address = request.serverAddresss ∧
      next = front ++ server.beat request now :: back := by
  induction servers generalizing next with
  | nil => simp [refresh] at found
  | cons server servers ih =>
      by_cases first : server.address = request.serverAddresss
      · simp only [refresh, first, if_true, Option.some.injEq] at found
        exact ⟨[], server, servers, rfl, by simp, first, found.symm⟩
      · simp only [refresh, first, if_false, Option.map_eq_some_iff] at found
        obtain ⟨rest, later, rfl⟩ := found
        obtain ⟨front, refreshed, back, rfl, skipped, same, rfl⟩ := ih later
        exact ⟨server :: front, refreshed, back, rfl,
          List.forall_mem_cons.mpr ⟨first, skipped⟩, same, rfl⟩

/-- What a heartbeat can do. Either the address is unknown, the registry stays and the
call is refused, or the first node with the address is refreshed. -/
theorem receive_sendHeartbeat (balancer : LoadBalanceImpl float) (now : Int)
    (request : HeartBeat) :
    (¬ balancer.Registered request.serverAddresss ∧
      balancer.receive now (.sendHeartbeat request) = (balancer, .CANCELLED)) ∨
    ∃ front server back, balancer.servers = front ++ server :: back ∧
      (∀ other ∈ front, other.address ≠ request.serverAddresss) ∧
      server.address = request.serverAddresss ∧
      balancer.receive now (.sendHeartbeat request) =
        ({ balancer with servers := front ++ server.beat request now :: back }, .OK) := by
  cases result : refresh request now balancer.servers with
  | none =>
      refine .inl ⟨?_, by simp [receive, sendHeartbeat, result]⟩
      rintro ⟨server, member, same⟩
      exact (refresh_eq_none_iff request now balancer.servers).mp result server member same
  | some next =>
      obtain ⟨front, server, back, split, skipped, same, rfl⟩ := refresh_eq_some result
      exact .inr ⟨front, server, back, split, skipped, same,
        by simp [receive, sendHeartbeat, result]⟩

/-- Refreshing keeps address, operations and version of every node. -/
@[simp] theorem beat_address (server : ServerNode float) (request : HeartBeat) (now : Int) :
    (server.beat request now).address = server.address := rfl

@[simp] theorem beat_operations (server : ServerNode float) (request : HeartBeat) (now : Int) :
    (server.beat request now).operations = server.operations := rfl

@[simp] theorem beat_version (server : ServerNode float) (request : HeartBeat) (now : Int) :
    (server.beat request now).version = server.version := rfl

@[simp] theorem beat_lastBeat (server : ServerNode float) (request : HeartBeat) (now : Int) :
    (server.beat request now).lastBeat = now := rfl

/-! ### What a message does to the nodes -/

theorem registered_iff_mem (balancer : LoadBalanceImpl float) (a : String) :
    balancer.Registered a ↔ a ∈ balancer.servers.map ServerNode.address := by
  simp [Registered]

/-- Heartbeats change no address. -/
theorem receive_sendHeartbeat_addresses (balancer : LoadBalanceImpl float) (now : Int)
    (request : HeartBeat) :
    (balancer.receive now (.sendHeartbeat request)).1.servers.map ServerNode.address =
      balancer.servers.map ServerNode.address := by
  rcases balancer.receive_sendHeartbeat now request with
    ⟨_, refused⟩ | ⟨front, server, back, split, _, _, refreshed⟩
  · rw [refused]
  · rw [refreshed, split]
    simp

/-- Every node after a heartbeat was there before, or is the one which it refreshed. -/
theorem mem_of_receive_sendHeartbeat {balancer : LoadBalanceImpl float} {now : Int}
    {request : HeartBeat} {server : ServerNode float}
    (member : server ∈ (balancer.receive now (.sendHeartbeat request)).1.servers) :
    server ∈ balancer.servers ∨ ∃ old ∈ balancer.servers,
      old.address = request.serverAddresss ∧ server = old.beat request now := by
  rcases balancer.receive_sendHeartbeat now request with
    ⟨_, refused⟩ | ⟨front, refreshed, back, split, _, same, accepted⟩
  · rw [refused] at member
    exact .inl member
  · rw [accepted] at member
    simp only [split, List.mem_append, List.mem_cons] at member ⊢
    rcases member with earlier | rfl | later
    · exact .inl (.inl earlier)
    · exact .inr ⟨refreshed, .inr (.inl rfl), same, rfl⟩
    · exact .inl (.inr (.inr later))

/-- A message brings no registration but its own. -/
theorem registration_of_receive {balancer : LoadBalanceImpl float} {now : Int}
    {message : Message float} {server : ServerNode float}
    (member : server ∈ (balancer.receive now message).1.servers) :
    (∃ old ∈ balancer.servers, server.registration = old.registration) ∨
      message = .establishServer server.registration := by
  cases message with
  | establishServer request =>
      cases List.mem_append.mp member with
      | inl old => exact .inl ⟨server, old, rfl⟩
      | inr new =>
          obtain rfl := List.mem_singleton.mp new
          exact .inr rfl
  | sendHeartbeat request =>
      cases mem_of_receive_sendHeartbeat member with
      | inl old => exact .inl ⟨server, old, rfl⟩
      | inr refreshed =>
          obtain ⟨old, before, _, rfl⟩ := refreshed
          exact .inl ⟨old, before, rfl⟩

theorem receive_heartBeatRate (balancer : LoadBalanceImpl float) (now : Int)
    (message : Message float) :
    (balancer.receive now message).1.heartBeatRate = balancer.heartBeatRate := by
  cases message with
  | establishServer request => rfl
  | sendHeartbeat request =>
      rcases balancer.receive_sendHeartbeat now request with
        ⟨_, refused⟩ | ⟨_, _, _, _, _, _, refreshed⟩
      · rw [refused]
      · rw [refreshed]

/-- A message which is not answered `OK` leaves the registry as it is. -/
theorem receive_of_not_OK {balancer : LoadBalanceImpl float} {now : Int}
    {message : Message float} (refused : (balancer.receive now message).2 ≠ .OK) :
    (balancer.receive now message).1 = balancer := by
  cases message with
  | establishServer request => exact absurd rfl refused
  | sendHeartbeat request =>
      rcases balancer.receive_sendHeartbeat now request with
        ⟨_, same⟩ | ⟨_, _, _, _, _, _, accepted⟩
      · rw [same]
      · exact absurd (by rw [accepted]) refused

/-- Every message which is answered `OK` leaves a node that has just been contacted. -/
theorem contacted_of_receive_OK {balancer : LoadBalanceImpl float} {now : Int}
    {message : Message float} (accepted : (balancer.receive now message).2 = .OK) :
    ∃ server ∈ (balancer.receive now message).1.servers,
      server.address = message.address ∧ server.lastBeat = now := by
  cases message with
  | establishServer request => exact ⟨newNode request now, by simp, rfl, rfl⟩
  | sendHeartbeat request =>
      rcases balancer.receive_sendHeartbeat now request with
        ⟨_, refused⟩ | ⟨front, server, back, _, _, same, refreshed⟩
      · rw [refused] at accepted
        cases accepted
      · rw [refreshed]
        exact ⟨server.beat request now, by simp, same, rfl⟩

/-- A node after a message is one from before, or that of the message. -/
theorem mem_of_receive {balancer : LoadBalanceImpl float} {now : Int} {message : Message float}
    {server : ServerNode float} (member : server ∈ (balancer.receive now message).1.servers) :
    server.address = message.address ∧ server.lastBeat = now ∨ server ∈ balancer.servers := by
  cases message with
  | establishServer request =>
      rcases List.mem_append.mp member with old | new
      · exact .inr old
      · obtain rfl := List.mem_singleton.mp new
        exact .inl ⟨rfl, rfl⟩
  | sendHeartbeat request =>
      rcases mem_of_receive_sendHeartbeat member with old | ⟨old, _, same, rfl⟩
      · exact .inr old
      · exact .inl ⟨same, rfl⟩

/-- A message keeps the nodes of all other addresses. -/
theorem mem_receive_of_ne {balancer : LoadBalanceImpl float} {server : ServerNode float}
    (member : server ∈ balancer.servers) {message : Message float}
    (other : server.address ≠ message.address) (now : Int) :
    server ∈ (balancer.receive now message).1.servers := by
  cases message with
  | establishServer request => exact List.mem_append_left _ member
  | sendHeartbeat request =>
      rcases balancer.receive_sendHeartbeat now request with
        ⟨_, refused⟩ | ⟨front, refreshed, back, split, _, same, accepted⟩
      · rwa [refused]
      · rw [accepted]
        simp only [split, List.mem_append, List.mem_cons] at member ⊢
        rcases member with earlier | rfl | later
        · exact .inl earlier
        · exact absurd same other
        · exact .inr (.inr later)

/-- Messages never unregister an address. -/
theorem registered_receive {balancer : LoadBalanceImpl float} {a : String}
    (registered : balancer.Registered a) (now : Int) (message : Message float) :
    (balancer.receive now message).1.Registered a := by
  cases message with
  | establishServer request =>
      obtain ⟨server, member, same⟩ := registered
      exact ⟨server, List.mem_append_left _ member, same⟩
  | sendHeartbeat request =>
      rw [registered_iff_mem] at registered ⊢
      rwa [receive_sendHeartbeat_addresses]

/-! ### Sweeps and requests -/

theorem mem_removeInactiveServer (balancer : LoadBalanceImpl float) (now : Int)
    (server : ServerNode float) :
    server ∈ (balancer.removeInactiveServer now).servers ↔
      server ∈ balancer.servers ∧
        milliseconds (now - server.lastBeat) ≤ balancer.heartBeatRate := by
  simp [removeInactiveServer, inactive]

/-- No operation changes the configured rate. -/
@[simp] theorem step_heartBeatRate (balancer : LoadBalanceImpl float) (timed : Timed float) :
    (balancer.step timed).heartBeatRate = balancer.heartBeatRate := by
  obtain ⟨now, event⟩ := timed
  cases event with
  | message message => exact balancer.receive_heartBeatRate now message
  | removeInactiveServer => rfl
  | listServer request => rfl

@[simp] theorem after_heartBeatRate (heartBeatRate : Int) (events : List (Timed float)) :
    (after heartBeatRate events).heartBeatRate = heartBeatRate :=
  Transition.run_induction
    (P := fun _ (balancer : LoadBalanceImpl float) => balancer.heartBeatRate = heartBeatRate) rfl
    fun _ timed _ kept => by rw [step_heartBeatRate, kept]

end LoadBalanceImpl

end Cloud3D
