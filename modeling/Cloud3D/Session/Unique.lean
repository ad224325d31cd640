import Cloud3D.Session.Basic
import Mathlib.Data.List.Nodup

/-!
# One node for each provider

A registration appends a node without looking for one of the same address, and a
provider registers again whenever a call of `sendBeat` fails. `atMostOne_iff` says for
which runs the registry never holds two nodes of one address. Over a network which
loses nothing all runs are of this kind (`atMostOne_of_reliable`): a provider then
registers only as long as it has no node.
-/

namespace Cloud3D

variable {float : Type}

/-- `servers_` holds at most one node with any given address. -/
def LoadBalanceImpl.AtMostOne (balancer : LoadBalanceImpl float) : Prop :=
  ∀ a, (balancer.servers.filter fun server => server.address = a).length ≤ 1

namespace LoadBalanceImpl

theorem atMostOne_iff_nodup (balancer : LoadBalanceImpl float) :
    balancer.AtMostOne ↔ (balancer.servers.map ServerNode.address).Nodup := by
  rw [List.nodup_iff_count_le_one]
  refine forall_congr' fun a => ?_
  rw [List.count, List.countP_map, List.countP_eq_length_filter]
  rfl

end LoadBalanceImpl

namespace Session

variable {ι : Type} [DecidableEq ι]

/-- A registration which is processed in this step finds no node of its address. -/
def Fresh (system : System ι float) (label : Label ι) : Prop :=
  ∀ request now, processed system label = some (.establishServer request, now) →
    ¬ system.balancer.Registered request.serverAddress

theorem atMostOne_step_iff (establisher : ι → BalancerEstablisher float)
    {system : System ι float} (unique : system.balancer.AtMostOne) (label : Label ι) :
    (step establisher system label).balancer.AtMostOne ↔ Fresh system label := by
  rw [LoadBalanceImpl.atMostOne_iff_nodup] at unique ⊢
  rcases balancer_step establisher system label with
    ⟨message, now, taken, result⟩ | ⟨idle, fewer⟩
  · rw [result]
    cases message with
    | establishServer request =>
        rw [LoadBalanceImpl.receive_establishServer, List.map_append, List.nodup_append']
        simp only [unique, true_and, List.map_cons, List.map_nil, List.nodup_singleton,
          List.disjoint_singleton, Fresh, taken, Option.some.injEq, Prod.mk.injEq,
          Message.establishServer.injEq, LoadBalanceImpl.registered_iff_mem]
        constructor
        · rintro absent _ _ ⟨rfl, _⟩
          exact absent
        · intro absent
          exact absent request now ⟨rfl, rfl⟩
    | sendHeartbeat request =>
        rw [LoadBalanceImpl.receive_sendHeartbeat_addresses]
        simp [unique, Fresh, taken]
  · apply iff_of_true (unique.sublist (fewer.map ServerNode.address))
    intro request now taken
    rw [idle] at taken
    cases taken

/-- In a run there is never a second node for an address if and only if every
registration which is processed finds no node of its address. -/
theorem atMostOne_iff (establisher : ι → BalancerEstablisher float) (heartBeatRate : Int)
    (labels : List (Label ι)) :
    Transition.Always (step establisher) (start heartBeatRate) labels
        (fun _ system => system.balancer.AtMostOne) ↔
      ∀ done label, done ++ [label] <+: labels →
        Fresh (after establisher heartBeatRate done) label := by
  apply Transition.always_iff_step (C := fun _ => Fresh)
  · intro a
    exact Nat.zero_le 1
  · intro done label _ always
    exact atMostOne_step_iff establisher (always done (List.prefix_refl done)) label

/-- The reply to a heartbeat is lost, and the provider registers a second time. -/
theorem atMostOne_fails :
    ¬ Transition.Always (step fun _ : Unit => BalancerEstablisher.mk "provider:1" (1 : Int) 0)
      (start 1000)
      [.call () 0 ["MeshSmooth"], .process () 0, .answer (), .call () 5 ["MeshSmooth"],
        .process () 1000, .lose () false, .call () 5 ["MeshSmooth"], .process () 1001]
      (fun _ system => system.balancer.AtMostOne) := by
  intro always
  have unique := always _ (List.prefix_refl _) "provider:1"
  revert unique
  decide

/-! ### Networks that lose nothing -/

/-- Between these points of its program a provider has no node. -/
def Control.unregistered : Control float → Bool
  | .calling .run => true
  | .calling .beat => false
  | .calling .retry => true
  | .waiting .run (.requested _) => true
  | .waiting .beat (.requested _) => false
  | .waiting .retry (.requested _) => true
  | .waiting .run (.answered _) => false
  | .waiting .beat (.answered status) => !status.ok
  | .waiting .retry (.answered status) => !status.ok

/-- No call is given up. -/
def Label.reliable : Label ι → Bool
  | .lose _ _ => false
  | _ => true

theorem late_step {establisher : ι → BalancerEstablisher float} {system : System ι float}
    (none : system.late = []) {label : Label ι} (reliable : label.reliable = true) :
    (step establisher system label).late = [] := by
  apply List.eq_nil_iff_forall_not_mem.mpr
  intro message member
  rcases late_of_step member with old | ⟨j, place, rfl, _⟩
  · rw [none] at old
    cases old
  · cases reliable

/-- An address gets into the registry by a registration only. -/
theorem registered_step {establisher : ι → BalancerEstablisher float} {system : System ι float}
    {label : Label ι} {a : String}
    (registered : (step establisher system label).balancer.Registered a) :
    system.balancer.Registered a ∨ ∃ request now,
      processed system label = some (.establishServer request, now) ∧
        request.serverAddress = a := by
  rw [LoadBalanceImpl.registered_iff_mem] at registered ⊢
  rcases balancer_step establisher system label with
    ⟨message, now, taken, result⟩ | ⟨_, fewer⟩
  · rw [result] at registered
    cases message with
    | establishServer request =>
        rw [LoadBalanceImpl.receive_establishServer, List.map_append, List.mem_append] at registered
        refine registered.imp_right fun new => ⟨request, now, taken, ?_⟩
        exact (List.mem_singleton.mp new).symm
    | sendHeartbeat request =>
        rw [LoadBalanceImpl.receive_sendHeartbeat_addresses] at registered
        exact .inl registered
  · exact .inl ((fewer.map ServerNode.address).subset registered)

/-- A provider which may be registering has no node. -/
structure Reliable (establisher : ι → BalancerEstablisher float) (system : System ι float) :
    Prop where
  late : system.late = []
  unregistered : ∀ i, (system.control i).unregistered = true →
    ¬ system.balancer.Registered (establisher i).srvAddress

variable {establisher : ι → BalancerEstablisher float} {system : System ι float}

omit [DecidableEq ι] in
/-- What is processed comes from a provider that waits for it. -/
theorem waiting_of_processed (none : system.late = []) {label : Label ι} {message : Message float}
    {now : Int} (taken : processed system label = some (message, now)) :
    ∃ i place, label = .process i now ∧ system.control i = .waiting place (.requested message) := by
  rcases origin_of_processed taken with waited | late
  · exact waited
  · rw [none] at late
    cases late

/-- A provider which has a node, and is not told otherwise, does not register: it only
comes there by a heartbeat that is refused, or by a call that is lost. -/
theorem occupied_step {j : ι} (occupied : (system.control j).unregistered = false)
    (registered : system.balancer.Registered (establisher j).srvAddress)
    (sent : Sent establisher system) {label : Label ι} (kept : ∀ arrives, label ≠ .lose j arrives) :
    ((Session.step establisher system label).control j).unregistered = false := by
  cases moves_step establisher system label j with
  | stays same =>
      rw [same]
      exact occupied
  | calls usage names place before moved =>
      rw [before] at occupied
      rw [moved]
      cases place <;> simp_all [Control.unregistered]
  | processes now place message before moved registry =>
      obtain ⟨usage, names, rfl⟩ := sent j place message before
      rw [before] at occupied
      rw [moved]
      cases place with
      | run => cases occupied
      | retry => cases occupied
      | beat =>
          rcases system.balancer.receive_sendHeartbeat now
              ({ establisher j with usage } : BalancerEstablisher float).heartBeat with
            ⟨absent, _⟩ | ⟨_, _, _, _, _, _, refreshed⟩
          · exact absurd registered absent
          · simp [Place.message, refreshed, Control.unregistered, Status.ok]
  | returns place status before moved =>
      rw [before] at occupied
      rw [moved]
      cases place <;> cases status <;>
        simp_all [Control.unregistered, resume, Status.ok]
  | fails arrives place rpc before moved => exact absurd rfl (kept arrives)

/-- Without losses, a provider that may be registering still has no node after a step:
it only comes there by being told so. -/
theorem Reliable.step (reliable : Reliable establisher system)
    (distinct : Function.Injective fun i => (establisher i).srvAddress)
    (sent : Sent establisher system)
    {label : Label ι} (nothingLost : label.reliable = true) :
    Reliable establisher (Session.step establisher system label) := by
  refine ⟨late_step reliable.late nothingLost, ?_⟩
  intro j vacant registered
  rcases registered_step registered with old | ⟨request, now, taken, own⟩
  · -- The node was there before, so the provider still has no reason to register.
    have occupied : (system.control j).unregistered = false := by
      by_contra free
      exact reliable.unregistered j (by simpa using free) old
    have kept : ∀ arrives, label ≠ .lose j arrives := by
      rintro arrives rfl
      cases nothingLost
    rw [occupied_step occupied old sent kept] at vacant
    cases vacant
  · -- The node is new, so the provider waits for the answer to its registration.
    obtain ⟨i, place, rfl, waiting⟩ := waiting_of_processed reliable.late taken
    have address : request.serverAddress = (establisher i).srvAddress := sent.address waiting
    obtain rfl : i = j := distinct (address.symm.trans own)
    simp only [Session.step, waiting, setControl_same,
      LoadBalanceImpl.receive_establishServer] at vacant
    cases place <;> cases vacant

/-- If providers have different addresses and the network loses nothing, there is at
most one node for each of them. -/
theorem atMostOne_of_reliable (heartBeatRate : Int)
    (distinct : Function.Injective fun i => (establisher i).srvAddress)
    {labels : List (Label ι)} (nothingLost : ∀ label ∈ labels, label.reliable = true) :
    Transition.Always (Session.step establisher) (start heartBeatRate) labels
      (fun _ system => system.balancer.AtMostOne) := by
  have always : Transition.Always (Session.step establisher) (start heartBeatRate) labels
      (fun _ system => Reliable establisher system) := by
    refine Transition.always_of_step ⟨rfl, ?_⟩ ?_
    · rintro i _ ⟨server, member, _⟩
      cases member
    · intro done label taken reliable
      have member : label ∈ labels := taken.subset (by simp)
      exact reliable.step distinct (sent_after establisher heartBeatRate done)
        (nothingLost label member)
  refine Transition.always_of_step (fun a => Nat.zero_le 1) ?_
  intro done label taken unique
  apply (atMostOne_step_iff establisher unique label).mpr
  intro request now processed
  have reliable := always done ((List.prefix_append done [label]).trans taken)
  obtain ⟨i, place, rfl, waiting⟩ := waiting_of_processed reliable.late processed
  have sent : Sent establisher (after establisher heartBeatRate done) :=
    sent_after establisher heartBeatRate done
  obtain ⟨usage, names, message⟩ := sent i place _ waiting
  have address : request.serverAddress = (establisher i).srvAddress := sent.address waiting
  rw [address]
  apply reliable.unregistered i
  rw [waiting]
  cases place with
  | run => rfl
  | retry => rfl
  | beat => cases message

/-- The node of a provider is swept away, and its heartbeat leads to a new one. -/
theorem atMostOne_of_reliable_swept :
    Transition.Always (Session.step fun i : Bool => BalancerEstablisher.mk (toString i) (1 : Int) 0)
      (start 1000) [.call true 0 ["Volume"], .process true 0, .answer true, .sweep 2000000000,
        .call true 5 [], .process true 2000000001, .answer true, .call true 5 ["Volume"],
        .process true 2000000002, .answer true]
      (fun _ system => system.balancer.AtMostOne) :=
  atMostOne_of_reliable 1000 (by unfold Function.Injective; decide) (by decide)

end Session

end Cloud3D
