import Cloud3D.Balancer.Noninterference
import Cloud3D.Session.Recovery
import Cloud3D.Session.Unique

/-!
# Duplicates vanish

A lost call may give a provider a second node. Only the first node of an address is
refreshed, so once the calls of the provider are not lost any more, the others are as old
as they were then, and the first sweep which is late enough for them leaves one node. The
provider registers no further one, since it has a node whenever it has not been told the
contrary. Nothing is assumed of the calls of other providers.
-/

namespace Cloud3D

variable {float : Type}

namespace LoadBalanceImpl

/-- A message adds nothing behind the first node of an address, unless it registers an
address that has a node. -/
theorem view_receive_tail {balancer : LoadBalanceImpl float} {a : String} {message : Message float}
    (fresh : ∀ request, message = .establishServer request → request.serverAddress = a →
      ¬ balancer.Registered a) (now : Int) :
    ((balancer.receive now message).1.view a).servers.tail ⊆ (balancer.view a).servers.tail := by
  by_cases own : message.address = a
  · cases message with
    | establishServer request =>
        have absent : balancer.servers.filter (fun server => server.address = a) = [] := by
          apply List.filter_eq_nil_iff.mpr
          intro server member same
          exact fresh request rfl own ⟨server, member, by simpa using same⟩
        have same : request.serverAddress = a := own
        simp [view, absent, newNode, same]
    | sendHeartbeat request =>
        rcases balancer.receive_sendHeartbeat now request with
          ⟨_, refused⟩ | ⟨front, server, back, split, skipped, same, refreshed⟩
        · rw [refused]
          exact List.Subset.refl _
        · have first : front.filter (fun server => server.address = a) = [] := by
            apply List.filter_eq_nil_iff.mpr
            exact fun other member => by simpa [← own, Message.address] using skipped other member
          have address : server.address = a := same.trans own
          simp [view, refreshed, split, first, address]
  · rw [view_message_of_ne balancer now own]
    exact List.Subset.refl _

end LoadBalanceImpl

namespace Session

variable {ι : Type} [DecidableEq ι] {establisher : ι → BalancerEstablisher float}
variable {system : System ι float} {i : ι}

/-- None of the calls of the provider is given up. -/
def Label.losesNothingOf (i : ι) : Label ι → Bool
  | .lose j _ => j ≠ i
  | _ => true

/-- A provider between whose calls and the registry nothing stands: it only registers when
it has no node. All its nodes but the first have a property. -/
structure Settled (P : ServerNode float → Prop) (establisher : ι → BalancerEstablisher float)
    (i : ι) (system : System ι float) : Prop where
  late : ∀ message ∈ system.late, message.address ≠ (establisher i).srvAddress
  unregistered : (system.control i).unregistered = true →
    ¬ system.balancer.Registered (establisher i).srvAddress
  behind : ∀ server ∈ (system.balancer.view (establisher i).srvAddress).servers.tail, P server

variable {P : ServerNode float → Prop}

omit [DecidableEq ι] in
/-- A message of the provider is processed while the provider waits for it. -/
theorem Settled.waiting_of_processed (settled : Settled P establisher i system)
    (distinct : Function.Injective fun i => (establisher i).srvAddress)
    (sent : Sent establisher system)
    {label : Label ι} {message : Message float} {now : Int}
    (taken : processed system label = some (message, now))
    (own : message.address = (establisher i).srvAddress) :
    ∃ place, label = .process i now ∧ system.control i = .waiting place (.requested message) := by
  rcases origin_of_processed taken with ⟨j, place, processes, waiting⟩ | late
  · obtain rfl : j = i := distinct ((sent.address waiting).symm.trans own)
    exact ⟨place, processes, waiting⟩
  · exact absurd own (settled.late message late)

theorem Settled.step (settled : Settled P establisher i system)
    (distinct : Function.Injective fun i => (establisher i).srvAddress)
    (sent : Sent establisher system)
    {label : Label ι} (kept : label.losesNothingOf i = true) :
    Settled P establisher i (Session.step establisher system label) := by
  refine ⟨?_, ?_, ?_⟩
  · intro message member own
    rcases late_of_step member with old | ⟨j, place, rfl, waiting⟩
    · exact settled.late message old own
    · obtain rfl : j = i := distinct ((sent.address waiting).symm.trans own)
      simp [Label.losesNothingOf] at kept
  · intro vacant registered
    rcases registered_step registered with old | ⟨request, now, taken, own⟩
    · have occupied : (system.control i).unregistered = false := by
        by_contra free
        exact settled.unregistered (by simpa using free) old
      have notLost : ∀ arrives, label ≠ .lose i arrives := by
        rintro arrives rfl
        simp [Label.losesNothingOf] at kept
      rw [occupied_step occupied old sent notLost] at vacant
      cases vacant
    · obtain ⟨place, rfl, waiting⟩ := settled.waiting_of_processed distinct sent taken own
      simp only [Session.step, waiting, setControl_same,
        LoadBalanceImpl.receive_establishServer] at vacant
      cases place <;> cases vacant
  · rcases balancer_step establisher system label with
      ⟨message, now, taken, result⟩ | ⟨_, fewer⟩
    · intro server member
      rw [result] at member
      refine settled.behind server (LoadBalanceImpl.view_receive_tail ?_ now member)
      rintro request rfl own
      obtain ⟨place, rfl, waiting⟩ := settled.waiting_of_processed distinct sent taken own
      apply settled.unregistered
      obtain ⟨usage, names, registers⟩ := sent i place _ waiting
      rw [waiting]
      cases place with
      | run => rfl
      | beat => cases registers
      | retry => rfl
    · intro server member
      exact settled.behind server (((fewer.filter _).tail).subset member)

/-- A sweep which comes too late for the nodes behind the first one removes them. -/
theorem Settled.sweep {bound now : Int}
    (settled : Settled (fun server => server.lastBeat ≤ bound) establisher i system)
    (late : system.balancer.heartBeatRate < milliseconds (now - bound)) :
    Settled (fun _ => False) establisher i (Session.step establisher system (.sweep now)) := by
  refine ⟨settled.late, ?_, ?_⟩
  · rintro vacant ⟨server, member, address⟩
    have before := (LoadBalanceImpl.mem_removeInactiveServer _ now server).mp member
    exact settled.unregistered vacant ⟨server, before.1, address⟩
  · intro server member
    rw [Session.step, LoadBalanceImpl.view_removeInactiveServer] at member
    have recent := (LoadBalanceImpl.mem_removeInactiveServer _ now server).mp
      (List.mem_of_mem_tail member)
    have old := settled.behind server ((List.filter_sublist.tail).subset member)
    have longer : milliseconds (now - bound) ≤ milliseconds (now - server.lastBeat) :=
      Int.tdiv_le_tdiv (by decide) (by omega)
    have inTime : milliseconds (now - server.lastBeat) ≤ system.balancer.heartBeatRate := recent.2
    omega

end Session

end Cloud3D
