import Cloud3D.Cloud.Available

/-!
# After an outage

A provider which crashes forgets its services, while the balancer keeps its node. If it
stays away until a sweep has removed the node, and nothing that it has sent arrives later,
the crash is forgotten as well: whoever is answered from then on finds what the provider
has registered since. A provider which comes back earlier refreshes its old node.
-/

namespace Cloud3D

namespace Session

variable {ι float : Type}

/-- Nothing of this address is under way, and none of its nodes has been heard of since. -/
structure Silent (a : String) (bound : Int) (system : System ι float) : Prop where
  pending : ∀ message, Pending system message → message.address ≠ a
  contacts : ∀ server ∈ system.balancer.servers, server.address = a → server.lastBeat ≤ bound

variable [DecidableEq ι] {establisher : ι → BalancerEstablisher float} {system : System ι float}
variable {a : String} {bound : Int}

theorem Silent.setControl (silent : Silent a bound system) (i : ι) (place : Place) :
    Silent a bound (system.setControl i (.calling place)) where
  pending message sent := silent.pending message (pending_of_setControl sent)
  contacts := silent.contacts

/-- It stays silent as long as the provider does. -/
theorem Silent.step (distinct : Function.Injective fun i => (establisher i).srvAddress) {i : ι}
    (silent : Silent (establisher i).srvAddress bound system) {label : Label ι}
    (quiet : label.about i = false) :
    Silent (establisher i).srvAddress bound (Session.step establisher system label) := by
  constructor
  · intro message pending
    rcases pending_step pending with old | ⟨j, usage, names, place, rfl, rfl⟩
    · exact silent.pending message old
    · rw [Place.message_address]
      intro same
      obtain rfl : j = i := distinct same
      simp [Label.about] at quiet
  · intro server member own
    rcases balancer_step establisher system label with
      ⟨message, now, taken, result⟩ | ⟨_, fewer⟩
    · rw [result] at member
      cases LoadBalanceImpl.mem_of_receive member with
      | inl new =>
          exact absurd (new.1.symm.trans own) (silent.pending message (pending_of_processed taken))
      | inr old => exact silent.contacts server old own
    · exact silent.contacts server (fewer.subset member) own

omit [DecidableEq ι] in
/-- A sweep which comes too late for its nodes removes them. -/
theorem Silent.swept (silent : Silent a bound system) {now : Int}
    (late : system.balancer.heartBeatRate < milliseconds (now - bound)) :
    ¬ (system.balancer.removeInactiveServer now).Registered a := by
  rintro ⟨server, member, own⟩
  rw [LoadBalanceImpl.mem_removeInactiveServer] at member
  have contact := silent.contacts server member.1 own
  have longer : milliseconds (now - bound) ≤ milliseconds (now - server.lastBeat) :=
    Int.tdiv_le_tdiv (by decide) (by omega)
  omega

end Session

namespace Cloud

variable {ι κ float double : Type} [DecidableEq ι] [DecidableEq κ] [LinearOrder float]
variable {establisher : ι → BalancerEstablisher float} {spec : κ → ClientSpec float}

theorem sent_after (heartBeatRate : Int) (labels : List (Label ι κ float double)) :
    Session.Sent establisher (after establisher spec heartBeatRate labels).session := by
  refine Transition.run_preserves (P := fun cloud : Cloud ι κ float double =>
    Session.Sent establisher cloud.session) ?_ ?_
  · intro i place message waiting
    cases waiting
  · intro cloud label _ sent
    cases session_step establisher spec cloud label with
    | session inner moved =>
        rw [moved]
        exact sent.step _
    | crash j arrives moved =>
        rw [moved]
        intro i place message waiting
        by_cases own : i = j
        · subst own
          rw [Session.setControl_same] at waiting
          cases waiting
        · rw [Session.setControl_other _ own] at waiting
          exact sent.step _ i place message waiting
    | stays same => rwa [same]

/-- What is known of a provider, in the registry, under way and to one client, is what it
has registered since it came back. -/
structure Returned (establisher : ι → BalancerEstablisher float) (spec : κ → ClientSpec float)
    (i : ι) (c : κ) (cloud : Cloud ι κ float double) : Prop where
  advertised : Advertised establisher spec cloud
  carries : Session.Carries (fun request =>
    request.serverAddress = (establisher i).srvAddress →
      request.version = (establisher i).version ∧
        request.operation ⊆ (cloud.tables i).listOfServiceNames) cloud.session
  client : (cloud.clients c).Holds (establisher i).srvAddress →
    (spec c).minVersion ≤ (establisher i).version ∧
      (spec c).services ⊆ (cloud.tables i).listOfServiceNames

theorem Returned.run (distinct : Function.Injective fun i => (establisher i).srvAddress)
    {cloud : Cloud ι κ float double} {i : ι} {c : κ}
    (returned : Returned establisher spec i c cloud) {labels : List (Label ι κ float double)}
    (alive : ∀ label ∈ labels, label.crashes i = false) :
    Returned establisher spec i c (Transition.run (step establisher spec) cloud labels) := by
  refine Transition.run_preserves (P := Returned establisher spec i c) returned ?_
  rintro cloud label member ⟨advertised, carries, client⟩
  exact ⟨advertised.step label, offered_carries_step distinct carries (alive label member),
    offered_client_step advertised carries (alive label member) client⟩

/-- A provider offers one service until it crashes. -/
def smoothing : List (Label Bool Unit Int Int) :=
  [.register true (.modelsToModels ⟨⟨⟨"MeshSmooth", [], [], []⟩, []⟩, id⟩),
    .session (.call true 0 []), .ask (), .session (.process true 0), .session (.answer true),
    .session (.call true 30 [])]

end Cloud

end Cloud3D
