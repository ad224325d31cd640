import Cloud3D.Session.Basic

/-!
# Registrations in the registry and under way

Every node of the registry was a registration once, and every registration was sent by
a call. What is known of all registrations when they are sent is therefore known of all
nodes, and of the registrations which may still arrive, however the network behaves.
-/

namespace Cloud3D

variable {float : Type}

namespace Session

variable {ι : Type}

/-- A message which the balancer may still process. -/
def Pending (system : System ι float) (message : Message float) : Prop :=
  (∃ i place, system.control i = .waiting place (.requested message)) ∨ message ∈ system.late

theorem pending_of_processed {system : System ι float} {label : Label ι}
    {message : Message float} {now : Int}
    (taken : processed system label = some (message, now)) : Pending system message := by
  cases origin_of_processed taken with
  | inl waited =>
      obtain ⟨i, place, _, waiting⟩ := waited
      exact .inl ⟨i, place, waiting⟩
  | inr late => exact .inr late

variable [DecidableEq ι]

/-- What is under way after a step was under way before, or has just been sent. -/
theorem pending_step {establisher : ι → BalancerEstablisher float} {system : System ι float}
    {label : Label ι} {message : Message float}
    (pending : Pending (step establisher system label) message) :
    Pending system message ∨ ∃ i usage names, ∃ place : Place, label = .call i usage names ∧
      message = place.message { establisher i with usage } names := by
  cases pending with
  | inl waiting =>
      obtain ⟨i, place, waits⟩ := waiting
      rcases (moves_step establisher system label i).of_waiting waits with
        same | ⟨usage, names, called, _, sent⟩ | ⟨_, _, _, _, answered, _⟩
      · exact .inl (.inl ⟨i, place, same⟩)
      · exact .inr ⟨i, usage, names, place, called, Rpc.requested.inj sent⟩
      · cases answered
  | inr late =>
      left
      cases late_of_step late with
      | inl old => exact .inr old
      | inr given =>
          obtain ⟨i, place, _, waiting⟩ := given
          exact .inl ⟨i, place, waiting⟩

/-- A provider that is about to call waits for nothing. -/
theorem pending_of_setControl {system : System ι float} {i : ι} {place : Place}
    {message : Message float}
    (pending : Pending (system.setControl i (.calling place)) message) :
    Pending system message := by
  rcases pending with ⟨j, origin, waiting⟩ | late
  · by_cases own : j = i
    · subst own
      rw [setControl_same] at waiting
      cases waiting
    · rw [setControl_other _ own] at waiting
      exact .inl ⟨j, origin, waiting⟩
  · exact .inr late

/-! ### Properties of all registrations -/

/-- All registrations in the registry and under way have a property. -/
structure Carries (P : NewServer float → Prop) (system : System ι float) : Prop where
  nodes : ∀ server ∈ system.balancer.servers, P server.registration
  pending : ∀ request, Pending system (.establishServer request) → P request

omit [DecidableEq ι] in
theorem Carries.mono {P Q : NewServer float → Prop} {system : System ι float}
    (carries : Carries P system) (weaker : ∀ request, P request → Q request) :
    Carries Q system where
  nodes server member := weaker _ (carries.nodes server member)
  pending request sent := weaker _ (carries.pending request sent)

omit [DecidableEq ι] in
theorem carries_start (P : NewServer float → Prop) (heartBeatRate : Int) :
    Carries P (start heartBeatRate : System ι float) := by
  constructor
  · exact fun server member => absurd member List.not_mem_nil
  · rintro request (⟨i, place, waiting⟩ | late)
    · cases waiting
    · cases late

/-- A provider that makes no call has nothing under way. -/
theorem Carries.setControl {P : NewServer float → Prop} {system : System ι float}
    (carries : Carries P system) (i : ι) (place : Place) :
    Carries P (system.setControl i (.calling place)) where
  nodes := carries.nodes
  pending request sent := carries.pending request (pending_of_setControl sent)

/-- Only a call brings a registration which was not there before. -/
theorem Carries.step {P : NewServer float → Prop} {establisher : ι → BalancerEstablisher float}
    {system : System ι float} (carries : Carries P system) {label : Label ι}
    (announces : ∀ i usage names, label = .call i usage names →
      P ((establisher i).newServer names)) :
    Carries P (Session.step establisher system label) := by
  constructor
  · intro server member
    rcases balancer_step establisher system label with
      ⟨message, now, taken, result⟩ | ⟨_, fewer⟩
    · rw [result] at member
      rcases LoadBalanceImpl.registration_of_receive member with ⟨old, before, same⟩ | new
      · rw [same]
        exact carries.nodes old before
      · exact carries.pending _ (new ▸ pending_of_processed taken)
    · exact carries.nodes server (fewer.subset member)
  · intro request pending
    rcases pending_step pending with old | ⟨i, usage, names, place, called, sent⟩
    · exact carries.pending request old
    · cases place with
      | run => exact Message.establishServer.inj sent ▸ announces i usage names called
      | beat => cases sent
      | retry => exact Message.establishServer.inj sent ▸ announces i usage names called

end Session

end Cloud3D
