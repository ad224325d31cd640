import Cloud3D.Session.Completed
import Cloud3D.Transition.View

/-!
# How a provider comes back

A provider never learns that the balancer has forgotten it, except by the answer to its
next call. Two calls that are served are enough, in every state of the system: if the
first one is a heartbeat which is refused, then the second one is a registration. The
node stays as long as no sweep comes later than the rate allows.

Other providers may do anything meanwhile, and late messages may arrive. All of this is
stated for any system that embeds the session.
-/

namespace Cloud3D

namespace Session

variable {float ι : Type} [DecidableEq ι] (establisher : ι → BalancerEstablisher float)

/-- The label is a step of this provider, or of the network for its call. -/
def Label.about (i : ι) : Label ι → Bool
  | .call j _ _ => j = i
  | .process j _ => j = i
  | .answer j => j = i
  | .lose j _ => j = i
  | .processLate _ _ => false
  | .sweep _ => false
  | .restart => false

theorem control_step_of_not_about {i : ι} (system : System ι float) (label : Label ι)
    (other : label.about i = false) :
    (step establisher system label).control i = system.control i := by
  cases moves_step establisher system label i with
  | stays same => exact same
  | calls usage names place before moved => simp [Label.about] at other
  | processes now place message before moved registry => simp [Label.about] at other
  | returns place status before moved => simp [Label.about] at other
  | fails arrives place rpc before moved => simp [Label.about] at other

/-! ### A call that is served -/

theorem control_call {system : System ι float} {i : ι} {place : Place}
    (calling : system.control i = .calling place) (usage : Int32) (names : List String) :
    (step establisher system (.call i usage names)).control i =
      .waiting place (.requested (place.message { establisher i with usage } names)) := by
  simp [step, calling, setControl_same]

theorem control_process {system : System ι float} {i : ι} {place : Place}
    {message : Message float} (waiting : system.control i = .waiting place (.requested message))
    (now : Int) :
    (step establisher system (.process i now)).control i =
      .waiting place (.answered (system.balancer.receive now message).2) := by
  simp [step, waiting, setControl_same]

theorem balancer_process {system : System ι float} {i : ι} {place : Place}
    {message : Message float} (waiting : system.control i = .waiting place (.requested message))
    (now : Int) :
    (step establisher system (.process i now)).balancer =
      (system.balancer.receive now message).1 := by
  simp [step, waiting, System.setControl]

theorem control_answer {system : System ι float} {i : ι} {place : Place} {status : Status}
    (waiting : system.control i = .waiting place (.answered status)) :
    (step establisher system (.answer i)).control i = resume place status := by
  simp [step, waiting, setControl_same]

/-- The steps of a provider whose next call is served. -/
def servedCall (i : ι) (usage : Int32) (names : List String) (now : Int) : List (Label ι) :=
  [.call i usage names, .process i now, .answer i]

omit [DecidableEq ι] in
/-- Only heartbeats are refused, and the call after one is a registration. -/
theorem resume_of_refused {balancer : LoadBalanceImpl float} {now : Int} {place : Place}
    {establisher : BalancerEstablisher float} {names : List String}
    (refused : ¬ (balancer.receive now (place.message establisher names)).2 = .OK) :
    (resume place (balancer.receive now (place.message establisher names)).2 : Control float) =
      .calling .retry := by
  cases place with
  | run => exact absurd rfl refused
  | beat =>
      cases answered : (balancer.receive now (Place.beat.message establisher names)).2 with
      | OK => exact absurd answered refused
      | CANCELLED => rfl
      | UNAVAILABLE => rfl
  | retry => exact absurd rfl refused

/-! ### A node that stays -/

/-- The label keeps every node which has been heard of at this time or later: no message is
processed with an earlier clock reading, no sweep comes more than a rate after it, and the
balancer is not restarted. -/
def Label.Keeps (heartBeatRate now : Int) : Label ι → Prop
  | .call _ _ _ => True
  | .process _ clock => now ≤ clock
  | .processLate _ clock => now ≤ clock
  | .answer _ => True
  | .lose _ _ => True
  | .sweep clock => milliseconds (clock - now) ≤ heartBeatRate
  | .restart => False

/-- The balancer holds a node of this address which has been heard of since. -/
def HeardSince (a : String) (now : Int) (balancer : LoadBalanceImpl float) : Prop :=
  ∃ server ∈ balancer.servers, server.address = a ∧ now ≤ server.lastBeat

theorem HeardSince.receive {a : String} {now clock : Int} {balancer : LoadBalanceImpl float}
    (heard : HeardSince a now balancer) (later : now ≤ clock) (message : Message float) :
    HeardSince a now (balancer.receive clock message).1 := by
  obtain ⟨server, member, address, since⟩ := heard
  by_cases own : server.address = message.address
  · by_cases accepted : (balancer.receive clock message).2 = .OK
    · obtain ⟨fresh, present, same, contact⟩ := LoadBalanceImpl.contacted_of_receive_OK accepted
      exact ⟨fresh, present, same.trans (own.symm.trans address), contact.symm ▸ later⟩
    · rw [LoadBalanceImpl.receive_of_not_OK accepted]
      exact ⟨server, member, address, since⟩
  · exact ⟨server, LoadBalanceImpl.mem_receive_of_ne member own clock, address, since⟩

theorem HeardSince.sweep {a : String} {now clock : Int} {balancer : LoadBalanceImpl float}
    (heard : HeardSince a now balancer)
    (soon : milliseconds (clock - now) ≤ balancer.heartBeatRate) :
    HeardSince a now (balancer.removeInactiveServer clock) := by
  obtain ⟨server, member, address, since⟩ := heard
  refine ⟨server, ?_, address, since⟩
  rw [LoadBalanceImpl.mem_removeInactiveServer]
  have shorter : milliseconds (clock - server.lastBeat) ≤ milliseconds (clock - now) :=
    Int.tdiv_le_tdiv (by decide) (by omega)
  exact ⟨member, shorter.trans soon⟩

theorem heartBeatRate_step (system : System ι float) (label : Label ι) :
    (step establisher system label).balancer.heartBeatRate = system.balancer.heartBeatRate := by
  cases label with
  | call i usage names =>
      simp only [step]
      split <;> rfl
  | process i now =>
      simp only [step]
      split
      · exact LoadBalanceImpl.receive_heartBeatRate _ _ _
      · rfl
  | processLate k now =>
      simp only [step]
      split
      · exact LoadBalanceImpl.receive_heartBeatRate _ _ _
      · rfl
  | answer i =>
      simp only [step]
      split <;> rfl
  | lose i arrives =>
      simp only [step]
      split <;> rfl
  | sweep now => rfl
  | restart => rfl

theorem HeardSince.step {a : String} {now : Int} {system : System ι float}
    (heard : HeardSince a now system.balancer) {label : Label ι}
    (keeps : label.Keeps system.balancer.heartBeatRate now) :
    HeardSince a now (Session.step establisher system label).balancer := by
  cases label with
  | call i usage names =>
      simp only [Session.step]
      split <;> exact heard
  | process i clock =>
      simp only [Session.step]
      split
      · exact heard.receive keeps _
      · exact heard
  | processLate k clock =>
      simp only [Session.step]
      split
      · exact heard.receive keeps _
      · exact heard
  | answer i =>
      simp only [Session.step]
      split <;> exact heard
  | lose i arrives =>
      simp only [Session.step]
      split <;> exact heard
  | sweep clock => exact heard.sweep keeps
  | restart => exact absurd keeps id

/-! ### Systems of which the session is a part -/

section Embeds

variable {σ ε : Type}

/-- The session is a part of a system with more state and more events: `label` makes the
steps of a call events of that system, and any event moves the balancer by at most one step
of the session, which keeps the nodes that the event keeps. -/
structure Embeds (advance : σ → ε → σ) (session : σ → System ι float) (label : Label ι → ε)
    (about : ι → ε → Bool) (keeps : Int → Int → ε → Prop) : Prop where
  call : ∀ s i usage names, ∃ announced, session (advance s (label (.call i usage names))) =
    step establisher (session s) (.call i usage announced)
  process : ∀ s i now, session (advance s (label (.process i now))) =
    step establisher (session s) (.process i now)
  answer : ∀ s i, session (advance s (label (.answer i))) =
    step establisher (session s) (.answer i)
  skips : ∀ i s e, about i e = false → (session (advance s e)).control i = (session s).control i
  follows : ∀ s e, (session (advance s e)).balancer = (session s).balancer ∨
    ∃ inner, (session (advance s e)).balancer =
        (step establisher (session s) inner).balancer ∧
      ∀ heartBeatRate now, keeps heartBeatRate now e → inner.Keeps heartBeatRate now

variable {establisher} {advance : σ → ε → σ} {session : σ → System ι float}
variable {label : Label ι → ε} {about : ι → ε → Bool} {keeps : Int → Int → ε → Prop}
variable {s : σ} {i : ι} {place : Place}

theorem Embeds.heartBeatRate_run (embeds : Embeds establisher advance session label about keeps)
    (s : σ) (es : List ε) :
    (session (Transition.run advance s es)).balancer.heartBeatRate =
      (session s).balancer.heartBeatRate := by
  apply Transition.run_unchanged (fun s => (session s).balancer.heartBeatRate)
  intro t e _
  rcases embeds.follows t e with same | ⟨inner, moved, _⟩
  · rw [same]
  · rw [moved]
    exact heartBeatRate_step establisher (session t) inner

theorem Embeds.heardSince_run (embeds : Embeds establisher advance session label about keeps)
    {a : String} {now : Int} (heard : HeardSince a now (session s).balancer) {es : List ε}
    (keep : ∀ e ∈ es, keeps (session s).balancer.heartBeatRate now e) :
    HeardSince a now (session (Transition.run advance s es)).balancer := by
  refine (Transition.run_preserves (P := fun t => HeardSince a now (session t).balancer ∧
    (session t).balancer.heartBeatRate = (session s).balancer.heartBeatRate) ⟨heard, rfl⟩ ?_).1
  rintro t e member ⟨heard, rate⟩
  refine ⟨?_, (embeds.heartBeatRate_run t [e]).trans rate⟩
  rcases embeds.follows t e with same | ⟨inner, moved, kept⟩
  · rwa [same]
  · rw [moved]
    exact heard.step establisher (rate ▸ kept _ now (keep e member))

/-- What a served call does, whatever happens in between: the balancer processes the message
of its place, and the provider goes on by the status. -/
theorem Embeds.run_served (embeds : Embeds establisher advance session label about keeps)
    (calling : (session s).control i = .calling place) {during : List ε} {usage : Int32}
    {names : List String} {now : Int}
    (served : during.filter (about i) = (servedCall i usage names now).map label) :
    ∃ earlier later announced, during = earlier ++ label (.process i now) :: later ∧
      (session (Transition.run advance s earlier)).control i =
        .waiting place (.requested (place.message { establisher i with usage } announced)) ∧
      (session (Transition.run advance s during)).control i =
        resume place ((session (Transition.run advance s earlier)).balancer.receive now
          (place.message { establisher i with usage } announced)).2 := by
  -- The provider only moves by its own three steps.
  have skips := embeds.skips i
  obtain ⟨first, rest, rfl, before, served⟩ := Transition.exists_of_filter_eq_cons advance
    (fun s => (session s).control i) skips s served
  obtain ⟨announced, asked⟩ := embeds.call (Transition.run advance s first) i usage names
  have called := control_call establisher (before.trans calling) usage announced
  rw [← asked] at called
  obtain ⟨second, rest, rfl, before, served⟩ := Transition.exists_of_filter_eq_cons advance
    (fun s => (session s).control i) skips _ served
  have sent := before.trans called
  have answered := control_process establisher sent now
  rw [← embeds.process] at answered
  obtain ⟨third, last, rfl, before, served⟩ := Transition.exists_of_filter_eq_cons advance
    (fun s => (session s).control i) skips _ served
  have returned := control_answer establisher (before.trans answered)
  rw [← embeds.answer] at returned
  have after := (Transition.view_run_of_forall_not advance (fun s => (session s).control i) skips
    _ (List.filter_eq_nil_iff.mp served)).trans returned
  refine ⟨first ++ label (.call i usage names) :: second, third ++ label (.answer i) :: last,
    announced, by simp, ?_, ?_⟩
  · rw [Transition.run_append, Transition.run_cons]
    exact sent
  · simp only [Transition.run_append, Transition.run_cons]
    exact after

/-- Two served calls are enough for one to be accepted: if the first one is a heartbeat which
is refused, then the second one is a registration. -/
theorem Embeds.accepted_of_served
    (embeds : Embeds establisher advance session label about keeps)
    (calling : (session s).control i = .calling place) {during : List ε} {usage usage' : Int32}
    {names names' : List String} {now now' : Int}
    (served : during.filter (about i) =
      (servedCall i usage names now ++ servedCall i usage' names' now').map label) :
    ∃ earlier contact later place message,
      during = earlier ++ label (.process i contact) :: later ∧
      (session (Transition.run advance s earlier)).control i =
        .waiting place (.requested message) ∧
      message.address = (establisher i).srvAddress ∧
      ((session (Transition.run advance s earlier)).balancer.receive contact message).2 = .OK := by
  rw [List.map_append] at served
  obtain ⟨first, second, rfl, servedFirst, servedSecond⟩ := List.filter_eq_append_iff.mp served
  obtain ⟨earlier, later, announced, split, waiting, returned⟩ :=
    embeds.run_served calling servedFirst
  by_cases accepted : ((session (Transition.run advance s earlier)).balancer.receive now
      (place.message { establisher i with usage } announced)).2 = .OK
  · exact ⟨earlier, now, later ++ second, place, _, by simp [split], waiting,
      Place.message_address _ announced place, accepted⟩
  · rw [resume_of_refused accepted] at returned
    obtain ⟨earlier', later', announced', rfl, waiting', _⟩ :=
      embeds.run_served returned servedSecond
    rw [← Transition.run_append] at waiting'
    exact ⟨first ++ earlier', now', later', .retry, _, by simp, waiting',
      Place.message_address { establisher i with usage := usage' } announced' .retry, rfl⟩

/-- A message that is accepted leaves a node of the time of the step. -/
theorem Embeds.contacted (embeds : Embeds establisher advance session label about keeps)
    {earlier : List ε} {message : Message float} {now : Int}
    (waiting : (session (Transition.run advance s earlier)).control i =
      .waiting place (.requested message))
    (accepted : ((session (Transition.run advance s earlier)).balancer.receive now
      message).2 = .OK) :
    ∃ server ∈ (session (Transition.run advance s
        (earlier ++ [label (.process i now)]))).balancer.servers,
      server.address = message.address ∧ server.lastBeat = now := by
  rw [Transition.run_append, Transition.run_cons, Transition.run_nil, embeds.process,
    balancer_process establisher waiting now]
  exact LoadBalanceImpl.contacted_of_receive_OK accepted

end Embeds

/-- The session is a part of itself. -/
theorem embeds_step :
    Embeds establisher (step establisher) id id Label.about Label.Keeps where
  call _ _ _ names := ⟨names, rfl⟩
  process _ _ _ := rfl
  answer _ _ := rfl
  skips _ := control_step_of_not_about establisher
  follows _ label := .inr ⟨label, rfl, fun _ _ => id⟩

/-! ### Two calls are enough -/

/-- The provider has a node from the step which processed its message at this time on, as
long as the following steps keep it. -/
structure Recovered (establisher : ι → BalancerEstablisher float) (system : System ι float)
    (i : ι) (earlier : List (Label ι)) (now : Int) (later : List (Label ι)) : Prop where
  contacted : ∃ server ∈ (Transition.run (step establisher) system
      (earlier ++ [.process i now])).balancer.servers,
    server.address = (establisher i).srvAddress ∧ server.lastBeat = now
  kept : ∀ more, (∀ label ∈ later ++ more, label.Keeps system.balancer.heartBeatRate now) →
    (Transition.run (step establisher) system
      (earlier ++ .process i now :: later ++ more)).balancer.Registered (establisher i).srvAddress

/-- Whatever the balancer knows of it, whatever the network holds and whatever the others
do: a provider which is about to call has a node again during its next two calls, if they
are served, and it stays until a sweep comes too late. -/
theorem two_served_calls_recover {system : System ι float} {i : ι} {place : Place}
    (calling : system.control i = .calling place) {during : List (Label ι)}
    {usage usage' : Int32} {names names' : List String} {now now' : Int}
    (served : during.filter (Label.about i) =
      servedCall i usage names now ++ servedCall i usage' names' now') :
    ∃ earlier contact later, during = earlier ++ .process i contact :: later ∧
      Recovered establisher system i earlier contact later := by
  have embeds := embeds_step establisher
  obtain ⟨earlier, contact, later, _, message, split, waiting, own, accepted⟩ :=
    embeds.accepted_of_served calling (served.trans (List.map_id _).symm)
  obtain ⟨server, member, address, since⟩ := embeds.contacted waiting accepted
  refine ⟨earlier, contact, later, split, ⟨server, member, address.trans own, since⟩, ?_⟩
  intro more keep
  have heard : HeardSince (establisher i).srvAddress contact (Transition.run (step establisher)
      system (earlier ++ [.process i contact])).balancer :=
    ⟨server, member, address.trans own, since.ge⟩
  have rate : (Transition.run (step establisher) system
      (earlier ++ [.process i contact])).balancer.heartBeatRate = system.balancer.heartBeatRate :=
    embeds.heartBeatRate_run system _
  rw [← rate] at keep
  obtain ⟨server, member, address, _⟩ := embeds.heardSince_run heard keep
  have same : earlier ++ .process i contact :: later ++ more =
      (earlier ++ [.process i contact]) ++ (later ++ more) := by
    simp
  rw [same, Transition.run_append]
  exact ⟨server, member, address⟩

/-- The balancer has been restarted and the other provider registers in between. -/
theorem two_served_calls_recover_restarted :
    let establisher : Bool → BalancerEstablisher Int := fun i =>
      if i then ⟨"provider:1", 1, 0⟩ else ⟨"provider:2", 1, 0⟩
    let during : List (Label Bool) := [.call true 5 ["MeshSmooth"], .restart, .call false 0 [],
      .process true 1000, .process false 1500, .answer true, .call true 6 ["MeshSmooth"],
      .sweep 1600, .process true 2000, .answer true, .answer false]
    ∃ earlier contact later, during = earlier ++ .process true contact :: later ∧
      Recovered establisher (Transition.run (step establisher) (start 1000)
        [.call true 0 ["MeshSmooth"], .process true 0, .answer true]) true earlier contact
          later := by
  intro establisher during
  exact two_served_calls_recover establisher (show (Transition.run (step establisher) (start 1000)
    [.call true 0 ["MeshSmooth"], .process true 0, .answer true]).control true =
      .calling .beat by decide) (show during.filter (Label.about true) =
    servedCall true 5 ["MeshSmooth"] 1000 ++ servedCall true 6 ["MeshSmooth"] 2000 by decide)

end Session

end Cloud3D
