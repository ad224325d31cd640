import Cloud3D.Cloud.Served
import Cloud3D.Session.Recovery

/-!
# Clients find what is offered

A provider that has filled its table before its first call is found again after any history
of losses, sweeps and restarts of the balancer, crashes of other providers included: once
two of its calls are served, a client which asks for its services gets an address, however
the others go on.
-/

namespace Cloud3D.Cloud

variable {ι κ float double : Type} [DecidableEq ι] [DecidableEq κ] [LinearOrder float]
variable {establisher : ι → BalancerEstablisher float} {spec : κ → ClientSpec float}

/-- The label is a step of this provider, or of the network for its call. -/
def Label.about (i : ι) : Label ι κ float double → Bool
  | .crash j _ => j = i
  | .session label => label.about i
  | _ => false

/-- The label keeps every node which has been heard of at this time or later. In particular
no message is processed with an earlier clock reading. -/
def Label.Keeps (heartBeatRate since : Int) : Label ι κ float double → Prop
  | .session label => label.Keeps heartBeatRate since
  | _ => True

omit [DecidableEq κ] [LinearOrder float] in
theorem about_announced (cloud : Cloud ι κ float double) (i : ι) (label : Session.Label ι) :
    (cloud.announced label).about i = label.about i := by
  cases label <;> rfl

omit [DecidableEq ι] [DecidableEq κ] [LinearOrder float] in
theorem keeps_announced (cloud : Cloud ι κ float double) (heartBeatRate since : Int)
    (label : Session.Label ι) :
    (cloud.announced label).Keeps heartBeatRate since ↔ label.Keeps heartBeatRate since := by
  cases label <;> exact Iff.rfl

variable (establisher spec) in
theorem control_step_of_not_about {i : ι} (cloud : Cloud ι κ float double)
    (label : Label ι κ float double) (other : label.about i = false) :
    (step establisher spec cloud label).session.control i = cloud.session.control i := by
  cases session_step establisher spec cloud label with
  | session inner moved =>
      rw [moved]
      exact Session.control_step_of_not_about establisher _ _
        ((about_announced cloud i inner).trans other)
  | crash j arrives moved =>
      have apart : i ≠ j := fun same => by simp [Label.about, same] at other
      rw [moved, Session.setControl_other _ apart]
      exact Session.control_step_of_not_about establisher _ _ (by simpa [Session.Label.about,
        Label.about] using other)
  | stays same => rw [same]

/-! ### Calls that are served -/

variable (establisher spec) in
/-- The network of `Session` is a part of the cloud. -/
theorem embeds_step :
    Session.Embeds establisher (step establisher spec) Cloud.session
      (Label.session : Session.Label ι → Label ι κ float double) Label.about Label.Keeps where
  call cloud i _ _ := ⟨(cloud.tables i).listOfServiceNames, rfl⟩
  process _ _ _ := rfl
  answer _ _ := rfl
  skips _ := control_step_of_not_about establisher spec
  follows cloud label := by
    cases session_step establisher spec cloud label with
    | session inner moved =>
        exact .inr ⟨cloud.announced inner, congrArg Session.System.balancer moved,
          fun rate since => (keeps_announced cloud rate since inner).mpr⟩
    | crash j arrives moved =>
        refine .inr ⟨.lose j arrives, ?_, fun _ _ _ => trivial⟩
        rw [moved]
        rfl
    | stays same => exact .inl (congrArg Session.System.balancer same)

/-- The steps of a provider whose next call is served. The names are those of its table. -/
def servedCall (i : ι) (usage : Int32) (now : Int) : List (Label ι κ float double) :=
  [.session (.call i usage []), .session (.process i now), .session (.answer i)]

/-- A period that is not longer than the rate, in which the first two calls are served. -/
theorem heardSince_of_served {cloud : Cloud ι κ float double} {i : ι} {place : Session.Place}
    (calling : cloud.session.control i = .calling place)
    {during : List (Label ι κ float double)} {usage usage' : Int32} {now now' since : Int}
    (served : servedCall i usage now ++ servedCall i usage' now' <+: during.filter (Label.about i))
    (keep : ∀ label ∈ during, label.Keeps cloud.session.balancer.heartBeatRate since) :
    Session.HeardSince (establisher i).srvAddress since
      (Transition.run (step establisher spec) cloud during).session.balancer := by
  have embeds : Session.Embeds establisher (step establisher spec) Cloud.session
      (Label.session : Session.Label ι → Label ι κ float double) Label.about Label.Keeps :=
    embeds_step establisher spec
  obtain ⟨further, split⟩ := served
  obtain ⟨calls, rest, rfl, served, _⟩ := List.filter_eq_append_iff.mp split.symm
  have twice : calls.filter (Label.about i) =
      (Session.servedCall i usage [] now ++ Session.servedCall i usage' [] now').map
        Label.session := served
  obtain ⟨earlier, contact, later, _, message, rfl, waiting, own, accepted⟩ :=
    embeds.accepted_of_served calling twice
  obtain ⟨server, member, address, contacted⟩ := embeds.contacted waiting accepted
  rw [List.append_assoc, List.cons_append, List.append_cons] at keep ⊢
  obtain ⟨before, later⟩ := List.forall_mem_append.mp keep
  have recent : since ≤ contact := before _ List.mem_concat_self
  have heard : Session.HeardSince (establisher i).srvAddress since (Transition.run
      (step establisher spec) cloud
        (earlier ++ [.session (.process i contact)])).session.balancer :=
    ⟨server, member, address.trans own, contacted.symm ▸ recent⟩
  rw [Transition.run_append]
  apply embeds.heardSince_run heard
  rw [embeds.heartBeatRate_run]
  exact later

/-! ### From any history -/

section Found

variable (establisher spec) in
/-- What a provider announces once it has filled its table. -/
theorem names_run {cloud : Cloud ι κ float double} {labels : List (Label ι κ float double)}
    {i : ι} (alive : ∀ label ∈ labels, label.crashes i = false) :
    (cloud.tables i).listOfServiceNames ⊆
      ((Transition.run (step establisher spec) cloud labels).tables i).listOfServiceNames :=
  Transition.run_preserves (P := fun current : Cloud ι κ float double =>
    (cloud.tables i).listOfServiceNames ⊆ (current.tables i).listOfServiceNames)
    (List.Subset.refl _) fun current label member announced =>
      List.Subset.trans announced (names_step establisher spec current (alive label member))

/-- Registrations of this provider announce at least these services. -/
def Announces (establisher : ι → BalancerEstablisher float) (i : ι) (services : List String)
    (request : NewServer float) : Prop :=
  request.serverAddress = (establisher i).srvAddress →
    request.version = (establisher i).version ∧ services ⊆ request.operation

theorem announces_step (distinct : Function.Injective fun i => (establisher i).srvAddress)
    {i : ι} {services : List String} {cloud : Cloud ι κ float double}
    (carries : Session.Carries (Announces establisher i services) cloud.session)
    {label : Label ι κ float double}
    (filled : ∀ usage names, label = .session (.call i usage names) →
      services ⊆ (cloud.tables i).listOfServiceNames) :
    Session.Carries (Announces establisher i services)
      (step establisher spec cloud label).session := by
  apply carries_step carries
  intro j usage names called own
  obtain rfl : j = i := distinct own
  exact ⟨rfl, filled usage names called⟩

/-- Before its first call a provider has announced nothing, and then it announces what
its table has held by that time. -/
theorem announces_after (distinct : Function.Injective fun i => (establisher i).srvAddress)
    (heartBeatRate : Int) {i : ι} {services : List String}
    {setup more : List (Label ι κ float double)}
    (quiet : ∀ usage names, Label.session (.call i usage names) ∉ setup)
    (provided : services ⊆
      ((after establisher spec heartBeatRate setup).tables i).listOfServiceNames)
    (alive : ∀ label ∈ more, label.crashes i = false) :
    Session.Carries (Announces establisher i services)
      (after establisher spec heartBeatRate (setup ++ more)).session := by
  have silent : Session.Carries (Announces establisher i services)
      (after establisher spec heartBeatRate setup).session := by
    refine Transition.run_preserves (P := fun cloud : Cloud ι κ float double =>
      Session.Carries (Announces establisher i services) cloud.session)
      (Session.carries_start _ heartBeatRate) ?_
    intro cloud label member carries
    refine announces_step distinct carries fun usage names called => ?_
    exact absurd (called ▸ member) (quiet usage names)
  rw [after, Transition.run_append]
  refine Transition.run_induction (P := fun _ (cloud : Cloud ι κ float double) =>
    Session.Carries (Announces establisher i services) cloud.session) silent ?_
  intro done label taken carries
  refine announces_step distinct carries fun _ _ _ => ?_
  have living : ∀ label ∈ done, label.crashes i = false := fun label member =>
    alive label (taken.subset (List.mem_append_left _ member))
  exact List.Subset.trans provided (names_run establisher spec living)

/-- Whatever has happened before: once the next two calls of a provider are served, a client
gets an address for services which this provider has announced, if it asks for none of them
twice and for a version that suffices, however the others go on. Before this the provider
may have been forgotten, and its messages lost. All that is asked of the meantime is that
the provider does not crash and that the balancer does not restart, process a message with
a clock reading before `since` or sweep more than a rate after it. -/
theorem announced_services_are_found
    (distinct : Function.Injective fun i => (establisher i).srvAddress)
    (nonempty : ∀ i, (establisher i).srvAddress ≠ "") (heartBeatRate : Int) {i : ι} {c : κ}
    {setup rest during others : List (Label ι κ float double)}
    (quiet : ∀ usage names, Label.session (.call i usage names) ∉ setup)
    (provided : (spec c).services ⊆
      ((after establisher spec heartBeatRate setup).tables i).listOfServiceNames)
    (version : (spec c).minVersion ≤ (establisher i).version) (once : (spec c).services.Nodup)
    (alive : ∀ label ∈ rest ++ during, label.crashes i = false) {place : Session.Place}
    (calling : (after establisher spec heartBeatRate (setup ++ rest)).session.control i =
      .calling place)
    {usage usage' : Int32} {now now' since : Int}
    (served : servedCall i usage now ++ servedCall i usage' now' <+: during.filter (Label.about i))
    (keep : ∀ label ∈ during, label.Keeps heartBeatRate since) {request : ServerRequest float}
    (asking : (after establisher spec heartBeatRate (setup ++ (rest ++ during))).clients c =
      .asking request)
    (unconcerned : ∀ label ∈ others, label.concerns c = false) (unset : Int32) (draw : Draw) :
    ∃ providerAddress, (after establisher spec heartBeatRate
      (setup ++ (rest ++ during) ++ .list c unset draw :: others ++ [.receive c])).clients c =
        .connected providerAddress := by
  have carries := announces_after distinct heartBeatRate quiet provided alive
  have rate : (after establisher spec heartBeatRate (setup ++ rest)).session.balancer.heartBeatRate
      = heartBeatRate := (embeds_step establisher spec).heartBeatRate_run _ _
  rw [← rate] at keep
  obtain ⟨server, member, address, _⟩ := heardSince_of_served calling served keep
  rw [after, ← Transition.run_append, ← after, List.append_assoc] at member
  obtain ⟨same, announced⟩ := carries.nodes server member address
  have offers : LoadBalanceImpl.Offers server (spec c).request :=
    ⟨version.trans same.ge, fun operation wanted => announced wanted⟩
  rw [after_answered]
  cases clients_answered (advertised_after heartBeatRate _) nonempty asking unconcerned unset
    draw with
  | inl found =>
      obtain ⟨_, server, _, _, connected⟩ := found
      exact ⟨_, connected⟩
  | inr failed => exact absurd ⟨once, server, member, offers⟩ failed.1

/-- A provider registers its services. -/
def filling : List (Label Bool Unit Int Int) :=
  [.register true (.modelsToModels ⟨⟨⟨"MeshCut", [], [], []⟩, []⟩, id⟩),
    .register true (.modelsToNumbers ⟨⟨⟨"Volume", [], [], []⟩, []⟩, id⟩)]

/-- It is known to the balancer until this is restarted. -/
def forgotten : List (Label Bool Unit Int Int) :=
  [.session (.call true 0 []), .session (.process true 0), .session (.answer true),
    .session .restart]

/-- Its heartbeat is refused and it registers again, between a sweep and a crash of the
other provider. A further call is lost. -/
def returning : List (Label Bool Unit Int Int) :=
  [.session (.call true 5 []), .ask (), .session (.process true 1000), .crash false true,
    .session (.answer true), .session (.call true 6 []), .session (.sweep 1500),
    .session (.process true 2000), .session (.answer true), .session (.call true 7 []),
    .session (.lose true false)]

theorem announced_services_are_found_returning :
    ∃ providerAddress, (after olderAndNewer (fun _ : Unit => ⟨2, ["Volume", "MeshCut"]⟩) 1000
      (filling ++ (forgotten ++ returning) ++ .list () 0 drawFront :: [.session .restart] ++
        [.receive ()])).clients () = .connected providerAddress := by
  have keep : ∀ label ∈ returning, label.Keeps 1000 1000 := by
    simp [returning, Label.Keeps, Session.Label.Keeps, milliseconds]
  exact announced_services_are_found (by unfold Function.Injective; decide) (by decide) 1000
    (i := true) (by simp [filling]) (by decide) (by decide) (by decide) (by decide)
    (show (after olderAndNewer (fun _ : Unit => ⟨2, ["Volume", "MeshCut"]⟩) 1000
      (filling ++ forgotten)).session.control true = .calling .beat by decide)
    (show servedCall true 5 1000 ++ servedCall true 6 2000 <+:
      returning.filter (Label.about true) from
        ⟨[.session (.call true 7 []), .session (.lose true false)], rfl⟩) keep
    (show (after olderAndNewer (fun _ : Unit => ⟨2, ["Volume", "MeshCut"]⟩) 1000
      (filling ++ (forgotten ++ returning))).clients () = .asking ⟨2, ["Volume", "MeshCut"]⟩ by
        decide) (by decide) 0 drawFront

end Found

end Cloud3D.Cloud
