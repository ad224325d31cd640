import Cloud3D.Balancer.Matching
import Cloud3D.Cloud.Basic
import Cloud3D.Session.Carried

/-!
# What a connection stands for

In every interleaving each node of the registry, and each registration which may still
arrive, comes from a provider, carries its version and names nothing twice. Names are
only added to a table, so until its provider crashes they stay names of services, and
so do the operations of a client that holds the address of the provider.
-/

namespace Cloud3D

/-- The client has been given this address and may use it. -/
def Connection.Holds {float : Type} : Connection float → String → Prop
  | .unconnected, _ => False
  | .asking _, _ => False
  | .answered _ response, a => response.serverAddresss = a ∧ a ≠ ""
  | .connected providerAddress, a => providerAddress = a
  | .failed, _ => False

theorem Connection.holds_of_conclude {float : Type} {status : Status} {response : ServerReply}
    {a : String} (holds : (conclude status response : Connection float).Holds a) :
    (answered status response : Connection float).Holds a := by
  simp only [conclude] at holds
  split at holds
  · cases holds
  · next nonempty =>
      obtain rfl : ProviderFinder.address status response = a := holds
      cases ok : status.ok with
      | true =>
          rw [ProviderFinder.address, if_pos ok] at nonempty ⊢
          exact ⟨rfl, by simpa using nonempty⟩
      | false =>
          rw [ProviderFinder.address, ok] at nonempty
          exact absurd rfl nonempty

namespace ServiceProviderImpl

variable {float double : Type}

/-- No call of a setter removes a name. -/
theorem listOfServiceNames_attempt_subset (impl : ServiceProviderImpl float double)
    (registration : Registration float double) :
    impl.listOfServiceNames ⊆ (impl.attempt registration).listOfServiceNames := by
  by_cases taken : registration.name ∈ impl.listOfServiceNames
  · rw [attempt_of_mem taken]
    exact List.Subset.refl _
  · rw [attempt_listOfServiceNames taken]
    exact List.subset_append_left _ _

theorem Extends.refl (impl : ServiceProviderImpl float double) : impl.Extends impl :=
  ⟨List.prefix_refl _, List.prefix_refl _⟩

theorem Extends.trans {impl later last : ServiceProviderImpl float double}
    (first : impl.Extends later) (second : later.Extends last) : impl.Extends last :=
  ⟨first.1.trans second.1, first.2.trans second.2⟩

theorem consistent_getInstance : (getInstance : ServiceProviderImpl float double).Consistent :=
  consistent_registered []

end ServiceProviderImpl

namespace Cloud

variable {ι κ float double : Type} [DecidableEq ι] [DecidableEq κ] [LinearOrder float]
variable {establisher : ι → BalancerEstablisher float} {spec : κ → ClientSpec float}

/-! ### What a step does to a client -/

inductive Asks (spec : κ → ClientSpec float) (cloud next : Cloud ι κ float double) (c : κ) :
    Prop where
  | stays (same : next.clients c = cloud.clients c)
  | asks (before : cloud.clients c = .unconnected)
      (moved : next.clients c = .asking (spec c).request)
  | lists (request : ServerRequest float) (unset : Int32) (draw : Draw) (status : Status)
      (response : ServerReply) (before : cloud.clients c = .asking request)
      (result : cloud.session.balancer.listServer unset draw request = some (status, response))
      (moved : next.clients c = .answered status response)
  | receives (status : Status) (response : ServerReply)
      (before : cloud.clients c = .answered status response)
      (moved : next.clients c = .conclude status response)
  | fails (before : ∀ providerAddress, cloud.clients c ≠ .connected providerAddress)
      (moved : next.clients c = .failed)

omit [DecidableEq ι] [LinearOrder float] in
theorem setClient_same (cloud : Cloud ι κ float double) (c : κ) (connection : Connection float) :
    (cloud.setClient c connection).clients c = connection := by
  simp [setClient]

omit [DecidableEq ι] [LinearOrder float] in
theorem setClient_other (cloud : Cloud ι κ float double) {c d : κ} (other : d ≠ c)
    (connection : Connection float) :
    (cloud.setClient c connection).clients d = cloud.clients d := by
  simp [setClient, other]

variable (establisher spec) in
theorem asks_step (cloud : Cloud ι κ float double) (label : Label ι κ float double) (d : κ) :
    Asks spec cloud (step establisher spec cloud label) d := by
  cases label with
  | register i registration => exact .stays rfl
  | crash i arrives => exact .stays rfl
  | session label => exact .stays rfl
  | ask c =>
      by_cases own : d = c
      · subst own
        cases before : cloud.clients d with
        | unconnected => exact .asks before (by simp [step, before, setClient_same])
        | _ => exact .stays (by simp [step, before])
      · apply Asks.stays
        simp only [step]
        split <;> simp [setClient_other, own]
  | list c unset draw =>
      by_cases own : d = c
      · subst own
        cases before : cloud.clients d with
        | asking request =>
            cases result : cloud.session.balancer.listServer unset draw request with
            | some outcome =>
                exact .lists request unset draw outcome.1 outcome.2 before result
                  (by simp [step, before, result, setClient_same])
            | none => exact .stays (by simp [step, before, result])
        | _ => exact .stays (by simp [step, before])
      · apply Asks.stays
        simp only [step]
        split
        · split <;> simp [setClient_other, own]
        · rfl
  | receive c =>
      by_cases own : d = c
      · subst own
        cases before : cloud.clients d with
        | answered status response =>
            exact .receives status response before (by simp [step, before, setClient_same])
        | _ => exact .stays (by simp [step, before])
      · apply Asks.stays
        simp only [step]
        split <;> simp [setClient_other, own]
  | lose c =>
      by_cases own : d = c
      · subst own
        cases before : cloud.clients d with
        | asking request =>
            apply Asks.fails (by simp [before])
            simp [step, before, setClient_same, Connection.conclude, ProviderFinder.address,
              Status.ok]
        | answered status response =>
            apply Asks.fails (by simp [before])
            simp [step, before, setClient_same, Connection.conclude, ProviderFinder.address,
              Status.ok]
        | _ => exact .stays (by simp [step, before])
      · apply Asks.stays
        simp only [step]
        split <;> simp [setClient_other, own]

/-- A client keeps the address which it was given. -/
theorem connected_step {cloud : Cloud ι κ float double} {c : κ} {providerAddress : String}
    (connected : cloud.clients c = .connected providerAddress) (label : Label ι κ float double) :
    (step establisher spec cloud label).clients c = .connected providerAddress := by
  cases asks_step establisher spec cloud label c with
  | stays same => exact same.trans connected
  | asks before _ => cases before.symm.trans connected
  | lists _ _ _ _ _ before _ _ => cases before.symm.trans connected
  | receives _ _ before _ => cases before.symm.trans connected
  | fails before _ => exact absurd connected (before providerAddress)

/-! ### What a step does to registrations and tables -/

/-- The label is a crash of this provider. -/
def Label.crashes (i : ι) : Label ι κ float double → Bool
  | .crash j _ => j = i
  | _ => false

/-- The session moves by a label of its own, or by the crash of a provider. -/
inductive MovesSession (establisher : ι → BalancerEstablisher float)
    (cloud next : Cloud ι κ float double) : Label ι κ float double → Prop where
  | session (inner : Session.Label ι)
      (moved : next.session = Session.step establisher cloud.session (cloud.announced inner)) :
      MovesSession establisher cloud next (.session inner)
  | crash (i : ι) (arrives : Bool)
      (moved : next.session = (Session.step establisher cloud.session
        (.lose i arrives)).setControl i (.calling .run)) :
      MovesSession establisher cloud next (.crash i arrives)
  | stays {label : Label ι κ float double} (same : next.session = cloud.session) :
      MovesSession establisher cloud next label

variable (establisher spec) in
theorem session_step (cloud : Cloud ι κ float double) (label : Label ι κ float double) :
    MovesSession establisher cloud (step establisher spec cloud label) label := by
  cases label with
  | register i registration => exact .stays rfl
  | crash i arrives => exact .crash i arrives rfl
  | session inner => exact .session inner rfl
  | ask c =>
      simp only [step]
      split <;> exact .stays rfl
  | list c unset draw =>
      simp only [step]
      split
      · split <;> exact .stays rfl
      · exact .stays rfl
  | receive c =>
      simp only [step]
      split <;> exact .stays rfl
  | lose c =>
      simp only [step]
      split <;> exact .stays rfl

/-- A property of registrations which the tables guarantee for every call. -/
theorem carries_step {P : NewServer float → Prop} {cloud : Cloud ι κ float double}
    (carries : Session.Carries P cloud.session) (label : Label ι κ float double)
    (announces : ∀ i usage names, label = .session (.call i usage names) →
      P ((establisher i).newServer (cloud.tables i).listOfServiceNames)) :
    Session.Carries P (step establisher spec cloud label).session := by
  cases session_step establisher spec cloud label with
  | session inner moved =>
      rw [moved]
      apply carries.step
      intro i usage names called
      cases inner with
      | call j _ _ =>
          obtain ⟨rfl, rfl, rfl⟩ : j = i ∧ _ ∧ (cloud.tables j).listOfServiceNames = names := by
            simpa [announced] using called
          exact announces j _ _ rfl
      | _ => cases called
  | crash j arrives moved =>
      rw [moved]
      apply Session.Carries.setControl
      exact carries.step fun _ _ _ called => by cases called
  | stays same => rwa [same]

/-- A table is that of registrations, or of a process that has just started. -/
inductive Fills (cloud next : Cloud ι κ float double) (i : ι) :
    Label ι κ float double → Prop where
  | stays {label : Label ι κ float double} (same : next.tables i = cloud.tables i) :
      Fills cloud next i label
  | registers (registration : Registration float double)
      (added : next.tables i = (cloud.tables i).attempt registration) :
      Fills cloud next i (.register i registration)
  | crashes {label : Label ι κ float double} (crashed : label.crashes i = true)
      (emptied : next.tables i = .getInstance) : Fills cloud next i label

variable (establisher spec) in
theorem tables_step (cloud : Cloud ι κ float double) (label : Label ι κ float double) (i : ι) :
    Fills cloud (step establisher spec cloud label) i label := by
  cases label with
  | register j registration =>
      by_cases own : i = j
      · subst own
        exact .registers registration (by simp [step, setTable])
      · exact .stays (by simp [step, setTable, own])
  | crash j arrives =>
      by_cases own : i = j
      · subst own
        exact .crashes (by simp [Label.crashes]) (by simp [step, setTable])
      · exact .stays (by simp [step, setTable, own])
  | session label => exact .stays rfl
  | ask c =>
      simp only [step]
      split <;> exact .stays rfl
  | list c unset draw =>
      simp only [step]
      split
      · split <;> exact .stays rfl
      · exact .stays rfl
  | receive c =>
      simp only [step]
      split <;> exact .stays rfl
  | lose c =>
      simp only [step]
      split <;> exact .stays rfl

theorem consistent_step {cloud : Cloud ι κ float double} {i : ι}
    (consistent : (cloud.tables i).Consistent) (label : Label ι κ float double) :
    ((step establisher spec cloud label).tables i).Consistent := by
  cases tables_step establisher spec cloud label i with
  | stays same => rwa [same]
  | registers registration added =>
      rw [added]
      exact consistent.attempt registration
  | crashes _ emptied =>
      rw [emptied]
      exact ServiceProviderImpl.consistent_getInstance

variable (establisher spec) in
theorem names_step (cloud : Cloud ι κ float double) {label : Label ι κ float double} {i : ι}
    (alive : label.crashes i = false) :
    (cloud.tables i).listOfServiceNames ⊆
      ((step establisher spec cloud label).tables i).listOfServiceNames := by
  cases tables_step establisher spec cloud label i with
  | stays same =>
      rw [same]
      exact List.Subset.refl _
  | registers registration added =>
      rw [added]
      exact ServiceProviderImpl.listOfServiceNames_attempt_subset _ _
  | crashes crashed _ =>
      rw [alive] at crashed
      cases crashed

/-- What holds of every registration, whatever crashes: it was made from the table of
some provider. -/
structure Advertised (establisher : ι → BalancerEstablisher float)
    (spec : κ → ClientSpec float) (cloud : Cloud ι κ float double) : Prop where
  tables : ∀ i, (cloud.tables i).Consistent
  carries : Session.Carries (fun request => request.operation.Nodup ∧ ∃ i,
    request.version = (establisher i).version ∧
      request.serverAddress = (establisher i).srvAddress) cloud.session
  requests : ∀ c request, cloud.clients c = .asking request → request = (spec c).request
  addresses : ∀ c a, (cloud.clients c).Holds a → ∃ i, a = (establisher i).srvAddress

omit [DecidableEq ι] [DecidableEq κ] in
/-- An answer that is not empty is the address of a node which offers what was asked. -/
theorem exists_of_listServer {cloud : Cloud ι κ float double}
    (advertised : Advertised establisher spec cloud) {request : ServerRequest float}
    {unset : Int32} {draw : Draw} {status : Status} {response : ServerReply}
    (result : cloud.session.balancer.listServer unset draw request = some (status, response))
    (nonempty : response.serverAddresss ≠ "") :
    ∃ server ∈ cloud.session.balancer.servers, server.address = response.serverAddresss ∧
      LoadBalanceImpl.Offers server request := by
  obtain ⟨a, _, outcome⟩ := Option.map_eq_some_iff.mp result
  obtain ⟨rfl, _⟩ := Prod.mk.inj outcome
  obtain ⟨server, candidate, address⟩ := LoadBalanceImpl.mem_of_listServer result nonempty
  obtain ⟨member, version, _⟩ := (LoadBalanceImpl.mem_possibleServers_iff _ _ server).mp candidate
  have distinct : server.operations.Nodup := (advertised.carries.nodes server member).1
  exact ⟨server, member, address, version,
    (LoadBalanceImpl.offers_of_mem_possibleServers distinct candidate).2⟩

theorem Advertised.step {cloud : Cloud ι κ float double}
    (advertised : Advertised establisher spec cloud) (label : Label ι κ float double) :
    Advertised establisher spec (step establisher spec cloud label) := by
  refine ⟨fun i => consistent_step (advertised.tables i) label, ?_, ?_, ?_⟩
  · apply carries_step advertised.carries
    exact fun i _ _ _ => ⟨(advertised.tables i).nodup, i, rfl, rfl⟩
  · intro c request asking
    cases asks_step establisher spec cloud label c with
    | stays same => exact advertised.requests c request (same ▸ asking)
    | asks _ moved => exact (Connection.asking.inj (moved.symm.trans asking)).symm
    | lists _ _ _ _ _ _ _ moved => cases moved.symm.trans asking
    | receives status response _ moved =>
        have concluded := moved.symm.trans asking
        simp only [Connection.conclude] at concluded
        split at concluded <;> cases concluded
    | fails _ moved => cases moved.symm.trans asking
  · intro c a holds
    cases asks_step establisher spec cloud label c with
    | stays same => exact advertised.addresses c a (same ▸ holds)
    | asks _ moved =>
        rw [moved] at holds
        cases holds
    | lists request unset draw status response before result moved =>
        rw [moved] at holds
        obtain ⟨rfl, nonempty⟩ := holds
        obtain ⟨server, member, address, _⟩ := exists_of_listServer advertised result nonempty
        obtain ⟨_, i, _, same⟩ := advertised.carries.nodes server member
        exact ⟨i, address.symm.trans same⟩
    | receives status response before moved =>
        rw [moved] at holds
        exact advertised.addresses c a (before ▸ Connection.holds_of_conclude holds)
    | fails _ moved =>
        rw [moved] at holds
        cases holds

/-- What holds as long as provider `i` does not crash: whatever names its address, in the
registry, under way or at a client, names services of its table. -/
structure Offered (establisher : ι → BalancerEstablisher float) (spec : κ → ClientSpec float)
    (i : ι) (cloud : Cloud ι κ float double) : Prop where
  carries : Session.Carries (fun request =>
    request.serverAddress = (establisher i).srvAddress →
      request.version = (establisher i).version ∧
        request.operation ⊆ (cloud.tables i).listOfServiceNames) cloud.session
  clients : ∀ c, (cloud.clients c).Holds (establisher i).srvAddress →
    (spec c).minVersion ≤ (establisher i).version ∧
      (spec c).services ⊆ (cloud.tables i).listOfServiceNames

section Alive

variable {cloud : Cloud ι κ float double} {i : ι} {label : Label ι κ float double}

theorem offered_carries_step (distinct : Function.Injective fun i => (establisher i).srvAddress)
    (carries : Session.Carries (fun request =>
      request.serverAddress = (establisher i).srvAddress →
        request.version = (establisher i).version ∧
          request.operation ⊆ (cloud.tables i).listOfServiceNames) cloud.session)
    (alive : label.crashes i = false) :
    Session.Carries (fun request =>
      request.serverAddress = (establisher i).srvAddress →
        request.version = (establisher i).version ∧ request.operation ⊆
          ((step establisher spec cloud label).tables i).listOfServiceNames)
      (step establisher spec cloud label).session := by
  have grow := names_step establisher spec cloud alive
  apply (carries_step carries label ?_).mono
  · intro request known own
    exact ⟨(known own).1, List.Subset.trans (known own).2 grow⟩
  · intro j _ _ _ own
    obtain rfl : j = i := distinct own
    exact ⟨rfl, List.Subset.refl _⟩

/-- A client is only given the address of a node that offers what it has asked for. -/
theorem offered_client_step (advertised : Advertised establisher spec cloud)
    (carries : Session.Carries (fun request =>
      request.serverAddress = (establisher i).srvAddress →
        request.version = (establisher i).version ∧
          request.operation ⊆ (cloud.tables i).listOfServiceNames) cloud.session)
    (alive : label.crashes i = false) {c : κ}
    (offered : (cloud.clients c).Holds (establisher i).srvAddress →
      (spec c).minVersion ≤ (establisher i).version ∧
        (spec c).services ⊆ (cloud.tables i).listOfServiceNames)
    (holds : ((step establisher spec cloud label).clients c).Holds (establisher i).srvAddress) :
    (spec c).minVersion ≤ (establisher i).version ∧
      (spec c).services ⊆ ((step establisher spec cloud label).tables i).listOfServiceNames := by
  have grow := names_step establisher spec cloud alive
  have kept : (cloud.clients c).Holds (establisher i).srvAddress →
      (spec c).minVersion ≤ (establisher i).version ∧ (spec c).services ⊆
        ((step establisher spec cloud label).tables i).listOfServiceNames :=
    fun before => (offered before).imp_right (List.Subset.trans · grow)
  cases asks_step establisher spec cloud label c with
  | stays same => exact kept (same ▸ holds)
  | asks _ moved =>
      rw [moved] at holds
      cases holds
  | lists request unset draw status response before result moved =>
      rw [moved] at holds
      obtain ⟨same, nonempty⟩ := holds
      rw [← same] at nonempty
      obtain ⟨server, member, address, offers⟩ :=
        exists_of_listServer advertised result nonempty
      obtain ⟨version, names⟩ := carries.nodes server member (address.trans same)
      rw [advertised.requests c request before] at offers
      exact ⟨offers.1.trans version.le, fun operation wanted =>
        grow (names (offers.2 operation wanted))⟩
  | receives status response before moved =>
      rw [moved] at holds
      exact kept (before ▸ Connection.holds_of_conclude holds)
  | fails _ moved =>
      rw [moved] at holds
      cases holds

theorem Offered.step (distinct : Function.Injective fun i => (establisher i).srvAddress)
    (advertised : Advertised establisher spec cloud) (offered : Offered establisher spec i cloud)
    (alive : label.crashes i = false) :
    Offered establisher spec i (step establisher spec cloud label) where
  carries := offered_carries_step distinct offered.carries alive
  clients c := offered_client_step advertised offered.carries alive (offered.clients c)

end Alive

theorem advertised_after (heartBeatRate : Int) (labels : List (Label ι κ float double)) :
    Advertised establisher spec (after establisher spec heartBeatRate labels) := by
  refine Transition.run_preserves
    (P := fun cloud : Cloud ι κ float double => Advertised establisher spec cloud) ?_ ?_
  · refine ⟨fun _ => ServiceProviderImpl.consistent_getInstance,
      Session.carries_start _ heartBeatRate, ?_, ?_⟩
    · intro c request asking
      cases asking
    · intro c a holds
      cases holds
  · exact fun cloud label _ advertised => advertised.step label

theorem offered_after (distinct : Function.Injective fun i => (establisher i).srvAddress)
    (heartBeatRate : Int) {labels : List (Label ι κ float double)} {i : ι}
    (alive : ∀ label ∈ labels, label.crashes i = false) :
    Offered establisher spec i (after establisher spec heartBeatRate labels) := by
  refine Transition.run_induction
    (P := fun _ (cloud : Cloud ι κ float double) => Offered establisher spec i cloud) ?_ ?_
  · exact ⟨Session.carries_start _ heartBeatRate, fun c holds => by cases holds⟩
  · intro done label taken offered
    exact offered.step distinct (advertised_after heartBeatRate done)
      (alive label (taken.subset (by simp)))

end Cloud

end Cloud3D
