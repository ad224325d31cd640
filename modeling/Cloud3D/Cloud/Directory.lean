import Cloud3D.Balancer.Directory
import Cloud3D.Cloud.Served
import Cloud3D.Session.Unique

/-!
# The cloud over a directory

What the balancer is told in a run makes up a directory. As long as no call of a provider
is given up, the vector of nodes refines this directory in every interleaving: providers
register again only after their node has been removed, and tables name nothing twice. The
balancer then answers providers and clients as the directory does.
-/

namespace Cloud3D

namespace Session

variable {ι float : Type}

/-- What a step tells the directory. A restart forgets all entries. -/
def told (heartBeatRate : Int) (system : System ι float) (label : Label ι)
    (directory : Directory float) : Directory float :=
  match label with
  | .sweep now => directory.sweep heartBeatRate now
  | .restart => fun _ => none
  | label =>
      match processed system label with
      | some (message, now) => (directory.receive now message).1
      | none => directory

variable [DecidableEq ι] {establisher : ι → BalancerEstablisher float} {system : System ι float}
variable {heartBeatRate : Int} {directory : Directory float}

omit [DecidableEq ι] in
/-- A message which a provider waits for is admissible when it is processed. -/
theorem Reliable.admissible (reliable : Reliable establisher system)
    (sent : Sent establisher system)
    (once : Carries (fun request => request.operation.Nodup) system)
    (refines : LoadBalanceImpl.Refines heartBeatRate system.balancer directory)
    {i : ι} {place : Place} {message : Message float}
    (waiting : system.control i = .waiting place (.requested message)) (now : Int) :
    directory.Admissible ⟨now, .message message⟩ := by
  cases message with
  | sendHeartbeat request => trivial
  | establishServer request =>
      have vacant : (system.control i).unregistered = true := by
        rw [waiting]
        cases place with
        | run => rfl
        | retry => rfl
        | beat =>
            obtain ⟨_, _, same⟩ := sent i .beat _ waiting
            cases same
      have address : request.serverAddress = (establisher i).srvAddress := sent.address waiting
      have absent := reliable.unregistered i vacant
      rw [← address, refines.registered_iff, Option.not_isSome_iff_eq_none] at absent
      exact ⟨absent, once.pending request (.inl ⟨i, place, waiting⟩)⟩

/-- A step without a loss is one of the directory. -/
theorem refines_step (reliable : Reliable establisher system) (sent : Sent establisher system)
    (once : Carries (fun request => request.operation.Nodup) system)
    (refines : LoadBalanceImpl.Refines heartBeatRate system.balancer directory)
    {label : Label ι} (nothingLost : label.reliable = true) :
    LoadBalanceImpl.Refines heartBeatRate (Session.step establisher system label).balancer
      (told heartBeatRate system label directory) := by
  cases label with
  | call i usage names =>
      simp only [Session.step, told, processed]
      split <;> exact refines
  | process i now =>
      simp only [Session.step, told, processed]
      split
      · next place message waiting =>
          exact refines.step (reliable.admissible sent once refines waiting now)
      · exact refines
  | processLate k now =>
      simp only [Session.step, told, processed, reliable.late, List.getElem?_nil, Option.map_none]
      exact refines
  | answer i =>
      simp only [Session.step, told, processed]
      split <;> exact refines
  | lose i arrives => cases nothingLost
  | sweep now => exact refines.sweep now
  | restart =>
      simp only [Session.step, told, refines.rate]
      exact LoadBalanceImpl.refines_initial heartBeatRate

end Session

/-- A call of the balancer is always answered. -/
theorem LoadBalanceImpl.exists_listServer {float : Type} [LinearOrder float]
    (balancer : LoadBalanceImpl float) (unset : Int32) (draw : Draw)
    (request : ServerRequest float) :
    ∃ a, balancer.listServer unset draw request = some (.OK, ⟨a⟩) := by
  simp only [listServer_eq_some_iff]
  cases balancer.possibleServers (requested request) with
  | nil => exact ⟨"", rfl⟩
  | cons front rest =>
      obtain ⟨server, _, chosen⟩ := minUsageServer_cons unset draw front rest
      exact ⟨server.address, chosen⟩

namespace Cloud

variable {ι κ float double : Type}

/-- No call of a provider is given up. Clients may lose theirs. -/
def Label.reliable : Label ι κ float double → Bool
  | .crash _ _ => false
  | .session label => label.reliable
  | _ => true

def told (heartBeatRate : Int) (cloud : Cloud ι κ float double) (label : Label ι κ float double)
    (directory : Directory float) : Directory float :=
  match label with
  | .session label => Session.told heartBeatRate cloud.session (cloud.announced label) directory
  | _ => directory

theorem reliable_announced (cloud : Cloud ι κ float double) (label : Session.Label ι) :
    (cloud.announced label).reliable = label.reliable := by
  cases label <;> rfl

theorem told_of_not_session (heartBeatRate : Int) (cloud : Cloud ι κ float double)
    {label : Label ι κ float double} (other : ∀ inner, label ≠ .session inner)
    (directory : Directory float) : told heartBeatRate cloud label directory = directory := by
  cases label with
  | session inner => exact absurd rfl (other inner)
  | _ => rfl

variable [DecidableEq ι] [DecidableEq κ] [LinearOrder float]
variable {establisher : ι → BalancerEstablisher float} {spec : κ → ClientSpec float}

variable (establisher spec) in
/-- What the balancer has been told in a run. -/
def directory (heartBeatRate : Int) (labels : List (Label ι κ float double)) : Directory float :=
  Transition.ghost (step establisher spec) (told heartBeatRate) (start heartBeatRate)
    (fun _ => none) labels

/-- The directory stands for the registry, and nothing is under way that it would not
admit. -/
structure Directed (establisher : ι → BalancerEstablisher float) (spec : κ → ClientSpec float)
    (heartBeatRate : Int) (cloud : Cloud ι κ float double) (directory : Directory float) :
    Prop where
  advertised : Advertised establisher spec cloud
  sent : Session.Sent establisher cloud.session
  reliable : Session.Reliable establisher cloud.session
  refines : LoadBalanceImpl.Refines heartBeatRate cloud.session.balancer directory

theorem Directed.step (distinct : Function.Injective fun i => (establisher i).srvAddress)
    {heartBeatRate : Int} {cloud : Cloud ι κ float double} {directory : Directory float}
    (directed : Directed establisher spec heartBeatRate cloud directory)
    {label : Label ι κ float double} (nothingLost : label.reliable = true) :
    Directed establisher spec heartBeatRate (Cloud.step establisher spec cloud label)
      (told heartBeatRate cloud label directory) := by
  have advertised := directed.advertised.step label
  by_cases own : ∃ inner, label = .session inner
  · obtain ⟨inner, rfl⟩ := own
    have kept : (cloud.announced inner).reliable = true :=
      (reliable_announced cloud inner).trans nothingLost
    have once := directed.advertised.carries.mono fun request announced => announced.1
    exact ⟨advertised, directed.sent.step _, directed.reliable.step distinct directed.sent kept,
      Session.refines_step directed.reliable directed.sent once directed.refines kept⟩
  · rw [not_exists] at own
    rw [told_of_not_session heartBeatRate cloud own]
    cases session_step establisher spec cloud label with
    | session inner _ => exact absurd rfl (own inner)
    | crash _ _ _ => cases nothingLost
    | stays same =>
        refine ⟨advertised, ?_, ?_, ?_⟩ <;> rw [same]
        · exact directed.sent
        · exact directed.reliable
        · exact directed.refines

theorem directed_after (distinct : Function.Injective fun i => (establisher i).srvAddress)
    (heartBeatRate : Int) {labels : List (Label ι κ float double)}
    (nothingLost : ∀ label ∈ labels, label.reliable = true) :
    Directed establisher spec heartBeatRate (after establisher spec heartBeatRate labels)
      (directory establisher spec heartBeatRate labels) := by
  refine Transition.ghost_preserves (P := Directed establisher spec heartBeatRate) ?_ ?_
  · refine ⟨advertised_after heartBeatRate [], ?_, ⟨rfl, ?_⟩,
      LoadBalanceImpl.refines_initial heartBeatRate⟩
    · intro i place message waiting
      cases waiting
    · rintro i _ ⟨server, member, _⟩
      cases member
  · exact fun cloud label member recorded directed =>
      directed.step distinct (nothingLost label member)

/-- Over a network that loses no call of a provider, the balancer is a directory for all
that speak to it. The call of a provider is answered by its status. A client which asks
for nothing twice is connected to any entry of least load that offers what it asks for, by
some draw, and to nothing else; without such an entry it fails. Entries without a heartbeat
have the same load `unset`. -/
theorem observed_as_directory (distinct : Function.Injective fun i => (establisher i).srvAddress)
    (heartBeatRate : Int) {labels : List (Label ι κ float double)}
    (nothingLost : ∀ label ∈ labels, label.reliable = true) :
    (∀ i place message, (after establisher spec heartBeatRate labels).session.control i =
        .waiting place (.requested message) → ∀ now,
      ((after establisher spec heartBeatRate labels).session.balancer.receive now message).2 =
        ((directory establisher spec heartBeatRate labels).receive now message).2) ∧
    ∀ c, (after establisher spec heartBeatRate labels).clients c = .asking (spec c).request →
      (spec c).services.Nodup → ∀ others, (∀ label ∈ others, label.concerns c = false) →
        ∀ unset connection,
          (∃ draw, (after establisher spec heartBeatRate
            (labels ++ .list c unset draw :: others ++ [.receive c])).clients c = connection) ↔
          ∃ a ∈ (directory establisher spec heartBeatRate labels).answers unset (spec c).request,
            connection = .conclude .OK ⟨a⟩ := by
  have directed : Directed establisher spec heartBeatRate _ _ :=
    directed_after distinct heartBeatRate nothingLost
  constructor
  · intro i place message waiting now
    have once := directed.advertised.carries.mono fun request announced => announced.1
    have admissible := directed.reliable.admissible directed.sent once directed.refines waiting now
    have observed := directed.refines.observe admissible 0
    exact Option.some.inj (congrArg Prod.fst observed)
  · intro c asking once others unconcerned unset connection
    rw [← directed.refines.answers once unset]
    constructor
    · rintro ⟨draw, rfl⟩
      obtain ⟨a, result⟩ := LoadBalanceImpl.exists_listServer
        (after establisher spec heartBeatRate labels).session.balancer unset draw (spec c).request
      refine ⟨a, ⟨draw, result⟩, ?_⟩
      rw [after_answered]
      exact clients_received _ asking result unconcerned
    · rintro ⟨a, ⟨draw, result⟩, rfl⟩
      refine ⟨draw, ?_⟩
      rw [after_answered]
      exact clients_received _ asking result unconcerned

/-- Both providers offer what the client asks for. The second one has been away, and it
has less to do. -/
def balanced : List (Label Bool Unit Int Int) :=
  [.register true (.modelsToModels ⟨⟨⟨"MeshCut", [], [], []⟩, []⟩, id⟩),
    .register false (.modelsToModels ⟨⟨⟨"MeshCut", [], [], []⟩, []⟩, id⟩),
    .session (.call true 0 []), .session (.process true 0), .session (.answer true),
    .session (.sweep 2000000000), .session (.call true 40 []),
    .session (.process true 2100000000), .session (.answer true), .session (.call false 0 []),
    .session (.call true 40 []), .session (.process true 2100000001),
    .session (.process false 2200000000), .session (.answer false), .session (.call false 50 []),
    .session (.answer true), .session (.call true 30 []), .session (.process true 2300000000),
    .ask (), .session (.process false 2400000000)]

theorem observed_as_directory_balanced :
    ∃ a ∈ (directory olderAndNewer (fun _ : Unit => ⟨1, ["MeshCut"]⟩) 1000 balanced).answers 0
        ⟨1, ["MeshCut"]⟩,
      (.connected "provider:2" : Connection Int) = .conclude .OK ⟨a⟩ :=
  ((observed_as_directory (by unfold Function.Injective; decide) 1000
    (show ∀ label ∈ balanced, label.reliable = true by decide)).2 ()
    (show (after olderAndNewer (fun _ : Unit => ⟨1, ["MeshCut"]⟩) 1000 balanced).clients () =
      .asking ⟨1, ["MeshCut"]⟩ by decide) (by decide) [.session (.sweep 2500000000)]
    (by decide) 0 _).mp ⟨drawFront, by decide⟩

end Cloud

end Cloud3D
