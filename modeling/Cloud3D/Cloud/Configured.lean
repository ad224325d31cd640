import Cloud3D.Cloud.Served
import Cloud3D.Config.Transport

/-!
# A cloud with one configuration

The parties of a cloud read files of their own, which agree in all keys but the address
of the provider. What each of them derives from its file then fits together: both
channels of a client which the balancer has sent to a provider lead to ports with the
credentials of these channels, and the version of the provider is the one that the client
asks for.
-/

namespace Cloud3D

/-- Two texts agree in the lines of the keys that all parties share, in the order of these
lines. -/
def SameSettings (text other : String) : Prop :=
  ∀ key ∈ ["balancerAddress=", "heartbeat=", "version=", "cert=", "key=", "root="],
    (getlines text).filter (startsWith key) = (getlines other).filter (startsWith key)

theorem Setting.of_same {β : Type} {key : String} {convert : String → Except Thrown β}
    {text other : String} {initial final : β}
    (same : (getlines text).filter (startsWith key) = (getlines other).filter (startsWith key))
    (setting : Setting key convert text initial final) :
    Setting key convert other initial final := by
  rwa [Setting, Dispatch.LastWins, ← same]

theorem CommonRead.of_same {text other : String} {initial final : CommonConfig}
    (same : SameSettings text other) (read : CommonRead text initial final) :
    CommonRead other initial final where
  balancerAddress := read.balancerAddress.of_same (same _ (by simp))
  certFilename := read.certFilename.of_same (same _ (by simp))
  keyFilename := read.keyFilename.of_same (same _ (by simp))
  rootFilename := read.rootFilename.of_same (same _ (by simp))

/-! ### Channels and ports -/

section Endpoints

variable {float : Type} {stof : String → Except Thrown float} {zero : float}
  {files : String → Option String} {file : String}

theorem ServiceProvider.endpoints_of_start {provider : StartedProvider float}
    (started : ServiceProvider.start stof zero files file = .ok provider) :
    provider.config.providerAddress ≠ "" ∧
      provider.balancerChannel =
        ⟨provider.config.balancerAddress, transport files provider.config.common⟩ ∧
      provider.listeningPort =
        ⟨provider.config.providerAddress, transport files provider.config.common⟩ := by
  obtain ⟨config, _, checked⟩ := Dispatch.bind_eq_ok_iff.mp started
  simp only [bind, Except.bind] at checked
  split at checked
  · cases checked
  · next _ named =>
      have address : config.providerAddress ≠ "" := by
        rintro empty
        simp [empty] at named
      split at checked
      · next uses =>
          cases checked
          simp only [transport, if_pos uses]
          exact ⟨address, rfl, rfl⟩
      · next plain =>
          cases checked
          simp only [transport, if_neg plain]
          exact ⟨address, rfl, rfl⟩

end Endpoints

variable {ι κ float double : Type}

/-- Parties which have been started from files with the settings of `base`. A client has
read its file, and has not asked the balancer yet. -/
structure Configured (ι κ : Type) {float : Type} (stof : String → Except Thrown float)
    (zero : float) (files : String → Option String) (base : String) where
  balancer : RunningBalancer
  provider : ι → StartedProvider float
  client : κ → ClientConfig float
  services : κ → List String
  balancerFile : String
  providerFile : ι → String
  clientFile : κ → String
  balancerStarted : LoadBalancer.start files balancerFile = .ok balancer
  providerStarted : ∀ i, ServiceProvider.start stof zero files (providerFile i) = .ok (provider i)
  clientParsed : ∀ c,
    FileParser.parseClientConfig stof (files (clientFile c)) { minVersion := zero } =
      .ok (client c)
  balancerSame : ∃ text, files balancerFile = some text ∧ SameSettings text base
  providerSame : ∀ i, ∃ text, files (providerFile i) = some text ∧ SameSettings text base
  clientSame : ∀ c, ∃ text, files (clientFile c) = some text ∧ SameSettings text base

namespace Configured

variable {stof : String → Except Thrown float} {zero : float} {files : String → Option String}
variable {base : String} (configured : Configured ι κ stof zero files base)

/-- What a provider constructs its establisher with. -/
def establisher (i : ι) : BalancerEstablisher float :=
  ⟨(configured.provider i).config.providerAddress, (configured.provider i).config.version, 0⟩

/-- What a client asks the balancer for. -/
def spec (c : κ) : ClientSpec float := ⟨(configured.client c).minVersion, configured.services c⟩

/-- The rate which the balancer constructs its registry with. -/
def heartBeatRate : Int := configured.balancer.config.heartBeat.toInt

/-- The defaults of the members which all parties have. -/
def defaults : CommonConfig := ⟨"", "", "", ""⟩

theorem provider_read (i : ι) :
    CommonRead base defaults (configured.provider i).config.common ∧
      Setting "version=" stof base zero (configured.provider i).config.version := by
  obtain ⟨text, stored, same⟩ := configured.providerSame i
  have parsed := (ServiceProvider.start_eq_ok (configured.providerStarted i)).1
  rw [stored] at parsed
  have read := FileParser.parseProviderConfig_read parsed
  exact ⟨read.common.of_same same, read.version.of_same (same _ (by simp))⟩

theorem client_read (c : κ) :
    CommonRead base defaults (configured.client c).common ∧
      Setting "version=" stof base zero (configured.client c).minVersion := by
  obtain ⟨text, stored, same⟩ := configured.clientSame c
  have parsed := configured.clientParsed c
  rw [stored] at parsed
  have read := FileParser.parseClientConfig_read parsed
  exact ⟨read.common.of_same same, read.minVersion.of_same (same _ (by simp))⟩

/-- No version is too old. -/
theorem version_eq (i : ι) (c : κ) :
    (configured.spec c).minVersion = (configured.establisher i).version :=
  (configured.client_read c).2.unique (configured.provider_read i).2

variable [DecidableEq ι] [DecidableEq κ] [LinearOrder float]

omit [DecidableEq ι] [DecidableEq κ] in
/-- The version of a node is the one which clients ask for. -/
theorem offers_iff {cloud : Cloud ι κ float double}
    (advertised : Cloud.Advertised configured.establisher configured.spec cloud)
    {server : ServerNode float} (member : server ∈ cloud.session.balancer.servers) (c : κ) :
    LoadBalanceImpl.Offers server (configured.spec c).request ↔
      ∀ operation ∈ configured.services c, operation ∈ server.operations := by
  obtain ⟨_, i, version, _⟩ := advertised.carries.nodes server member
  have same : (configured.spec c).minVersion = server.version :=
    (configured.version_eq i c).trans version.symm
  exact and_iff_right same.le

/-- A request that reaches the balancer succeeds if and only if it names no operation twice
and some registered node has all of them: no version is ever too old. -/
theorem configured_lookup {labels others : List (Cloud.Label ι κ float double)} {c : κ}
    {request : ServerRequest float}
    (asking : (Cloud.after configured.establisher configured.spec configured.heartBeatRate
      labels).clients c = .asking request)
    (unconcerned : ∀ label ∈ others, label.concerns c = false) (unset : Int32) (draw : Draw) :
    let cloud := Cloud.after configured.establisher configured.spec configured.heartBeatRate
      labels
    let later := Cloud.after configured.establisher configured.spec configured.heartBeatRate
      (labels ++ .list c unset draw :: others ++ [.receive c])
    (∃ providerAddress, later.clients c = .connected providerAddress) ↔
      (configured.services c).Nodup ∧ ∃ server ∈ cloud.session.balancer.servers,
        ∀ operation ∈ configured.services c, operation ∈ server.operations := by
  intro cloud later
  have advertised : Cloud.Advertised configured.establisher configured.spec cloud :=
    Cloud.advertised_after _ labels
  have listens : ∀ i, (configured.establisher i).srvAddress ≠ "" := fun i =>
    (ServiceProvider.endpoints_of_start (configured.providerStarted i)).1
  have run : later = _ := Cloud.after_answered _ _ _ labels others c unset draw
  rw [run]
  cases Cloud.clients_answered advertised listens asking unconcerned unset draw with
  | inl found =>
      obtain ⟨once, server, member, offers, connected⟩ := found
      exact iff_of_true ⟨_, connected⟩
        ⟨once, server, member, (configured.offers_iff advertised member c).mp offers⟩
  | inr failed =>
      obtain ⟨absent, failed⟩ := failed
      refine iff_of_false ?_ ?_
      · rintro ⟨providerAddress, connected⟩
        cases failed.symm.trans connected
      · rintro ⟨once, server, member, offered⟩
        exact absent ⟨once, server, member, (configured.offers_iff advertised member c).mpr offered⟩

/-- The files of a balancer, a provider and a client. Their lines are in different orders. -/
def oneForAll : String → Option String
  | "balancer.txt" => some "balancerAddress=b:1\nversion=2\n"
  | "provider.txt" => some "version=2\nproviderAddress=p:1\nbalancerAddress=b:1"
  | "client.txt" => some "port=1\nbalancerAddress=b:1\nversion=2"
  | _ => none

def smallCloud : Configured Unit Unit stoi 0 oneForAll "balancerAddress=b:1\nversion=2" where
  balancer := ⟨⟨"b:1", 1000, "", "", ""⟩, ⟨"b:1", .insecure⟩⟩
  provider _ := ⟨⟨"p:1", "b:1", 1000, 2, "", "", ""⟩, false, ⟨"b:1", .insecure⟩,
    ⟨"p:1", .insecure⟩⟩
  client _ := ⟨"b:1", 2, "", "", ""⟩
  services _ := ["MeshCut"]
  balancerFile := "balancer.txt"
  providerFile _ := "provider.txt"
  clientFile _ := "client.txt"
  balancerStarted := by decide
  providerStarted _ := by decide
  clientParsed _ := by decide
  balancerSame := ⟨_, rfl, by unfold SameSettings; decide⟩
  providerSame _ := ⟨_, rfl, by unfold SameSettings; decide⟩
  clientSame _ := ⟨_, rfl, by unfold SameSettings; decide⟩

/-- The provider registers a service and connects to the balancer, and the client asks. -/
def smallRun : List (Cloud.Label Unit Unit Int32 Int) :=
  [.register () (.modelsToModels ⟨⟨⟨"MeshCut", [], [], []⟩, []⟩, id⟩), .session (.call () 0 []),
    .session (.process () 1000), .ask ()]

theorem configured_lookup_small :
    ∃ providerAddress, (Cloud.after smallCloud.establisher smallCloud.spec
      smallCloud.heartBeatRate (smallRun ++ .list () 0 Cloud.drawFront ::
        [.session (.sweep 1000)] ++ [.receive ()])).clients () = .connected providerAddress :=
  (smallCloud.configured_lookup
    (show (Cloud.after smallCloud.establisher smallCloud.spec smallCloud.heartBeatRate
      smallRun).clients () = .asking ⟨2, ["MeshCut"]⟩ by decide)
    (by decide) 0 Cloud.drawFront).mpr (by decide)

end Configured

end Cloud3D
