import Cloud3D.Config.Transport
import Cloud3D.Config.Written

/-!
# Components that are constructed from values

Client, provider and balancer can also be given their values. A client and a provider
which are given the names of credential files use TLS, also where a name is empty; the
balancer looks at the names when it runs. Neither constructor looks at the addresses.
-/

namespace Cloud3D

variable {float : Type}

namespace CloudClient

/-- What the constructors do after `init` and `initWithSSL`. -/
def found (connected : Option (ConnectedClient float)) : Except Thrown (ConnectedClient float) :=
  match connected with
  | some client => return client
  | none => throw (.invalidArgument "Requested provider doesn't exist.")

def create (getServer : float → List String → Endpoint → String) (balancerAddress : String)
    (minVersion : float) (services : List String) : Except Thrown (ConnectedClient float) :=
  found (init getServer services { balancerAddress, minVersion })

def createWithSSL (files : String → Option String)
    (getServer : float → List String → Endpoint → String) (balancerAddress : String)
    (minVersion : float) (services : List String)
    (certFilename keyFilename rootFilename : String) : Except Thrown (ConnectedClient float) :=
  found (initWithSSL getServer services
    { balancerAddress, minVersion, certFilename, keyFilename, rootFilename } files)

end CloudClient

namespace ServiceProvider

def create (providerAddress balancerAddress : String) (version : float) (heartBeatRate : Int32) :
    StartedProvider float :=
  let config : ProviderConfig float :=
    { providerAddress, balancerAddress, heartBeat := heartBeatRate, version }
  let (balancerChannel, listeningPort) := init config
  ⟨config, false, balancerChannel, listeningPort⟩

def createWithSSL (files : String → Option String) (providerAddress balancerAddress : String)
    (version : float) (heartBeatRate : Int32) (certFilename keyFilename rootFilename : String) :
    StartedProvider float :=
  let config : ProviderConfig float :=
    { providerAddress, balancerAddress, heartBeat := heartBeatRate, version, certFilename,
      keyFilename, rootFilename }
  let (balancerChannel, listeningPort) := initWithSSL files config
  ⟨config, true, balancerChannel, listeningPort⟩

end ServiceProvider

namespace LoadBalancer

def createPlain (balancerAddress : String) (heartBeatRate : Int32) : BalancerConfig :=
  { balancerAddress, heartBeat := heartBeatRate }

def createWithSSL (balancerAddress : String) (heartBeatRate : Int32)
    (certFilename keyFilename rootFilename : String) : BalancerConfig :=
  { balancerAddress, heartBeat := heartBeatRate, certFilename, keyFilename, rootFilename }

end LoadBalancer

section

variable {stof : String → Except Thrown float} {zero : float} {files : String → Option String}
  {file : String}

/-- A client from a file is one from the values that were read. Without TLS it also keeps
the names. -/
theorem CloudClient.start_eq {config : ClientConfig float}
    (parsed : FileParser.parseClientConfig stof (files file) { minVersion := zero } = .ok config)
    (address : config.balancerAddress ≠ "")
    (getServer : float → List String → Endpoint → String) (services : List String) :
    start stof zero files getServer file services =
      if config.common.usesSSL then
        createWithSSL files getServer config.balancerAddress config.minVersion services
          config.certFilename config.keyFilename config.rootFilename
      else
        (create getServer config.balancerAddress config.minVersion services).map
          fun client => { client with config } := by
  have named : config.balancerAddress.isEmpty = false := by simpa using address
  rw [start, parsed]
  simp only [bind, Except.bind, named]
  cases config.common.usesSSL with
  | true => rfl
  | false =>
      simp only [create, found, init, connect]
      cases (getServer config.minVersion services ⟨config.balancerAddress, .insecure⟩).isEmpty <;>
        rfl

theorem ServiceProvider.start_eq {config : ProviderConfig float}
    (parsed : FileParser.parseProviderConfig stof (files file) { version := zero } = .ok config)
    (addresses : config.balancerAddress ≠ "" ∧ config.providerAddress ≠ "") :
    start stof zero files file = .ok (
      if config.common.usesSSL then
        createWithSSL files config.providerAddress config.balancerAddress config.version
          config.heartBeat config.certFilename config.keyFilename config.rootFilename
      else
        { create config.providerAddress config.balancerAddress config.version
          config.heartBeat with config }) := by
  have named : (config.balancerAddress.isEmpty || config.providerAddress.isEmpty) = false := by
    simpa using addresses
  rw [start, parsed]
  simp only [bind, Except.bind, named]
  cases config.common.usesSSL <;> rfl

theorem LoadBalancer.start_eq {config : BalancerConfig}
    (parsed : FileParser.parseBalancerConfig (files file) {} = .ok config)
    (address : config.balancerAddress ≠ "") :
    start files file = .ok (
      if config.common.usesSSL then
        run files (createWithSSL config.balancerAddress config.heartBeat config.certFilename
          config.keyFilename config.rootFilename)
      else
        { run files (createPlain config.balancerAddress config.heartBeat) with config }) := by
  have named : config.balancerAddress.isEmpty = false := by simpa using address
  have created : LoadBalancer.create files file = .ok config := by
    rw [LoadBalancer.create, parsed]
    simp only [bind, Except.bind, named]
    rfl
  have started : start files file = .ok (run files config) := by
    rw [start, created]
    rfl
  rw [started]
  cases uses : config.common.usesSSL with
  | true => rfl
  | false =>
      have plain : run files config = ⟨config, init config⟩ := by
        rw [run, uses]
        rfl
      rw [plain]
      rfl

end

section

variable {stof : String → Except Thrown float} {ftos : float → String} {settings : Settings float}

/-- What a file says about the components that read it, if its settings are written line by
line and no address is empty: all of them are constructed from the values of the settings.
Without TLS they keep the names of the files as well. -/
theorem constructed_from_written (zero : float) (files : String → Option String) (file : String)
    (numeral : ∀ v ∈ settings.version, stof (ftos v) = .ok v)
    {lines others : List String} (single : ∀ line ∈ lines, '\n' ∉ line.toList)
    (unknown : ∀ line ∈ others, ∀ value ∈ settings.values ftos, startsWith value.1 line = false)
    (shuffled : lines.Perm (keyedLines (settings.values ftos) ++ others))
    (stored : files file = some (written lines)) :
    let client := settings.client { minVersion := zero }
    let provider := settings.provider { version := zero }
    let balancer := settings.balancer {}
    (client.balancerAddress ≠ "" → ∀ getServer services,
      CloudClient.start stof zero files getServer file services =
        if client.common.usesSSL then
          CloudClient.createWithSSL files getServer client.balancerAddress client.minVersion
            services client.certFilename client.keyFilename client.rootFilename
        else
          (CloudClient.create getServer client.balancerAddress client.minVersion services).map
            fun started => { started with config := client }) ∧
    (provider.balancerAddress ≠ "" ∧ provider.providerAddress ≠ "" →
      ServiceProvider.start stof zero files file = .ok (
        if provider.common.usesSSL then
          ServiceProvider.createWithSSL files provider.providerAddress provider.balancerAddress
            provider.version provider.heartBeat provider.certFilename provider.keyFilename
            provider.rootFilename
        else
          { ServiceProvider.create provider.providerAddress provider.balancerAddress
            provider.version provider.heartBeat with config := provider })) ∧
    (balancer.balancerAddress ≠ "" →
      LoadBalancer.start files file = .ok (
        if balancer.common.usesSSL then
          LoadBalancer.run files (LoadBalancer.createWithSSL balancer.balancerAddress
            balancer.heartBeat balancer.certFilename balancer.keyFilename balancer.rootFilename)
        else
          { LoadBalancer.run files (LoadBalancer.createPlain balancer.balancerAddress
            balancer.heartBeat) with config := balancer })) := by
  have spells : Spells (written lines) (settings.values ftos) :=
    ⟨others, unknown, by rwa [getlines_written single]⟩
  refine ⟨fun address getServer services => ?_, fun addresses => ?_, fun address => ?_⟩
  · refine CloudClient.start_eq ?_ address getServer services
    rw [stored, FileParser.parseClientConfig_of_spells spells numeral]
  · refine ServiceProvider.start_eq ?_ addresses
    rw [stored, FileParser.parseProviderConfig_of_spells spells numeral]
  · refine LoadBalancer.start_eq ?_ address
    rw [stored, FileParser.parseBalancerConfig_of_spells spells]

/-- An address and a heartbeat, for a balancer. -/
def atHome : Settings Int32 := { balancerAddress := some "b:1", heartBeat := some 500 }

theorem constructed_from_written_atHome :
    LoadBalancer.start (fun _ => some "heartbeat=500\nbalancerAddress=b:1\n") "config.txt" =
      .ok ⟨⟨"b:1", 500, "", "", ""⟩, ⟨"b:1", .insecure⟩⟩ := by
  have shuffled : ["heartbeat=500", "balancerAddress=b:1"].Perm
      (keyedLines (atHome.values itos) ++ []) := by decide
  exact (constructed_from_written 0 (fun _ => some "heartbeat=500\nbalancerAddress=b:1\n")
    "config.txt" (fun n _ => stoi_itos n) (by decide) (by decide) shuffled rfl).2.2 (by decide)

end

end Cloud3D
