import Cloud3D.Config.Format

/-!
# Transport of a configured component

Client, provider and balancer are started from a configuration file. Each uses TLS when
all three credential files are named, and plaintext otherwise; `FileParser::read` takes
the contents of a file, and leaves its output as it is if the file cannot be opened. The
file system is a partial map from names to contents.
-/

namespace Cloud3D

inductive Credentials where
  | insecure
  | ssl (root key cert : String)
deriving DecidableEq, Repr

/-- `FileParser::read`. -/
def FileParser.read (files : String → Option String) (filename data : String) : String :=
  (files filename).getD data

/-- The test by which all three components choose. -/
def CommonConfig.usesSSL (config : CommonConfig) : Bool :=
  !config.certFilename.isEmpty && !config.keyFilename.isEmpty && !config.rootFilename.isEmpty

/-- The credentials of all three `initWithSSL`. -/
def sslCredentials (files : String → Option String) (config : CommonConfig) : Credentials :=
  let cert := FileParser.read files config.certFilename ""
  let key := FileParser.read files config.keyFilename ""
  let root := FileParser.read files config.rootFilename ""
  .ssl root key cert

/-- A channel or a listening port. -/
structure Endpoint where
  address : String
  credentials : Credentials
deriving DecidableEq, Repr

variable {float : Type}

/-! ### The client -/

/-- A client that has found a provider. -/
structure ConnectedClient (float : Type) where
  config : ClientConfig float
  balancerChannel : Endpoint
  providerChannel : Endpoint
deriving DecidableEq, Repr

namespace CloudClient

section

variable (getServer : float → List String → Endpoint → String) (services : List String)
  (config : ClientConfig float)

/-- Both `init` and `initWithSSL`, once the credentials are there. `getServer` is what the
balancer answers over a channel. Without a provider the code is 1. -/
def connect (credentials : Credentials) : Option (ConnectedClient float) :=
  let balancerChannel : Endpoint := ⟨config.balancerAddress, credentials⟩
  let providerAddress := getServer config.minVersion services balancerChannel
  if providerAddress.isEmpty then none
  else some ⟨config, balancerChannel, ⟨providerAddress, credentials⟩⟩

def init : Option (ConnectedClient float) := connect getServer services config .insecure

def initWithSSL (files : String → Option String) : Option (ConnectedClient float) :=
  connect getServer services config (sslCredentials files config.common)

end

/-- The constructor of a client from a configuration file. The members start from the
defaults of the class, `zero` for the version. -/
def start (stof : String → Except Thrown float) (zero : float) (files : String → Option String)
    (getServer : float → List String → Endpoint → String) (configFile : String)
    (services : List String) : Except Thrown (ConnectedClient float) := do
  let config ← FileParser.parseClientConfig stof (files configFile) { minVersion := zero }
  if config.balancerAddress.isEmpty then
    throw (.invalidArgument "Address of LoadBalancer not defined in config.")
  let connected :=
    if config.common.usesSSL then initWithSSL getServer services config files
    else init getServer services config
  match connected with
  | some client => return client
  | none => throw (.invalidArgument "Requested provider doesn't exist.")

end CloudClient

/-! ### The provider -/

/-- A provider that has been set up. -/
structure StartedProvider (float : Type) where
  config : ProviderConfig float
  isUsingAuthentication : Bool
  balancerChannel : Endpoint
  listeningPort : Endpoint
deriving DecidableEq, Repr

namespace ServiceProvider

/-- The channel to the balancer and the listening port. -/
def init (config : ProviderConfig float) : Endpoint × Endpoint :=
  (⟨config.balancerAddress, .insecure⟩, ⟨config.providerAddress, .insecure⟩)

def initWithSSL (files : String → Option String) (config : ProviderConfig float) :
    Endpoint × Endpoint :=
  let credentials := sslCredentials files config.common
  (⟨config.balancerAddress, credentials⟩, ⟨config.providerAddress, credentials⟩)

/-- The constructor of a provider from a configuration file. -/
def start (stof : String → Except Thrown float) (zero : float) (files : String → Option String)
    (inputFile : String) : Except Thrown (StartedProvider float) := do
  let config ← FileParser.parseProviderConfig stof (files inputFile) { version := zero }
  if config.balancerAddress.isEmpty || config.providerAddress.isEmpty then
    throw (.invalidArgument
      "Address of Load Balancer or Service Provider not defined in config.")
  if config.common.usesSSL then
    let (balancerChannel, listeningPort) := initWithSSL files config
    return ⟨config, true, balancerChannel, listeningPort⟩
  else
    let (balancerChannel, listeningPort) := init config
    return ⟨config, false, balancerChannel, listeningPort⟩

end ServiceProvider

/-! ### The balancer -/

/-- A balancer that runs. -/
structure RunningBalancer where
  config : BalancerConfig
  listeningPort : Endpoint
deriving DecidableEq, Repr

namespace LoadBalancer

/-- The constructor of a balancer from a configuration file. -/
def create (files : String → Option String) (configFile : String) :
    Except Thrown BalancerConfig := do
  let config ← FileParser.parseBalancerConfig (files configFile) {}
  if config.balancerAddress.isEmpty then
    throw (.invalidArgument "Address of LoadBalancer not defined in config.")
  return config

def init (config : BalancerConfig) : Endpoint := ⟨config.balancerAddress, .insecure⟩

def initWithSSL (files : String → Option String) (config : BalancerConfig) : Endpoint :=
  ⟨config.balancerAddress, sslCredentials files config.common⟩

def run (files : String → Option String) (config : BalancerConfig) : RunningBalancer :=
  ⟨config, if config.common.usesSSL then initWithSSL files config else init config⟩

/-- A balancer that is constructed and run. -/
def start (files : String → Option String) (configFile : String) :
    Except Thrown RunningBalancer := do
  let config ← create files configFile
  return run files config

end LoadBalancer

/-! ### What the names of the files decide -/

/-- The credentials which a configuration selects. -/
def transport (files : String → Option String) (config : CommonConfig) : Credentials :=
  if config.usesSSL then sslCredentials files config else .insecure

theorem usesSSL_iff (config : CommonConfig) :
    config.usesSSL = true ↔
      config.certFilename ≠ "" ∧ config.keyFilename ≠ "" ∧ config.rootFilename ≠ "" := by
  simp [CommonConfig.usesSSL, and_assoc]

/-- Plaintext is used exactly when a name is missing; if no name is missing and all files
can be read, the credentials are their contents. -/
structure Secured (files : String → Option String) (config : CommonConfig)
    (credentials : Credentials) : Prop where
  insecure_iff : credentials = .insecure ↔
    config.certFilename = "" ∨ config.keyFilename = "" ∨ config.rootFilename = ""
  contents : config.certFilename ≠ "" → config.keyFilename ≠ "" → config.rootFilename ≠ "" →
    ∀ cert key root, files config.certFilename = some cert →
      files config.keyFilename = some key → files config.rootFilename = some root →
        credentials = .ssl root key cert

theorem secured_transport (files : String → Option String) (config : CommonConfig) :
    Secured files config (transport files config) := by
  have named := usesSSL_iff config
  rw [transport]
  cases uses : config.usesSSL with
  | true =>
      obtain ⟨cert_named, key_named, root_named⟩ := named.mp uses
      refine ⟨?_, ?_⟩
      · simp [sslCredentials, cert_named, key_named, root_named]
      · intro _ _ _ cert key root read_cert read_key read_root
        simp [sslCredentials, FileParser.read, read_cert, read_key, read_root]
  | false =>
      rw [uses] at named
      refine ⟨?_, ?_⟩
      · have missing : config.certFilename = "" ∨ config.keyFilename = "" ∨
            config.rootFilename = "" := by
          by_contra complete
          simp only [not_or] at complete
          exact absurd (named.mpr complete) (by simp)
        simp [missing]
      · intro cert_named key_named root_named
        exact absurd (named.mpr ⟨cert_named, key_named, root_named⟩) (by simp)

namespace CloudClient

/-- A client that connects uses the credentials for both of its channels. -/
theorem connect_eq_some {getServer : float → List String → Endpoint → String}
    {services : List String} {config : ClientConfig float} {credentials : Credentials}
    {client : ConnectedClient float}
    (connected : connect getServer services config credentials = some client) :
    client.config = config ∧ client.balancerChannel.credentials = credentials ∧
      client.providerChannel.credentials = credentials := by
  rw [connect] at connected
  split at connected
  · cases connected
  · cases connected
    exact ⟨rfl, rfl, rfl⟩

/-- A client that starts has parsed its file and uses the selected transport. -/
theorem start_eq_ok {stof : String → Except Thrown float} {zero : float}
    {files : String → Option String} {getServer : float → List String → Endpoint → String}
    {configFile : String} {services : List String} {client : ConnectedClient float}
    (started : start stof zero files getServer configFile services = .ok client) :
    FileParser.parseClientConfig stof (files configFile) { minVersion := zero } =
        .ok client.config ∧
      client.balancerChannel.credentials = transport files client.config.common ∧
      client.providerChannel.credentials = transport files client.config.common := by
  obtain ⟨config, parsed, checked⟩ := Dispatch.bind_eq_ok_iff.mp started
  have chosen : (if config.common.usesSSL then initWithSSL getServer services config files
      else init getServer services config) =
      connect getServer services config (transport files config.common) := by
    rw [transport]
    split <;> rfl
  simp only [chosen] at checked
  split at checked
  · cases checked
  · split at checked
    · next client' connected =>
        obtain rfl : client' = client := Except.ok.inj checked
        obtain ⟨rfl, balancer, provider⟩ := connect_eq_some connected
        exact ⟨parsed, balancer, provider⟩
    · cases checked

end CloudClient

theorem ServiceProvider.start_eq_ok {stof : String → Except Thrown float} {zero : float}
    {files : String → Option String} {inputFile : String} {provider : StartedProvider float}
    (started : ServiceProvider.start stof zero files inputFile = .ok provider) :
    FileParser.parseProviderConfig stof (files inputFile) { version := zero } =
        .ok provider.config ∧
      provider.isUsingAuthentication = provider.config.common.usesSSL ∧
      provider.balancerChannel.credentials = transport files provider.config.common ∧
      provider.listeningPort.credentials = transport files provider.config.common := by
  obtain ⟨config, parsed, checked⟩ := Dispatch.bind_eq_ok_iff.mp started
  simp only [bind, Except.bind] at checked
  split at checked
  · cases checked
  · split at checked
    · next uses =>
        cases checked
        exact ⟨parsed, uses.symm, (if_pos uses).symm, (if_pos uses).symm⟩
    · next plain =>
        cases checked
        exact ⟨parsed, (Bool.eq_false_of_not_eq_true plain).symm, (if_neg plain).symm,
          (if_neg plain).symm⟩

namespace LoadBalancer

theorem create_eq_ok {files : String → Option String} {configFile : String}
    {config : BalancerConfig} (created : create files configFile = .ok config) :
    FileParser.parseBalancerConfig (files configFile) {} = .ok config := by
  obtain ⟨config', parsed, checked⟩ := Dispatch.bind_eq_ok_iff.mp created
  split at checked
  · cases checked
  · cases checked
    exact parsed

theorem start_eq_ok {files : String → Option String} {configFile : String}
    {balancer : RunningBalancer} (started : start files configFile = .ok balancer) :
    FileParser.parseBalancerConfig (files configFile) {} = .ok balancer.config ∧
      balancer.listeningPort.credentials = transport files balancer.config.common := by
  obtain ⟨config, created, ran⟩ := Dispatch.bind_eq_ok_iff.mp started
  obtain rfl : run files config = balancer := Except.ok.inj ran
  refine ⟨create_eq_ok created, ?_⟩
  cases uses : config.common.usesSSL with
  | true => simp [run, transport, uses, initWithSSL]
  | false => simp [run, transport, uses, init]

end LoadBalancer

/-! ### The components together -/

/-- The three parsers accept a text when its numeric lines convert, and then read every
key as its last line has it. From the defaults of the classes, the components agree on
all outputs which they share, and on the transport. -/
theorem parsers_agree (stof : String → Except Thrown float) (text : String) :
    (∀ initial : ClientConfig float,
      ((FileParser.parseClientConfig stof (some text) initial).isOk ↔
        Convertible "version=" stof text) ∧
      ∀ final, FileParser.parseClientConfig stof (some text) initial = .ok final →
        ClientRead stof text initial final) ∧
    (∀ initial : ProviderConfig float,
      ((FileParser.parseProviderConfig stof (some text) initial).isOk ↔
        Convertible "version=" stof text ∧ Convertible "heartbeat=" stoi text) ∧
      ∀ final, FileParser.parseProviderConfig stof (some text) initial = .ok final →
        ProviderRead stof text initial final) ∧
    (∀ initial : BalancerConfig,
      ((FileParser.parseBalancerConfig (some text) initial).isOk ↔
        Convertible "heartbeat=" stoi text) ∧
      ∀ final, FileParser.parseBalancerConfig (some text) initial = .ok final →
        BalancerRead text initial final) ∧
    (∀ (zero : float) client provider balancer,
      FileParser.parseClientConfig stof (some text) { minVersion := zero } = .ok client →
      FileParser.parseProviderConfig stof (some text) { version := zero } = .ok provider →
      FileParser.parseBalancerConfig (some text) {} = .ok balancer →
        client.common = provider.common ∧ provider.common = balancer.common ∧
        client.minVersion = provider.version ∧ provider.heartBeat = balancer.heartBeat ∧
        client.common.usesSSL = provider.common.usesSSL ∧
        provider.common.usesSSL = balancer.common.usesSSL) := by
  refine ⟨fun initial => ⟨?_, ?_⟩, fun initial => ⟨?_, ?_⟩, fun initial => ⟨?_, ?_⟩, ?_⟩
  · exact FileParser.parseClientConfig_isOk_iff stof text initial
  · exact fun final parsed => FileParser.parseClientConfig_read parsed
  · exact FileParser.parseProviderConfig_isOk_iff stof text initial
  · exact fun final parsed => FileParser.parseProviderConfig_read parsed
  · exact FileParser.parseBalancerConfig_isOk_iff text initial
  · exact fun final parsed => FileParser.parseBalancerConfig_read parsed
  · intro zero client provider balancer parsed parsed' parsed''
    have read := FileParser.parseClientConfig_read parsed
    have read' := FileParser.parseProviderConfig_read parsed'
    have read'' := FileParser.parseBalancerConfig_read parsed''
    have same : client.common = provider.common := read.common.unique read'.common
    have same' : provider.common = balancer.common := read'.common.unique read''.common
    refine ⟨same, same', read.minVersion.unique read'.version,
      read'.heartBeat.unique read''.heartBeat, ?_, ?_⟩
    · rw [same]
    · rw [same']

/-- A configuration with repeated keys in another order, and a line that no one knows. -/
def repeatedKeys : String :=
  "cert=old\nheartbeat=5\nversion=2\nport=1\nheartbeat= 250 ms\nbalancerAddress=b:1\ncert=new"

/-- A number of digits, as `std::stof` reads it. -/
def wholeNumber (text : String) : Except Thrown Int := (stoi text).map Int32.toInt

theorem parsers_agree_repeated :
    ∃ provider balancer,
      FileParser.parseProviderConfig wholeNumber (some repeatedKeys) { version := 0 } =
        .ok provider ∧
      FileParser.parseBalancerConfig (some repeatedKeys) {} = .ok balancer ∧
      provider.common = balancer.common ∧ provider.heartBeat = balancer.heartBeat := by
  have client : FileParser.parseClientConfig wholeNumber (some repeatedKeys)
      { minVersion := 0 } = .ok ⟨"b:1", 2, "new", "", ""⟩ := by decide
  have provider : FileParser.parseProviderConfig wholeNumber (some repeatedKeys)
      { version := 0 } = .ok ⟨"", "b:1", 250, 2, "new", "", ""⟩ := by decide
  have balancer : FileParser.parseBalancerConfig (some repeatedKeys) {} =
      .ok ⟨"b:1", 250, "new", "", ""⟩ := by decide
  have agree := (parsers_agree wholeNumber repeatedKeys).2.2.2 0 _ _ _ client provider balancer
  exact ⟨_, _, provider, balancer, agree.2.1, agree.2.2.2.1⟩

/-- A component that starts has read its configuration, and then uses plaintext exactly
when one of the three credential files is not named. If all are named and can be read,
its credentials are their contents. -/
theorem started_secured (stof : String → Except Thrown float) (zero : float)
    (files : String → Option String) (configFile : String) :
    (∀ getServer services client,
      CloudClient.start stof zero files getServer configFile services = .ok client →
        FileParser.parseClientConfig stof (files configFile) { minVersion := zero } =
          .ok client.config ∧
        Secured files client.config.common client.balancerChannel.credentials ∧
        Secured files client.config.common client.providerChannel.credentials) ∧
    (∀ provider, ServiceProvider.start stof zero files configFile = .ok provider →
      FileParser.parseProviderConfig stof (files configFile) { version := zero } =
        .ok provider.config ∧
      Secured files provider.config.common provider.balancerChannel.credentials ∧
      Secured files provider.config.common provider.listeningPort.credentials) ∧
    (∀ balancer, LoadBalancer.start files configFile = .ok balancer →
      FileParser.parseBalancerConfig (files configFile) {} = .ok balancer.config ∧
      Secured files balancer.config.common balancer.listeningPort.credentials) := by
  refine ⟨?_, ?_, ?_⟩
  · intro getServer services client started
    obtain ⟨parsed, balancer, provider⟩ := CloudClient.start_eq_ok started
    rw [balancer, provider]
    exact ⟨parsed, secured_transport files _, secured_transport files _⟩
  · intro provider started
    obtain ⟨parsed, -, balancer, listening⟩ := ServiceProvider.start_eq_ok started
    rw [balancer, listening]
    exact ⟨parsed, secured_transport files _, secured_transport files _⟩
  · intro balancer started
    obtain ⟨parsed, listening⟩ := LoadBalancer.start_eq_ok started
    rw [listening]
    exact ⟨parsed, secured_transport files _⟩

/-- A file system with three credential files, and configurations that name some of them. -/
def credentialFiles : String → Option String
  | "full.txt" =>
      some "balancerAddress=b:1\nproviderAddress=p:1\ncert=c.pem\nkey=k.pem\nroot=r.pem"
  | "partial.txt" => some "balancerAddress=b:1\nproviderAddress=p:1\ncert=c.pem\nkey=k.pem"
  | "c.pem" => some "CERTIFICATE"
  | "k.pem" => some "KEY"
  | "r.pem" => some "ROOT"
  | _ => none

theorem started_secured_full :
    (LoadBalancer.start credentialFiles "full.txt").map RunningBalancer.listeningPort =
      .ok ⟨"b:1", .ssl "ROOT" "KEY" "CERTIFICATE"⟩ := by
  have started : LoadBalancer.start credentialFiles "full.txt" =
      .ok ⟨⟨"b:1", 1000, "c.pem", "k.pem", "r.pem"⟩,
        ⟨"b:1", .ssl "ROOT" "KEY" "CERTIFICATE"⟩⟩ := by decide
  obtain ⟨-, secured⟩ := (started_secured wholeNumber 0 credentialFiles "full.txt").2.2 _ started
  rw [started]
  have contents := secured.contents (by decide) (by decide) (by decide) "CERTIFICATE" "KEY" "ROOT"
    rfl rfl rfl
  exact congrArg (fun credentials => Except.ok (Endpoint.mk "b:1" credentials)) contents

/-- Certificate and key are named, but no root: all three components use plaintext. -/
theorem partially_named_is_plaintext :
    (CloudClient.start wholeNumber 0 credentialFiles (fun _ _ _ => "p:1") "partial.txt" []).map
        ConnectedClient.providerChannel = .ok ⟨"p:1", .insecure⟩ ∧
      (ServiceProvider.start wholeNumber 0 credentialFiles "partial.txt").map
        StartedProvider.listeningPort = .ok ⟨"p:1", .insecure⟩ ∧
      (LoadBalancer.start credentialFiles "partial.txt").map
        RunningBalancer.listeningPort = .ok ⟨"b:1", .insecure⟩ := by
  refine ⟨?_, ?_, ?_⟩ <;> decide

end Cloud3D
