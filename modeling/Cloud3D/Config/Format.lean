import Cloud3D.Config.Parser

/-!
# One format for three parsers

Each parser returns normally exactly when the lines with its numeric keys can be
converted, and then every output is the setting of its key. The missing `else` of
`parseProviderConfig` makes no difference, because no line starts with two keys.
-/

namespace Cloud3D

variable {float : Type}

namespace FileParser

theorem wellKeyed_client (stof : String → Except Thrown float) :
    WellKeyed (keys (clientEntries stof)) :=
  (by decide : WellKeyed [("balancerAddress=", 16), ("version=", 8), ("cert=", 5), ("key=", 4),
    ("root=", 5)])

theorem wellKeyed_provider (stof : String → Except Thrown float) :
    WellKeyed (keys (providerAddressEntry :: providerEntries stof)) :=
  (by decide : WellKeyed [("providerAddress=", 16), ("balancerAddress=", 16),
    ("heartbeat=", 10), ("version=", 8), ("cert=", 5), ("key=", 4), ("root=", 5)])

theorem wellKeyed_balancer : WellKeyed (keys balancerEntries) := by decide

/-- The loop of `parseProviderConfig` is one chain. -/
theorem parseProviderConfig_eq (stof : String → Except Thrown float) (text : String)
    (out : ProviderConfig float) :
    parseProviderConfig stof (some text) out =
      (getlines text).foldlM (readLine (providerAddressEntry :: providerEntries stof)) out := by
  have turns : (fun (out : ProviderConfig float) line => do
      let out ← readLine [providerAddressEntry] out line
      readLine (providerEntries stof) out line) =
      readLine (providerAddressEntry :: providerEntries stof) := by
    funext out line
    have exclusive : Dispatch.Exclusive
        ([providerAddressEntry.branch] ++ (providerEntries stof).map Entry.branch) :=
      exclusive_of_wellKeyed (wellKeyed_provider stof)
    exact (Dispatch.turn_append exclusive out line).symm
  rw [parseProviderConfig, turns]

/-! ### Which texts are accepted -/

theorem parseClientConfig_isOk_iff (stof : String → Except Thrown float) (text : String)
    (out : ClientConfig float) :
    (parseClientConfig stof (some text) out).isOk ↔ Convertible "version=" stof text := by
  rw [parseClientConfig, foldlM_readLine_isOk_iff (wellKeyed_client stof)]
  refine forall₂_congr fun line _ => ?_
  simp only [clientEntries, List.forall_mem_cons, Dispatch.isOk_ok, implies_true, true_and,
    List.not_mem_nil, IsEmpty.forall_iff, and_true]

theorem parseProviderConfig_isOk_iff (stof : String → Except Thrown float) (text : String)
    (out : ProviderConfig float) :
    (parseProviderConfig stof (some text) out).isOk ↔
      Convertible "version=" stof text ∧ Convertible "heartbeat=" stoi text := by
  rw [parseProviderConfig_eq, foldlM_readLine_isOk_iff (wellKeyed_provider stof), Convertible,
    Convertible, ← forall₂_and]
  refine forall₂_congr fun line _ => ?_
  simp only [providerAddressEntry, providerEntries, List.forall_mem_cons, Dispatch.isOk_ok,
    implies_true, true_and, List.not_mem_nil, IsEmpty.forall_iff, and_true]
  exact and_comm

theorem parseBalancerConfig_isOk_iff (text : String) (out : BalancerConfig) :
    (parseBalancerConfig (some text) out).isOk ↔ Convertible "heartbeat=" stoi text := by
  rw [parseBalancerConfig, foldlM_readLine_isOk_iff wellKeyed_balancer]
  refine forall₂_congr fun line _ => ?_
  simp only [balancerEntries, List.forall_mem_cons, Dispatch.isOk_ok, implies_true, true_and,
    List.not_mem_nil, IsEmpty.forall_iff, and_true]

end FileParser

/-! ### What the outputs are -/

/-- The outputs which all three parsers have. -/
@[ext] structure CommonConfig where
  balancerAddress : String
  certFilename : String
  keyFilename : String
  rootFilename : String

def ClientConfig.common (config : ClientConfig float) : CommonConfig :=
  ⟨config.balancerAddress, config.certFilename, config.keyFilename, config.rootFilename⟩

def ProviderConfig.common (config : ProviderConfig float) : CommonConfig :=
  ⟨config.balancerAddress, config.certFilename, config.keyFilename, config.rootFilename⟩

def BalancerConfig.common (config : BalancerConfig) : CommonConfig :=
  ⟨config.balancerAddress, config.certFilename, config.keyFilename, config.rootFilename⟩

structure CommonRead (text : String) (initial final : CommonConfig) : Prop where
  balancerAddress : Setting "balancerAddress=" .ok text initial.balancerAddress
    final.balancerAddress
  certFilename : Setting "cert=" .ok text initial.certFilename final.certFilename
  keyFilename : Setting "key=" .ok text initial.keyFilename final.keyFilename
  rootFilename : Setting "root=" .ok text initial.rootFilename final.rootFilename

/-- A text leaves no choice for what is read from it. -/
theorem CommonRead.unique {text : String} {initial final final' : CommonConfig}
    (read : CommonRead text initial final) (read' : CommonRead text initial final') :
    final = final' :=
  CommonConfig.ext (read.balancerAddress.unique read'.balancerAddress)
    (read.certFilename.unique read'.certFilename) (read.keyFilename.unique read'.keyFilename)
    (read.rootFilename.unique read'.rootFilename)

structure ClientRead (stof : String → Except Thrown float) (text : String)
    (initial final : ClientConfig float) : Prop where
  common : CommonRead text initial.common final.common
  minVersion : Setting "version=" stof text initial.minVersion final.minVersion

structure ProviderRead (stof : String → Except Thrown float) (text : String)
    (initial final : ProviderConfig float) : Prop where
  common : CommonRead text initial.common final.common
  providerAddress : Setting "providerAddress=" .ok text initial.providerAddress
    final.providerAddress
  heartBeat : Setting "heartbeat=" stoi text initial.heartBeat final.heartBeat
  version : Setting "version=" stof text initial.version final.version

structure BalancerRead (text : String) (initial final : BalancerConfig) : Prop where
  common : CommonRead text initial.common final.common
  heartBeat : Setting "heartbeat=" stoi text initial.heartBeat final.heartBeat

namespace FileParser

theorem parseClientConfig_read {stof : String → Except Thrown float} {text : String}
    {initial final : ClientConfig float}
    (parsed : parseClientConfig stof (some text) initial = .ok final) :
    ClientRead stof text initial final := by
  have reads := @setting_of_foldlM _ _ (wellKeyed_client stof)
  refine ⟨⟨?_, ?_, ?_, ?_⟩, ?_⟩
  · apply reads 0 rfl (fun config => config.balancerAddress) (fun _ _ => rfl) _ parsed
    simp [clientEntries]
  · apply reads 2 rfl (fun config => config.certFilename) (fun _ _ => rfl) _ parsed
    simp [clientEntries]
  · apply reads 3 rfl (fun config => config.keyFilename) (fun _ _ => rfl) _ parsed
    simp [clientEntries]
  · apply reads 4 rfl (fun config => config.rootFilename) (fun _ _ => rfl) _ parsed
    simp [clientEntries]
  · apply reads 1 rfl (fun config => config.minVersion) (fun _ _ => rfl) _ parsed
    simp [clientEntries]

theorem parseProviderConfig_read {stof : String → Except Thrown float} {text : String}
    {initial final : ProviderConfig float}
    (parsed : parseProviderConfig stof (some text) initial = .ok final) :
    ProviderRead stof text initial final := by
  rw [parseProviderConfig_eq] at parsed
  have reads := @setting_of_foldlM _ _ (wellKeyed_provider stof)
  refine ⟨⟨?_, ?_, ?_, ?_⟩, ?_, ?_, ?_⟩
  · apply reads 1 rfl (fun config => config.balancerAddress) (fun _ _ => rfl) _ parsed
    simp [providerAddressEntry, providerEntries]
  · apply reads 4 rfl (fun config => config.certFilename) (fun _ _ => rfl) _ parsed
    simp [providerAddressEntry, providerEntries]
  · apply reads 5 rfl (fun config => config.keyFilename) (fun _ _ => rfl) _ parsed
    simp [providerAddressEntry, providerEntries]
  · apply reads 6 rfl (fun config => config.rootFilename) (fun _ _ => rfl) _ parsed
    simp [providerAddressEntry, providerEntries]
  · apply reads 0 rfl (fun config => config.providerAddress) (fun _ _ => rfl) _ parsed
    simp [providerAddressEntry, providerEntries]
  · apply reads 2 rfl (fun config => config.heartBeat) (fun _ _ => rfl) _ parsed
    simp [providerAddressEntry, providerEntries]
  · apply reads 3 rfl (fun config => config.version) (fun _ _ => rfl) _ parsed
    simp [providerAddressEntry, providerEntries]

theorem parseBalancerConfig_read {text : String} {initial final : BalancerConfig}
    (parsed : parseBalancerConfig (some text) initial = .ok final) :
    BalancerRead text initial final := by
  have reads := @setting_of_foldlM _ _ wellKeyed_balancer
  refine ⟨⟨?_, ?_, ?_, ?_⟩, ?_⟩
  · apply reads 0 rfl (fun config => config.balancerAddress) (fun _ _ => rfl) _ parsed
    simp [balancerEntries]
  · apply reads 2 rfl (fun config => config.certFilename) (fun _ _ => rfl) _ parsed
    simp [balancerEntries]
  · apply reads 3 rfl (fun config => config.keyFilename) (fun _ _ => rfl) _ parsed
    simp [balancerEntries]
  · apply reads 4 rfl (fun config => config.rootFilename) (fun _ _ => rfl) _ parsed
    simp [balancerEntries]
  · apply reads 1 rfl (fun config => config.heartBeat) (fun _ _ => rfl) _ parsed
    simp [balancerEntries]

end FileParser

end Cloud3D
