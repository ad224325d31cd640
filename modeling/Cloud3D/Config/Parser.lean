import Cloud3D.Config.Text
import Cloud3D.List.Dispatch

/-!
# Configuration files

The three parsers of `FileParser` go through the lines of a file with a chain of tests
for the keys they know, and assign an output for each. `Setting` is what they have in
common: an output is taken from the last line which starts with its key.
-/

namespace Cloud3D

/-- The outputs of `parseClientConfig`, as the members of `CloudClient` start. -/
structure ClientConfig (float : Type) where
  balancerAddress : String := ""
  minVersion : float
  certFilename : String := ""
  keyFilename : String := ""
  rootFilename : String := ""
deriving DecidableEq, Repr

/-- The outputs of `parseProviderConfig`, as the members of `ServiceProvider` start. -/
structure ProviderConfig (float : Type) where
  providerAddress : String := ""
  balancerAddress : String := ""
  heartBeat : Int32 := 1000
  version : float
  certFilename : String := ""
  keyFilename : String := ""
  rootFilename : String := ""
deriving DecidableEq, Repr

/-- The outputs of `parseBalancerConfig`, as the members of `LoadBalancer` start. -/
structure BalancerConfig where
  balancerAddress : String := ""
  heartBeat : Int32 := 1000
  certFilename : String := ""
  keyFilename : String := ""
  rootFilename : String := ""
deriving DecidableEq, Repr

/-- A branch of a parser: lines starting with `key` are converted from `offset` on, and
the result is assigned. -/
structure Entry (σ : Type) where
  value : Type
  key : String
  offset : Nat
  convert : String → Except Thrown value
  put : σ → value → σ

def Entry.branch {σ : Type} (entry : Entry σ) : Dispatch.Branch Thrown σ String where
  takes line := find line entry.key == some 0
  store line out := do
    let text ← substr line entry.offset
    let value ← entry.convert text
    return entry.put out value

/-- One turn of a loop over the lines. -/
def readLine {σ : Type} (entries : List (Entry σ)) (out : σ) (line : String) : Except Thrown σ :=
  Dispatch.turn (entries.map Entry.branch) out line

namespace FileParser

variable {float : Type}

def clientEntries (stof : String → Except Thrown float) : List (Entry (ClientConfig float)) :=
  [⟨String, "balancerAddress=", 16, .ok, fun out text => { out with balancerAddress := text }⟩,
    ⟨float, "version=", 8, stof, fun out value => { out with minVersion := value }⟩,
    ⟨String, "cert=", 5, .ok, fun out text => { out with certFilename := text }⟩,
    ⟨String, "key=", 4, .ok, fun out text => { out with keyFilename := text }⟩,
    ⟨String, "root=", 5, .ok, fun out text => { out with rootFilename := text }⟩]

/-- `inputFile` is the content of the file, if it can be opened. -/
def parseClientConfig (stof : String → Except Thrown float) (inputFile : Option String)
    (out : ClientConfig float) : Except Thrown (ClientConfig float) :=
  match inputFile with
  | none => throw (.failure "File can't be opened.")
  | some text => (getlines text).foldlM (readLine (clientEntries stof)) out

/-- The test which stands in front of the chain, without an `else`. -/
def providerAddressEntry : Entry (ProviderConfig float) :=
  ⟨String, "providerAddress=", 16, .ok, fun out text => { out with providerAddress := text }⟩

def providerEntries (stof : String → Except Thrown float) :
    List (Entry (ProviderConfig float)) :=
  [⟨String, "balancerAddress=", 16, .ok, fun out text => { out with balancerAddress := text }⟩,
    ⟨Int32, "heartbeat=", 10, stoi, fun out value => { out with heartBeat := value }⟩,
    ⟨float, "version=", 8, stof, fun out value => { out with version := value }⟩,
    ⟨String, "cert=", 5, .ok, fun out text => { out with certFilename := text }⟩,
    ⟨String, "key=", 4, .ok, fun out text => { out with keyFilename := text }⟩,
    ⟨String, "root=", 5, .ok, fun out text => { out with rootFilename := text }⟩]

def parseProviderConfig (stof : String → Except Thrown float) (inputFile : Option String)
    (out : ProviderConfig float) : Except Thrown (ProviderConfig float) :=
  match inputFile with
  | none => throw (.failure "File can't be opened.")
  | some text => (getlines text).foldlM
      (fun out line => do
        let out ← readLine [providerAddressEntry] out line
        readLine (providerEntries stof) out line) out

def balancerEntries : List (Entry BalancerConfig) :=
  [⟨String, "balancerAddress=", 16, .ok, fun out text => { out with balancerAddress := text }⟩,
    ⟨Int32, "heartbeat=", 10, stoi, fun out value => { out with heartBeat := value }⟩,
    ⟨String, "cert=", 5, .ok, fun out text => { out with certFilename := text }⟩,
    ⟨String, "key=", 4, .ok, fun out text => { out with keyFilename := text }⟩,
    ⟨String, "root=", 5, .ok, fun out text => { out with rootFilename := text }⟩]

def parseBalancerConfig (inputFile : Option String) (out : BalancerConfig) :
    Except Thrown BalancerConfig :=
  match inputFile with
  | none => throw (.failure "File can't be opened.")
  | some text => (getlines text).foldlM (readLine balancerEntries) out

end FileParser

/-! ### The format -/

def startsWith (key line : String) : Bool := key.toList.isPrefixOf line.toList

/-- What stands after the key. -/
def rest (key line : String) : String := String.ofList (line.toList.drop key.toList.length)

/-- The last line with a key decides, and without one the initial value stays. -/
def Setting {β : Type} (key : String) (convert : String → Except Thrown β) (text : String)
    (initial final : β) : Prop :=
  Dispatch.LastWins (startsWith key) (fun line => convert (rest key line)) (getlines text)
    initial final

/-- All lines with a key can be converted. -/
def Convertible {β : Type} (key : String) (convert : String → Except Thrown β) (text : String) :
    Prop :=
  ∀ line ∈ getlines text, startsWith key line = true → (convert (rest key line)).isOk

/-- The offsets are the lengths of the keys, and no key is the beginning of another. -/
def WellKeyed (keys : List (String × Nat)) : Prop :=
  (∀ key ∈ keys, key.2 = key.1.toList.length) ∧
    keys.Pairwise fun key other =>
      ¬ key.1.toList <+: other.1.toList ∧ ¬ other.1.toList <+: key.1.toList

instance instDecidableWellKeyed (keys : List (String × Nat)) : Decidable (WellKeyed keys) :=
  inferInstanceAs (Decidable (_ ∧ _))

section Entries

variable {σ : Type} {entries : List (Entry σ)}

/-- The keys and offsets of a parser. -/
def keys (entries : List (Entry σ)) : List (String × Nat) :=
  entries.map fun entry => (entry.key, entry.offset)

@[simp] theorem branch_takes (entry : Entry σ) (line : String) :
    entry.branch.takes line = startsWith entry.key line := by
  rw [Bool.eq_iff_iff, startsWith, List.isPrefixOf_iff_prefix, ← find_eq_zero_iff]
  exact beq_iff_eq

theorem exclusive_of_wellKeyed (wellKeyed : WellKeyed (keys entries)) :
    Dispatch.Exclusive (entries.map Entry.branch) := by
  rw [Dispatch.Exclusive, List.pairwise_map]
  apply (List.pairwise_map.mp wellKeyed.2).imp
  intro entry other apart line takes
  rw [branch_takes, startsWith, List.isPrefixOf_iff_prefix] at takes
  rw [branch_takes, startsWith, ← Bool.not_eq_true, List.isPrefixOf_iff_prefix]
  intro takes'
  rcases List.prefix_or_prefix_of_prefix takes takes' with shorter | longer
  · exact apart.1 shorter
  · exact apart.2 longer

/-- The hand-counted offsets never leave the line. -/
theorem store_eq (wellKeyed : WellKeyed (keys entries)) {entry : Entry σ}
    (member : entry ∈ entries) {line : String} (takes : startsWith entry.key line = true)
    (out : σ) :
    entry.branch.store line out =
      (entry.convert (rest entry.key line)).map (entry.put out) := by
  have counted : entry.offset = entry.key.toList.length :=
    wellKeyed.1 (entry.key, entry.offset) (List.mem_map.mpr ⟨entry, member, rfl⟩)
  have inside := (List.isPrefixOf_iff_prefix.mp takes).length_le
  rw [Entry.branch]
  simp only [counted, substr_eq_ok inside, rest, bind, Except.bind, pure, Except.pure]
  cases entry.convert (String.ofList (line.toList.drop entry.key.toList.length)) <;> rfl

/-- A line with a known key is converted and assigned. -/
theorem readLine_of_takes (wellKeyed : WellKeyed (keys entries)) {entry : Entry σ}
    (member : entry ∈ entries) {line : String} (takes : startsWith entry.key line = true)
    (out : σ) :
    readLine entries out line =
      (entry.convert (rest entry.key line)).map (entry.put out) := by
  have branch : entry.branch ∈ entries.map Entry.branch := List.mem_map.mpr ⟨entry, member, rfl⟩
  rw [readLine, Dispatch.turn_of_takes (exclusive_of_wellKeyed wellKeyed) branch
    (by rwa [branch_takes]), store_eq wellKeyed member takes]

theorem readLine_eq_ok (wellKeyed : WellKeyed (keys entries)) {entry : Entry σ}
    (member : entry ∈ entries) {line : String} (takes : startsWith entry.key line = true)
    {out next : σ} (turned : readLine entries out line = .ok next) :
    ∃ value, entry.convert (rest entry.key line) = .ok value ∧ next = entry.put out value := by
  rw [readLine_of_takes wellKeyed member takes] at turned
  cases converted : entry.convert (rest entry.key line) with
  | error thrown =>
      rw [converted] at turned
      cases turned
  | ok value =>
      rw [converted] at turned
      exact ⟨value, rfl, (Except.ok.inj turned).symm⟩

/-- A line that no key begins is skipped. -/
theorem readLine_of_unknown {line : String}
    (unknown : ∀ entry ∈ entries, startsWith entry.key line = false) (out : σ) :
    readLine entries out line = .ok out := by
  apply Dispatch.turn_of_forall_not
  exact List.forall_mem_map.mpr fun entry member => by rw [branch_takes, unknown entry member]

/-- A parser returns normally when all the lines that it knows can be converted. -/
theorem foldlM_readLine_isOk_iff (wellKeyed : WellKeyed (keys entries)) (out : σ)
    (lines : List String) :
    (lines.foldlM (readLine entries) out).isOk ↔
      ∀ line ∈ lines, ∀ entry ∈ entries, startsWith entry.key line = true →
        (entry.convert (rest entry.key line)).isOk := by
  apply Dispatch.foldlM_isOk_iff
  intro out line
  rw [readLine, Dispatch.turn_isOk_iff (exclusive_of_wellKeyed wellKeyed), List.forall_mem_map]
  refine forall₂_congr fun entry member => ?_
  rw [branch_takes]
  refine imp_congr_right fun takes => ?_
  rw [store_eq wellKeyed member takes]
  cases entry.convert (rest entry.key line) <;> rfl

/-- The output of an entry is a setting, if no other entry writes to it. -/
theorem setting_of_foldlM (wellKeyed : WellKeyed (keys entries)) (n : Nat) {entry : Entry σ}
    (found : entries[n]? = some entry) (get : σ → entry.value)
    (sets : ∀ out value, get (entry.put out value) = value)
    (keeps : ∀ other ∈ entries, other.key = entry.key ∨
      ∀ out value, get (other.put out value) = get out)
    {text : String} {out final : σ}
    (ran : (getlines text).foldlM (readLine entries) out = .ok final) :
    Setting entry.key entry.convert text (get out) (get final) := by
  have member := List.mem_of_getElem? found
  apply Dispatch.lastWins_of_foldlM _ _ ran
  · intro out line next takes turned
    obtain ⟨value, converted, rfl⟩ := readLine_eq_ok wellKeyed member takes turned
    rw [converted, sets]
  · intro out line next skips turned
    by_cases unknown : ∀ other ∈ entries, startsWith other.key line = false
    · rw [readLine_of_unknown unknown] at turned
      rw [Except.ok.inj turned]
    · obtain ⟨other, inside, takes⟩ : ∃ other ∈ entries, startsWith other.key line = true := by
        simpa using unknown
      obtain ⟨value, _, rfl⟩ := readLine_eq_ok wellKeyed inside takes turned
      cases keeps other inside with
      | inl same =>
          rw [same, skips] at takes
          cases takes
      | inr keeps => exact keeps out value

end Entries

end Cloud3D
