import Cloud3D.Config.Format
import Mathlib.Data.List.TakeWhile
import Mathlib.Data.List.Perm.Basic

/-!
# Configurations that are written

What stands in a file does not depend on the order of its lines, as long as each key has
at most one of them; lines of no key may stand anywhere. Settings that are printed line by
line are therefore what all three parsers read back, and a value is in the reach of a
parser exactly when it fits on a line.
-/

namespace Cloud3D

/-- The text of a file with the given lines. -/
def written (lines : List String) : String :=
  String.ofList (lines.flatMap fun line => line.toList ++ ['\n'])

theorem getlines_written {lines : List String} (single : ∀ line ∈ lines, '\n' ∉ line.toList) :
    getlines (written lines) = lines := by
  have split := splitLines_join (List.forall_mem_map.mpr single) []
  rw [List.flatMap_map, List.append_nil, splitLines, List.append_nil] at split
  rw [getlines, written, String.toList_ofList, split, List.map_map]
  simp [Function.comp_def]

theorem newline_not_mem_splitLines {text line : List Char} (member : line ∈ splitLines text) :
    '\n' ∉ line := by
  induction text generalizing line with
  | nil => exact absurd member List.not_mem_nil
  | cons c text ih =>
      rw [splitLines] at member
      split at member
      · cases List.mem_cons.mp member with
        | inl empty => simp [empty]
        | inr later => exact ih later
      · next other =>
        cases delivered : splitLines text with
        | nil =>
            rw [delivered] at member
            obtain rfl := List.mem_singleton.mp member
            simpa using Ne.symm other
        | cons first lines =>
            rw [delivered] at member ih
            cases List.mem_cons.mp member with
            | inl first_line =>
                rw [first_line, List.mem_cons, not_or]
                exact ⟨Ne.symm other, ih List.mem_cons_self⟩
            | inr later => exact ih (List.mem_cons_of_mem _ later)

/-- What a parser finds after a key has no newline. -/
theorem newline_not_mem_rest {text line : String} (member : line ∈ getlines text)
    (key : String) : '\n' ∉ (rest key line).toList := by
  obtain ⟨line, delivered, rfl⟩ := List.mem_map.mp member
  rw [rest, String.toList_ofList, String.toList_ofList]
  exact fun inside => newline_not_mem_splitLines delivered (List.mem_of_mem_drop inside)

/-! ### Numerals -/

section Numerals

variable {digits : List Char}

theorem decimal_toDigits (n : Nat) : decimal (Nat.toDigits 10 n) = n :=
  Nat.ofDigitChars_eq_foldl.symm.trans Nat.ofDigitChars_ten_toDigits

theorem isSpace_eq_false_of_isDigit {c : Char} (digit : c.isDigit = true) :
    isSpace c = false := by
  have range : 48 ≤ c.toNat := by
    simp only [Char.isDigit, Bool.and_eq_true, decide_eq_true_eq] at digit
    exact digit.1
  have apart : ∀ d : Char, d.toNat < 48 → c ≠ d := by
    rintro d below rfl
    omega
  simp only [isSpace, decide_eq_false_iff_not, not_or]
  exact ⟨apart _ (by decide), apart _ (by decide), apart _ (by decide), by omega, by omega,
    apart _ (by decide)⟩

/-- `stoi` reads a row of digits in full, if the number is an `int`. -/
theorem stoi_digits (row : ∀ c ∈ digits, c.isDigit = true) (nonempty : digits ≠ [])
    (fits : decimal digits < 2 ^ 31) :
    stoi (String.ofList digits) = .ok (Int32.ofInt (decimal digits)) := by
  obtain ⟨first, others, rfl⟩ := List.exists_cons_of_ne_nil nonempty
  have digit := row first List.mem_cons_self
  have sign : ∀ c : Char, c.isDigit = false → first ≠ c := by
    rintro c no_digit rfl
    rw [digit] at no_digit
    cases no_digit
  have minus := sign '-' (by decide)
  have plus := sign '+' (by decide)
  have taken : (first :: others).takeWhile Char.isDigit = first :: others :=
    List.takeWhile_eq_self_iff.mpr row
  rw [stoi, String.toList_ofList, List.dropWhile_cons_of_neg
    (by simp [isSpace_eq_false_of_isDigit digit])]
  have head : (first :: others).head? ≠ some '-' := by simpa using minus
  simp only [head, if_false]
  split
  · next same => exact absurd (List.cons.inj same).1 minus
  · next same => exact absurd (List.cons.inj same).1 plus
  · rw [taken, if_neg (List.cons_ne_nil _ _), if_neg (by omega)]
    rfl

theorem stoi_minus (row : ∀ c ∈ digits, c.isDigit = true) (nonempty : digits ≠ [])
    (fits : decimal digits ≤ 2 ^ 31) :
    stoi (String.ofList ('-' :: digits)) = .ok (Int32.ofInt (-decimal digits)) := by
  have taken : digits.takeWhile Char.isDigit = digits := List.takeWhile_eq_self_iff.mpr row
  rw [stoi, String.toList_ofList, List.dropWhile_cons_of_neg (by decide)]
  simp only [List.head?_cons, if_true]
  rw [taken, if_neg nonempty, if_neg (by omega)]
  rfl

/-- `std::to_string` of an `int`. -/
def itos (n : Int32) : String := n.toInt.repr

/-- Every `int` that is printed is read back. -/
theorem stoi_itos (n : Int32) : stoi (itos n) = .ok n := by
  have low := n.le_toInt
  have high := n.toInt_lt
  have printed : ∀ m : Nat, ∀ c ∈ Nat.toDigits 10 m, c.isDigit = true :=
    fun m c member => Nat.isDigit_of_mem_toDigits (by decide) (by decide) member
  rw [itos]
  cases value : n.toInt with
  | ofNat m =>
      rw [value, Int.ofNat_eq_natCast] at high
      rw [Int.repr, Nat.repr_eq_ofList_toDigits,
        stoi_digits (printed m) Nat.toDigits_ne_nil (by rw [decimal_toDigits]; omega),
        decimal_toDigits, ← Int.ofNat_eq_natCast, ← value, Int32.ofInt_toInt]
  | negSucc m =>
      have positive : -((m.succ : Nat) : Int) = Int.negSucc m := rfl
      rw [value, ← positive] at low
      have text : "-" ++ m.succ.repr = String.ofList ('-' :: Nat.toDigits 10 m.succ) := by
        rw [← String.toList_inj, String.toList_append, Nat.toList_repr]
        simp
      rw [Int.repr, text,
        stoi_minus (printed _) Nat.toDigits_ne_nil (by rw [decimal_toDigits]; omega),
        decimal_toDigits, positive, ← value, Int32.ofInt_toInt]

theorem newline_not_mem_itos (n : Int32) : '\n' ∉ (itos n).toList := by
  have printed : ∀ m : Nat, '\n' ∉ Nat.toDigits 10 m := fun m member =>
    absurd (Nat.isDigit_of_mem_toDigits (by decide) (by decide) member) (by decide)
  rw [itos]
  cases n.toInt with
  | ofNat m =>
      rw [Int.repr, Nat.toList_repr]
      exact printed m
  | negSucc m =>
      rw [Int.repr, String.toList_append, Nat.toList_repr, List.mem_append, not_or]
      exact ⟨by decide, printed _⟩

end Numerals

/-! ### Lines with a key -/

/-- A line for every key which has a value. -/
def keyedLines (values : List (String × Option String)) : List String :=
  values.filterMap fun (key, value) => value.map (key ++ ·)

theorem keyedLines_cons (value : String × Option String) (values : List (String × Option String)) :
    keyedLines (value :: values) = (value.2.map (value.1 ++ ·)).toList ++ keyedLines values := by
  obtain ⟨key, value⟩ := value
  cases value <;> rfl

/-- No key is the beginning of another. -/
def Apart (keys : List String) : Prop :=
  keys.Pairwise fun key other => ¬ key.toList <+: other.toList ∧ ¬ other.toList <+: key.toList

instance instDecidableApart (keys : List String) : Decidable (Apart keys) :=
  inferInstanceAs (Decidable (List.Pairwise _ _))

/-- The lines of a text are those of `values`, and others that start with no key, in some
order. -/
def Spells (text : String) (values : List (String × Option String)) : Prop :=
  ∃ others, (∀ line ∈ others, ∀ value ∈ values, startsWith value.1 line = false) ∧
    (getlines text).Perm (keyedLines values ++ others)

theorem startsWith_append (key value : String) : startsWith key (key ++ value) = true := by
  rw [startsWith, List.isPrefixOf_iff_prefix, String.toList_append]
  exact List.prefix_append _ _

@[simp] theorem rest_append (key value : String) : rest key (key ++ value) = value := by
  rw [rest, String.toList_append, List.drop_left, String.ofList_toList]

theorem startsWith_append_of_apart {key other : String}
    (apart : ¬ key.toList <+: other.toList ∧ ¬ other.toList <+: key.toList) (value : String) :
    startsWith key (other ++ value) = false := by
  rw [← Bool.not_eq_true, startsWith, List.isPrefixOf_iff_prefix, String.toList_append]
  intro begins
  cases List.prefix_or_prefix_of_prefix begins (List.prefix_append _ _) with
  | inl shorter => exact apart.1 shorter
  | inr longer => exact apart.2 longer

/-- Among lines of other keys there is none of this one. -/
theorem filter_keyedLines_of_apart {values : List (String × Option String)} {key : String}
    (apart : ∀ value ∈ values,
      ¬ key.toList <+: value.1.toList ∧ ¬ value.1.toList <+: key.toList) :
    (keyedLines values).filter (startsWith key) = [] := by
  apply List.filter_eq_nil_iff.mpr
  intro line member
  obtain ⟨⟨other, value⟩, inside, spelled⟩ := List.mem_filterMap.mp member
  obtain ⟨value, rfl, rfl⟩ := Option.map_eq_some_iff.mp spelled
  rw [startsWith_append_of_apart (apart _ inside)]
  exact Bool.false_ne_true

/-- Each key finds its own line. -/
theorem filter_keyedLines {values : List (String × Option String)}
    (apart : Apart (values.map Prod.fst)) {key : String} {value : Option String}
    (member : (key, value) ∈ values) :
    (keyedLines values).filter (startsWith key) = (value.map (key ++ ·)).toList := by
  induction values with
  | nil => exact absurd member List.not_mem_nil
  | cons first values ih =>
      obtain ⟨here, later⟩ := List.pairwise_cons.mp (List.map_cons ▸ apart)
      rw [keyedLines_cons, List.filter_append]
      cases List.mem_cons.mp member with
      | inl same =>
          obtain rfl := same
          rw [filter_keyedLines_of_apart fun value inside =>
            here _ (List.mem_map_of_mem inside), List.append_nil]
          cases value with
          | none => rfl
          | some value => simp [startsWith_append]
      | inr inside =>
          have other := here key (List.mem_map.mpr ⟨_, inside, rfl⟩)
          rw [ih later inside]
          cases first.2 with
          | none => rfl
          | some value => simp [startsWith_append_of_apart ⟨other.2, other.1⟩]

section Spelled

variable {β : Type} {text : String} {values : List (String × Option String)}
  {key : String} {convert : String → Except Thrown β} {print : β → String} {value : Option β}

theorem Spells.filter (spells : Spells text values) (apart : Apart (values.map Prod.fst))
    {value : Option String} (member : (key, value) ∈ values) :
    (getlines text).filter (startsWith key) = (value.map (key ++ ·)).toList := by
  obtain ⟨others, unknown, lines⟩ := spells
  have silent : others.filter (startsWith key) = [] := by
    apply List.filter_eq_nil_iff.mpr
    intro line inside
    rw [unknown line inside _ member]
    exact Bool.false_ne_true
  have found := lines.filter (startsWith key)
  rw [List.filter_append, filter_keyedLines apart member, silent, List.append_nil] at found
  cases value with
  | none => exact List.perm_nil.mp found
  | some value => exact List.perm_singleton.mp found

/-- A value whose text is converted back is what its key is set to. -/
theorem Spells.setting (spells : Spells text values) (apart : Apart (values.map Prod.fst))
    (member : (key, value.map print) ∈ values)
    (reads : ∀ v ∈ value, convert (print v) = .ok v) {initial final : β}
    (setting : Setting key convert text initial final) : final = value.getD initial := by
  rw [Setting, Dispatch.LastWins, spells.filter apart member] at setting
  cases value with
  | none => exact setting
  | some v =>
      simp only [Option.map_some, Option.toList_some, List.getLast?_singleton, rest_append]
        at setting
      exact (Except.ok.inj ((reads v rfl).symm.trans setting)).symm

theorem Spells.convertible (spells : Spells text values) (apart : Apart (values.map Prod.fst))
    (member : (key, value.map print) ∈ values)
    (reads : ∀ v ∈ value, convert (print v) = .ok v) : Convertible key convert text := by
  intro line delivered starts
  have found := List.mem_filter.mpr ⟨delivered, starts⟩
  rw [spells.filter apart member] at found
  cases value with
  | none => exact absurd found List.not_mem_nil
  | some v =>
      obtain rfl := List.mem_singleton.mp found
      rw [rest_append, reads v rfl]
      rfl

end Spelled

/-! ### Settings of a deployment -/

/-- What a file can set. What is `none` has no line. -/
structure Settings (float : Type) where
  providerAddress : Option String := none
  balancerAddress : Option String := none
  heartBeat : Option Int32 := none
  version : Option float := none
  certFilename : Option String := none
  keyFilename : Option String := none
  rootFilename : Option String := none

namespace Settings

variable {float : Type} (settings : Settings float)

/-- The values of the keys, as they are printed. -/
def values (ftos : float → String) : List (String × Option String) :=
  [("providerAddress=", settings.providerAddress),
    ("balancerAddress=", settings.balancerAddress),
    ("heartbeat=", settings.heartBeat.map itos),
    ("version=", settings.version.map ftos),
    ("cert=", settings.certFilename),
    ("key=", settings.keyFilename),
    ("root=", settings.rootFilename)]

theorem values_apart (ftos : float → String) : Apart ((settings.values ftos).map Prod.fst) :=
  (by decide : Apart ["providerAddress=", "balancerAddress=", "heartbeat=", "version=", "cert=",
    "key=", "root="])

/-- What a client has after reading the settings. -/
def client (initial : ClientConfig float) : ClientConfig float where
  balancerAddress := settings.balancerAddress.getD initial.balancerAddress
  minVersion := settings.version.getD initial.minVersion
  certFilename := settings.certFilename.getD initial.certFilename
  keyFilename := settings.keyFilename.getD initial.keyFilename
  rootFilename := settings.rootFilename.getD initial.rootFilename

def provider (initial : ProviderConfig float) : ProviderConfig float where
  providerAddress := settings.providerAddress.getD initial.providerAddress
  balancerAddress := settings.balancerAddress.getD initial.balancerAddress
  heartBeat := settings.heartBeat.getD initial.heartBeat
  version := settings.version.getD initial.version
  certFilename := settings.certFilename.getD initial.certFilename
  keyFilename := settings.keyFilename.getD initial.keyFilename
  rootFilename := settings.rootFilename.getD initial.rootFilename

def balancer (initial : BalancerConfig) : BalancerConfig where
  balancerAddress := settings.balancerAddress.getD initial.balancerAddress
  heartBeat := settings.heartBeat.getD initial.heartBeat
  certFilename := settings.certFilename.getD initial.certFilename
  keyFilename := settings.keyFilename.getD initial.keyFilename
  rootFilename := settings.rootFilename.getD initial.rootFilename

end Settings

section Read

variable {float : Type} {stof : String → Except Thrown float} {ftos : float → String}
  {settings : Settings float} {text : String}

/-- A text that is taken over as it is. -/
theorem Spells.named {values : List (String × Option String)} (spells : Spells text values)
    (apart : Apart (values.map Prod.fst)) {key : String} {value : Option String}
    (member : (key, value) ∈ values) {initial final : String}
    (setting : Setting key .ok text initial final) : final = value.getD initial := by
  have printed : (key, value.map id) ∈ values := by rwa [Option.map_id]
  exact spells.setting apart printed (fun _ _ => rfl) setting

/-- The four outputs which all parsers have. -/
theorem CommonRead.eq_of_spells (spells : Spells text (settings.values ftos))
    {initial final : CommonConfig} (read : CommonRead text initial final) :
    final = ⟨settings.balancerAddress.getD initial.balancerAddress,
      settings.certFilename.getD initial.certFilename,
      settings.keyFilename.getD initial.keyFilename,
      settings.rootFilename.getD initial.rootFilename⟩ := by
  have apart := settings.values_apart ftos
  apply CommonConfig.ext
  · exact spells.named apart (by simp [Settings.values]) read.balancerAddress
  · exact spells.named apart (by simp [Settings.values]) read.certFilename
  · exact spells.named apart (by simp [Settings.values]) read.keyFilename
  · exact spells.named apart (by simp [Settings.values]) read.rootFilename

namespace FileParser

theorem parseClientConfig_of_spells (spells : Spells text (settings.values ftos))
    (numeral : ∀ v ∈ settings.version, stof (ftos v) = .ok v) (initial : ClientConfig float) :
    parseClientConfig stof (some text) initial = .ok (settings.client initial) := by
  have apart := settings.values_apart ftos
  have version : ("version=", settings.version.map ftos) ∈ settings.values ftos := by
    simp [Settings.values]
  have accepted := (parseClientConfig_isOk_iff stof text initial).mpr
    (spells.convertible apart version numeral)
  cases parsed : parseClientConfig stof (some text) initial with
  | error thrown =>
      rw [parsed] at accepted
      cases accepted
  | ok final =>
      have read := parseClientConfig_read parsed
      have common := read.common.eq_of_spells spells
      have min_version := spells.setting apart version numeral read.minVersion
      cases final
      simp only [ClientConfig.common, CommonConfig.mk.injEq] at common min_version
      simp only [common, min_version, Settings.client]

theorem parseProviderConfig_of_spells (spells : Spells text (settings.values ftos))
    (numeral : ∀ v ∈ settings.version, stof (ftos v) = .ok v) (initial : ProviderConfig float) :
    parseProviderConfig stof (some text) initial = .ok (settings.provider initial) := by
  have apart := settings.values_apart ftos
  have version : ("version=", settings.version.map ftos) ∈ settings.values ftos := by
    simp [Settings.values]
  have heartbeat : ("heartbeat=", settings.heartBeat.map itos) ∈ settings.values ftos := by
    simp [Settings.values]
  have own : ("providerAddress=", settings.providerAddress) ∈ settings.values ftos := by
    simp [Settings.values]
  have accepted := (parseProviderConfig_isOk_iff stof text initial).mpr
    ⟨spells.convertible apart version numeral,
      spells.convertible apart heartbeat fun n _ => stoi_itos n⟩
  cases parsed : parseProviderConfig stof (some text) initial with
  | error thrown =>
      rw [parsed] at accepted
      cases accepted
  | ok final =>
      have read := parseProviderConfig_read parsed
      have common := read.common.eq_of_spells spells
      have address := spells.named apart own read.providerAddress
      have beat := spells.setting apart heartbeat (fun n _ => stoi_itos n) read.heartBeat
      have own_version := spells.setting apart version numeral read.version
      cases final
      simp only [ProviderConfig.common, CommonConfig.mk.injEq] at common address beat own_version
      simp only [common, address, beat, own_version, Settings.provider]

theorem parseBalancerConfig_of_spells (spells : Spells text (settings.values ftos))
    (initial : BalancerConfig) :
    parseBalancerConfig (some text) initial = .ok (settings.balancer initial) := by
  have apart := settings.values_apart ftos
  have heartbeat : ("heartbeat=", settings.heartBeat.map itos) ∈ settings.values ftos := by
    simp [Settings.values]
  have accepted := (parseBalancerConfig_isOk_iff text initial).mpr
    (spells.convertible apart heartbeat fun n _ => stoi_itos n)
  cases parsed : parseBalancerConfig (some text) initial with
  | error thrown =>
      rw [parsed] at accepted
      cases accepted
  | ok final =>
      have read := parseBalancerConfig_read parsed
      have common := read.common.eq_of_spells spells
      have beat := spells.setting apart heartbeat (fun n _ => stoi_itos n) read.heartBeat
      cases final
      simp only [BalancerConfig.common, CommonConfig.mk.injEq] at common beat
      simp only [common, beat, Settings.balancer]

end FileParser

variable (stof ftos settings) in
/-- Settings that are written in any order, with lines of no key among them, are what each
parser reads back: its outputs are the settings, and where there is none what they were.
`ftos` prints the version so that `std::stof` finds it again. -/
theorem settings_read_back (numeral : ∀ v ∈ settings.version, stof (ftos v) = .ok v)
    {lines others : List String} (single : ∀ line ∈ lines, '\n' ∉ line.toList)
    (unknown : ∀ line ∈ others, ∀ value ∈ settings.values ftos, startsWith value.1 line = false)
    (shuffled : lines.Perm (keyedLines (settings.values ftos) ++ others)) :
    (∀ initial, FileParser.parseClientConfig stof (some (written lines)) initial =
      .ok (settings.client initial)) ∧
    (∀ initial, FileParser.parseProviderConfig stof (some (written lines)) initial =
      .ok (settings.provider initial)) ∧
    ∀ initial, FileParser.parseBalancerConfig (some (written lines)) initial =
      .ok (settings.balancer initial) := by
  have spells : Spells (written lines) (settings.values ftos) :=
    ⟨others, unknown, by rwa [getlines_written single]⟩
  exact ⟨fun initial => FileParser.parseClientConfig_of_spells spells numeral initial,
    fun initial => FileParser.parseProviderConfig_of_spells spells numeral initial,
    fun initial => FileParser.parseBalancerConfig_of_spells spells initial⟩

/-- A heartbeat, a version and a certificate, with a line between them that no one knows. -/
def someSettings : Settings Int32 :=
  { heartBeat := some (-250), version := some 2, certFilename := some "c.pem" }

theorem settings_read_back_shuffled :
    FileParser.parseProviderConfig stoi
        (some "cert=c.pem\nversion=2\nport=1\nheartbeat=-250\n") { version := 0 } =
      .ok ⟨"", "", -250, 2, "c.pem", "", ""⟩ := by
  have shuffled : ["cert=c.pem", "version=2", "port=1", "heartbeat=-250"].Perm
      (keyedLines (someSettings.values itos) ++ ["port=1"]) := by decide
  have read := settings_read_back stoi itos someSettings (fun n _ => stoi_itos n) (by decide)
    (by decide) shuffled
  exact read.2.1 { version := 0 }

end Read

/-! ### What can be read at all -/

section Readable

variable {float : Type} {stof : String → Except Thrown float}

/-- A setting is the initial value, or the value of a text without a newline. -/
theorem Setting.origin {β : Type} {key text : String} {convert : String → Except Thrown β}
    {initial final : β} (setting : Setting key convert text initial final) :
    final = initial ∨ ∃ value, '\n' ∉ value.toList ∧ convert value = .ok final := by
  rw [Setting, Dispatch.LastWins] at setting
  cases last : ((getlines text).filter (startsWith key)).getLast? with
  | none =>
      rw [last] at setting
      exact .inl setting
  | some line =>
      rw [last] at setting
      have delivered := (List.mem_filter.mp (List.mem_of_getLast? last)).1
      exact .inr ⟨rest key line, newline_not_mem_rest delivered key, setting⟩

theorem Setting.single {key text initial final : String}
    (setting : Setting key .ok text initial final) (single : '\n' ∉ initial.toList) :
    '\n' ∉ final.toList := by
  cases setting.origin with
  | inl kept => rwa [kept]
  | inr read =>
      obtain ⟨value, fits, same⟩ := read
      rwa [← Except.ok.inj same]

/-- The address and the names of the files have no newline. -/
structure CommonConfig.Single (config : CommonConfig) : Prop where
  balancerAddress : '\n' ∉ config.balancerAddress.toList
  certFilename : '\n' ∉ config.certFilename.toList
  keyFilename : '\n' ∉ config.keyFilename.toList
  rootFilename : '\n' ∉ config.rootFilename.toList

theorem CommonRead.single {text : String} {initial final : CommonConfig}
    (read : CommonRead text initial final) (single : initial.Single) : final.Single where
  balancerAddress := read.balancerAddress.single single.balancerAddress
  certFilename := read.certFilename.single single.certFilename
  keyFilename := read.keyFilename.single single.keyFilename
  rootFilename := read.rootFilename.single single.rootFilename

/-- A number which some line has, or the one that the member starts with. -/
def Numeral (stof : String → Except Thrown float) (zero v : float) : Prop :=
  v = zero ∨ ∃ text : String, '\n' ∉ text.toList ∧ stof text = .ok v

/-- A choice of the line for the version. -/
theorem Numeral.exists_printed {zero v : float} (numeral : Numeral stof zero v) :
    ∃ (ftos : float → String) (version : Option float), version.getD zero = v ∧
      ∀ w ∈ version, '\n' ∉ (ftos w).toList ∧ stof (ftos w) = .ok w := by
  cases numeral with
  | inl unset => exact ⟨fun _ => "", none, unset.symm, fun w inside => nomatch inside⟩
  | inr set =>
      obtain ⟨text, single, reads⟩ := set
      refine ⟨fun _ => text, some v, rfl, ?_⟩
      rintro w ⟨⟩
      exact ⟨single, reads⟩

theorem spells_written {settings : Settings float} {ftos : float → String}
    (single : ∀ value ∈ settings.values ftos, ∀ v ∈ value.2, '\n' ∉ v.toList) :
    Spells (written (keyedLines (settings.values ftos))) (settings.values ftos) := by
  refine ⟨[], fun line inside => absurd inside List.not_mem_nil, ?_⟩
  rw [getlines_written, List.append_nil]
  intro line member
  obtain ⟨⟨key, value⟩, inside, spelled⟩ := List.mem_filterMap.mp member
  obtain ⟨text, rfl, rfl⟩ := Option.map_eq_some_iff.mp spelled
  have key_single : ∀ key ∈ (settings.values ftos).map Prod.fst, '\n' ∉ key.toList :=
    (by decide : ∀ key ∈ ["providerAddress=", "balancerAddress=", "heartbeat=", "version=",
      "cert=", "key=", "root="], '\n' ∉ key.toList)
  rw [String.toList_append, List.mem_append, not_or]
  exact ⟨key_single _ (List.mem_map_of_mem inside), single _ inside text rfl⟩

/-- Settings with the four outputs which all parsers have. -/
def CommonConfig.settings (config : CommonConfig) (providerAddress : Option String)
    (heartBeat : Option Int32) (version : Option float) : Settings float where
  providerAddress := providerAddress
  balancerAddress := some config.balancerAddress
  heartBeat := heartBeat
  version := version
  certFilename := some config.certFilename
  keyFilename := some config.keyFilename
  rootFilename := some config.rootFilename

theorem CommonConfig.Single.spells {config : CommonConfig} (single : config.Single)
    (providerAddress : Option String) (heartBeat : Option Int32) (version : Option float)
    (ftos : float → String) (address : ∀ text ∈ providerAddress, '\n' ∉ text.toList)
    (printed : ∀ v ∈ version, '\n' ∉ (ftos v).toList) :
    ∃ text, Spells text ((config.settings providerAddress heartBeat version).values ftos) := by
  refine ⟨_, spells_written ?_⟩
  have beat : ∀ text ∈ heartBeat.map itos, '\n' ∉ text.toList := by
    rintro text member
    obtain ⟨n, -, rfl⟩ := Option.map_eq_some_iff.mp member
    exact newline_not_mem_itos n
  have number : ∀ text ∈ version.map ftos, '\n' ∉ text.toList := by
    rintro text member
    obtain ⟨v, set, rfl⟩ := Option.map_eq_some_iff.mp member
    exact printed v set
  simp only [CommonConfig.settings, Settings.values, List.forall_mem_cons, Option.mem_some_iff,
    forall_eq', List.not_mem_nil, IsEmpty.forall_iff, implies_true, and_true]
  exact ⟨address, single.balancerAddress, beat, number, single.certFilename,
    single.keyFilename, single.rootFilename⟩

/-- The outputs that some file leads to, from the defaults of the classes, are those whose
names have no newline; every `int` is in reach. -/
theorem readable_iff (stof : String → Except Thrown float) (zero : float) :
    (∀ config, (∃ text, FileParser.parseClientConfig stof (some text) { minVersion := zero } =
        .ok config) ↔
      config.common.Single ∧ Numeral stof zero config.minVersion) ∧
    (∀ config, (∃ text, FileParser.parseProviderConfig stof (some text) { version := zero } =
        .ok config) ↔
      config.common.Single ∧ '\n' ∉ config.providerAddress.toList ∧
        Numeral stof zero config.version) ∧
    ∀ config, (∃ text, FileParser.parseBalancerConfig (some text) {} = .ok config) ↔
      config.common.Single := by
  have empty : CommonConfig.Single ⟨"", "", "", ""⟩ := by constructor <;> decide
  refine ⟨fun config => ⟨?_, ?_⟩, fun config => ⟨?_, ?_⟩, fun config => ⟨?_, ?_⟩⟩
  · rintro ⟨text, parsed⟩
    have read := FileParser.parseClientConfig_read parsed
    exact ⟨read.common.single empty, read.minVersion.origin⟩
  · rintro ⟨single, numeral⟩
    obtain ⟨ftos, version, same, printed⟩ := numeral.exists_printed
    obtain ⟨text, spells⟩ := single.spells none none version ftos (by simp)
      fun v set => (printed v set).1
    refine ⟨text, (FileParser.parseClientConfig_of_spells spells
      (fun v set => (printed v set).2) _).trans ?_⟩
    rw [Settings.client, CommonConfig.settings, same]
    rfl
  · rintro ⟨text, parsed⟩
    have read := FileParser.parseProviderConfig_read parsed
    exact ⟨read.common.single empty, read.providerAddress.single (by simp),
      read.version.origin⟩
  · rintro ⟨single, address, numeral⟩
    obtain ⟨ftos, version, same, printed⟩ := numeral.exists_printed
    obtain ⟨text, spells⟩ := single.spells (some config.providerAddress)
      (some config.heartBeat) version ftos (by simpa using address)
      fun v set => (printed v set).1
    refine ⟨text, (FileParser.parseProviderConfig_of_spells spells
      (fun v set => (printed v set).2) _).trans ?_⟩
    rw [Settings.provider, CommonConfig.settings, same]
    rfl
  · rintro ⟨text, parsed⟩
    exact (FileParser.parseBalancerConfig_read parsed).common.single empty
  · intro single
    obtain ⟨text, spells⟩ := single.spells none (some config.heartBeat) none
      (fun _ : float => "") (by simp) (by simp)
    exact ⟨text, FileParser.parseBalancerConfig_of_spells spells _⟩

end Readable

end Cloud3D
