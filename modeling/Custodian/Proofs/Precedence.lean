import Custodian.Proofs.Numbers
import Custodian.Reference.Config

/-!
# Which settings count

* `Settings.NumberIn` : the number that a variable gives; `Settings.override_eq_ok_iff` : the settings that the
  environment makes of others, and when it makes none; `Settings.override_again` : twice is as good as once;
* `Toml.told` : what a document says of a field; `Config.inFile` : a configuration as a document has it, with defaults
  for what it does not say; `Config.ofValue?_eq` : that is how it is read;
* `Config.layered` : the options of a command line before the environment, and the environment before a file;
  `Config.load_withOptions` : that is what a configuration is loaded as.
-/

namespace Custodian

set_option autoImplicit false

/-! ## The environment -/

namespace Settings

theorem bind_eq_ok_iff {ε α β : Type} {x : Except ε α} {f : α → Except ε β} {b : β} :
    x >>= f = .ok b ↔ ∃ a, x = .ok a ∧ f a = .ok b := by
  cases x <;> simp [bind, Except.bind]

/-- The number below a bound in a variable, if it is set: decimal digits with or without a plus sign before them; white
space around them does not count. -/
inductive NumberIn (env : Environment) (name : String) (bound : Nat) : Option Nat → Prop
  | unset (h : env name = none) : NumberIn env name bound none
  | set {v : String} {n : Nat} (h : env name = some v) (numeral : Text.IsNumeral (Text.trimChars v.toList) n)
      (below : n < bound) : NumberIn env name bound (some n)

theorem numberVariable_eq_ok_iff {env : Environment} {name : String} {bound default n : Nat} :
    numberVariable env name bound default = .ok n ↔ ∃ m, NumberIn env name bound m ∧ n = m.getD default := by
  have hread {v : String} {k : Nat} : Text.readNat bound (Text.trim v) = some k ↔
      Text.IsNumeral (Text.trimChars v.toList) k ∧ k < bound := by
    rw [Text.readNat_eq_some_iff, Text.trim, String.toList_ofList]
  unfold numberVariable
  constructor
  · intro h
    cases hv : env name with
    | none =>
      rw [hv] at h
      exact ⟨none, .unset hv, (Except.ok.inj h).symm⟩
    | some v =>
      rw [hv] at h
      dsimp only at h
      split at h
      · next k hk => exact ⟨some k, .set hv (hread.1 hk).1 (hread.1 hk).2, (Except.ok.inj h).symm⟩
      · cases h
  · rintro ⟨_, hv | ⟨hv, numeral, below⟩, rfl⟩
    · rw [hv]
    · rw [hv]
      dsimp only
      rw [hread.2 ⟨numeral, below⟩]

/-- The settings with what the environment says over them. -/
def overlaid (s : Settings) (env : Environment) (attempts size : Option Nat) : Settings :=
  { s with
    url := (env urlVariable).getD s.url
    apiVersion := (env apiVersionVariable).getD s.apiVersion
    maxAttempts := attempts.getD s.maxAttempts
    chunkSize := size.getD s.chunkSize }

theorem overlaid_overlaid (s : Settings) (env : Environment) (attempts size : Option Nat) :
    (s.overlaid env attempts size).overlaid env attempts size = s.overlaid env attempts size := by
  have hsame {α : Type} (o : Option α) (a : α) : o.getD (o.getD a) = o.getD a := by cases o <;> rfl
  simp only [overlaid, hsame]

theorem override_eq_ok_iff {s s' : Settings} {env : Environment} :
    s.override env = .ok s' ↔ ∃ attempts size, NumberIn env maxAttemptsVariable maxAttemptsBound attempts ∧
      NumberIn env chunkSizeVariable chunkSizeBound size ∧ s' = s.overlaid env attempts size ∧ 0 < s'.chunkSize ∧
      Text.isBlank s'.apiVersion = false := by
  have hoverride : s.override env = .ok s' ↔ ∃ attempts size,
      numberVariable env maxAttemptsVariable maxAttemptsBound s.maxAttempts = .ok attempts ∧
      numberVariable env chunkSizeVariable chunkSizeBound s.chunkSize = .ok size ∧
      s' = s.overlaid env (some attempts) (some size) ∧ s'.check = .ok () := by
    constructor
    · intro h
      obtain ⟨attempts, hattempts, h⟩ := bind_eq_ok_iff.1 h
      obtain ⟨size, hsize, h⟩ := bind_eq_ok_iff.1 h
      obtain ⟨⟨⟩, hcheck, h⟩ := bind_eq_ok_iff.1 h
      cases h
      exact ⟨attempts, size, hattempts, hsize, rfl, hcheck⟩
    · rintro ⟨attempts, size, hattempts, hsize, rfl, hcheck⟩
      exact bind_eq_ok_iff.2 ⟨attempts, hattempts, bind_eq_ok_iff.2 ⟨size, hsize, bind_eq_ok_iff.2 ⟨(), hcheck, rfl⟩⟩⟩
  rw [hoverride]
  simp only [numberVariable_eq_ok_iff, check_eq_ok]
  constructor
  · rintro ⟨_, _, ⟨attempts, hattempts, rfl⟩, ⟨size, hsize, rfl⟩, rfl, husable⟩
    exact ⟨attempts, size, hattempts, hsize, rfl, husable⟩
  · rintro ⟨attempts, size, hattempts, hsize, rfl, husable⟩
    exact ⟨_, _, ⟨attempts, hattempts, rfl⟩, ⟨size, hsize, rfl⟩, rfl, husable⟩

/-- What the environment has made of settings it leaves alone. -/
theorem override_again {s s' : Settings} {env : Environment} (h : s.override env = .ok s') :
    s'.override env = .ok s' := by
  obtain ⟨attempts, size, hattempts, hsize, rfl, husable⟩ := override_eq_ok_iff.1 h
  exact override_eq_ok_iff.2 ⟨attempts, size, hattempts, hsize, (overlaid_overlaid s env attempts size).symm, husable⟩

end Settings

/-! ## Documents -/

namespace Toml

/-- What is said of a field, by its position or its name, of what is given as a record. -/
def told (v : Option Value) (index : Nat) (name : String) : Option Value := (v.bind fields?).bind (·.get? index name)

theorem told_of_fields? {v : Value} {f : Fields} (h : fields? v = some f) (index : Nat) (name : String) :
    told (some v) index name = f.get? index name := by
  rw [told, Option.bind_some, h, Option.bind_some]

/-- A field with a default is what is said of it, or else the default. -/
theorem Fields.eq_of_optional {α : Type} {f : Fields} {index : Nat} {name : String} {read : Value → Option α}
    {default a : α} (g : Option Value → α) (hnone : g none = default) (hsome : ∀ v a, read v = some a → g (some v) = a)
    (h : f.optional index name read default = some a) : g (f.get? index name) = a := by
  unfold optional at h
  split at h
  · next hget => rw [hget, hnone, Option.some.inj h]
  · next v hget => rw [hget, hsome v a h]

/-- A text that is said, or else another. -/
def textOr (default : String) (v : Option Value) : String := (v.bind text?).getD default

/-- A number that is said, or else another. -/
def natOr (bound default : Nat) (v : Option Value) : Nat := (v.bind (nat? bound)).getD default

theorem Fields.textOr_eq {f : Fields} {index : Nat} {name default s : String}
    (h : f.optional index name text? default = some s) : textOr default (f.get? index name) = s :=
  eq_of_optional (textOr default) rfl (fun v s hs => by rw [textOr, Option.bind_some, hs, Option.getD_some]) h

theorem Fields.natOr_eq {f : Fields} {index bound default n : Nat} {name : String}
    (h : f.optional index name (nat? bound) default = some n) : natOr bound default (f.get? index name) = n :=
  eq_of_optional (natOr bound default) rfl (fun v n hn => by rw [natOr, Option.bind_some, hn, Option.getD_some]) h

end Toml

namespace Reference

/-- A version as a document has it. -/
def versionIn (v : Option Toml.Value) : SoftwareVersion where
  productName := Toml.textOr defaultVersion.productName (Toml.told v 0 "product_name")
  productNumber := Toml.textOr defaultVersion.productNumber (Toml.told v 1 "product_number")
  revision := Toml.textOr defaultVersion.revision (Toml.told v 2 "revision")
  productionDate := Toml.textOr defaultVersion.productionDate (Toml.told v 3 "production_date")
  description := Toml.textOr defaultVersion.description (Toml.told v 4 "description")
  kind := Toml.textOr defaultVersion.kind (Toml.told v 5 "type")
  commercialVersion := Toml.textOr defaultVersion.commercialVersion (Toml.told v 6 "commercial_version")
  semanticVersion := Toml.textOr defaultVersion.semanticVersion (Toml.told v 7 "semantic_version")

theorem version?_eq {v : Toml.Value} {w : SoftwareVersion} (h : version? v = some w) : versionIn (some v) = w := by
  simp only [version?, Option.bind_eq_bind, Option.bind_eq_some_iff, Option.pure_def, Option.some.injEq] at h
  obtain ⟨f, hf, _, h₀, _, h₁, _, h₂, _, h₃, _, h₄, _, h₅, _, h₆, _, h₇, rfl⟩ := h
  simp only [versionIn, Toml.told_of_fields? hf, Toml.Fields.textOr_eq h₀, Toml.Fields.textOr_eq h₁,
    Toml.Fields.textOr_eq h₂, Toml.Fields.textOr_eq h₃, Toml.Fields.textOr_eq h₄, Toml.Fields.textOr_eq h₅,
    Toml.Fields.textOr_eq h₆, Toml.Fields.textOr_eq h₇]

/-- Settings as a document has them. -/
def settingsIn (v : Option Toml.Value) : Settings where
  url := Toml.textOr ({} : Settings).url (Toml.told v 0 "orchestrator_url")
  apiVersion := Toml.textOr ({} : Settings).apiVersion (Toml.told v 1 "api_version")
  maxAttempts := Toml.natOr Settings.maxAttemptsBound ({} : Settings).maxAttempts
    (Toml.told v 2 "max_registration_attempts")
  chunkSize := Toml.natOr Settings.chunkSizeBound ({} : Settings).chunkSize (Toml.told v 3 "chunk_size")
  keepAlive := Toml.natOr Settings.secondsBound ({} : Settings).keepAlive (Toml.told v 4 "keep_alive_secs")
  connectTimeout := Toml.natOr Settings.secondsBound ({} : Settings).connectTimeout
    (Toml.told v 5 "connect_timeout_secs")

theorem settings_eq {v : Toml.Value} {s : Settings} (h : Settings.ofValue? v = some s) :
    settingsIn (some v) = s := by
  simp only [Settings.ofValue?, Option.bind_eq_bind, Option.bind_eq_some_iff, Option.pure_def, Option.some.injEq] at h
  obtain ⟨f, hf, _, h₀, _, h₁, _, h₂, _, h₃, _, h₄, _, h₅, rfl⟩ := h
  simp only [settingsIn, Toml.told_of_fields? hf, Toml.Fields.textOr_eq h₀, Toml.Fields.textOr_eq h₁,
    Toml.Fields.natOr_eq h₂, Toml.Fields.natOr_eq h₃, Toml.Fields.natOr_eq h₄, Toml.Fields.natOr_eq h₅]

/-- The files to be backed up as a document has them. -/
def filesIn (v : Option Toml.Value) : List FragmentFile :=
  (v.bind fun v => (Toml.list? v).bind fun l => l.mapM fragmentFile?).getD []

namespace Config

/-- The configuration as a document has it. -/
def inFile (v : Option Toml.Value) : Config where
  agentId := Toml.textOr ({} : Config).agentId (Toml.told v 0 "agent_id")
  scope := Toml.textOr ({} : Config).scope (Toml.told v 1 "scope")
  downloadDir := Toml.textOr ({} : Config).downloadDir (Toml.told v 2 "download_location")
  version := versionIn (Toml.told v 3 "software_version")
  files := filesIn (Toml.told v 4 "fragments")
  settings := settingsIn (Toml.told v 5 "orchestrator")

theorem ofValue?_eq {v : Toml.Value} {c : Config} (h : ofValue? v = some c) : inFile (some v) = c := by
  simp only [ofValue?, Option.bind_eq_bind, Option.bind_eq_some_iff, Option.pure_def, Option.some.injEq] at h
  obtain ⟨f, hf, _, h₀, _, h₁, _, h₂, _, h₃, _, h₄, _, h₅, rfl⟩ := h
  have hversion := Toml.Fields.eq_of_optional versionIn rfl (fun _ _ => version?_eq) h₃
  have hfiles := Toml.Fields.eq_of_optional filesIn rfl (fun v l hl => by rw [filesIn, Option.bind_some, hl]; rfl) h₄
  have hsettings := Toml.Fields.eq_of_optional settingsIn rfl (fun _ _ => settings_eq) h₅
  simp only [inFile, Toml.told_of_fields? hf, Toml.Fields.textOr_eq h₀, Toml.Fields.textOr_eq h₁,
    Toml.Fields.textOr_eq h₂, hversion, hfiles, hsettings]

/-- The document that is read: that in a given file, or that in the file at the usual place, or none if there is no such
file. -/
inductive Found (t : Tree) (env : Environment) : Option String → Option Toml.Value → Prop
  | given {p text : String} {table : Toml.Table} (read : t.readText p = .ok text)
      (parsed : Toml.parse? text = some table) : Found t env (some p) (some table.toValue)
  | usual {text : String} {table : Toml.Table} (read : t.readText (path env) = .ok text)
      (parsed : Toml.parse? text = some table) : Found t env none (some table.toValue)
  | nothing (missing : t.exists (path env) = false) : Found t env none none

/-- The configuration with every field from the first that says something of it: the command line of the address and the
agent's name, then the environment of the address, the version of the interface and the two numbers, then the file. -/
def layered (file : Option Toml.Value) (env : Environment) (url agentId : Option String)
    (attempts size : Option Nat) : Config :=
  let c := inFile file
  { c with
    agentId := agentId.getD c.agentId
    settings := { c.settings with
      url := url.getD ((env Settings.urlVariable).getD c.settings.url)
      apiVersion := (env Settings.apiVersionVariable).getD c.settings.apiVersion
      maxAttempts := attempts.getD c.settings.maxAttempts
      chunkSize := size.getD c.settings.chunkSize } }

theorem exists_of_readText {t : Tree} {path text : String} (h : t.readText path = .ok text) : t.exists path = true := by
  rw [Tree.exists]
  cases hfind : t.find path with
  | ok e => rfl
  | error e =>
    rw [Tree.readText, Tree.readFile, Tree.openRead, hfind] at h
    cases h

theorem loadFrom_eq {t : Tree} {path text : String} {table : Toml.Table} (read : t.readText path = .ok text)
    (parsed : Toml.parse? text = some table) (haccepted : (ofValue? table.toValue).isSome = true) :
    loadFrom t path = .ok (inFile (some table.toValue)) := by
  obtain ⟨c, hc⟩ := Option.isSome_iff_exists.1 haccepted
  have htext : ofText? text = some c := by rw [ofText?, parsed, Option.bind_some, hc]
  rw [loadFrom, read, ofValue?_eq hc]
  dsimp only
  rw [htext]

/-- A configuration is loaded as the document that is read has it, and then comes the environment. -/
theorem load_eq {t : Tree} {env : Environment} {given : Option String} {file : Option Toml.Value}
    (hfound : Found t env given file) (haccepted : ∀ v ∈ file, (ofValue? v).isSome = true) :
    load t env given = (inFile file).override env := by
  cases hfound with
  | given read parsed =>
    rw [load, loadFrom_eq read parsed (haccepted _ rfl)]
    rfl
  | usual read parsed =>
    rw [load]
    dsimp only
    rw [exists_of_readText read, if_pos rfl, loadFrom_eq read parsed (haccepted _ rfl)]
    rfl
  | nothing missing =>
    rw [load]
    dsimp only
    rw [missing]
    rfl

theorem override_eq_ok_iff {c c' : Config} {env : Environment} :
    c.override env = .ok c' ↔ ∃ s, c.settings.override env = .ok s ∧ c' = { c with settings := s } := by
  unfold override
  cases c.settings.override env with
  | error e => simp
  | ok s => simp [eq_comm]

/-- **Which settings count.** With any document that can be read as a configuration, or none at the usual place, and any
environment and options: loading succeeds exactly if each variable with a number, where it is set, has decimal digits
in it with or without a plus sign, of a number below its bound, and if the size of chunks that comes out is not zero and
the version of the interface not blank. Then each field is as the first has it that says something of it: the options,
the environment, the file, and the defaults. The environment put once more over what it has made changes nothing. -/
theorem load_withOptions (t : Tree) (env : Environment) (given : Option String) (file : Option Toml.Value)
    (hfound : Found t env given file) (haccepted : ∀ v ∈ file, (ofValue? v).isSome = true)
    (url agentId : Option String) :
    (∀ c, (load t env given).map (·.withOptions url agentId) = .ok c ↔ ∃ attempts size,
      Settings.NumberIn env "BRO_MAX_REGISTRATION_ATTEMPTS" (2 ^ 32) attempts ∧
      Settings.NumberIn env "BRO_CHUNK_SIZE" (2 ^ 64) size ∧ c = layered file env url agentId attempts size ∧
      0 < c.settings.chunkSize ∧ Text.isBlank c.settings.apiVersion = false) ∧
    ∀ c c' : Config, c.override env = .ok c' → c'.override env = .ok c' := by
  refine ⟨fun c => ?_, fun c c' h => ?_⟩
  · have hmap : (load t env given).map (·.withOptions url agentId) = .ok c ↔
        ∃ s, (inFile file).settings.override env = .ok s ∧
          c = { inFile file with settings := s }.withOptions url agentId := by
      rw [load_eq hfound haccepted, override]
      cases (inFile file).settings.override env with
      | error e => simp [Except.map]
      | ok s => simp [Except.map, eq_comm]
    rw [hmap]
    simp only [Settings.override_eq_ok_iff]
    constructor
    · rintro ⟨_, ⟨attempts, size, hattempts, hsize, rfl, husable⟩, rfl⟩
      exact ⟨attempts, size, hattempts, hsize, rfl, husable⟩
    · rintro ⟨attempts, size, hattempts, hsize, rfl, husable⟩
      exact ⟨_, ⟨attempts, size, hattempts, hsize, rfl, husable⟩, rfl⟩
  · obtain ⟨s, hs, rfl⟩ := override_eq_ok_iff.1 h
    exact override_eq_ok_iff.2 ⟨s, Settings.override_again hs, rfl⟩

/-- A file with settings that cannot be worked with, an environment that makes up for them, and an option. -/
theorem load_withOptions_made_good :
    let text := "agent_id = \"A1\"\n[orchestrator]\norchestrator_url = \"http://file\"\napi_version = \"\"\n" ++
      "chunk_size = 0\nkeep_alive_secs = 5\n"
    let t := (Tree.ofWork .root).put (.ofNames ["agent.toml"]) (.file text.toUTF8)
    let env : Environment := fun name =>
      [("BRO_CHUNK_SIZE", " +4096 "), ("BRO_API_VERSION", "3.1"), ("BRO_ORCHESTRATOR_URL", "http://env")].lookup name
    let c : Config := {
      agentId := "A1"
      settings := { url := "http://option", apiVersion := "3.1", chunkSize := 4096, keepAlive := 5 } }
    (load t env (some "/agent.toml")).map (·.withOptions (some "http://option") none) = .ok c := by
  intro text t env c
  obtain ⟨table, htable⟩ : ∃ table, Toml.parse? text = some table := Option.isSome_iff_exists.1 (by decide +kernel)
  have haccepted : ((Toml.parse? text).map Toml.Table.toValue).all (fun v => (ofValue? v).isSome) = true := by
    decide +kernel
  have hlayered : c = layered ((Toml.parse? text).map Toml.Table.toValue) env (some "http://option") none none
      (some 4096) := by decide +kernel
  rw [htable] at haccepted hlayered
  have hfound : Found t env (some "/agent.toml") (some table.toValue) := .given (by decide +kernel) htable
  have hsize : Settings.NumberIn env "BRO_CHUNK_SIZE" (2 ^ 64) (some 4096) :=
    .set rfl ⟨"4096".toList, by decide, List.all_eq_true.1 (by decide), .inr (by decide), by decide⟩ (by decide)
  refine ((load_withOptions t env _ _ hfound ?_ (some "http://option") none).1 c).2
    ⟨none, some 4096, .unset rfl, hsize, hlayered, by decide, by decide⟩
  rintro _ ⟨⟩
  exact haccepted

end Config

end Reference

end Custodian
