import ApiGateway.Config.File
import ApiGateway.Proofs.Files.Writing
import ApiGateway.Proofs.Json.Decoding
import ApiGateway.Proofs.Json.Written
import ApiGateway.Proofs.Net.SocketText

/-!
# Configurations written and read

A configuration that is written to a file is read back as it was, every setting of it
(`ofFile_toFile`): the document restores it (`decode?_toJson`), and the text restores the document
since it holds nothing that the grammar cannot say (`readable_toJson`).
-/

namespace ApiGateway

namespace Log

/-! ## The settings of the log -/

theorem Level.restores : Json.Restores Level.decode? fun level => .string level.name :=
  Json.restores_choice fun level => by cases level <;> decide

theorem Format.restores : Json.Restores Format.decode? fun format => .string format.name :=
  Json.restores_choice fun format => by cases format <;> decide

theorem Sink.restores : Json.Restores Sink.decode? fun sink => .string sink.name :=
  Json.restores_choice fun sink => by cases sink <;> decide

theorem Target.restores : Json.Restores Target.decode? Target.toJson := by
  intro target
  have fields : Json.fieldsOf? ["type", "path", "level"] target.toJson =
      some ⟨false, [some (.string target.sink.name), some (.ofOption .string target.path),
        some (.ofOption (fun level => .string level.name) target.level)]⟩ :=
    Json.fieldsOf?_object rfl (by decide)
  have path := Json.restores_string.option nofun target.path
  have level := Level.restores.option nofun target.level
  simp only [decode?, fields, Option.bind_eq_bind, Option.bind_some, Bool.false_and,
    Bool.false_eq_true, if_false, Option.getD_some, Sink.restores target.sink, path, level]
  rfl

theorem Settings.restores : Json.Restores Settings.decode? Settings.toJson := by
  intro settings
  have fields : Json.fieldsOf? ["level", "format", "targets"] settings.toJson =
      some ⟨false, [some (.ofOption (fun level => .string level.name) settings.level),
        some (.ofOption (fun format => .string format.name) settings.format),
        some (.ofOption (fun targets => .array (targets.map Target.toJson)) settings.targets)]⟩ :=
    Json.fieldsOf?_object rfl (by decide)
  have level := Level.restores.option nofun settings.level
  have format := Format.restores.option nofun settings.format
  have targets := Target.restores.list.option nofun settings.targets
  simp only [decode?, fields, Option.bind_eq_bind, Option.bind_some, Bool.false_and,
    Bool.false_eq_true, if_false, Option.getD_some, level, format, targets]
  rfl

theorem Target.readable_toJson (target : Target) : target.toJson.Readable := by
  refine .object ?_
  simp only [List.forall_mem_cons]
  exact ⟨.string _, .ofOption .string _, .ofOption (fun _ => .string _) _, nofun⟩

theorem Settings.readable_toJson (settings : Settings) : settings.toJson.Readable := by
  have targets (listed : List Target) : (Json.array (listed.map Target.toJson)).Readable := by
    refine .array ?_
    rw [List.forall_mem_map]
    exact fun target _ => target.readable_toJson
  refine .object ?_
  simp only [List.forall_mem_cons]
  exact ⟨.ofOption (fun _ => .string _) _, .ofOption (fun _ => .string _) _, .ofOption targets _,
    nofun⟩

end Log

/-! ## All settings -/

namespace Config

/-- The numbers of a configuration are those of its words: one of 32 bits, all others of 64. -/
structure FitsWords (config : Config) : Prop where
  backendTimeout : config.backendTimeoutSeconds < Number.wordBound 64
  backendRetries : config.backendRetries < Number.wordBound 32
  healthInterval : config.healthIntervalSeconds < Number.wordBound 64
  circuitWindow : config.circuitWindowSeconds < Number.wordBound 64
  circuitCooldown : config.circuitCooldownSeconds < Number.wordBound 64
  poolMaxIdle : config.poolMaxIdlePerHost < Number.wordBound 64
  poolIdleTimeout : config.poolIdleTimeoutSeconds < Number.wordBound 64
  connectTimeout : config.connectTimeoutSeconds < Number.wordBound 64
  maxBody : config.maxBodyBytes < Number.wordBound 64

theorem restores_listen : Json.Restores decodeListen fun address => .string address.text :=
  Net.SocketAddress.parse?_text

theorem restores_mode :
    Json.Restores (Json.decodeChoice Mode.ofName?) fun mode => .string mode.name :=
  Json.restores_choice fun mode => by cases mode <;> decide

theorem restores_text : Json.Restores decodeText (.ofOption .string) :=
  Json.restores_string.option nofun

theorem restores_logging :
    Json.Restores (Json.optional Log.Settings.decode?) (.ofOption Log.Settings.toJson) :=
  Log.Settings.restores.option nofun

/-- A document restores the configuration that it states. -/
theorem decode?_toJson {config : Config} (words : config.FitsWords)
    (finite : config.circuitThreshold.isFinite = true) : decode? config.toJson = some config := by
  have fields : Json.fieldsOf? memberNames config.toJson = some _ :=
    Json.fieldsOf?_object rfl (by decide)
  have word64 {n : Nat} (small : n < Number.wordBound 64) : decodeWord64 (.ofNat n) = some n :=
    Json.decodeNatBelow_ofNat small
  have word32 {n : Nat} (small : n < Number.wordBound 32) : decodeWord32 (.ofNat n) = some n :=
    Json.decodeNatBelow_ofNat small
  refine Json.bind_of_eq_some fields ?_
  refine Json.bind_of_eq_some (restores_listen config.listen) ?_
  refine Json.bind_of_eq_some (restores_mode config.mode) ?_
  refine Json.bind_of_eq_some (restores_text config.routesFile) ?_
  refine Json.bind_of_eq_some (word64 words.backendTimeout) ?_
  refine Json.bind_of_eq_some (word32 words.backendRetries) ?_
  refine Json.bind_of_eq_some (word64 words.healthInterval) ?_
  refine Json.bind_of_eq_some (restores_text config.jwtSecret) ?_
  refine Json.bind_of_eq_some (word64 words.circuitWindow) ?_
  refine Json.bind_of_eq_some (Json.decodeBinary64_ofBinary64 finite) ?_
  refine Json.bind_of_eq_some (word64 words.circuitCooldown) ?_
  refine Json.bind_of_eq_some (word64 words.poolMaxIdle) ?_
  refine Json.bind_of_eq_some (word64 words.poolIdleTimeout) ?_
  refine Json.bind_of_eq_some (word64 words.connectTimeout) ?_
  refine Json.bind_of_eq_some (word64 words.maxBody) ?_
  refine Json.bind_of_eq_some (restores_text config.privateKey) ?_
  refine Json.bind_of_eq_some (restores_text config.certificate) ?_
  exact Json.bind_of_eq_some (restores_logging config.logging) rfl

/-- The document of a configuration says all that it means, if the threshold is read back. -/
theorem readable_toJson {config : Config} (words : config.FitsWords)
    (readsBack : Json.ReadsBack config.circuitThreshold) : config.toJson.Readable := by
  have text : ∀ value : Option String, (Json.ofOption .string value).Readable :=
    .ofOption .string
  have retries : config.backendRetries < Number.wordBound 64 :=
    Nat.lt_of_lt_of_le words.backendRetries (by decide)
  refine .object ?_
  simp only [List.forall_mem_cons]
  exact ⟨.string _, .string _, text _, .ofNat words.backendTimeout, .ofNat retries,
    .ofNat words.healthInterval, text _, .ofNat words.circuitWindow, .ofBinary64 readsBack,
    .ofNat words.circuitCooldown, .ofNat words.poolMaxIdle, .ofNat words.poolIdleTimeout,
    .ofNat words.connectTimeout, .ofNat words.maxBody, text _, text _,
    .ofOption Log.Settings.readable_toJson _, nofun⟩

/-- A configuration is read from the text that it is written as. -/
theorem ofText_toText {config : Config} (words : config.FitsWords)
    (finite : config.circuitThreshold.isFinite = true)
    (readsBack : Json.ReadsBack config.circuitThreshold) : ofText config.toText = .ok config := by
  rw [ofText, toText, Json.parse?_pretty (readable_toJson words readsBack), Option.bind_some,
    decode?_toJson words finite]

/-- Where a file can be written a configuration is kept: writing succeeds, and what is read from
there is the same configuration. Of the threshold it takes that its own text is read back. -/
theorem ofFile_toFile {config : Config} (words : config.FitsWords)
    (finite : config.circuitThreshold.isFinite = true)
    (readsBack : Json.ReadsBack config.circuitThreshold) {files : FileTree} {path : String}
    (writable : (files.writable path).isOk = true) :
    ∃ after, config.toFile files path = .ok after ∧ ofFile after path = .ok config := by
  obtain ⟨after, written⟩ : ∃ after, files.write path config.toText.toUTF8 = .ok after := by
    cases place : files.writable path with
    | error error => rw [place] at writable; cases writable
    | ok place' => exact ⟨_, by rw [FileTree.write, place]; rfl⟩
  refine ⟨after, by rw [toFile, written]; rfl, ?_⟩
  rw [ofFile, FileTree.readText_write written]
  exact ofText_toText words finite readsBack

/-- A configuration with the greatest number, an address with a scope, texts with quotes, line
breaks and characters outside the first plane, and a log with a target of each kind. -/
def farFromStandard : Config :=
  { standard with
    listen := .v6 ⟨[0xfe80, 0, 0, 0, 0, 0, 0, 1], rfl⟩ 3 443
    mode := .proxyAll
    routesFile := some "routes \"a\"\n.yml"
    backendTimeoutSeconds := 18446744073709551615
    backendRetries := 4294967295
    jwtSecret := some "\x00\\\x1f/ü😀"
    certificate := some ""
    logging := some ⟨none, some .json,
      some [⟨.file, some "log\t", none⟩, ⟨.stdout, none, some .error⟩]⟩ }

theorem ofFile_toFile_farFromStandard : ∃ after,
    farFromStandard.toFile .empty "gateway.json" = .ok after ∧
      ofFile after "gateway.json" = .ok farFromStandard := by
  have words : farFromStandard.FitsWords := by
    constructor <;> decide
  have readsBack : Json.ReadsBack farFromStandard.circuitThreshold := by
    have text : Number.jsonText farFromStandard.circuitThreshold = "0.5" := by decide +kernel
    rw [Json.ReadsBack, text]
    rfl
  exact ofFile_toFile words (by decide +kernel) readsBack (by decide +kernel)

end Config

end ApiGateway
