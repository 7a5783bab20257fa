import Hpcore.Conf.Json

/-! # Reading and writing the config

`read_config`, `write_config`, `parse_contract_section_json` and
`populate_contract_section_json`. A failing step returns the message the
source prints (without `errno` and the parser's own text).

`read_config` assigns the global `startup_role` at the role line, whether or
not the rest of the file is read: it runs in a state monad over
`startup_role`. `parse_contract_section_json` writes each field of the
contract as it reads it, so a failure leaves the fields read before it
written: it runs in a state monad over the contract. The other sections of
`read_config` fill a config its callers drop when the call fails, so they are
read into values. -/

namespace Hpcore.Conf

/-- The helpers `conf.cpp` calls from `util`, `version` and `conf.hpp`, none
part of the sources, and `ctx.config_file`. -/
structure ConfLib where
  /-- `version::HP_VERSION` -/
  hpVersion : String
  /-- `version::MIN_CONFIG_VERSION` -/
  minConfigVersion : String
  /-- `version::version_compare`: `-1` when the first is older, `-2` when one
  is malformed. -/
  versionCompare : String → String → Int
  /-- `util::to_hex` -/
  toHex : Bytes → String
  /-- `util::to_bin`: empty on a malformed hex string. -/
  toBin : String → Bytes
  /-- `peer_ip_port::from_string` -/
  peerFromString : String → Option PeerIpPort
  /-- `ugid::from_string` -/
  ugidFromString : String → Option Ugid
  /-- `ugid::to_string` -/
  ugidToString : Ugid → String
  /-- the pieces `util::split_string(out, s, " ")` appends -/
  splitString : String → List String
  /-- `ctx.config_file` -/
  configFile : String

def maxRoundTime : Nat := 3600000
def maxStageSlice : Nat := 33
def maxThreshold : Nat := 100

def roleObserver : String := "observer"
def roleValidator : String := "validator"
def historyFull : String := "full"
def historyCustom : String := "custom"
def modePublic : String := "public"
def modePrivate : String := "private"

/-- `print_missing_field_error`. -/
def missingFieldError (lib : ConfLib) (jpath : String) (e : JsonError) (isPatchConfig : Bool) : String :=
  if isPatchConfig then
    "Config validation error: " ++ e.what ++ " in '" ++ jpath ++ "' section in patch config"
  else "Config validation error: " ++ e.what ++ " in '" ++ jpath ++ "' section at " ++ lib.configFile

/-- A `jsoncons` call in a `try` block while the section path is `jpath`: its
exception becomes the message of `print_missing_field_error`. -/
def ConfLib.caught {α : Type} (lib : ConfLib) (isPatchConfig : Bool) (jpath : String)
    (x : Except JsonError α) : Except String α :=
  x.mapError fun e => missingFieldError lib jpath e isPatchConfig

/-- `get_loglevel_type`. -/
def getLoglevelType (severity : String) : LogSeverity :=
  if severity = "dbg" then .debug
  else if severity = "wrn" then .warn
  else if severity = "inf" then .info
  else .error

/-! ## The contract section -/

/-- The monad of `parse_contract_section_json`: it writes the contract it is
given field by field, and fails with a message. -/
abbrev ContractM := ExceptT String (StateM ContractConfig)

/-- `parse_contract_section_json`'s reads of `jsoncons` values. -/
def ContractM.caught {α : Type} (lib : ConfLib) (isPatchConfig : Bool) (jpath : String)
    (x : Except JsonError α) : ContractM α :=
  liftM (lib.caught isPatchConfig jpath x)

/-- A `uint32_t` consensus field: read, stored, then checked to be in
`[1, bound]` (`roundtime`, `stage_slice`, `threshold`). -/
def parseBoundedField (lib : ConfLib) (isPatchConfig : Bool) (consensus : Except JsonError Json)
    (key : String) (bound : Nat) (store : Nat → ConsensusConfig → ConsensusConfig) (message : String) :
    ContractM Unit := do
  let v ← ContractM.caught lib isPatchConfig "contract.consensus" (consensus >>= Json.get key >>= Json.asUInt 32)
  modify fun c => { c with consensus := store v c.consensus }
  if v < 1 ∨ v > bound then throw message

/-- A `public|private` flag (`consensus.mode`, `npl.mode`): checked, then
stored. -/
def parseModeField (lib : ConfLib) (isPatchConfig : Bool) (jpath : String) (flag : Except JsonError Json)
    (store : Mode → ContractConfig → ContractConfig) (message : String) : ContractM Unit := do
  let m ← ContractM.caught lib isPatchConfig jpath (flag >>= Json.asString)
  if m ≠ modePublic ∧ m ≠ modePrivate then throw message
  modify (store (if m = modePublic then .publicMode else .privateMode))

/-- `emplace` into the environment map: the first value of a key stays. -/
def emplaceEnv (env : List (String × String)) (key v : String) : List (String × String) :=
  if env.any (·.1 = key) then env else env ++ [(key, v)]

/-- The `environment` loop: each member must be a string. -/
def parseEnvironment : List (String × Json) → ContractM Unit
  | [] => pure ()
  | (key, v) :: rest => do
    match v with
    | .str s =>
      modify fun c => { c with environment := emplaceEnv c.environment key s }
      parseEnvironment rest
    | _ => throw ("contract.environment." ++ key ++ " environment variable should be a string.")

/-- The `unl` loop: each key is hex, decoded to binary. -/
def parseUnl (lib : ConfLib) (isPatchConfig : Bool) : List Json → ContractM Unit
  | [] => pure ()
  | pk :: rest => do
    let hex ← ContractM.caught lib isPatchConfig "contract.unl" pk.asString
    let bin := lib.toBin hex
    if bin.isEmpty then throw "Error decoding unl list."
    modify fun c => { c with unl := insert bin c.unl }
    parseUnl lib isPatchConfig rest

/-- A field read and stored as soon as it is read
(`contract.x = jdoc[...].as<T>()`). -/
def parseField {α : Type} (lib : ConfLib) (isPatchConfig : Bool) (jpath : String) (x : Except JsonError α)
    (store : α → ContractConfig → ContractConfig) : ContractM α := do
  let v ← ContractM.caught lib isPatchConfig jpath x
  modify (store v)
  pure v

/-- The fields only the config file has: `id`, `execute`, `run_as` and `log`. -/
def parseContractOwnFields (lib : ConfLib) (jdoc : Json) : ContractM Unit := do
  let id ← parseField lib false "contract" (jdoc.get "id" >>= Json.asString) fun v c => { c with id := v }
  if id.isEmpty then throw "Contract id not specified."
  discard <| parseField lib false "contract" (jdoc.get "execute" >>= Json.asBool) fun v c => { c with execute := v }
  match lib.ugidFromString (← ContractM.caught lib false "contract" (jdoc.get "run_as" >>= Json.asString)) with
  | none => throw "Invalid format for contract run as config (\"uid>0:gid>0\" expected)."
  | some runAs => modify fun c => { c with runAs }
  let log := fun (key : String) => jdoc.get "log" >>= Json.get key
  let enable ← parseField lib false "contract.log" (log "enable" >>= Json.asBool)
    fun v c => { c with log.enable := v }
  let maxMbytesPerFile ← parseField lib false "contract.log" (log "max_mbytes_per_file" >>= Json.asUInt 64)
    fun v c => { c with log.maxMbytesPerFile := v }
  let maxFileCount ← parseField lib false "contract.log" (log "max_file_count" >>= Json.asUInt 64)
    fun v c => { c with log.maxFileCount := v }
  if enable then
    if maxMbytesPerFile = 0 then
      throw "Contract log max mbytes per file must be greater than 0 to enable contract logging."
    if maxFileCount = 0 then
      throw "Contract log file count must be greater than 0 to enable contract logging."

/-- A `round_limits` field, read as an unsigned integer of `bits` bits. -/
def parseRoundLimit (lib : ConfLib) (isPatchConfig : Bool) (jdoc : Json) (key : String) (bits : Nat)
    (store : Nat → RoundLimitsConfig → RoundLimitsConfig) : ContractM Unit :=
  discard <| parseField lib isPatchConfig "contract.round_limits"
    (jdoc.get "round_limits" >>= Json.get key >>= Json.asUInt bits) fun v c => { c with roundLimits := store v c.roundLimits }

/-- The fields a patch file carries, in the order the source reads them. -/
def parseContractPatchFields (lib : ConfLib) (isPatchConfig : Bool) (jdoc : Json) : ContractM Unit := do
  let version ← parseField lib isPatchConfig "contract" (jdoc.get "version" >>= Json.asString)
    fun v c => { c with version := v }
  if version.isEmpty then throw "Contract version not specified."
  discard <| parseField lib isPatchConfig "contract" (jdoc.get "bin_path" >>= Json.asString)
    fun v c => { c with binPath := v }
  discard <| parseField lib isPatchConfig "contract" (jdoc.get "bin_args" >>= Json.asString)
    fun v c => { c with binArgs := v }
  discard <| parseField lib isPatchConfig "contract" (jdoc.get "max_input_ledger_offset" >>= Json.asUInt 16)
    fun v c => { c with maxInputLedgerOffset := v }
  modify fun c => { c with environment := [] }
  parseEnvironment (← ContractM.caught lib isPatchConfig "contract.environment"
    (jdoc.get "environment" >>= Json.objectRange))
  modify fun c => { c with unl := ∅ }
  parseUnl lib isPatchConfig (← ContractM.caught lib isPatchConfig "contract.unl" (jdoc.get "unl" >>= Json.arrayRange))
  if (← get).unl = ∅ then throw "UNL cannot be empty."
  let consensus := jdoc.get "consensus"
  parseBoundedField lib isPatchConfig consensus "roundtime" maxRoundTime
    (fun v k => { k with roundtime := v })
    ("Round time must be between 1 and " ++ toString maxRoundTime ++ "ms inclusive.")
  parseBoundedField lib isPatchConfig consensus "stage_slice" maxStageSlice
    (fun v k => { k with stageSlice := v })
    ("Stage slice must be between 1 and " ++ toString maxStageSlice ++ " percent inclusive.")
  parseBoundedField lib isPatchConfig consensus "threshold" maxThreshold
    (fun v k => { k with threshold := v })
    ("Threshold must be between 1 and " ++ toString maxThreshold ++ " percent inclusive.")
  parseModeField lib isPatchConfig "contract.consensus" (consensus >>= Json.get "mode")
    (fun m c => { c with consensus.mode := m }) "Invalid consensus flag configured. Valid values: public|private"
  parseModeField lib isPatchConfig "contract.npl" (jdoc.get "npl" >>= Json.get "mode")
    (fun m c => { c with nplMode := m }) "Invalid npl flag configured. Valid values: public|private"
  parseRoundLimit lib isPatchConfig jdoc "user_input_bytes" 64 fun v r => { r with userInputBytes := v }
  parseRoundLimit lib isPatchConfig jdoc "user_output_bytes" 64 fun v r => { r with userOutputBytes := v }
  parseRoundLimit lib isPatchConfig jdoc "npl_output_bytes" 64 fun v r => { r with nplOutputBytes := v }
  parseRoundLimit lib isPatchConfig jdoc "proc_cpu_seconds" 64 fun v r => { r with procCpuSeconds := v }
  parseRoundLimit lib isPatchConfig jdoc "proc_mem_bytes" 64 fun v r => { r with procMemBytes := v }
  parseRoundLimit lib isPatchConfig jdoc "proc_ofd_count" 64 fun v r => { r with procOfdCount := v }
  parseRoundLimit lib isPatchConfig jdoc "exec_timeout" 64 fun v r => { r with execTimeout := v }

/-- The arguments derived after a successful read: `KEY=value` per
environment entry, and `bin_path` followed by the split `bin_args`. -/
def ContractConfig.withRuntimeArgs (lib : ConfLib) (c : ContractConfig) : ContractConfig :=
  { c with
    runtimeEnvArgs := c.environment.map fun e => e.1 ++ "=" ++ e.2
    runtimeBinexecArgs := c.binPath :: if c.binArgs.isEmpty then [] else lib.splitString c.binArgs }

/-- `parse_contract_section_json`. -/
def parseContractSectionJson (lib : ConfLib) (jdoc : Json) (isPatchConfig : Bool) : ContractM Unit := do
  if !isPatchConfig then parseContractOwnFields lib jdoc
  parseContractPatchFields lib isPatchConfig jdoc
  modify (ContractConfig.withRuntimeArgs lib)

/-- `parse_contract_section_json` on `contract`: the result and the contract
it leaves. -/
def parseContract (lib : ConfLib) (jdoc : Json) (isPatchConfig : Bool) (contract : ContractConfig) :
    Except String Unit × ContractConfig :=
  (parseContractSectionJson lib jdoc isPatchConfig).run contract

/-- `populate_contract_section_json`, on the empty document both callers pass
(so each `insert_or_assign` appends). -/
def populateContractSectionJson (lib : ConfLib) (contract : ContractConfig) (isPatchConfig : Bool) :
    List (String × Json) :=
  (if !isPatchConfig then
    [("id", .str contract.id), ("execute", .bool contract.execute),
      ("run_as", .str (lib.ugidToString contract.runAs)),
      ("log", .obj [("enable", .bool contract.log.enable),
        ("max_mbytes_per_file", .uint contract.log.maxMbytesPerFile),
        ("max_file_count", .uint contract.log.maxFileCount)])]
  else []) ++
  [("version", .str contract.version),
    ("unl", .arr ((setToList contract.unl).map fun pk => .str (lib.toHex pk))),
    ("bin_path", .str contract.binPath), ("bin_args", .str contract.binArgs),
    ("environment", .obj (contract.environment.map fun e => (e.1, .str e.2))),
    ("max_input_ledger_offset", .uint contract.maxInputLedgerOffset),
    ("consensus", .obj [
      ("mode", .str (if contract.consensus.mode = .publicMode then modePublic else modePrivate)),
      ("roundtime", .uint contract.consensus.roundtime),
      ("stage_slice", .uint contract.consensus.stageSlice),
      ("threshold", .uint contract.consensus.threshold)]),
    ("npl", .obj [("mode", .str (if contract.nplMode = .publicMode then modePublic else modePrivate))]),
    ("round_limits", .obj [
      ("user_input_bytes", .uint contract.roundLimits.userInputBytes),
      ("user_output_bytes", .uint contract.roundLimits.userOutputBytes),
      ("npl_output_bytes", .uint contract.roundLimits.nplOutputBytes),
      ("proc_cpu_seconds", .uint contract.roundLimits.procCpuSeconds),
      ("proc_mem_bytes", .uint contract.roundLimits.procMemBytes),
      ("proc_ofd_count", .uint contract.roundLimits.procOfdCount),
      ("exec_timeout", .uint contract.roundLimits.execTimeout)])]

/-! ## `read_config` -/

/-- The keys of the node section. -/
structure NodeKeys where
  publicKeyHex : String
  privateKeyHex : String
  publicKey : Bytes
  privateKey : Bytes

/-- `read_config` up to its `hp_version` checks: the document. -/
def readConfigHeader (lib : ConfLib) (readOk : Bool) (text : FileText) : Except String Json :=
  if !readOk then .error "Error reading from the config file."
  else match text with
    | .unparsable => .error "Invalid config file format."
    | .doc d =>
      match d.get "hp_version" >>= Json.asString with
      | .error _ => .error ("Required config field hp_version missing at " ++ lib.configFile)
      | .ok configVersion =>
        if configVersion.isEmpty then .error "Config HP version missing."
        else if lib.versionCompare configVersion lib.minConfigVersion = -1 then
          .error ("Config version too old. Minimum " ++ lib.minConfigVersion ++ " required. " ++
            configVersion ++ " found.")
        else if lib.versionCompare configVersion lib.minConfigVersion = -2 then
          .error "Malformed version string."
        else .ok d

/-- The node section's keys, hex and decoded. -/
def readNodeKeys (lib : ConfLib) (node : Json) : Except String NodeKeys := do
  let publicKeyHex ← lib.caught false "node" (node.get "public_key" >>= Json.asString)
  let privateKeyHex ← lib.caught false "node" (node.get "private_key" >>= Json.asString)
  let publicKey := lib.toBin publicKeyHex
  if publicKey.isEmpty then throw "Error decoding hex public key."
  let privateKey := lib.toBin privateKeyHex
  if privateKey.isEmpty then throw "Error decoding hex private key."
  pure ⟨publicKeyHex, privateKeyHex, publicKey, privateKey⟩

/-- The role line. -/
def readRole (lib : ConfLib) (node : Json) : Except String Role := do
  let role ← lib.caught false "node" (node.get "role")
  if role.eqStr roleObserver then pure .observer
  else if role.eqStr roleValidator then pure .validator
  else throw "Invalid role. 'observer' or 'validator' expected."

/-- `read_config` up to the role line, where it assigns `startup_role`: the
document, its node section, the keys and the role. -/
def readConfigUpToRole (lib : ConfLib) (readOk : Bool) (text : FileText) :
    Except String (Json × Json × NodeKeys × Role) := do
  let d ← readConfigHeader lib readOk text
  let node ← lib.caught false "node" (d.get "node")
  let keys ← readNodeKeys lib node
  let role ← readRole lib node
  pure (d, node, keys, role)

/-- The node section after the role line. -/
def readHistory (lib : ConfLib) (node : Json) : Except String (History × HistoryConfig) := do
  let history ← lib.caught false "node" (node.get "history")
  let history ←
    if history.eqStr historyFull then pure History.full
    else if history.eqStr historyCustom then pure History.custom
    else throw "Invalid history mode. 'full' or 'custom' expected."
  let caught := fun {α : Type} => @ConfLib.caught α lib false "node.history_config"
  let maxPrimaryShards ← caught (node.get "history_config" >>= Json.get "max_primary_shards" >>= Json.asUInt 64)
  let maxRawShards ← caught (node.get "history_config" >>= Json.get "max_raw_shards" >>= Json.asUInt 64)
  if history = .custom ∧ maxPrimaryShards = 0 then
    throw "'max_primary_shards' cannot be zero in history=custom mode."
  pure (history, ⟨maxPrimaryShards, maxRawShards⟩)

/-- The `known_peers` loop of the mesh section; the set keeps each peer once. -/
def readKnownPeers (lib : ConfLib) (peers : List PeerIpPort) : List Json → Except String (List PeerIpPort)
  | [] => pure peers
  | v :: rest => do
    let ipportConcat ← lib.caught false "mesh" v.asString
    match lib.peerFromString ipportConcat with
    | none => throw ("Invalid peer: " ++ ipportConcat)
    | some ipp => readKnownPeers lib (if ipp ∈ peers then peers else peers ++ [ipp]) rest

/-- The mesh section. -/
def readMeshSection (lib : ConfLib) (d : Json) : Except String MeshConfig := do
  let caught := fun {α : Type} => @ConfLib.caught α lib false "mesh"
  let mesh := d.get "mesh"
  let field := fun (key : String) => mesh >>= Json.get key
  let port ← caught (field "port" >>= Json.asUInt 16)
  let listen ← caught (field "listen" >>= Json.asBool)
  let idleTimeout ← caught (field "idle_timeout" >>= Json.asUInt 32)
  let knownPeers ← readKnownPeers lib [] (← caught (field "known_peers" >>= Json.arrayRange))
  let msgForwarding ← caught (field "msg_forwarding" >>= Json.asBool)
  let maxConnections ← caught (field "max_connections" >>= Json.asUInt 16)
  let maxKnownConnections ← caught (field "max_known_connections" >>= Json.asUInt 16)
  let maxInConnectionsPerHost ← caught (field "max_in_connections_per_host" >>= Json.asUInt 16)
  if maxConnections > 0 ∧ (maxKnownConnections > maxConnections ∨ maxKnownConnections = 0) then
    throw "Invalid configuration values: mesh max_known_connections count should not exceed mesh max_connections."
  let maxBytesPerMsg ← caught (field "max_bytes_per_msg" >>= Json.asUInt 64)
  let maxBytesPerMin ← caught (field "max_bytes_per_min" >>= Json.asUInt 64)
  let maxBadMsgsPerMin ← caught (field "max_bad_msgs_per_min" >>= Json.asUInt 64)
  let maxBadMsgsigsPerMin ← caught (field "max_bad_msgsigs_per_min" >>= Json.asUInt 64)
  let maxDupMsgsPerMin ← caught (field "max_dup_msgs_per_min" >>= Json.asUInt 64)
  let interval ← lib.caught false "mesh.peer_discovery"
    (field "peer_discovery" >>= Json.get "interval" >>= Json.asUInt 16)
  let enabled ← lib.caught false "mesh.peer_discovery"
    (field "peer_discovery" >>= Json.get "enabled" >>= Json.asBool)
  pure ⟨port, listen, idleTimeout, knownPeers, msgForwarding, maxConnections, maxKnownConnections,
    maxInConnectionsPerHost, maxBytesPerMsg, maxBytesPerMin, maxBadMsgsPerMin, maxBadMsgsigsPerMin,
    maxDupMsgsPerMin, ⟨interval, enabled⟩⟩

/-- The user section. -/
def readUserSection (lib : ConfLib) (d : Json) : Except String UserConfig := do
  let field := fun (key : String) (bits : Nat) =>
    lib.caught false "user" (d.get "user" >>= Json.get key >>= Json.asUInt bits)
  let port ← field "port" 16
  let listen ← lib.caught false "user" (d.get "user" >>= Json.get "listen" >>= Json.asBool)
  let idleTimeout ← field "idle_timeout" 32
  let maxConnections ← field "max_connections" 64
  let maxInConnectionsPerHost ← field "max_in_connections_per_host" 64
  let maxBytesPerMsg ← field "max_bytes_per_msg" 64
  let maxBytesPerMin ← field "max_bytes_per_min" 64
  let maxBadMsgsPerMin ← field "max_bad_msgs_per_min" 64
  let concurrentReadRequests ← field "concurrent_read_requests" 64
  pure ⟨port, listen, idleTimeout, maxConnections, maxInConnectionsPerHost, maxBytesPerMsg, maxBytesPerMin,
    maxBadMsgsPerMin, concurrentReadRequests⟩

/-- The hpfs section. -/
def readHpfsSection (lib : ConfLib) (d : Json) : Except String HpfsConfig := do
  let external ← lib.caught false "hpfs" (d.get "hpfs" >>= Json.get "external" >>= Json.asBool)
  let logLevel ← lib.caught false "hpfs" (d.get "hpfs" >>= Json.get "log" >>= Json.get "log_level" >>= Json.asString)
  pure ⟨external, logLevel⟩

/-- The `loggers` loop of the log section. -/
def readLoggers (lib : ConfLib) (loggers : Finset String) : List Json → Except String (Finset String)
  | [] => pure loggers
  | v :: rest => do readLoggers lib (insert (← lib.caught false "log" v.asString) loggers) rest

/-- The log section. -/
def readLogSection (lib : ConfLib) (d : Json) : Except String LogConfig := do
  let field := fun (key : String) => lib.caught false "log" (d.get "log" >>= Json.get key)
  let logLevel ← lib.caught false "log" (d.get "log" >>= Json.get "log_level" >>= Json.asString)
  let maxMbytesPerFile ← field "max_mbytes_per_file" >>= fun j => lib.caught false "log" (j.asUInt 64)
  let maxFileCount ← field "max_file_count" >>= fun j => lib.caught false "log" (j.asUInt 64)
  let loggers ← readLoggers lib ∅ (← field "loggers" >>= fun j => lib.caught false "log" j.arrayRange)
  pure ⟨logLevel, getLoglevelType logLevel, maxMbytesPerFile, maxFileCount, loggers⟩

/-- `read_config` after the role line, on what it read up to there. A missing
`contract` section reaches `parse_contract_section_json` as a null document. -/
def readConfigFromRole (lib : ConfLib) (x : Json × Json × NodeKeys × Role) (cfg : HpConfig) :
    Except String HpConfig := do
  let (d, node, keys, role) := x
  let (history, historyConfig) ← readHistory lib node
  let contractDoc := match d.get "contract" with | .ok c => c | .error _ => .null
  let (res, contract) := parseContract lib contractDoc false cfg.contract
  res
  let mesh ← readMeshSection lib d
  let user ← readUserSection lib d
  let hpfs ← readHpfsSection lib d
  let log ← readLogSection lib d
  pure ⟨⟨keys.publicKeyHex, keys.privateKeyHex, keys.publicKey, keys.privateKey, role, history, historyConfig⟩,
    contract, mesh, user, hpfs, log⟩

/-- The monad of `read_config`: it assigns the global `startup_role` and fails
with a message. -/
abbrev ReadM := ExceptT String (StateM Role)

/-- `read_config` into `cfg`, on the file's text (`readOk`: whether
`read_from_fd` succeeds). `startup_role` is assigned at the role line. -/
def readConfig (lib : ConfLib) (readOk : Bool) (text : FileText) (cfg : HpConfig) : ReadM HpConfig := do
  let x ← liftM (readConfigUpToRole lib readOk text)
  set x.2.2.2
  liftM (readConfigFromRole lib x cfg)

/-! ## `write_config` -/

/-- The document `write_config` writes (each `insert_or_assign` appends a new
key). -/
def configDoc (lib : ConfLib) (cfg : HpConfig) : Json :=
  .obj [("hp_version", .str lib.hpVersion),
    ("node", .obj [("public_key", .str cfg.node.publicKeyHex), ("private_key", .str cfg.node.privateKeyHex),
      ("role", .str (if cfg.node.role = .observer then roleObserver else roleValidator)),
      ("history", .str (if cfg.node.history = .full then historyFull else historyCustom)),
      ("history_config", .obj [("max_primary_shards", .uint cfg.node.historyConfig.maxPrimaryShards),
        ("max_raw_shards", .uint cfg.node.historyConfig.maxRawShards)])]),
    ("contract", .obj (populateContractSectionJson lib cfg.contract false)),
    ("mesh", .obj [("port", .uint cfg.mesh.port), ("listen", .bool cfg.mesh.listen),
      ("idle_timeout", .uint cfg.mesh.idleTimeout),
      ("known_peers", .arr (cfg.mesh.knownPeers.map fun ipp =>
        .str (ipp.hostAddress ++ ":" ++ toString ipp.port))),
      ("msg_forwarding", .bool cfg.mesh.msgForwarding), ("max_connections", .uint cfg.mesh.maxConnections),
      ("max_known_connections", .uint cfg.mesh.maxKnownConnections),
      ("max_in_connections_per_host", .uint cfg.mesh.maxInConnectionsPerHost),
      ("max_bytes_per_msg", .uint cfg.mesh.maxBytesPerMsg), ("max_bytes_per_min", .uint cfg.mesh.maxBytesPerMin),
      ("max_bad_msgs_per_min", .uint cfg.mesh.maxBadMsgsPerMin),
      ("max_bad_msgsigs_per_min", .uint cfg.mesh.maxBadMsgsigsPerMin),
      ("max_dup_msgs_per_min", .uint cfg.mesh.maxDupMsgsPerMin),
      ("peer_discovery", .obj [("enabled", .bool cfg.mesh.peerDiscovery.enabled),
        ("interval", .uint cfg.mesh.peerDiscovery.interval)])]),
    ("user", .obj [("port", .uint cfg.user.port), ("listen", .bool cfg.user.listen),
      ("idle_timeout", .uint cfg.user.idleTimeout), ("max_bytes_per_msg", .uint cfg.user.maxBytesPerMsg),
      ("max_bytes_per_min", .uint cfg.user.maxBytesPerMin),
      ("max_bad_msgs_per_min", .uint cfg.user.maxBadMsgsPerMin),
      ("max_connections", .uint cfg.user.maxConnections),
      ("max_in_connections_per_host", .uint cfg.user.maxInConnectionsPerHost),
      ("concurrent_read_requests", .uint cfg.user.concurrentReadRequests)]),
    ("hpfs", .obj [("external", .bool cfg.hpfs.external), ("log", .obj [("log_level", .str cfg.hpfs.logLevel)])]),
    ("log", .obj [("log_level", .str cfg.log.logLevel), ("max_mbytes_per_file", .uint cfg.log.maxMbytesPerFile),
      ("max_file_count", .uint cfg.log.maxFileCount),
      ("loggers", .arr ((cfg.log.loggers.sort (· ≤ ·)).map .str))])]

/-- `write_config`: the return value and the new content of the config file. -/
def writeConfig (lib : ConfLib) (file : FileText) (cfg : HpConfig) (w : WriteOutcome) : Int × FileText :=
  writeJsonFile file (configDoc lib cfg) w

/-! ## What `read_config` does to `startup_role` -/

theorem readConfig_run (lib : ConfLib) (ok : Bool) (text : FileText) (cfg : HpConfig) (r0 : Role) :
    (readConfig lib ok text cfg).run.run r0 =
      match readConfigUpToRole lib ok text with
      | .ok x => (readConfigFromRole lib x cfg, x.2.2.2)
      | .error e => (.error e, r0) := by
  unfold readConfig
  cases readConfigUpToRole lib ok text <;> rfl

theorem readConfigFromRole_role {lib : ConfLib} {x : Json × Json × NodeKeys × Role} {cfg c : HpConfig}
    (h : readConfigFromRole lib x cfg = .ok c) : c.node.role = x.2.2.2 := by
  obtain ⟨d, node, keys, role⟩ := x
  simp only [readConfigFromRole, bind, Except.bind, pure, Except.pure] at h
  repeat (split at h <;> try (cases h; done))
  all_goals cases h; rfl

/-- The role `read_config` assigns to `startup_role` when it reads `text`, if it gets to the role line. -/
def fileRole (lib : ConfLib) (text : FileText) : Option Role :=
  (readConfigUpToRole lib true text).toOption.map (·.2.2.2)

theorem readConfigHeader_doc {lib : ConfLib} {ok : Bool} {d d' : Json}
    (h : readConfigHeader lib ok (.doc d) = .ok d') : d' = d := by
  simp only [readConfigHeader] at h
  repeat (split at h <;> try (cases h; done))
  all_goals cases h; rfl

theorem configDoc_role (lib : ConfLib) (c : HpConfig) :
    ∃ node, (configDoc lib c).get "node" = .ok node ∧ readRole lib node = .ok c.node.role := by
  refine ⟨_, rfl, ?_⟩
  cases h : c.node.role <;> simp [readRole, Json.get, h, Json.eqStr, roleObserver, roleValidator, ConfLib.caught,
    bind, Except.bind, pure, Except.pure, Except.mapError]

theorem fileRole_configDoc (lib : ConfLib) (c : HpConfig) {r : Role}
    (h : fileRole lib (.doc (configDoc lib c)) = some r) : r = c.node.role := by
  obtain ⟨node, hnode, hrole⟩ := configDoc_role lib c
  cases hh : readConfigHeader lib true (.doc (configDoc lib c)) with
  | error e => simp [fileRole, readConfigUpToRole, hh, bind, Except.bind, Except.toOption] at h
  | ok d =>
    obtain rfl := readConfigHeader_doc hh
    cases hk : readNodeKeys lib node with
    | error e =>
      simp [fileRole, readConfigUpToRole, hh, hnode, hk, ConfLib.caught, Except.mapError, bind, Except.bind,
        Except.toOption] at h
    | ok keys =>
      simp [fileRole, readConfigUpToRole, hh, hnode, hk, hrole, ConfLib.caught, Except.mapError, bind,
        Except.bind, pure, Except.pure, Except.toOption] at h
      exact h.symm

theorem readConfigUpToRole_readOk {lib : ConfLib} {ok : Bool} {text : FileText} {x : Json × Json × NodeKeys × Role}
    (h : readConfigUpToRole lib ok text = .ok x) : readConfigUpToRole lib true text = .ok x := by
  cases ok
  · simp [readConfigUpToRole, readConfigHeader, bind, Except.bind] at h
  · exact h

/-- A `read_config` of a file whose role is `startup_role` keeps
`startup_role`, and a config it reads has that role. -/
theorem readConfig_keeps_role {lib : ConfLib} {ok : Bool} {text : FileText} {cfg : HpConfig} {r0 : Role}
    (hinv : ∀ r, fileRole lib text = some r → r = r0) :
    ((readConfig lib ok text cfg).run.run r0).2 = r0 ∧
      ∀ c, ((readConfig lib ok text cfg).run.run r0).1 = .ok c → c.node.role = r0 := by
  rw [readConfig_run]
  cases hx : readConfigUpToRole lib ok text with
  | error e => simp
  | ok x =>
    have hr : x.2.2.2 = r0 := hinv _ (by simp [fileRole, readConfigUpToRole_readOk hx, Except.toOption])
    exact ⟨hr, fun c hc => (readConfigFromRole_role hc).trans hr⟩

/-! ## A config to run the model on -/

/-- Helpers to run the model with: a key is the bytes of its text, every
version is accepted, `run_as` is `1:1`. -/
def sampleLib : ConfLib where
  hpVersion := "0.6.0"
  minConfigVersion := "0.5.0"
  versionCompare _ _ := 0
  toHex b := String.mk (b.map fun x => Char.ofNat x.val)
  toBin s := s.toList.map fun c => Fin.ofNat c.toNat
  peerFromString s := some ⟨s, 0⟩
  ugidFromString _ := some ⟨1, 1⟩
  ugidToString _ := "1:1"
  splitString s := [s]
  configFile := "hp.cfg"

/-- A contract at version `1.0` with a one-key UNL. -/
def sampleContract : ContractConfig :=
  ⟨"id1", true, ⟨1, 1⟩, ⟨false, 0, 0⟩, "1.0", insert (sampleLib.toBin "ab") ∅, "/bin/x", "", [], 5,
    ⟨.publicMode, 1000, 25, 80⟩, .privateMode, ⟨1, 2, 3, 4, 5, 6, 7⟩, [], ["/bin/x"]⟩

/-- An observer's config. -/
def sampleConfig : HpConfig :=
  ⟨⟨"ab", "cd", sampleLib.toBin "ab", sampleLib.toBin "cd", .observer, .full, ⟨0, 0⟩⟩, sampleContract,
    ⟨22860, true, 120, [], true, 0, 0, 0, 0, 0, 0, 0, 0, ⟨0, false⟩⟩, ⟨8080, true, 0, 0, 0, 0, 0, 0, 4⟩,
    ⟨false, "err"⟩, ⟨"inf", .info, 1, 2, insert "a" ∅⟩⟩

theorem sort_insert_empty (a : String) : (insert a ∅ : Finset String).sort (· ≤ ·) = [a] := by
  simp

end Hpcore.Conf
