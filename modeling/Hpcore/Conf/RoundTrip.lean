import Hpcore.Conf.Updates

/-! # The config files round-trip

`read_config` of the file `write_config` writes gives the config back, and
`parse_contract_section_json` of the document `populate_contract_section_json`
writes gives the contract back, for every config whose values pass the checks
the readers make and fit the widths they read them at. The library helpers
`conf.cpp` calls (`util::to_bin`, `ugid::from_string`,
`peer_ip_port::from_string`) are not part of the sources: that each reads back
what its writer wrote is a condition on the values, stated with the checks.

The contract parser writes its state field by field: each of its loops and
steps has a run lemma, and a whole parse is assembled from them. -/

namespace Hpcore.Conf

variable {α β : Type}

/-! ## Running the parsers -/

theorem ContractM.run_bind (x : ContractM α) (f : α → ContractM β) (s : ContractConfig) :
    (x >>= f).run s = match x.run s with
      | (.ok a, s') => (f a).run s'
      | (.error e, s') => (.error e, s') := by
  show (x.run s >>= fun p => _) = _
  simp only [bind, StateT.bind, ExceptT.bind, ExceptT.mk, ExceptT.run]
  rcases x s with ⟨_ | a, s'⟩ <;> rfl

theorem ContractM.run_discard (x : ContractM α) (s : ContractConfig) :
    (discard x).run s = match x.run s with
      | (.ok _, s') => (.ok (), s')
      | (.error e, s') => (.error e, s') := by
  show (x >>= fun _ => pure ()).run s = _
  rw [ContractM.run_bind]
  rcases x.run s with ⟨_ | a, s'⟩ <;> rfl

@[simp] theorem ContractM.run_pure (a : α) (s : ContractConfig) : (pure a : ContractM α).run s = (.ok a, s) := rfl

@[simp] theorem ContractM.run_modify (f : ContractConfig → ContractConfig) (s : ContractConfig) :
    (modify f : ContractM Unit).run s = (.ok (), f s) := rfl

@[simp] theorem ContractM.run_get (s : ContractConfig) : (get : ContractM ContractConfig).run s = (.ok s, s) := rfl

@[simp] theorem ContractM.run_caught_ok (lib : ConfLib) (p : Bool) (jpath : String) (v : α) (s : ContractConfig) :
    (ContractM.caught lib p jpath (.ok v)).run s = (.ok v, s) := rfl

theorem parseField_run_ok (lib : ConfLib) (p : Bool) (jpath : String) (v : α)
    (store : α → ContractConfig → ContractConfig) (s : ContractConfig) :
    (parseField lib p jpath (.ok v) store).run s = (.ok v, store v s) := rfl

@[simp] theorem except_ok_bind {ε : Type} (a : α) (f : α → Except ε β) : (Except.ok a >>= f) = f a := rfl

@[simp] theorem except_pure {ε : Type} (a : α) : (pure a : Except ε α) = .ok a := rfl

@[simp] theorem ConfLib.caught_ok (lib : ConfLib) (p : Bool) (jpath : String) (v : α) :
    lib.caught p jpath (.ok v) = .ok v := rfl

/-- An unsigned field within its width reads back as written. -/
theorem Json.asUInt_uint {bits n : Nat} (h : n < 2 ^ bits) : (Json.uint n).asUInt bits = .ok n := by
  simp only [Json.uint, Json.asUInt]
  rw [Int.emod_eq_of_lt (Int.natCast_nonneg n) (by exact_mod_cast h)]
  rfl

theorem String.isEmpty_eq_false {s : String} (h : s ≠ "") : s.isEmpty = false := by
  rw [Bool.eq_false_iff, ne_eq, String.isEmpty_iff]
  exact h

/-- The `public|private` text a mode is written as passes the flag check ... -/
theorem modeString_valid (m : Mode) :
    ¬((if m = .publicMode then modePublic else modePrivate) ≠ modePublic ∧
      (if m = .publicMode then modePublic else modePrivate) ≠ modePrivate) := by
  cases m <;> simp

/-- ... and reads back as the mode. -/
theorem modeString_read (m : Mode) :
    (if (if m = .publicMode then modePublic else modePrivate) = modePublic then Mode.publicMode
      else .privateMode) = m := by
  cases m <;> simp [modePublic, modePrivate]

/-! ## What the checks admit -/

/-- The checks `parse_contract_section_json` makes in patch mode, each number
within the width it is read at, and keys that `util::to_bin` decodes back.
`environment` is a map: its keys are distinct. -/
structure ContractConfig.PassesPatchChecks (lib : ConfLib) (k : ContractConfig) : Prop where
  version : k.version ≠ ""
  unl_nonempty : k.unl ≠ ∅
  unl_keys : ∀ pk ∈ k.unl, pk ≠ [] ∧ lib.toBin (lib.toHex pk) = pk
  environment_keys : (k.environment.map Prod.fst).Nodup
  maxInputLedgerOffset : k.maxInputLedgerOffset < 2 ^ 16
  roundtime : 1 ≤ k.consensus.roundtime ∧ k.consensus.roundtime ≤ maxRoundTime
  stageSlice : 1 ≤ k.consensus.stageSlice ∧ k.consensus.stageSlice ≤ maxStageSlice
  threshold : 1 ≤ k.consensus.threshold ∧ k.consensus.threshold ≤ maxThreshold
  userInputBytes : k.roundLimits.userInputBytes < 2 ^ 64
  userOutputBytes : k.roundLimits.userOutputBytes < 2 ^ 64
  nplOutputBytes : k.roundLimits.nplOutputBytes < 2 ^ 64
  procCpuSeconds : k.roundLimits.procCpuSeconds < 2 ^ 64
  procMemBytes : k.roundLimits.procMemBytes < 2 ^ 64
  procOfdCount : k.roundLimits.procOfdCount < 2 ^ 64
  execTimeout : k.roundLimits.execTimeout < 2 ^ 64

/-- The checks on the fields only the config file has, and a `run_as` that
`ugid::from_string` reads back. -/
structure ContractConfig.PassesOwnChecks (lib : ConfLib) (k : ContractConfig) : Prop where
  id : k.id ≠ ""
  runAs : lib.ugidFromString (lib.ugidToString k.runAs) = some k.runAs
  log : k.log.enable = true → 0 < k.log.maxMbytesPerFile ∧ 0 < k.log.maxFileCount
  maxMbytesPerFile : k.log.maxMbytesPerFile < 2 ^ 64
  maxFileCount : k.log.maxFileCount < 2 ^ 64

/-- The mesh section's check, its widths, and peers that
`peer_ip_port::from_string` reads back. `known_peers` is a set. -/
structure MeshConfig.PassesChecks (lib : ConfLib) (m : MeshConfig) : Prop where
  knownPeers_nodup : m.knownPeers.Nodup
  knownPeers_read : ∀ ipp ∈ m.knownPeers,
    lib.peerFromString (ipp.hostAddress ++ ":" ++ toString ipp.port) = some ipp
  knownConnections : 0 < m.maxConnections → 0 < m.maxKnownConnections ∧ m.maxKnownConnections ≤ m.maxConnections
  port : m.port < 2 ^ 16
  idleTimeout : m.idleTimeout < 2 ^ 32
  maxConnections : m.maxConnections < 2 ^ 16
  maxKnownConnections : m.maxKnownConnections < 2 ^ 16
  maxInConnectionsPerHost : m.maxInConnectionsPerHost < 2 ^ 16
  maxBytesPerMsg : m.maxBytesPerMsg < 2 ^ 64
  maxBytesPerMin : m.maxBytesPerMin < 2 ^ 64
  maxBadMsgsPerMin : m.maxBadMsgsPerMin < 2 ^ 64
  maxBadMsgsigsPerMin : m.maxBadMsgsigsPerMin < 2 ^ 64
  maxDupMsgsPerMin : m.maxDupMsgsPerMin < 2 ^ 64
  interval : m.peerDiscovery.interval < 2 ^ 16

/-- The widths of the user section. -/
structure UserConfig.PassesChecks (u : UserConfig) : Prop where
  port : u.port < 2 ^ 16
  idleTimeout : u.idleTimeout < 2 ^ 32
  maxConnections : u.maxConnections < 2 ^ 64
  maxInConnectionsPerHost : u.maxInConnectionsPerHost < 2 ^ 64
  maxBytesPerMsg : u.maxBytesPerMsg < 2 ^ 64
  maxBytesPerMin : u.maxBytesPerMin < 2 ^ 64
  maxBadMsgsPerMin : u.maxBadMsgsPerMin < 2 ^ 64
  concurrentReadRequests : u.concurrentReadRequests < 2 ^ 64

/-- The checks of `read_config`, the widths it reads at, and the contract
checks of `parse_contract_section_json` outside patch mode. -/
structure HpConfig.PassesChecks (lib : ConfLib) (c : HpConfig) : Prop where
  hpVersion : lib.hpVersion ≠ ""
  versionNotOld : lib.versionCompare lib.hpVersion lib.minConfigVersion ≠ -1
  versionWellFormed : lib.versionCompare lib.hpVersion lib.minConfigVersion ≠ -2
  publicKey : lib.toBin c.node.publicKeyHex ≠ []
  privateKey : lib.toBin c.node.privateKeyHex ≠ []
  maxPrimaryShards_custom : c.node.history = .custom → c.node.historyConfig.maxPrimaryShards ≠ 0
  maxPrimaryShards : c.node.historyConfig.maxPrimaryShards < 2 ^ 64
  maxRawShards : c.node.historyConfig.maxRawShards < 2 ^ 64
  contractPatch : c.contract.PassesPatchChecks lib
  contractOwn : c.contract.PassesOwnChecks lib
  mesh : c.mesh.PassesChecks lib
  user : c.user.PassesChecks
  logMaxMbytesPerFile : c.log.maxMbytesPerFile < 2 ^ 64
  logMaxFileCount : c.log.maxFileCount < 2 ^ 64

/-- The config `read_config` builds from what `write_config` persisted: the
keys decoded from their hex, the contract's runtime arguments and the log
severity derived again, every other field as it was. -/
def HpConfig.derived (lib : ConfLib) (c : HpConfig) : HpConfig :=
  { c with
    node := { c.node with publicKey := lib.toBin c.node.publicKeyHex, privateKey := lib.toBin c.node.privateKeyHex }
    contract := c.contract.withRuntimeArgs lib
    log := { c.log with logLevelType := getLoglevelType c.log.logLevel } }

/-- The contract `k0` with the fields a patch file carries taken from `k`. -/
def ContractConfig.patchedWith (k0 k : ContractConfig) : ContractConfig :=
  { k0 with
    version := k.version, unl := k.unl, binPath := k.binPath, binArgs := k.binArgs
    environment := k.environment, maxInputLedgerOffset := k.maxInputLedgerOffset
    consensus := k.consensus, nplMode := k.nplMode, roundLimits := k.roundLimits }

@[simp] theorem ContractConfig.patchedWith_self (k : ContractConfig) : k.patchedWith k = k := rfl

/-! ## The contract section -/

/-- The `environment` loop on distinct keys appends them all. -/
theorem parseEnvironment_run (env : List (String × String)) (s : ContractConfig)
    (h : ((s.environment ++ env).map Prod.fst).Nodup) :
    (parseEnvironment (env.map fun e => (e.1, Json.str e.2))).run s =
      (.ok (), { s with environment := s.environment ++ env }) := by
  induction env generalizing s with
  | nil => simp [parseEnvironment]
  | cons e env ih =>
    have hk : (s.environment.any fun x => decide (x.1 = e.1)) = false := by
      simp only [List.map_append, List.map_cons, List.nodup_append, List.nodup_cons] at h
      simpa using fun a b hab he => h.2.2 (List.mem_map_of_mem Prod.fst hab) (by rw [← he]; exact List.mem_cons_self _ _)
    simp only [List.map_cons, parseEnvironment, ContractM.run_bind, ContractM.run_modify, emplaceEnv, hk]
    rw [ih]
    · simp
    · simpa using h

/-- The `unl` loop on keys that decode inserts them all. -/
theorem parseUnl_run (lib : ConfLib) (p : Bool) (keys : List Bytes)
    (h : ∀ pk ∈ keys, pk ≠ [] ∧ lib.toBin (lib.toHex pk) = pk) (s : ContractConfig) :
    (parseUnl lib p (keys.map fun pk => Json.str (lib.toHex pk))).run s =
      (.ok (), { s with unl := keys.foldl (fun u pk => insert pk u) s.unl }) := by
  induction keys generalizing s with
  | nil => simp [parseUnl]
  | cons pk keys ih =>
    obtain ⟨⟨hne, hbin⟩, hrest⟩ := List.forall_mem_cons.mp h
    simp only [List.map_cons, parseUnl, ContractM.run_bind, Json.asString, ContractM.run_caught_ok, hbin,
      List.isEmpty_eq_false.mpr hne, Bool.false_eq_true, ↓reduceIte, ContractM.run_pure, ContractM.run_modify,
      ih hrest, List.foldl_cons]

theorem parseEnvironment_run_cleared {env : List (String × String)} (h : (env.map Prod.fst).Nodup)
    (s : ContractConfig) (hs : s.environment = []) :
    (parseEnvironment (env.map fun e => (e.1, Json.str e.2))).run s = (.ok (), { s with environment := env }) := by
  rw [parseEnvironment_run env s (by rwa [hs]), hs, List.nil_append]

theorem parseUnl_run_cleared {lib : ConfLib} {p : Bool} {u : Finset Bytes}
    (h : ∀ pk ∈ u, pk ≠ [] ∧ lib.toBin (lib.toHex pk) = pk) (s : ContractConfig) (hs : s.unl = ∅) :
    (parseUnl lib p ((setToList u).map fun pk => Json.str (lib.toHex pk))).run s = (.ok (), { s with unl := u }) := by
  rw [parseUnl_run lib p _ (fun pk hp => h pk (by simpa [setToList] using hp)), foldl_insert_eq, hs,
    Finset.empty_union, ← listToSet_eq_toFinset, listToSet_setToList]

/-- The patch fields of a written contract read back onto any contract. -/
theorem parseContractPatchFields_run (lib : ConfLib) (p : Bool) (k k0 : ContractConfig)
    (hc : k.PassesPatchChecks lib) :
    (parseContractPatchFields lib p (.obj (populateContractSectionJson lib k p))).run k0 =
      (.ok (), k0.patchedWith k) := by
  have hrt : ¬(k.consensus.roundtime < 1 ∨ k.consensus.roundtime > maxRoundTime) := by
    have := hc.roundtime; omega
  have hss : ¬(k.consensus.stageSlice < 1 ∨ k.consensus.stageSlice > maxStageSlice) := by
    have := hc.stageSlice; omega
  have hth : ¬(k.consensus.threshold < 1 ∨ k.consensus.threshold > maxThreshold) := by
    have := hc.threshold; omega
  have w32 : ∀ n, n ≤ maxRoundTime → n < 2 ^ 32 := fun n h => by unfold maxRoundTime at h; omega
  cases p <;>
  simp only [parseContractPatchFields, populateContractSectionJson, ContractM.run_bind, ContractM.run_discard,
    Json.get, Json.asString, Json.arrayRange, Json.objectRange, except_ok_bind, parseField_run_ok,
    List.find?, ContractM.run_caught_ok, ContractM.run_modify, ContractM.run_get, ContractM.run_pure,
    String.isEmpty_eq_false hc.version, Bool.false_eq_true, ↓reduceIte, List.find?_cons, String.reduceEq,
    decide_False, decide_True, parseBoundedField, parseModeField, parseRoundLimit, hrt, hss, hth,
    modeString_valid, modeString_read, Json.asUInt_uint hc.maxInputLedgerOffset,
    Json.asUInt_uint (w32 _ hc.roundtime.2), Json.asUInt_uint (w32 _ (hc.stageSlice.2.trans (by decide))),
    Json.asUInt_uint (w32 _ (hc.threshold.2.trans (by decide))),
    Json.asUInt_uint hc.userInputBytes, Json.asUInt_uint hc.userOutputBytes, Json.asUInt_uint hc.nplOutputBytes,
    Json.asUInt_uint hc.procCpuSeconds, Json.asUInt_uint hc.procMemBytes, Json.asUInt_uint hc.procOfdCount,
    Json.asUInt_uint hc.execTimeout, parseEnvironment_run_cleared hc.environment_keys,
    parseUnl_run_cleared hc.unl_keys, hc.unl_nonempty] <;>
  rfl

/-- The fields only the config file has read back onto any contract. -/
theorem parseContractOwnFields_run (lib : ConfLib) (k k0 : ContractConfig) (hc : k.PassesOwnChecks lib) :
    (parseContractOwnFields lib (.obj (populateContractSectionJson lib k false))).run k0 =
      (.ok (), { k0 with id := k.id, execute := k.execute, runAs := k.runAs, log := k.log }) := by
  simp only [parseContractOwnFields, populateContractSectionJson, ContractM.run_bind, ContractM.run_discard,
    Json.get, Json.asString, Json.asBool, except_ok_bind, parseField_run_ok,
    List.find?, ContractM.run_caught_ok, ContractM.run_modify, ContractM.run_pure,
    String.isEmpty_eq_false hc.id, Bool.false_eq_true, ↓reduceIte, List.find?_cons, String.reduceEq,
    decide_False, decide_True, Json.asUInt_uint hc.maxMbytesPerFile, Json.asUInt_uint hc.maxFileCount,
    hc.runAs, Bool.not_false, List.cons_append, List.nil_append]
  split
  · obtain ⟨h1, h2⟩ := hc.log ‹_›
    simp only [h1.ne', h2.ne', ↓reduceIte, ContractM.run_bind, ContractM.run_pure]
  · rfl

/-- A patch document read in patch mode: the patch fields of `k` onto `k0`,
and the runtime arguments derived from them. -/
theorem parseContract_patch (lib : ConfLib) (k k0 : ContractConfig) (hc : k.PassesPatchChecks lib) :
    parseContract lib (.obj (populateContractSectionJson lib k true)) true k0 =
      (.ok (), (k0.patchedWith k).withRuntimeArgs lib) := by
  simp only [parseContract, parseContractSectionJson, Bool.not_true, Bool.false_eq_true, ↓reduceIte,
    ContractM.run_bind, ContractM.run_pure, parseContractPatchFields_run lib true k k0 hc, ContractM.run_modify]

/-- The contract section of a config file read onto any contract. -/
theorem parseContract_config (lib : ConfLib) (k k0 : ContractConfig) (hp : k.PassesPatchChecks lib)
    (ho : k.PassesOwnChecks lib) :
    parseContract lib (.obj (populateContractSectionJson lib k false)) false k0 = (.ok (), k.withRuntimeArgs lib) := by
  simp only [parseContract, parseContractSectionJson, Bool.not_false, ↓reduceIte, ContractM.run_bind,
    parseContractOwnFields_run lib k k0 ho, parseContractPatchFields_run lib false k _ hp, ContractM.run_modify]
  rfl

/-! ## The sections of `read_config` -/

/-- The `known_peers` loop on distinct peers that read back keeps them all, in
order. -/
theorem readKnownPeers_run (lib : ConfLib) (peers ps : List PeerIpPort) (hnd : (peers ++ ps).Nodup)
    (hps : ∀ ipp ∈ ps, lib.peerFromString (ipp.hostAddress ++ ":" ++ toString ipp.port) = some ipp) :
    readKnownPeers lib peers (ps.map fun ipp => .str (ipp.hostAddress ++ ":" ++ toString ipp.port)) =
      .ok (peers ++ ps) := by
  induction ps generalizing peers with
  | nil => simp only [List.map_nil, readKnownPeers, List.append_nil]; rfl
  | cons p ps ih =>
    obtain ⟨hp, hps⟩ := List.forall_mem_cons.mp hps
    have hnew : p ∉ peers := fun h => (List.nodup_append.mp hnd).2.2 h (List.mem_cons_self p ps)
    simp only [List.map_cons, readKnownPeers, Json.asString, ConfLib.caught_ok, except_ok_bind, hp, hnew,
      ↓reduceIte]
    rw [ih _ (by simpa using hnd) hps, List.append_assoc, List.singleton_append]

/-- The `loggers` loop adds every name to the set. -/
theorem readLoggers_run (lib : ConfLib) (acc : Finset String) (l : List String) :
    readLoggers lib acc (l.map .str) = .ok (acc ∪ l.toFinset) := by
  induction l generalizing acc with
  | nil => simp only [List.map_nil, readLoggers, List.toFinset_nil, Finset.union_empty]; rfl
  | cons x l ih =>
    simp only [List.map_cons, readLoggers, Json.asString, ConfLib.caught_ok, except_ok_bind, ih,
      List.toFinset_cons, Finset.insert_union, Finset.union_insert]

theorem readConfigHeader_configDoc (lib : ConfLib) (c : HpConfig) (hc : c.PassesChecks lib) :
    readConfigHeader lib true (.doc (configDoc lib c)) = .ok (configDoc lib c) := by
  simp only [readConfigHeader, Bool.not_true, Bool.false_eq_true, ↓reduceIte]
  simp only [configDoc, Json.get, List.find?_cons, String.reduceEq, decide_True, Json.asString, except_ok_bind,
    String.isEmpty_eq_false hc.hpVersion, hc.versionNotOld, hc.versionWellFormed, Bool.false_eq_true, ↓reduceIte]

theorem configDoc_node (lib : ConfLib) (c : HpConfig) (hc : c.PassesChecks lib) :
    ∃ node, (configDoc lib c).get "node" = .ok node ∧
      readNodeKeys lib node = .ok ⟨c.node.publicKeyHex, c.node.privateKeyHex, lib.toBin c.node.publicKeyHex,
        lib.toBin c.node.privateKeyHex⟩ ∧
      readRole lib node = .ok c.node.role ∧
      readHistory lib node = .ok (c.node.history, c.node.historyConfig) := by
  refine ⟨_, rfl, ?_, ?_, ?_⟩
  · simp only [readNodeKeys, Json.get, List.find?_cons, String.reduceEq, decide_False, decide_True,
      Json.asString, ConfLib.caught_ok, except_ok_bind, List.isEmpty_eq_false.mpr hc.publicKey,
      List.isEmpty_eq_false.mpr hc.privateKey, Bool.false_eq_true, ↓reduceIte]
    rfl
  · cases h : c.node.role <;> simp [readRole, Json.get, h, Json.eqStr, roleObserver, roleValidator]
  · cases h : c.node.history <;> simp [readHistory, Json.get, h, Json.eqStr, historyFull, historyCustom,
      Json.asUInt_uint hc.maxPrimaryShards, Json.asUInt_uint hc.maxRawShards, hc.maxPrimaryShards_custom]

theorem readMeshSection_configDoc (lib : ConfLib) (c : HpConfig) (hm : c.mesh.PassesChecks lib) :
    readMeshSection lib (configDoc lib c) = .ok c.mesh := by
  have hconn : ¬(c.mesh.maxConnections > 0 ∧
      (c.mesh.maxKnownConnections > c.mesh.maxConnections ∨ c.mesh.maxKnownConnections = 0)) := by
    have := hm.knownConnections; omega
  simp only [readMeshSection, configDoc, Json.get, List.find?_cons, String.reduceEq, decide_False, decide_True,
    Json.asBool, Json.arrayRange, ConfLib.caught_ok, except_ok_bind, Json.asUInt_uint hm.port,
    Json.asUInt_uint hm.idleTimeout, Json.asUInt_uint hm.maxConnections, Json.asUInt_uint hm.maxKnownConnections,
    Json.asUInt_uint hm.maxInConnectionsPerHost, Json.asUInt_uint hm.maxBytesPerMsg,
    Json.asUInt_uint hm.maxBytesPerMin, Json.asUInt_uint hm.maxBadMsgsPerMin,
    Json.asUInt_uint hm.maxBadMsgsigsPerMin, Json.asUInt_uint hm.maxDupMsgsPerMin, Json.asUInt_uint hm.interval,
    readKnownPeers_run lib [] _ (by simpa using hm.knownPeers_nodup) hm.knownPeers_read, List.nil_append,
    hconn, ↓reduceIte]
  rfl

theorem readUserSection_configDoc (lib : ConfLib) (c : HpConfig) (hu : c.user.PassesChecks) :
    readUserSection lib (configDoc lib c) = .ok c.user := by
  simp only [readUserSection, configDoc, Json.get, List.find?_cons, String.reduceEq, decide_False, decide_True,
    Json.asBool, ConfLib.caught_ok, except_ok_bind, Json.asUInt_uint hu.port, Json.asUInt_uint hu.idleTimeout,
    Json.asUInt_uint hu.maxConnections, Json.asUInt_uint hu.maxInConnectionsPerHost,
    Json.asUInt_uint hu.maxBytesPerMsg, Json.asUInt_uint hu.maxBytesPerMin, Json.asUInt_uint hu.maxBadMsgsPerMin,
    Json.asUInt_uint hu.concurrentReadRequests]
  rfl

theorem readHpfsSection_configDoc (lib : ConfLib) (c : HpConfig) :
    readHpfsSection lib (configDoc lib c) = .ok c.hpfs := by
  simp only [readHpfsSection, configDoc, Json.get, List.find?_cons, String.reduceEq, decide_False, decide_True,
    Json.asBool, Json.asString, ConfLib.caught_ok, except_ok_bind]
  rfl

theorem readLogSection_configDoc (lib : ConfLib) (c : HpConfig) (h1 : c.log.maxMbytesPerFile < 2 ^ 64)
    (h2 : c.log.maxFileCount < 2 ^ 64) :
    readLogSection lib (configDoc lib c) = .ok { c.log with logLevelType := getLoglevelType c.log.logLevel } := by
  simp only [readLogSection, configDoc, Json.get, List.find?_cons, String.reduceEq, decide_False, decide_True,
    Json.asString, Json.arrayRange, ConfLib.caught_ok, except_ok_bind, Json.asUInt_uint h1, Json.asUInt_uint h2,
    readLoggers_run, Finset.empty_union, Finset.sort_toFinset]
  rfl

/-! ## The round trips -/

/-- `read_config` of the file `write_config` wrote: the config, with what it
derives recomputed, and `startup_role` set to its role. -/
theorem readConfig_writeConfig (lib : ConfLib) (c : HpConfig) (hc : c.PassesChecks lib) (file : FileText)
    (cfg : HpConfig) (r0 : Role) :
    (readConfig lib true (writeConfig lib file c .written).2 cfg).run.run r0 = (.ok (c.derived lib), c.node.role) := by
  obtain ⟨node, hn, hk, hr, hh⟩ := configDoc_node lib c hc
  have hcontract : (configDoc lib c).get "contract" = .ok (.obj (populateContractSectionJson lib c.contract false)) :=
    rfl
  simp only [writeConfig, writeJsonFile, readConfig_run, readConfigUpToRole, readConfigHeader_configDoc lib c hc,
    except_ok_bind, hn, ConfLib.caught_ok, hk, hr, except_pure, readConfigFromRole, hh, hcontract,
    parseContract_config lib c.contract cfg.contract hc.contractPatch hc.contractOwn,
    readMeshSection_configDoc lib c hc.mesh, readUserSection_configDoc lib c hc.user, readHpfsSection_configDoc,
    readLogSection_configDoc lib c hc.logMaxMbytesPerFile hc.logMaxFileCount]
  rfl

/-- `populate_patch_config` and then `apply_patch_config` leave `cfg.contract`
as it was, or with its runtime arguments derived again from its fields. -/
theorem populate_then_apply_contract (lib : ConfLib) (s : ConfState) (w : WriteOutcome) (io : PatchIO)
    (hc : s.cfg.contract.PassesPatchChecks lib) (h0 : (populatePatchConfig lib w s).1 = 0) :
    (applyPatchConfig lib io (populatePatchConfig lib w s).2).2.cfg.contract = s.cfg.contract ∨
    (applyPatchConfig lib io (populatePatchConfig lib w s).2).2.cfg.contract = s.cfg.contract.withRuntimeArgs lib := by
  rcases applyPatchConfig_contract lib io (populatePatchConfig lib w s).2 with h | ⟨jdoc, hp, h⟩
  · exact .inl h
  refine .inr (h.trans ?_)
  cases w <;> simp only [populatePatchConfig, writeJsonFile, reduceCtorEq, ↓reduceIte, Option.some.injEq,
    FileText.doc.injEq] at h0 hp
  cases hp
  simp only [populatePatchConfig, parseContract_patch lib _ _ hc, ContractConfig.patchedWith_self]

end Hpcore.Conf
