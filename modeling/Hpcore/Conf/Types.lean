import Hpcore.Util
import Mathlib.Data.String.Basic

/-! # The configuration record

`conf::hp_config` and its sections, with the fields that `read_config`,
`write_config` and the patch functions read or write (`conf.hpp` is not part
of the sources; the fields are those `conf.cpp` uses). Unsigned fields are
`Nat`; the width each one is parsed at is in `Hpcore.Conf.Config`. -/

namespace Hpcore.Conf

/-- `conf::ROLE`. -/
inductive Role | observer | validator
  deriving DecidableEq, Repr, Inhabited

/-- `conf::HISTORY`. -/
inductive History | full | custom
  deriving DecidableEq, Repr, Inhabited

/-- `conf::MODE` (`PUBLIC`, `PRIVATE`). -/
inductive Mode | publicMode | privateMode
  deriving DecidableEq, Repr, Inhabited

/-- `LOG_SEVERITY`. -/
inductive LogSeverity | debug | info | warn | error
  deriving DecidableEq, Repr, Inhabited

/-- `conf::peer_ip_port`. -/
structure PeerIpPort where
  hostAddress : String
  port : Nat
  deriving DecidableEq, Repr, Inhabited

/-- `conf::ugid`, the `run_as` setting. -/
structure Ugid where
  uid : Nat
  gid : Nat
  deriving DecidableEq, Repr, Inhabited

structure HistoryConfig where
  maxPrimaryShards : Nat
  maxRawShards : Nat
  deriving DecidableEq, Inhabited

structure NodeConfig where
  publicKeyHex : String
  privateKeyHex : String
  publicKey : Bytes
  privateKey : Bytes
  role : Role
  history : History
  historyConfig : HistoryConfig
  deriving DecidableEq, Inhabited

structure ContractLogConfig where
  enable : Bool
  maxMbytesPerFile : Nat
  maxFileCount : Nat
  deriving DecidableEq, Inhabited

structure ConsensusConfig where
  mode : Mode
  roundtime : Nat
  stageSlice : Nat
  threshold : Nat
  deriving DecidableEq, Inhabited

structure RoundLimitsConfig where
  userInputBytes : Nat
  userOutputBytes : Nat
  nplOutputBytes : Nat
  procCpuSeconds : Nat
  procMemBytes : Nat
  procOfdCount : Nat
  execTimeout : Nat
  deriving DecidableEq, Inhabited

/-- `conf::contract_config`. `environment` keeps its entries in insertion
order; `runtimeEnvArgs` and `runtimeBinexecArgs` are derived by
`parse_contract_section_json`. -/
structure ContractConfig where
  id : String
  execute : Bool
  runAs : Ugid
  log : ContractLogConfig
  version : String
  unl : Finset Bytes
  binPath : String
  binArgs : String
  environment : List (String × String)
  maxInputLedgerOffset : Nat
  consensus : ConsensusConfig
  nplMode : Mode
  roundLimits : RoundLimitsConfig
  runtimeEnvArgs : List String
  runtimeBinexecArgs : List String
  deriving DecidableEq, Inhabited

structure PeerDiscoveryConfig where
  interval : Nat
  enabled : Bool
  deriving DecidableEq, Inhabited

/-- `conf::mesh_config`. `knownPeers` is a set kept in insertion order. -/
structure MeshConfig where
  port : Nat
  listen : Bool
  idleTimeout : Nat
  knownPeers : List PeerIpPort
  msgForwarding : Bool
  maxConnections : Nat
  maxKnownConnections : Nat
  maxInConnectionsPerHost : Nat
  maxBytesPerMsg : Nat
  maxBytesPerMin : Nat
  maxBadMsgsPerMin : Nat
  maxBadMsgsigsPerMin : Nat
  maxDupMsgsPerMin : Nat
  peerDiscovery : PeerDiscoveryConfig
  deriving DecidableEq, Inhabited

structure UserConfig where
  port : Nat
  listen : Bool
  idleTimeout : Nat
  maxConnections : Nat
  maxInConnectionsPerHost : Nat
  maxBytesPerMsg : Nat
  maxBytesPerMin : Nat
  maxBadMsgsPerMin : Nat
  concurrentReadRequests : Nat
  deriving DecidableEq, Inhabited

structure HpfsConfig where
  external : Bool
  logLevel : String
  deriving DecidableEq, Inhabited

structure LogConfig where
  logLevel : String
  logLevelType : LogSeverity
  maxMbytesPerFile : Nat
  maxFileCount : Nat
  loggers : Finset String
  deriving DecidableEq, Inhabited

/-- `conf::hp_config`. -/
structure HpConfig where
  node : NodeConfig
  contract : ContractConfig
  mesh : MeshConfig
  user : UserConfig
  hpfs : HpfsConfig
  log : LogConfig
  deriving DecidableEq, Inhabited

end Hpcore.Conf
