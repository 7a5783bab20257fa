import Hpcore.Conf.Config

/-! # Config updates while a node runs

`change_role`, `apply_patch_config`, `persist_updated_configs` and `rekey`,
over the node's config state: the global `cfg` and `startup_role`, `hp.cfg`,
and the `patch.cfg` of the contract filesystem. Each file access can fail;
how it ends is an argument of the call.

Every `read_config` these functions make, into a config they then drop or
write back, assigns `startup_role` from `hp.cfg`. The file's role is written
only from such a read, so it stays `startup_role`: a node started as an
observer stays one. `apply_patch_config` writes the patch into `cfg.contract`
before it writes `hp.cfg`, so a failed write leaves the contract patched and
the call failed. -/

namespace Hpcore.Conf

/-- The config state of a node. `patchFile` is `none` when the rw session has
no `patch.cfg`. -/
structure ConfState where
  cfg : HpConfig
  startupRole : Role
  configFile : FileText
  patchFile : Option FileText

/-- How the file accesses of `apply_patch_config` end: the patch file's `open`
and `read_from_fd`, the `read_from_fd` of `read_config`, and the write of
`write_config`. -/
structure PatchIO where
  openOk : Bool
  readOk : Bool
  configReadOk : Bool
  write : WriteOutcome

/-- `read_config` of `hp.cfg` into a fresh config: the result, and the state
with the `startup_role` it leaves. -/
def ConfState.readTemp (lib : ConfLib) (readOk : Bool) (s : ConfState) : Except String HpConfig × ConfState :=
  let r := (readConfig lib readOk s.configFile default).run.run s.startupRole
  (r.1, { s with startupRole := r.2 })

/-- `write_config` of `temp` to `hp.cfg`. -/
def ConfState.writeTemp (lib : ConfLib) (w : WriteOutcome) (s : ConfState) (temp : HpConfig) : Int × ConfState :=
  let r := writeConfig lib s.configFile temp w
  (r.1, { s with configFile := r.2 })

/-- `change_role`. -/
def changeRole (role : Role) (s : ConfState) : ConfState :=
  if s.startupRole = .observer ∨ s.cfg.node.role = role then s
  else { s with cfg.node.role := role }

/-- `apply_patch_config`: the patch document is parsed into a config read from
`hp.cfg`, then into `cfg.contract`, and the first is written back. -/
def applyPatchConfig (lib : ConfLib) (io : PatchIO) (s : ConfState) : Int × ConfState :=
  match s.patchFile with
  | none => (0, s)
  | some patch =>
    if !io.openOk ∨ !io.readOk then (-1, s)
    else match patch with
      | .unparsable => (-1, s)
      | .doc jdoc =>
        match s.readTemp lib io.configReadOk with
        | (.error _, s) => (-1, s)
        | (.ok temp, s) =>
          match parseContract lib jdoc true temp.contract with
          | (.error _, _) => (-1, s)
          | (.ok (), tempContract) =>
            match parseContract lib jdoc true s.cfg.contract with
            | (.error _, contract) => (-1, { s with cfg.contract := contract })
            | (.ok (), contract) =>
              { s with cfg.contract := contract }.writeTemp lib io.write { temp with contract := tempContract }

/-- `apply_patch_config` returns `0` or `-1`. -/
theorem applyPatchConfig_fst (lib : ConfLib) (io : PatchIO) (s : ConfState) :
    (applyPatchConfig lib io s).1 = -1 ∨ (applyPatchConfig lib io s).1 = 0 := by
  unfold applyPatchConfig
  repeat' split
  all_goals first | exact .inl rfl | exact .inr rfl | skip
  cases io.write <;> simp [ConfState.writeTemp, writeConfig, writeJsonFile]

theorem ConfState.readTemp_cfg (lib : ConfLib) (readOk : Bool) (s : ConfState) :
    (s.readTemp lib readOk).2.cfg = s.cfg := rfl

/-- When `apply_patch_config` returns 0 there was no patch file, and nothing
changed, or the patch document parsed onto `cfg.contract`, which now holds
the result. -/
theorem applyPatchConfig_eq_zero {lib : ConfLib} {io : PatchIO} {s : ConfState}
    (h : (applyPatchConfig lib io s).1 = 0) :
    (s.patchFile = none ∧ (applyPatchConfig lib io s).2 = s) ∨
    ∃ jdoc, s.patchFile = some (.doc jdoc) ∧ (parseContract lib jdoc true s.cfg.contract).1 = .ok () ∧
      (applyPatchConfig lib io s).2.cfg.contract = (parseContract lib jdoc true s.cfg.contract).2 := by
  rcases hp : s.patchFile with _ | patch
  · exact .inl ⟨rfl, by simp only [applyPatchConfig, hp]⟩
  simp only [applyPatchConfig, hp] at h ⊢
  split at h
  · cases h
  rename_i hio
  simp only [hio, if_false] at h ⊢
  rcases patch with jdoc | _
  · rcases hr : s.readTemp lib io.configReadOk with ⟨_ | temp, s'⟩ <;> simp only [hr] at h ⊢
    · cases h
    have hcfg : s'.cfg = s.cfg := by rw [← ConfState.readTemp_cfg lib io.configReadOk s, hr]
    split at h
    · cases h
    rw [hcfg] at h ⊢
    split at h
    · cases h
    rename_i contract hparse
    exact .inr ⟨jdoc, rfl, by rw [hparse], by simp only [hparse]; rfl⟩
  · cases h

/-- `populate_patch_config`: the patch fields of `cfg.contract` written to
`patch.cfg` in the rw session. `open` creates the file; when it fails the file
is as it was. -/
def populatePatchConfig (lib : ConfLib) (w : WriteOutcome) (s : ConfState) : Int × ConfState :=
  let r := writeJsonFile (s.patchFile.getD .unparsable) (.obj (populateContractSectionJson lib s.cfg.contract true)) w
  (r.1, { s with patchFile := if w = .openFailed then s.patchFile else some r.2 })

/-- `apply_patch_config` either leaves `cfg.contract` as it was or sets it to
the patch document parsed onto it. -/
theorem applyPatchConfig_contract (lib : ConfLib) (io : PatchIO) (s : ConfState) :
    (applyPatchConfig lib io s).2.cfg.contract = s.cfg.contract ∨
    ∃ jdoc, s.patchFile = some (.doc jdoc) ∧
      (applyPatchConfig lib io s).2.cfg.contract = (parseContract lib jdoc true s.cfg.contract).2 := by
  unfold applyPatchConfig
  split
  · exact .inl rfl
  split
  · exact .inl rfl
  rename_i patch hp _
  split
  · exact .inl rfl
  rename_i jdoc
  rcases hr : s.readTemp lib io.configReadOk with ⟨_ | temp, s'⟩
  · exact .inl (by simp only [hr, ← ConfState.readTemp_cfg lib io.configReadOk s])
  have hcfg : s'.cfg = s.cfg := by rw [← ConfState.readTemp_cfg lib io.configReadOk s, hr]
  simp only [hr]
  split
  · exact .inl (congrArg (·.contract) hcfg)
  rw [hcfg]
  refine .inr ⟨jdoc, hp, ?_⟩
  split <;> rename_i h
  · simp only [h]
  · simp only [h]; rfl

/-- The observer of `sampleConfig`, started from its own `hp.cfg`. -/
def sampleState : ConfState := ⟨sampleConfig, .observer, .doc (configDoc sampleLib sampleConfig), none⟩

/-- `sampleState` with a patch that moves the contract to version `2.0`. -/
def patchedState : ConfState :=
  { sampleState with patchFile := some (.doc (.obj (populateContractSectionJson sampleLib
      { sampleContract with version := "2.0" } true))) }

/-- When `write_config` fails after the patch, the call fails with
`cfg.contract` already patched. -/
theorem failed_patch_write_leaves_contract_patched :
    (applyPatchConfig sampleLib ⟨true, true, true, .writeFailed⟩ patchedState).1 = -1 ∧
    (applyPatchConfig sampleLib ⟨true, true, true, .writeFailed⟩ patchedState).2.cfg.contract.version = "2.0" ∧
    patchedState.cfg.contract.version = "1.0" := by
  simp only [patchedState, sampleState, configDoc, sampleConfig, sampleContract, populateContractSectionJson,
    setToList_insert_empty, sort_insert_empty]
  decide

/-- `persist_updated_configs`: the known peers are written back to `hp.cfg`. -/
def persistUpdatedConfigs (lib : ConfLib) (readOk : Bool) (w : WriteOutcome) (s : ConfState) : Int × ConfState :=
  match s.readTemp lib readOk with
  | (.error _, s) => (-1, s)
  | (.ok temp, s) =>
    if s.cfg.mesh.knownPeers.isEmpty then (0, s)
    else s.writeTemp lib w { temp with mesh.knownPeers := s.cfg.mesh.knownPeers }

/-- `rekey` with the generated key pair: the keys of `hp.cfg` and the node's
entry in its UNL are replaced. -/
def rekey (lib : ConfLib) (lockOk readOk : Bool) (publicKey privateKey : Bytes) (w : WriteOutcome)
    (s : ConfState) : Int × ConfState :=
  if !lockOk then (-1, s)
  else match s.readTemp lib readOk with
    | (.error _, s) => (-1, s)
    | (.ok c, s) =>
      let oldPubKey := c.node.publicKey
      let c := { c with node.publicKey := publicKey, node.privateKey := privateKey,
                        node.publicKeyHex := lib.toHex publicKey, node.privateKeyHex := lib.toHex privateKey }
      if oldPubKey ∉ c.contract.unl then (-1, s)
      else s.writeTemp lib w { c with contract.unl := insert publicKey (c.contract.unl.erase oldPubKey) }

/-! ## Runs -/

/-- What can happen to the config of a running node. -/
inductive ConfAction
  | changeRole (role : Role)
  | applyPatchConfig (io : PatchIO)
  | persistUpdatedConfigs (readOk : Bool) (w : WriteOutcome)
  | rekey (lockOk readOk : Bool) (publicKey privateKey : Bytes) (w : WriteOutcome)
  /-- a sync or the contract replaces `patch.cfg` -/
  | patchFileChanged (patch : Option FileText)

def ConfState.step (lib : ConfLib) (s : ConfState) : ConfAction → ConfState
  | .changeRole role => changeRole role s
  | .applyPatchConfig io => (applyPatchConfig lib io s).2
  | .persistUpdatedConfigs readOk w => (persistUpdatedConfigs lib readOk w s).2
  | .rekey lockOk readOk pk sk w => (rekey lib lockOk readOk pk sk w s).2
  | .patchFileChanged patch => { s with patchFile := patch }

def ConfState.run (lib : ConfLib) (s : ConfState) (as : List ConfAction) : ConfState :=
  as.foldl (ConfState.step lib) s

/-- The state `init` starts from: `read_config` of `hp.cfg` into `cfg`
succeeded. -/
def confStartup (lib : ConfLib) (file : FileText) (patch : Option FileText) (cfg : HpConfig) (role : Role) :
    Option ConfState :=
  match (readConfig lib true file cfg).run.run role with
  | (.ok cfg, startupRole) => some ⟨cfg, startupRole, file, patch⟩
  | (.error _, _) => none

/-! ## `startup_role` never changes -/

/-- The role `hp.cfg` gives `read_config`, when it gets to it, is
`startup_role`, and a node started as an observer runs as one. -/
structure RoleInv (lib : ConfLib) (s : ConfState) : Prop where
  file_role : ∀ r, fileRole lib s.configFile = some r → r = s.startupRole
  observer : s.startupRole = .observer → s.cfg.node.role = .observer

variable {lib : ConfLib} {s : ConfState}

theorem fileRole_unparsable (lib : ConfLib) : fileRole lib .unparsable = none := by
  simp [fileRole, readConfigUpToRole, readConfigHeader, bind, Except.bind, Except.toOption]

theorem RoleInv.readTemp (h : RoleInv lib s) (readOk : Bool) :
    (s.readTemp lib readOk).2 = s ∧ ∀ c, (s.readTemp lib readOk).1 = .ok c → c.node.role = s.startupRole := by
  obtain ⟨hr, hc⟩ := @readConfig_keeps_role lib readOk s.configFile default s.startupRole h.file_role
  exact ⟨by simp only [ConfState.readTemp, hr], hc⟩

/-- Writing a config with the startup role keeps the invariant. -/
theorem RoleInv.writeTemp (h : RoleInv lib s) (w : WriteOutcome) {temp : HpConfig}
    (ht : temp.node.role = s.startupRole) :
    RoleInv lib (s.writeTemp lib w temp).2 ∧ (s.writeTemp lib w temp).2.startupRole = s.startupRole := by
  refine ⟨⟨fun r hr => ?_, h.observer⟩, rfl⟩
  cases w with
  | written => exact (fileRole_configDoc lib temp hr).trans ht
  | openFailed => exact h.file_role r hr
  | writeFailed | shortWrite => simp [ConfState.writeTemp, writeConfig, writeJsonFile, fileRole_unparsable] at hr

/-- A write of the contract section keeps the invariant. -/
theorem RoleInv.setContract (h : RoleInv lib s) (c : ContractConfig) : RoleInv lib { s with cfg.contract := c } :=
  ⟨h.file_role, h.observer⟩

theorem RoleInv.applyPatchConfig (h : RoleInv lib s) (io : PatchIO) :
    RoleInv lib (applyPatchConfig lib io s).2 ∧ (applyPatchConfig lib io s).2.startupRole = s.startupRole := by
  obtain ⟨hs, hc⟩ := h.readTemp io.configReadOk
  unfold Hpcore.Conf.applyPatchConfig
  split
  · exact ⟨h, rfl⟩
  split
  · exact ⟨h, rfl⟩
  split
  · exact ⟨h, rfl⟩
  rcases hr : s.readTemp lib io.configReadOk with ⟨_ | temp, s'⟩ <;> rw [hr] at hs hc <;> subst hs
  · exact ⟨h, rfl⟩
  have ht := hc temp rfl
  dsimp only
  split
  · exact ⟨h, rfl⟩
  split
  · exact ⟨h.setContract _, rfl⟩
  · exact (h.setContract _).writeTemp io.write ht

theorem RoleInv.persistUpdatedConfigs (h : RoleInv lib s) (readOk : Bool) (w : WriteOutcome) :
    RoleInv lib (persistUpdatedConfigs lib readOk w s).2 ∧
      (persistUpdatedConfigs lib readOk w s).2.startupRole = s.startupRole := by
  obtain ⟨hs, hc⟩ := h.readTemp readOk
  unfold Hpcore.Conf.persistUpdatedConfigs
  rcases hr : s.readTemp lib readOk with ⟨_ | temp, s'⟩ <;> rw [hr] at hs hc <;> subst hs
  · exact ⟨h, rfl⟩
  dsimp only
  split
  · exact ⟨h, rfl⟩
  · exact h.writeTemp w (hc temp rfl)

theorem RoleInv.rekey (h : RoleInv lib s) (lockOk readOk : Bool) (pk sk : Bytes) (w : WriteOutcome) :
    RoleInv lib (rekey lib lockOk readOk pk sk w s).2 ∧ (rekey lib lockOk readOk pk sk w s).2.startupRole = s.startupRole := by
  obtain ⟨hs, hc⟩ := h.readTemp readOk
  unfold Hpcore.Conf.rekey
  split
  · exact ⟨h, rfl⟩
  rcases hr : s.readTemp lib readOk with ⟨_ | c, s'⟩ <;> rw [hr] at hs hc <;> subst hs
  · exact ⟨h, rfl⟩
  dsimp only
  split
  · exact ⟨h, rfl⟩
  · exact h.writeTemp w (hc c rfl)

theorem RoleInv.changeRole (h : RoleInv lib s) (role : Role) : RoleInv lib (changeRole role s) := by
  unfold Hpcore.Conf.changeRole
  split
  · exact h
  · rename_i hno
    exact ⟨h.file_role, fun ho => absurd (.inl ho) hno⟩

theorem RoleInv.step (h : RoleInv lib s) (a : ConfAction) :
    RoleInv lib (s.step lib a) ∧ (s.step lib a).startupRole = s.startupRole := by
  cases a with
  | changeRole role =>
    refine ⟨h.changeRole role, ?_⟩
    show (Hpcore.Conf.changeRole role s).startupRole = s.startupRole
    unfold Hpcore.Conf.changeRole
    split <;> rfl
  | applyPatchConfig io => exact h.applyPatchConfig io
  | persistUpdatedConfigs readOk w => exact h.persistUpdatedConfigs readOk w
  | rekey lockOk readOk pk sk w => exact h.rekey lockOk readOk pk sk w
  | patchFileChanged patch => exact ⟨⟨h.file_role, h.observer⟩, rfl⟩

theorem RoleInv.run (h : RoleInv lib s) (as : List ConfAction) :
    RoleInv lib (s.run lib as) ∧ (s.run lib as).startupRole = s.startupRole := by
  induction as generalizing s with
  | nil => exact ⟨h, rfl⟩
  | cons a as ih =>
    obtain ⟨hi, hr⟩ := h.step a
    obtain ⟨hi', hr'⟩ := ih hi
    exact ⟨hi', hr'.trans hr⟩

theorem confStartup_roleInv {file : FileText} {patch : Option FileText} {cfg : HpConfig} {role : Role}
    (hs : confStartup lib file patch cfg role = some s) : RoleInv lib s := by
  unfold confStartup at hs
  rw [readConfig_run] at hs
  cases hx : readConfigUpToRole lib true file with
  | error e => simp [hx] at hs
  | ok x =>
    cases hc : readConfigFromRole lib x cfg with
    | error e => simp [hx, hc] at hs
    | ok c =>
      simp only [hx, hc, Option.some.injEq] at hs
      subst hs
      refine ⟨fun r hr => ?_, (readConfigFromRole_role hc).trans⟩
      simp only [fileRole, hx, Except.toOption, Option.map_some', Option.some.injEq] at hr
      exact hr.symm

/-- **An observer never promotes.** From a start whose `hp.cfg` made the node an
observer, after any sequence of role changes, patch applications, config
persists, rekeys and patch file changes, with any outcome of their file
accesses, `startup_role` and the node's role are both observer. -/
theorem observer_never_promotes {file : FileText} {patch : Option FileText} {cfg : HpConfig} {role : Role}
    (hs : confStartup lib file patch cfg role = some s) (hobs : s.startupRole = .observer)
    (as : List ConfAction) :
    (s.run lib as).startupRole = .observer ∧ (s.run lib as).cfg.node.role = .observer := by
  obtain ⟨hi, hr⟩ := (confStartup_roleInv hs).run as
  exact ⟨hr.trans hobs, hi.observer (hr.trans hobs)⟩

theorem sample_observer_stays :
    (sampleState.run sampleLib [.changeRole .validator]).startupRole = .observer ∧
    (sampleState.run sampleLib [.changeRole .validator]).cfg.node.role = .observer :=
  @observer_never_promotes sampleLib sampleState (.doc (configDoc sampleLib sampleConfig)) none default .validator
    (by simp only [sampleState, configDoc, sampleConfig, sampleContract, populateContractSectionJson,
      setToList_insert_empty, sort_insert_empty]; rfl) rfl _

end Hpcore.Conf
