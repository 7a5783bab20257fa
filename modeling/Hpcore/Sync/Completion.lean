import Hpcore.LogSync.System
import Hpcore.Conf.Updates

/-! # What completing a sync does

A sync of the contract filesystem completes on one of two paths. Log sync
(full history) completes when `get_verified_min_record` returns `1` in the
worker loop; block sync calls `contract_sync::on_sync_target_acheived` for
each synced path. Block sync of `PATCH_FILE_PATH` applies the patch file to
the config and sets that path's parent hash. Log sync reads both hashes of
the synced files but sets the parent hash of `STATE_DIR_PATH` twice, so the
cache keeps whatever patch hash it held before. -/

namespace Hpcore.Sync
open Hpcore.LogSync Hpcore.Conf

/-- `contract_sync::on_sync_target_acheived` for `vpath` synced to `hash`, on
the node's config and the parent hashes of the contract filesystem. The flag
says whether `unl::update_unl_changes_from_patch` and
`consensus::refresh_time_config` (not part of the sources) were called. -/
def onSyncTargetAcheived (lib : ConfLib) (io : PatchIO) (vpath : String) (hash : H32) (s : ConfState)
    (parentHashes : List (String × H32)) : ConfState × List (String × H32) × Bool :=
  if vpath = patchFilePath then
    let r := applyPatchConfig lib io s
    if r.1 = -1 then (r.2, parentHashes, false)
    else (r.2, setParentHash parentHashes vpath hash, true)
  else (s, parentHashes, false)

/-- Log-sync completion: `get_verified_min_record` returned `1` because the
ro-session hashes `(s, p)` of the log give the target root, and the parent
hashes now have `STATE_DIR_PATH` at `s`, every other path as before. -/
theorem getVerifiedMinRecord_completion {σ : Type} (deps : SyncDeps σ) (st : NodeState σ)
    (h : (getVerifiedMinRecord deps st).1 = 1) :
    ∃ sh ph, deps.hpfs.rootHashes st.fs = some (sh, ph) ∧ deps.getRootHash ph sh = st.ctx.targetRootHash ∧
      ∀ v, getParentHash (getVerifiedMinRecord deps st).2.parentHashes v =
        if v = stateDirPath then some sh else getParentHash st.parentHashes v := by
  cases hli : deps.hpfs.getLastSeqNoFromIndex st.fs with
  | none => rw [getVerifiedMinRecord_of_none hli] at h; cases h
  | some li =>
    obtain ⟨-, ⟨h1, -⟩ | ⟨h0, -⟩ | ⟨-, -, sh, ph, hr, ht, hp⟩⟩ := getVerifiedMinRecord_outcome deps st hli
    · rw [h] at h1; cases h1
    · rw [h] at h0; cases h0
    · refine ⟨sh, ph, hr, ht, fun v => ?_⟩
      rw [hp]
      by_cases hv : v = stateDirPath <;> simp [hv]

/-- Block-sync completion of `PATCH_FILE_PATH`: when `apply_patch_config`
fails nothing else is done; otherwise the UNL and time config are refreshed,
the parent hash of `PATCH_FILE_PATH` is the synced hash, and there was no
patch file or `cfg.contract` holds the patch parsed onto it. -/
theorem onSyncTargetAcheived_patch (lib : ConfLib) (io : PatchIO) (hash : H32) (s : ConfState)
    (parentHashes : List (String × H32)) :
    ((applyPatchConfig lib io s).1 = -1 →
      onSyncTargetAcheived lib io patchFilePath hash s parentHashes =
        ((applyPatchConfig lib io s).2, parentHashes, false)) ∧
    ((applyPatchConfig lib io s).1 = 0 →
      (onSyncTargetAcheived lib io patchFilePath hash s parentHashes).2.2 = true ∧
      (∀ v, getParentHash (onSyncTargetAcheived lib io patchFilePath hash s parentHashes).2.1 v =
        if v = patchFilePath then some hash else getParentHash parentHashes v) ∧
      ((s.patchFile = none ∧ (onSyncTargetAcheived lib io patchFilePath hash s parentHashes).1 = s) ∨
        ∃ jdoc, s.patchFile = some (.doc jdoc) ∧ (parseContract lib jdoc true s.cfg.contract).1 = .ok () ∧
          (onSyncTargetAcheived lib io patchFilePath hash s parentHashes).1.cfg.contract =
            (parseContract lib jdoc true s.cfg.contract).2)) := by
  refine ⟨fun h => by simp [onSyncTargetAcheived, h], fun h => ?_⟩
  have hne : (applyPatchConfig lib io s).1 ≠ -1 := by rw [h]; decide
  simp only [onSyncTargetAcheived, if_true, if_neg hne, getParentHash_setParentHash, implies_true, true_and]
  exact applyPatchConfig_eq_zero h

/-- `inSyncNode` with the target `(1, fill 1)` its files already hash to, and
a cache still holding the hash `fill 7` of an earlier patch file. -/
def staleCacheNode : NodeState IndexLog :=
  { inSyncNode with
    ctx := { inSyncNode.ctx with targetLogSeqNo := 1, targetRootHash := H32.fill 1 }
    parentHashes := [(patchFilePath, H32.fill 7)] }

/-- **Log-sync completion keeps a stale patch hash.** Where block sync sets
the parent hash of `PATCH_FILE_PATH`, the log-sync branch sets that of
`STATE_DIR_PATH` a second time: the cached patch hash is left as it was, and on
a node whose cache holds an earlier patch file's hash the root rebuilt from
the cache is not the target the sync reached. -/
theorem log_sync_completion_keeps_stale_patch_hash :
    (∀ {σ : Type} (deps : SyncDeps σ) (st : NodeState σ), (getVerifiedMinRecord deps st).1 = 1 →
      getParentHash (getVerifiedMinRecord deps st).2.parentHashes patchFilePath =
        getParentHash st.parentHashes patchFilePath) ∧
    (∀ (lib : ConfLib) (io : PatchIO) (hash : H32) (s : ConfState) (parentHashes : List (String × H32)),
      (applyPatchConfig lib io s).1 = 0 →
        getParentHash (onSyncTargetAcheived lib io patchFilePath hash s parentHashes).2.1 patchFilePath =
          some hash) ∧
    (getVerifiedMinRecord runDeps staleCacheNode).1 = 1 ∧
    runDeps.hpfs.rootHashes staleCacheNode.fs = some (H32.empty, H32.fill 1) ∧
    getParentHash (getVerifiedMinRecord runDeps staleCacheNode).2.parentHashes stateDirPath = some H32.empty ∧
    getParentHash (getVerifiedMinRecord runDeps staleCacheNode).2.parentHashes patchFilePath =
      some (H32.fill 7) ∧
    runDeps.getRootHash (H32.fill 7) H32.empty ≠ staleCacheNode.ctx.targetRootHash := by
  refine ⟨fun deps st h => ?_, fun lib io hash s ph h => ?_, by decide⟩
  · obtain ⟨_, _, -, -, hc⟩ := getVerifiedMinRecord_completion deps st h
    rw [hc, if_neg (by decide)]
  · rw [((onSyncTargetAcheived_patch lib io hash s ph).2 h).2.1, if_pos rfl]

end Hpcore.Sync
