import Hpcore.Conf.RoundTrip

/-! # The contract of a running node

Whether `parse_contract_section_json` succeeds depends on the document only:
the fields it writes before it clears the UNL are never read back, and after
that it reads only the UNL it rebuilt from the document. So when
`apply_patch_config` has parsed a patch onto the config read from `hp.cfg`, the
same patch parses onto `cfg.contract`, and the branch that would leave
`cfg.contract` half-written is never taken. Every contract a running node
holds is one a parse returned, with its runtime arguments derived from its
fields. -/

namespace Hpcore.Conf

variable {α β : Type}

/-! ## Two runs of the contract parser -/

/-- Contracts that agree on the UNL, once `strict` is set. -/
def UnlAgree (strict : Bool) (k1 k2 : ContractConfig) : Prop := strict = true → k1.unl = k2.unl

/-- Two runs of `x` from contracts related by `R` end with the same result,
and when they succeed, in contracts related by `S`. -/
def ContractM.Sim (R S : ContractConfig → ContractConfig → Prop) (x : ContractM α) : Prop :=
  ∀ k1 k2, R k1 k2 → (x.run k1).1 = (x.run k2).1 ∧ ∀ a, (x.run k1).1 = .ok a → S (x.run k1).2 (x.run k2).2

namespace ContractM.Sim

variable {R S T : ContractConfig → ContractConfig → Prop}

theorem bind {x : ContractM α} {f : α → ContractM β} (hx : Sim R S x) (hf : ∀ a, Sim S T (f a)) :
    Sim R T (x >>= f) := by
  intro k1 k2 hr
  obtain ⟨he, hs⟩ := hx k1 k2 hr
  rw [ContractM.run_bind, ContractM.run_bind]
  rcases h1 : x.run k1 with ⟨r, k1'⟩
  rcases h2 : x.run k2 with ⟨r2, k2'⟩
  rw [h1, h2] at he hs
  subst he
  cases r with
  | error e => exact ⟨rfl, fun _ h => nomatch h⟩
  | ok a => exact hf a k1' k2' (hs a rfl)

/-- A step that keeps the relation, then the rest. -/
theorem bind_keep {x : ContractM α} {f : α → ContractM β} (hx : Sim R R x) (hf : ∀ a, Sim R S (f a)) :
    Sim R S (x >>= f) :=
  bind hx hf

theorem pure (a : α) : Sim R R (Pure.pure a) := fun _ _ hr => ⟨rfl, fun _ _ => hr⟩

theorem throw (e : String) : Sim R S (MonadExcept.throw e : ContractM α) := fun _ _ _ => ⟨rfl, fun _ h => nomatch h⟩

/-- `discard x` is `x` followed by `pure ()`. -/
theorem discard {x : ContractM α} (hx : Sim R R x) : Sim R R (discard x) :=
  show Sim R R (x >>= fun _ => Pure.pure ()) from bind hx fun _ => pure ()

/-- A step that throws ends both runs, whatever follows it. -/
theorem throw_bind (e : String) (f : α → ContractM β) : Sim R S (MonadExcept.throw e >>= f) :=
  fun _ _ _ => ⟨rfl, fun _ h => nomatch h⟩

theorem caught (lib : ConfLib) (p : Bool) (jpath : String) (x : Except JsonError α) :
    Sim R R (ContractM.caught lib p jpath x) := by
  intro k1 k2 hr
  cases x <;> exact ⟨rfl, fun _ _ => hr⟩

theorem ite {c : Prop} [Decidable c] {x y : ContractM α} (hx : Sim R S x) (hy : Sim R S y) :
    Sim R S (if c then x else y) := by
  split <;> assumption

/-- A write whose UNL depends on the UNL only keeps the relation. -/
theorem modify_unl (b : Bool) {f : ContractConfig → ContractConfig}
    (hf : ∀ k1 k2 : ContractConfig, k1.unl = k2.unl → (f k1).unl = (f k2).unl) :
    Sim (UnlAgree b) (UnlAgree b) (modify f) :=
  fun k1 k2 hr => ⟨rfl, fun _ _ hb => hf k1 k2 (hr hb)⟩

/-- Clearing the UNL makes the two runs agree on it from there on. -/
theorem clearUnl_bind (b : Bool) {f : Unit → ContractM α} (hf : ∀ a, Sim (UnlAgree true) S (f a)) :
    Sim (UnlAgree b) S (modify (fun c : ContractConfig => { c with unl := ∅ }) >>= f) :=
  fun k1 k2 _ => by
    simp only [ContractM.run_bind, ContractM.run_modify]
    exact hf () _ _ fun _ => rfl

/-- A step that reads the contract and uses only its UNL. -/
theorem get_bind {f : ContractConfig → ContractM α}
    (hf : ∀ c1 c2 : ContractConfig, c1.unl = c2.unl → f c1 = f c2) (hs : ∀ c, Sim (UnlAgree true) S (f c)) :
    Sim (UnlAgree true) S (get >>= f) := by
  intro k1 k2 hr
  rw [ContractM.run_bind, ContractM.run_bind, ContractM.run_get, ContractM.run_get]
  dsimp only
  rw [hf k1 k2 (hr rfl)]
  exact hs k2 k1 k2 hr

end ContractM.Sim

open ContractM

theorem parseField_sim (b : Bool) (lib : ConfLib) (p : Bool) (jpath : String) (x : Except JsonError α)
    {store : α → ContractConfig → ContractConfig} (hstore : ∀ v k, (store v k).unl = k.unl) :
    Sim (UnlAgree b) (UnlAgree b) (parseField lib p jpath x store) :=
  Sim.bind (Sim.caught lib p jpath x) fun v =>
    Sim.bind (Sim.modify_unl b fun k1 k2 h => by rw [hstore, hstore, h]) fun _ => Sim.pure v

theorem parseBoundedField_sim (b : Bool) (lib : ConfLib) (p : Bool) (consensus : Except JsonError Json)
    (key : String) (bound : Nat) (store : Nat → ConsensusConfig → ConsensusConfig) (message : String) :
    Sim (UnlAgree b) (UnlAgree b) (parseBoundedField lib p consensus key bound store message) :=
  Sim.bind (Sim.caught lib p _ _) fun _ => Sim.bind (Sim.modify_unl b fun _ _ h => h) fun _ =>
    Sim.ite (Sim.throw _) (Sim.pure _)

theorem parseModeField_sim (b : Bool) (lib : ConfLib) (p : Bool) (jpath : String) (flag : Except JsonError Json)
    {store : Mode → ContractConfig → ContractConfig} (hstore : ∀ m k, (store m k).unl = k.unl) (message : String) :
    Sim (UnlAgree b) (UnlAgree b) (parseModeField lib p jpath flag store message) := by
  have hm : ∀ m, Sim (UnlAgree b) (UnlAgree b) (modify (store m)) :=
    fun m => Sim.modify_unl b fun k1 k2 h => by rw [hstore, hstore, h]
  dsimp only [parseModeField]
  exact Sim.bind (Sim.caught lib p _ _) fun _ => Sim.ite (Sim.throw_bind _ _) (Sim.bind (Sim.pure _) fun _ => hm _)

theorem parseRoundLimit_sim (b : Bool) (lib : ConfLib) (p : Bool) (jdoc : Json) (key : String) (bits : Nat)
    (store : Nat → RoundLimitsConfig → RoundLimitsConfig) :
    Sim (UnlAgree b) (UnlAgree b) (parseRoundLimit lib p jdoc key bits store) :=
  Sim.discard (parseField_sim b lib p _ _ fun _ _ => rfl)

theorem parseEnvironment_sim (b : Bool) : ∀ members, Sim (UnlAgree b) (UnlAgree b) (parseEnvironment members)
  | [] => Sim.pure ()
  | (key, v) :: rest => by
    unfold parseEnvironment
    split
    · exact Sim.bind (Sim.modify_unl b fun _ _ h => h) fun _ => parseEnvironment_sim b rest
    · exact Sim.throw _

theorem parseUnl_sim (lib : ConfLib) (p : Bool) :
    ∀ keys, Sim (UnlAgree true) (UnlAgree true) (parseUnl lib p keys)
  | [] => Sim.pure ()
  | pk :: rest => by
    have hrest : ∀ bin, Sim (UnlAgree true) (UnlAgree true)
        (do modify fun c : ContractConfig => { c with unl := insert bin c.unl }; parseUnl lib p rest) :=
      fun bin => Sim.bind (Sim.modify_unl true fun _ _ h => congrArg (insert bin) h) fun _ => parseUnl_sim lib p rest
    dsimp only [parseUnl]
    exact Sim.bind (Sim.caught lib p _ _) fun _ => Sim.ite (Sim.throw_bind _ _) (Sim.bind (Sim.pure _) fun _ => hrest _)

theorem parseContractOwnFields_sim (b : Bool) (lib : ConfLib) (jdoc : Json) :
    Sim (UnlAgree b) (UnlAgree b) (parseContractOwnFields lib jdoc) := by
  dsimp only [parseContractOwnFields]
  repeat' first
    | with_reducible exact parseField_sim b _ _ _ _ fun _ _ => rfl
    | with_reducible exact Sim.caught _ _ _ _
    | with_reducible exact Sim.throw_bind _ _
    | with_reducible exact Sim.throw _
    | with_reducible exact Sim.pure _
    | with_reducible exact Sim.modify_unl b fun _ _ h => h
    | with_reducible refine Sim.discard ?_
    | with_reducible refine Sim.ite ?_ ?_
    | with_reducible refine Sim.bind_keep ?_ fun _ => ?_
    | split

theorem parseContractPatchFields_sim (b : Bool) (lib : ConfLib) (p : Bool) (jdoc : Json) :
    Sim (UnlAgree b) (UnlAgree true) (parseContractPatchFields lib p jdoc) := by
  dsimp only [parseContractPatchFields]
  repeat' first
    | with_reducible exact parseField_sim _ _ _ _ _ fun _ _ => rfl
    | with_reducible exact parseEnvironment_sim _ _
    | with_reducible exact parseUnl_sim lib p _
    | with_reducible exact parseBoundedField_sim _ _ _ _ _ _ _ _
    | with_reducible exact parseModeField_sim _ _ _ _ _ (by intros; rfl) _
    | with_reducible exact parseRoundLimit_sim _ _ _ _ _ _ _
    | with_reducible exact Sim.caught _ _ _ _
    | with_reducible exact Sim.throw_bind _ _
    | with_reducible exact Sim.pure _
    | with_reducible exact Sim.modify_unl _ fun _ _ h => h
    | with_reducible refine Sim.clearUnl_bind _ fun _ => ?_
    | with_reducible refine Sim.get_bind (fun k1 k2 h => by simp only [h]) fun _ => ?_
    | with_reducible refine Sim.discard ?_
    | with_reducible refine Sim.ite ?_ ?_
    | with_reducible refine Sim.bind_keep ?_ fun _ => ?_

/-- Whether `parse_contract_section_json` succeeds does not depend on the
contract it writes into, and two runs that succeed agree on the UNL. -/
theorem parseContractSectionJson_sim (lib : ConfLib) (jdoc : Json) (p : Bool) :
    Sim (UnlAgree false) (UnlAgree true) (parseContractSectionJson lib jdoc p) := by
  have hrest : Sim (UnlAgree false) (UnlAgree true)
      (do parseContractPatchFields lib p jdoc; modify (ContractConfig.withRuntimeArgs lib)) :=
    Sim.bind (parseContractPatchFields_sim false lib p jdoc) fun _ => Sim.modify_unl true fun _ _ h => h
  dsimp only [parseContractSectionJson]
  exact Sim.ite (Sim.bind (parseContractOwnFields_sim false lib jdoc) fun _ => hrest)
    (Sim.bind (Sim.pure _) fun _ => hrest)

/-- Whether a parse succeeds depends on the document and the mode only. -/
theorem parseContract_result_eq (lib : ConfLib) (jdoc : Json) (p : Bool) (k1 k2 : ContractConfig) :
    (parseContract lib jdoc p k1).1 = (parseContract lib jdoc p k2).1 :=
  (parseContractSectionJson_sim lib jdoc p k1 k2 nofun).1

/-! ## What a parse leaves -/

/-- `k` holds the runtime arguments its fields give. -/
def ContractConfig.ArgsDerived (lib : ConfLib) (k : ContractConfig) : Prop := k.withRuntimeArgs lib = k

theorem ContractConfig.argsDerived_withRuntimeArgs (lib : ConfLib) (k : ContractConfig) :
    (k.withRuntimeArgs lib).ArgsDerived lib := rfl

theorem parseContractSectionJson_eq (lib : ConfLib) (jdoc : Json) (p : Bool) :
    parseContractSectionJson lib jdoc p =
      ((if !p then parseContractOwnFields lib jdoc else pure ()) >>= fun _ => parseContractPatchFields lib p jdoc) >>=
        fun _ => modify (ContractConfig.withRuntimeArgs lib) := by
  cases p <;> simp [parseContractSectionJson]

/-- A parse that succeeds leaves the runtime arguments derived. -/
theorem parseContract_argsDerived {lib : ConfLib} {jdoc : Json} {p : Bool} {k : ContractConfig}
    (h : (parseContract lib jdoc p k).1 = .ok ()) : (parseContract lib jdoc p k).2.ArgsDerived lib := by
  unfold parseContract at h ⊢
  rw [parseContractSectionJson_eq, ContractM.run_bind] at h ⊢
  split at h
  · exact ContractConfig.argsDerived_withRuntimeArgs lib _
  · cases h

/-- `read_config` fills the contract with a successful parse. -/
theorem readConfigFromRole_contract {lib : ConfLib} {x : Json × Json × NodeKeys × Role} {cfg c : HpConfig}
    (h : readConfigFromRole lib x cfg = .ok c) :
    ∃ jdoc, parseContract lib jdoc false cfg.contract = (.ok (), c.contract) := by
  obtain ⟨d, node, keys, role⟩ := x
  simp only [readConfigFromRole, bind, Except.bind, pure, Except.pure] at h
  generalize hpc : parseContract lib _ false cfg.contract = r at h
  obtain ⟨_ | _, contract⟩ := r
  · split at h <;> cases h
  · repeat (split at h <;> try (cases h; done))
    cases h
    exact ⟨_, hpc⟩

/-! ## The contract of a running node -/

/-- `apply_patch_config` leaves `cfg.contract` as it was, or sets it to a patch
parsed onto it with success: the patch parsed onto the config from `hp.cfg`
first, so it parses onto `cfg.contract` too. -/
theorem applyPatchConfig_contract_parsed (lib : ConfLib) (io : PatchIO) (s : ConfState) :
    (applyPatchConfig lib io s).2.cfg.contract = s.cfg.contract ∨
    ∃ jdoc, (parseContract lib jdoc true s.cfg.contract).1 = .ok () ∧
      (applyPatchConfig lib io s).2.cfg.contract = (parseContract lib jdoc true s.cfg.contract).2 := by
  unfold applyPatchConfig
  split
  · exact .inl rfl
  split
  · exact .inl rfl
  split
  · exact .inl rfl
  rename_i jdoc _
  rcases hr : s.readTemp lib io.configReadOk with ⟨_ | temp, s'⟩
  · exact .inl (by simp only [hr, ← ConfState.readTemp_cfg lib io.configReadOk s])
  have hcfg : s'.cfg = s.cfg := by rw [← ConfState.readTemp_cfg lib io.configReadOk s, hr]
  simp only [hr]
  split
  · exact .inl (congrArg (·.contract) hcfg)
  rename_i htemp
  rw [hcfg]
  have hok : (parseContract lib jdoc true s.cfg.contract).1 = .ok () := by
    rw [← parseContract_result_eq lib jdoc true temp.contract, htemp]
  split <;> rename_i h <;> rw [h] at hok
  · cases hok
  · exact .inr ⟨jdoc, by rw [h], by simp only [h]; rfl⟩

theorem persistUpdatedConfigs_cfg (lib : ConfLib) (readOk : Bool) (w : WriteOutcome) (s : ConfState) :
    (persistUpdatedConfigs lib readOk w s).2.cfg = s.cfg := by
  unfold persistUpdatedConfigs
  rcases hr : s.readTemp lib readOk with ⟨_ | temp, s'⟩ <;>
    have hcfg : s'.cfg = s.cfg := by rw [← ConfState.readTemp_cfg lib readOk s, hr]
  · exact hcfg
  · dsimp only
    split <;> exact hcfg

theorem rekey_cfg (lib : ConfLib) (lockOk readOk : Bool) (pk sk : Bytes) (w : WriteOutcome) (s : ConfState) :
    (rekey lib lockOk readOk pk sk w s).2.cfg = s.cfg := by
  unfold rekey
  split
  · rfl
  rcases hr : s.readTemp lib readOk with ⟨_ | c, s'⟩ <;>
    have hcfg : s'.cfg = s.cfg := by rw [← ConfState.readTemp_cfg lib readOk s, hr]
  · exact hcfg
  · dsimp only
    split <;> exact hcfg

variable {lib : ConfLib} {s : ConfState}

theorem ConfState.step_argsDerived (h : s.cfg.contract.ArgsDerived lib) (a : ConfAction) :
    (s.step lib a).cfg.contract.ArgsDerived lib := by
  cases a with
  | changeRole role =>
    show (changeRole role s).cfg.contract.ArgsDerived lib
    unfold changeRole
    split <;> exact h
  | applyPatchConfig io =>
    rcases applyPatchConfig_contract_parsed lib io s with h' | ⟨jdoc, hok, h'⟩
    · exact h' ▸ h
    · exact h' ▸ parseContract_argsDerived hok
  | persistUpdatedConfigs readOk w => exact (persistUpdatedConfigs_cfg lib readOk w s).symm ▸ h
  | rekey lockOk readOk pk sk w => exact (rekey_cfg lib lockOk readOk pk sk w s).symm ▸ h
  | patchFileChanged patch => exact h

theorem ConfState.run_argsDerived (h : s.cfg.contract.ArgsDerived lib) (as : List ConfAction) :
    (s.run lib as).cfg.contract.ArgsDerived lib := by
  induction as generalizing s with
  | nil => exact h
  | cons a as ih => exact ih (ConfState.step_argsDerived h a)

theorem confStartup_argsDerived {file : FileText} {patch : Option FileText} {cfg : HpConfig} {role : Role}
    (hs : confStartup lib file patch cfg role = some s) : s.cfg.contract.ArgsDerived lib := by
  unfold confStartup at hs
  rw [readConfig_run] at hs
  cases hx : readConfigUpToRole lib true file with
  | error e => simp [hx] at hs
  | ok x =>
    cases hc : readConfigFromRole lib x cfg with
    | error e => simp [hx, hc] at hs
    | ok c =>
      simp only [hx, hc, Option.some.injEq] at hs
      subst hs
      obtain ⟨jdoc, hp⟩ := readConfigFromRole_contract hc
      have h : (parseContract lib jdoc false cfg.contract).2.ArgsDerived lib := parseContract_argsDerived (by rw [hp])
      rwa [hp] at h

/-! ## The config files round-trip -/

/-- **The config files round-trip.** For a config whose values pass the checks
of `read_config` and `parse_contract_section_json`, `read_config` of the file
`write_config` wrote returns it, with what `read_config` derives recomputed,
and sets `startup_role` to its role. For a contract that passes the patch-mode
checks, the patch document `populate_contract_section_json` writes parses back
onto any contract with every patch field of the first. On a running node,
`populate_patch_config` followed by `apply_patch_config` leaves `cfg.contract`
as it was. -/
theorem config_round_trip (lib : ConfLib) :
    (∀ c : HpConfig, c.PassesChecks lib → ∀ (file : FileText) (cfg : HpConfig) (r0 : Role),
      (readConfig lib true (writeConfig lib file c .written).2 cfg).run.run r0 = (.ok (c.derived lib), c.node.role)) ∧
    (∀ k k0 : ContractConfig, k.PassesPatchChecks lib →
      parseContract lib (.obj (populateContractSectionJson lib k true)) true k0 =
        (.ok (), (k0.patchedWith k).withRuntimeArgs lib)) ∧
    (∀ (file : FileText) (patch : Option FileText) (cfg : HpConfig) (role : Role) (s0 : ConfState),
      confStartup lib file patch cfg role = some s0 →
      ∀ (as : List ConfAction) (w : WriteOutcome) (io : PatchIO),
        (s0.run lib as).cfg.contract.PassesPatchChecks lib → (populatePatchConfig lib w (s0.run lib as)).1 = 0 →
        (applyPatchConfig lib io (populatePatchConfig lib w (s0.run lib as)).2).2.cfg.contract =
          (s0.run lib as).cfg.contract) := by
  refine ⟨readConfig_writeConfig lib, parseContract_patch lib, fun file patch cfg role s0 hs as w io hc h0 => ?_⟩
  have hd : (s0.run lib as).cfg.contract.ArgsDerived lib := ConfState.run_argsDerived (confStartup_argsDerived hs) as
  rcases populate_then_apply_contract lib _ w io hc h0 with h | h
  · exact h
  · exact h.trans hd

theorem sampleConfig_passesChecks : sampleConfig.PassesChecks sampleLib := by
  constructor <;> first | decide | (constructor <;> decide)

theorem sample_config_round_trip :
    sampleConfig.PassesChecks sampleLib ∧
    (readConfig sampleLib true (writeConfig sampleLib .unparsable sampleConfig .written).2 default).run.run
        .validator = (.ok (sampleConfig.derived sampleLib), .observer) ∧
    parseContract sampleLib (.obj (populateContractSectionJson sampleLib sampleContract true)) true default =
      (.ok (), ((default : ContractConfig).patchedWith sampleContract).withRuntimeArgs sampleLib) ∧
    (applyPatchConfig sampleLib ⟨true, true, true, .written⟩
      (populatePatchConfig sampleLib .written sampleState).2).2.cfg.contract = sampleState.cfg.contract :=
  ⟨sampleConfig_passesChecks,
    (config_round_trip sampleLib).1 _ sampleConfig_passesChecks .unparsable default .validator,
    (config_round_trip sampleLib).2.1 _ default sampleConfig_passesChecks.contractPatch,
    (config_round_trip sampleLib).2.2 (.doc (configDoc sampleLib sampleConfig)) none default .validator sampleState
      (by simp only [sampleState, configDoc, sampleConfig, sampleContract, populateContractSectionJson,
        setToList_insert_empty, sort_insert_empty]; rfl)
      [] .written _ sampleConfig_passesChecks.contractPatch rfl⟩

end Hpcore.Conf
