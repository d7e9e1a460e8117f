import BicepTemplates.Proofs.Resource.Rules
import BicepTemplates.Proofs.Success
import BicepTemplates.Resource.Kinds
import Mathlib.Tactic.MkIffOfInductiveProp

/-! # Which accounts are accepted

An account is accepted exactly if its settings are consistent. Of several rules it breaks, the first
in a fixed order is reported: consistency, regions, what a serverless account cannot have, the
network, backups. Accepted accounts may still be warned about, each warning once.
-/

namespace BicepTemplates.Cosmos

namespace Account

/-- What is wrong with an account, numbered in the order in which it is reported. -/
@[mk_iff]
inductive Breaks (a : Account) : Nat → ValidationError → Prop where
  | stalenessMissing (h : a.consistency.level = .boundedStaleness)
      (hn : a.consistency.maxStalenessPrefix = none) :
    Breaks a 0 (.missingField "max_staleness_prefix"
      "when the consistency level is BoundedStaleness")
  | intervalMissing (h : a.consistency.level = .boundedStaleness)
      (hn : a.consistency.maxIntervalInSeconds = none) :
    Breaks a 1 (.missingField "max_interval_in_seconds"
      "when the consistency level is BoundedStaleness")
  | stalenessRange (h : a.consistency.level = .boundedStaleness) {n : Int}
      (hn : a.consistency.maxStalenessPrefix = some n) (hr : n < 1 ∨ 2147483647 < n) :
    Breaks a 2 (.outOfRange "max_staleness_prefix" n 1 2147483647)
  | intervalRange (h : a.consistency.level = .boundedStaleness) {n : Int}
      (hn : a.consistency.maxIntervalInSeconds = some n) (hr : n < 5 ∨ 86400 < n) :
    Breaks a 3 (.outOfRange "max_interval_in_seconds" n 5 86400)
  | noRegion (h : a.regions = []) :
    Breaks a 4 (.missingField "locations" "for every account")
  | failoverAlone (h : a.features.automaticFailover = true) (hr : a.regions.length = 1) :
    Breaks a 5 (.unsupported "automatic failover needs more than one location")
  | freeTier (h : a.serverless = true) (hf : a.features.freeTier = true) :
    Breaks a 6 (.mutuallyExclusive "serverless" "enable_free_tier")
  | burstCapacity (h : a.serverless = true) (hf : a.features.burstCapacity = true) :
    Breaks a 7 (.mutuallyExclusive "serverless" "enable_burst_capacity")
  | multipleWriteLocations (h : a.serverless = true)
      (hf : a.features.multipleWriteLocations = true) :
    Breaks a 8 (.mutuallyExclusive "serverless" "enable_multiple_write_locations")
  | priorityBasedExecution (h : a.serverless = true)
      (hf : a.features.priorityBasedExecution = true) :
    Breaks a 9 (.mutuallyExclusive "serverless" "enable_priority_based_execution")
  | serverlessRegions (h : a.serverless = true) (hr : 1 < a.regions.length) :
    Breaks a 10 (.unsupported
      "serverless accounts support a single location, which can be zone redundant")
  | virtualNetwork (h : a.network.virtualNetworkRules ≠ [])
      (hf : a.network.virtualNetworkFilter = false) :
    Breaks a 11 (.missingField "is_virtual_network_filter_enabled"
      "for virtual network rules to be honoured")
  | bypass (h : a.network.bypassResourceIds ≠ []) (hb : a.network.bypass = .none) :
    Breaks a 12 (.unsupported ("network_acl_bypass_resource_ids can only be set when " ++
      "network_acl_bypass is AzureServices"))
  | backupMissing {interval retention : Option Int} {redundancy : StorageRedundancy}
      (h : a.backup = .periodic interval retention redundancy) (hn : interval = none) :
    Breaks a 13 (.missingField "interval_in_minutes" "for periodic backups")
  | retentionMissing {interval retention : Option Int} {redundancy : StorageRedundancy}
      (h : a.backup = .periodic interval retention redundancy) (hn : retention = none) :
    Breaks a 14 (.missingField "retention_interval_in_minutes" "for periodic backups")
  | backupRange {interval retention : Option Int} {redundancy : StorageRedundancy} {n : Int}
      (h : a.backup = .periodic interval retention redundancy) (hn : interval = some n)
      (hr : n < 0 ∨ 2147483647 < n) :
    Breaks a 15 (.outOfRange "interval_in_minutes" n 0 2147483647)
  | retentionRange {interval retention : Option Int} {redundancy : StorageRedundancy} {n : Int}
      (h : a.backup = .periodic interval retention redundancy) (hn : retention = some n)
      (hr : n < 0 ∨ 2147483647 < n) :
    Breaks a 16 (.outOfRange "retention_interval_in_minutes" n 0 2147483647)

/-- The settings go together. No setting can hold a number above 2147483647. -/
structure Consistent (a : Account) : Prop where
  staleness : a.consistency.level = .boundedStaleness →
    (∃ n, a.consistency.maxStalenessPrefix = some n ∧ 1 ≤ n ∧ n ≤ 2147483647) ∧
      ∃ n, a.consistency.maxIntervalInSeconds = some n ∧ 5 ≤ n ∧ n ≤ 86400
  regions : 1 ≤ a.regions.length
  failover : a.features.automaticFailover = true → 2 ≤ a.regions.length
  serverless : a.serverless = true → a.features.freeTier = false ∧
    a.features.burstCapacity = false ∧ a.features.multipleWriteLocations = false ∧
    a.features.priorityBasedExecution = false ∧ a.regions.length ≤ 1
  virtualNetwork : a.network.virtualNetworkRules ≠ [] → a.network.virtualNetworkFilter = true
  bypass : a.network.bypassResourceIds ≠ [] → a.network.bypass = .azureServices
  backup : ∀ interval retention redundancy, a.backup = .periodic interval retention redundancy →
    (∃ n, interval = some n ∧ 0 ≤ n ∧ n ≤ 2147483647) ∧
      ∃ n, retention = some n ∧ 0 ≤ n ∧ n ≤ 2147483647

section Reporting

variable {a : Account}

theorem reports_consistency (a : Account) : Rule.Reports a.Breaks 0 4 a.consistency.rules := by
  unfold Consistency.rules
  split
  next hlevel =>
    refine .cons (fun e => ?_) (.cons (fun e => ?_) (.cons (fun e => ?_) (.singleton fun e => ?_)))
    · simp [Rule.required_eq_some_iff, breaks_iff, hlevel]
    · simp [Rule.required_eq_some_iff, breaks_iff, hlevel]
    · simp [Rule.range_eq_some_iff, breaks_iff, hlevel, Rule.maxSetting]
    · simp [Rule.range_eq_some_iff, breaks_iff, hlevel]
  next hlevel =>
    -- what has a number below 4 needs the other level
    refine .nil fun k _ hk e h => ?_
    cases h <;> first | omega | contradiction

theorem reports_regions (a : Account) : Rule.Reports a.Breaks 4 6
    [.forbid a.regions.isEmpty (.missingField "locations" "for every account"),
      .forbid (a.features.automaticFailover && a.regions.length == 1)
        (.unsupported "automatic failover needs more than one location")] := by
  refine .cons (fun e => ?_) (.singleton fun e => ?_)
  · simp [Rule.forbid_eq_some_iff, breaks_iff]
  · simp [Rule.forbid_eq_some_iff, breaks_iff, and_assoc]

theorem reports_serverless (a : Account) : Rule.Reports a.Breaks 6 11
    (if a.serverless then
      a.features.serverlessRules ++
        [.forbid (decide (1 < a.regions.length))
          (.unsupported
            "serverless accounts support a single location, which can be zone redundant")]
    else []) := by
  split
  next hserverless =>
    refine .cons (fun e => ?_) (.cons (fun e => ?_) (.cons (fun e => ?_) (.cons (fun e => ?_)
      (.singleton fun e => ?_))))
    all_goals simp [Rule.forbid_eq_some_iff, breaks_iff, hserverless]
  next hserverless =>
    refine .nil fun k _ hk e h => ?_
    cases h <;> first | omega | contradiction

theorem reports_network (a : Account) : Rule.Reports a.Breaks 11 13 a.network.rules := by
  refine .cons (fun e => ?_) (.singleton fun e => ?_)
  · simp [Rule.forbid_eq_some_iff, breaks_iff, and_assoc]
  · simp [Rule.forbid_eq_some_iff, breaks_iff, and_assoc, and_left_comm]

theorem reports_backup (a : Account) : Rule.Reports a.Breaks 13 17 a.backup.rules := by
  cases hbackup : a.backup with
  | continuous tier =>
    refine .nil fun k _ hk e h => ?_
    cases h <;> first | omega | simp_all
  | periodic interval retention redundancy =>
    refine .cons (fun e => ?_) (.cons (fun e => ?_) (.cons (fun e => ?_) (.singleton fun e => ?_)))
    · simp [Rule.required_eq_some_iff, breaks_iff, hbackup]
    · simp [Rule.required_eq_some_iff, breaks_iff, hbackup]
    · simp [Rule.range_eq_some_iff, breaks_iff, hbackup, Rule.maxSetting]
    · simp [Rule.range_eq_some_iff, breaks_iff, hbackup, Rule.maxSetting]

theorem reports_rules (a : Account) : Rule.Reports a.Breaks 0 17 a.rules :=
  ((((reports_consistency a).append (reports_regions a)).append (reports_serverless a)).append
    (reports_network a)).append (reports_backup a)

theorem Breaks.lt {k : Nat} {e : ValidationError} (h : a.Breaks k e) : k < 17 := by
  cases h <;> decide

end Reporting

section Consistency

variable {a : Account} {k : Nat} {e : ValidationError}

theorem Consistent.not_breaks (hc : a.Consistent) : ¬ a.Breaks k e := by
  intro h
  cases h with
  | stalenessMissing h hn =>
    obtain ⟨⟨n, hn', -⟩, -⟩ := hc.staleness h
    exact nomatch hn.symm.trans hn'
  | intervalMissing h hn =>
    obtain ⟨-, n, hn', -⟩ := hc.staleness h
    exact nomatch hn.symm.trans hn'
  | stalenessRange h hn hr =>
    obtain ⟨⟨n, hn', hmin, hmax⟩, -⟩ := hc.staleness h
    obtain rfl := Option.some.inj (hn.symm.trans hn')
    omega
  | intervalRange h hn hr =>
    obtain ⟨-, n, hn', hmin, hmax⟩ := hc.staleness h
    obtain rfl := Option.some.inj (hn.symm.trans hn')
    omega
  | noRegion h => exact absurd hc.regions (by simp [h])
  | failoverAlone h hr => exact absurd (hc.failover h) (by omega)
  | freeTier h hf => exact absurd hf (by simp [(hc.serverless h).1])
  | burstCapacity h hf => exact absurd hf (by simp [(hc.serverless h).2.1])
  | multipleWriteLocations h hf => exact absurd hf (by simp [(hc.serverless h).2.2.1])
  | priorityBasedExecution h hf => exact absurd hf (by simp [(hc.serverless h).2.2.2.1])
  | serverlessRegions h hr => exact absurd (hc.serverless h).2.2.2.2 (by omega)
  | virtualNetwork h hf => exact absurd hf (by simp [hc.virtualNetwork h])
  | bypass h hb => exact absurd hb (by simp [hc.bypass h])
  | backupMissing h hn =>
    obtain ⟨⟨n, hn', -⟩, -⟩ := hc.backup _ _ _ h
    exact nomatch hn.symm.trans hn'
  | retentionMissing h hn =>
    obtain ⟨-, n, hn', -⟩ := hc.backup _ _ _ h
    exact nomatch hn.symm.trans hn'
  | backupRange h hn hr =>
    obtain ⟨⟨n, hn', hmin, hmax⟩, -⟩ := hc.backup _ _ _ h
    obtain rfl := Option.some.inj (hn.symm.trans hn')
    omega
  | retentionRange h hn hr =>
    obtain ⟨-, n, hn', hmin, hmax⟩ := hc.backup _ _ _ h
    obtain rfl := Option.some.inj (hn.symm.trans hn')
    omega

theorem consistent_of_not_breaks (h : ∀ k e, ¬ a.Breaks k e) : a.Consistent where
  staleness hlevel :=
    ⟨Rule.exists_within (fun hn => h _ _ (.stalenessMissing hlevel hn))
        fun _ hn hr => h _ _ (.stalenessRange hlevel hn hr),
      Rule.exists_within (fun hn => h _ _ (.intervalMissing hlevel hn))
        fun _ hn hr => h _ _ (.intervalRange hlevel hn hr)⟩
  regions := List.length_pos_iff.mpr fun hnil => h _ _ (.noRegion hnil)
  failover hf := by
    have hpos := List.length_pos_iff.mpr fun hnil => h _ _ (.noRegion hnil)
    have hne : a.regions.length ≠ 1 := fun hone => h _ _ (.failoverAlone hf hone)
    omega
  serverless hs :=
    ⟨Bool.eq_false_iff.mpr fun hf => h _ _ (.freeTier hs hf),
      Bool.eq_false_iff.mpr fun hf => h _ _ (.burstCapacity hs hf),
      Bool.eq_false_iff.mpr fun hf => h _ _ (.multipleWriteLocations hs hf),
      Bool.eq_false_iff.mpr fun hf => h _ _ (.priorityBasedExecution hs hf),
      Nat.le_of_not_lt fun hr => h _ _ (.serverlessRegions hs hr)⟩
  virtualNetwork hne := eq_true_of_ne_false fun hf => h _ _ (.virtualNetwork hne hf)
  bypass hne := by
    cases hb : a.network.bypass with
    | none => exact absurd (.bypass hne hb) (h _ _)
    | azureServices => rfl
  backup _ _ _ hbackup :=
    ⟨Rule.exists_within (fun hn => h _ _ (.backupMissing hbackup hn))
        fun _ hn hr => h _ _ (.backupRange hbackup hn hr),
      Rule.exists_within (fun hn => h _ _ (.retentionMissing hbackup hn))
        fun _ hn hr => h _ _ (.retentionRange hbackup hn hr)⟩

theorem check_rules_eq_ok_iff_consistent : Rule.check a.rules = .ok () ↔ a.Consistent := by
  rw [(reports_rules a).ok_iff]
  constructor
  · exact fun h => consistent_of_not_breaks fun k e hk => h k (Nat.zero_le k) hk.lt e hk
  · exact fun hc k _ _ e => hc.not_breaks

theorem check_rules_eq_error_iff : Rule.check a.rules = .error e ↔
    ∃ k, a.Breaks k e ∧ ∀ j < k, ∀ e', ¬ a.Breaks j e' := by
  rw [(reports_rules a).error_iff]
  constructor
  · rintro ⟨k, -, -, hk, hleast⟩
    exact ⟨k, hk, fun j => hleast j (Nat.zero_le j)⟩
  · rintro ⟨k, hk, hleast⟩
    exact ⟨k, Nat.zero_le k, hk.lt, hk, fun j _ => hleast j⟩

theorem Consistent.of_serverless (hc : a.Consistent) (hs : a.serverless = true) :
    a.regions.length = 1 ∧ a.features.automaticFailover = false := by
  have hle := (hc.serverless hs).2.2.2.2
  have hpos := hc.regions
  refine ⟨by omega, Bool.eq_false_iff.mpr fun hf => ?_⟩
  have htwo := hc.failover hf
  omega

end Consistency

section Warnings

variable {a : Account} {warnings : List Warning}

theorem nodup_warnings (a : Account) : a.warnings.Nodup := by
  unfold Account.warnings
  split <;> split <;> simp

theorem mem_warnings_iff {w : Warning} : w ∈ a.warnings ↔
    (a.network.bypass = .azureServices ∧ a.network.bypassResourceIds = [] ∧
      w = ⟨a.accountName, "network ACL bypass is AzureServices without bypass resource ids, " ++
        "all Azure services can access the account"⟩) ∨
    (a.features.disableLocalAuth = false ∧
      w = ⟨a.accountName,
        "local authentication is enabled, disable it outside of development"⟩) := by
  unfold Account.warnings
  rw [List.mem_append]
  refine or_congr ?_ ?_
  · split <;> simp_all
  · split <;> simp_all

theorem validate_eq_ok_iff : (Resource.account a).validate = .ok warnings ↔
    a.Consistent ∧ warnings = a.warnings := by
  rw [Resource.validate, bind_eq_ok_iff, ← check_rules_eq_ok_iff_consistent]
  constructor
  · rintro ⟨_, hcheck, hwarnings⟩
    exact ⟨hcheck, (Except.ok.inj hwarnings).symm⟩
  · rintro ⟨hcheck, rfl⟩
    exact ⟨(), hcheck, rfl⟩

theorem validate_eq_error_iff {e : ValidationError} : (Resource.account a).validate = .error e ↔
    ∃ k, a.Breaks k e ∧ ∀ j < k, ∀ e', ¬ a.Breaks j e' := by
  rw [Resource.validate, bind_eq_error_iff, ← check_rules_eq_error_iff]
  constructor
  · rintro (herror | ⟨_, _, hwarnings⟩)
    · exact herror
    · exact nomatch hwarnings
  · exact .inl

end Warnings

/-- An account is accepted exactly if its settings are consistent, and otherwise reported for the
first thing that is wrong with it. If it is serverless it then has one region and no automatic
failover. It is warned about exactly two things, that all services of the platform get past its
network rules and that local authentication is enabled. -/
theorem validate_exact (a : Account) :
    ((∃ warnings, (Resource.account a).validate = .ok warnings) ↔ a.Consistent) ∧
    (∀ e, (Resource.account a).validate = .error e ↔
      ∃ k, a.Breaks k e ∧ ∀ j < k, ∀ e', ¬ a.Breaks j e') ∧
    ∀ warnings, (Resource.account a).validate = .ok warnings →
      (a.serverless = true → a.regions.length = 1 ∧ a.features.automaticFailover = false) ∧
      warnings.Nodup ∧ ∀ w, w ∈ warnings ↔
        (a.network.bypass = .azureServices ∧ a.network.bypassResourceIds = [] ∧
          w = ⟨a.accountName, "network ACL bypass is AzureServices without bypass resource ids, " ++
            "all Azure services can access the account"⟩) ∨
        (a.features.disableLocalAuth = false ∧
          w = ⟨a.accountName,
            "local authentication is enabled, disable it outside of development"⟩) := by
  refine ⟨?accepted, fun e => validate_eq_error_iff, fun warnings h => ?_⟩
  case accepted =>
    constructor
    · rintro ⟨warnings, h⟩
      exact (validate_eq_ok_iff.mp h).1
    · exact fun hc => ⟨a.warnings, validate_eq_ok_iff.mpr ⟨hc, rfl⟩⟩
  obtain ⟨hc, rfl⟩ := validate_eq_ok_iff.mp h
  exact ⟨hc.of_serverless, a.nodup_warnings, fun w => mem_warnings_iff⟩

/-- A new account is accepted with one warning. With two regions and two features it cannot have,
it is reported for the feature that is looked at first. -/
theorem validate_exact_new :
    let shop := new "shop"
    let wide : Account := { shop with
      regions := [⟨location, 0, false⟩, ⟨.text "westeurope", 1, true⟩]
      features := { priorityBasedExecution := true, burstCapacity := true } }
    shop.Consistent ∧
    (∃ warnings, (Resource.account shop).validate = .ok warnings ∧ shop.regions.length = 1 ∧
      ⟨"shop", "local authentication is enabled, disable it outside of development"⟩ ∈ warnings) ∧
    (Resource.account wide).validate =
      .error (.mutuallyExclusive "serverless" "enable_burst_capacity") ∧
    ∃ k, wide.Breaks k (.mutuallyExclusive "serverless" "enable_burst_capacity") ∧
      ∀ e, ∀ j < k, ¬ wide.Breaks j e := by
  intro shop wide
  obtain ⟨haccepted, -, hwarnings⟩ := validate_exact shop
  have hshop : (Resource.account shop).validate = .ok shop.warnings := rfl
  obtain ⟨hserverless, -, hmem⟩ := hwarnings _ hshop
  have hwide : (Resource.account wide).validate =
      .error (.mutuallyExclusive "serverless" "enable_burst_capacity") := rfl
  obtain ⟨k, hk, hleast⟩ := ((validate_exact wide).2.1 _).mp hwide
  exact ⟨haccepted.mp ⟨_, hshop⟩, ⟨_, hshop, (hserverless rfl).1, (hmem _).mpr (.inr ⟨rfl, rfl⟩)⟩,
    hwide, k, hk, fun e j hj => hleast j hj e⟩

end Account

end BicepTemplates.Cosmos
