import OlNode.LuckyWater.Guard
import OlNode.LuckyWater.Tiers
import OlNode.ReadCommitted.Sequential

/-!
# Price ranges

A new config version takes the price range of the version before it, so all versions of a tier have
the range the tier was seeded with. The seeded ranges follow each other without a gap. A process may
route by an index it computed at any earlier time.
-/
namespace OlNode

open ReadCommitted

/-! ### The index of the latest configs -/

section Index

/-- The first row of each tier: one for each tier that has rows. -/
theorem foldl_firstOfTiers (rows byTier : List LuckyTierConfig)
    (distinct : (byTier.map (·.tierId)).Nodup) :
    let out := rows.foldl (fun byTier row =>
      if byTier.any fun seen => seen.tierId = row.tierId then byTier else byTier ++ [row]) byTier
    (out.map (·.tierId)).Nodup ∧ (∀ config ∈ byTier, config ∈ out) ∧
      ∀ row ∈ rows, ∃ config ∈ out, config.tierId = row.tierId := by
  induction rows generalizing byTier with
  | nil => exact ⟨distinct, fun _ member => member, List.forall_mem_nil _⟩
  | cons row rows ih =>
    rw [List.foldl_cons]
    by_cases present : byTier.any fun seen => seen.tierId = row.tierId
    · rw [if_pos present]
      obtain ⟨nodup, kept, covered⟩ := ih byTier distinct
      refine ⟨nodup, kept, ?_⟩
      intro other member
      rcases List.mem_cons.mp member with rfl | later
      · obtain ⟨seen, inside, same⟩ := List.any_eq_true.mp present
        exact ⟨seen, kept seen inside, by simpa using same⟩
      · exact covered other later
    · rw [if_neg present]
      have fresh : row.tierId ∉ byTier.map (·.tierId) := by
        intro member
        obtain ⟨seen, inside, same⟩ := List.mem_map.mp member
        exact present (List.any_eq_true.mpr ⟨seen, inside, by simpa using same⟩)
      obtain ⟨nodup, kept, covered⟩ := ih (byTier ++ [row]) (by
        rw [List.map_append, List.nodup_append]
        refine ⟨distinct, by simp, ?_⟩
        intro tierId old other new
        rintro rfl
        exact fresh ((List.mem_singleton.mp (by simpa using new)) ▸ old))
      refine ⟨nodup, fun config member => kept config (List.mem_append_left _ member), ?_⟩
      intro other member
      rcases List.mem_cons.mp member with rfl | later
      · exact ⟨other, kept other (by simp), rfl⟩
      · exact covered other later

/-- A row of the result was the first of its tier. -/
theorem foldl_firstOfTiers_first (rows byTier : List LuckyTierConfig) {config : LuckyTierConfig}
    (member : config ∈ rows.foldl (fun byTier row =>
      if byTier.any fun seen => seen.tierId = row.tierId then byTier else byTier ++ [row]) byTier) :
    config ∈ byTier ∨ ((∀ seen ∈ byTier, seen.tierId ≠ config.tierId) ∧
      ∃ before after, rows = before ++ config :: after ∧
        ∀ row ∈ before, row.tierId ≠ config.tierId) := by
  induction rows generalizing byTier with
  | nil => exact .inl member
  | cons row rows ih =>
    rw [List.foldl_cons] at member
    by_cases present : byTier.any fun seen => seen.tierId = row.tierId
    · rw [if_pos present] at member
      rcases ih byTier member with old | ⟨away, before, after, rfl, first⟩
      · exact .inl old
      · obtain ⟨seen, inside, same⟩ := List.any_eq_true.mp present
        have skipped : row.tierId ≠ config.tierId := by
          have other := away seen inside
          simpa using (of_decide_eq_true same) ▸ other
        exact .inr ⟨away, row :: before, after, rfl, List.forall_mem_cons.mpr ⟨skipped, first⟩⟩
    · rw [if_neg present] at member
      rcases ih (byTier ++ [row]) member with old | ⟨away, before, after, rfl, first⟩
      · rcases List.mem_append.mp old with old | new
        · exact .inl old
        · rw [List.mem_singleton] at new
          subst new
          refine .inr ⟨fun seen inside same => ?_, [], rows, rfl, List.forall_mem_nil _⟩
          exact present (List.any_eq_true.mpr ⟨seen, inside, by simpa using same⟩)
      · have skipped : row.tierId ≠ config.tierId := away row (by simp)
        refine .inr ⟨fun seen inside => away seen (List.mem_append_left _ inside), ?_⟩
        exact ⟨row :: before, after, rfl, List.forall_mem_cons.mpr ⟨skipped, first⟩⟩

theorem LuckyTierId.order_injective {a b : LuckyTierId} (same : a.order = b.order) : a = b := by
  cases a <;> cases b <;> first | rfl | cases same

theorem sorted_newerInTier (configs : List LuckyTierConfig) :
    (configs.insertionSort newerInTier).Pairwise newerInTier := by
  have total : Std.Total newerInTier := by
    constructor
    intro a b
    unfold newerInTier
    rcases Nat.lt_trichotomy a.tierId.order b.tierId.order with less | same | greater
    · exact .inl (.inl less)
    · have tier := LuckyTierId.order_injective same
      rcases Nat.le_total b.version a.version with newer | older
      · exact .inl (.inr ⟨tier, newer⟩)
      · exact .inr (.inr ⟨tier.symm, older⟩)
    · exact .inr (.inl greater)
  have transitive : IsTrans LuckyTierConfig newerInTier := by
    constructor
    rintro a b c (less | ⟨tier, newer⟩) (less' | ⟨tier', newer'⟩)
    · exact .inl (Nat.lt_trans less less')
    · exact .inl (tier' ▸ less)
    · exact .inl (tier ▸ less')
    · exact .inr ⟨tier.trans tier', Nat.le_trans newer' newer⟩
  exact List.pairwise_insertionSort newerInTier configs

/-- The index holds one row of each tier, of the highest version. -/
structure IsLatest (configs byTier : List LuckyTierConfig) : Prop where
  distinct : (byTier.map (·.tierId)).Nodup
  stored : ∀ config ∈ byTier, config ∈ configs
  complete : ∀ row ∈ configs, ∃ config ∈ byTier, config.tierId = row.tierId
  newest : ∀ config ∈ byTier, ∀ row ∈ configs, row.tierId = config.tierId →
    row.version ≤ config.version

theorem latestConfigIndex_isLatest (configs : List LuckyTierConfig) :
    IsLatest configs (latestConfigIndex configs) := by
  obtain ⟨distinct, -, complete⟩ :=
    foldl_firstOfTiers (configs.insertionSort newerInTier) [] List.nodup_nil
  have split : ∀ config ∈ latestConfigIndex configs, ∃ before after,
      configs.insertionSort newerInTier = before ++ config :: after ∧
        ∀ row ∈ before, row.tierId ≠ config.tierId := by
    intro config member
    rcases foldl_firstOfTiers_first _ _ member with none | ⟨-, found⟩
    · cases none
    · exact found
  refine ⟨distinct, ?_, ?_, ?_⟩
  · intro config member
    obtain ⟨before, after, shape, -⟩ := split config member
    exact (List.mem_insertionSort newerInTier).mp (shape ▸ by simp)
  · exact fun row member => complete row ((List.mem_insertionSort newerInTier).mpr member)
  · intro config member row stored same
    obtain ⟨before, after, shape, first⟩ := split config member
    have inside : row ∈ before ++ config :: after :=
      shape ▸ (List.mem_insertionSort newerInTier).mpr stored
    rcases List.mem_append.mp inside with earlier | later
    · exact absurd same (first row earlier)
    · rcases List.mem_cons.mp later with rfl | later
      · exact Nat.le_refl _
      · have sorted := shape ▸ sorted_newerInTier configs
        have tail := (List.pairwise_append.mp sorted).2.1
        rcases List.rel_of_pairwise_cons tail later with less | ⟨-, newer⟩
        · rw [same] at less
          exact absurd less (Nat.lt_irrefl _)
        · exact newer

end Index

/-! ### Ranges -/

def seededConfigs : List LuckyTierConfig := DEFAULT_TIERS_V1.map (·.toLuckyTierConfig)

def seededRange : LuckyTierId → Int × Option Int
  | .t100 => (1, some 199)
  | .t500 => (200, some 999)
  | .t2k => (1000, some 4999)
  | .t10k => (5000, some 49999)
  | .t50k => (50000, none)

/-- The tier whose seeded range holds the price. -/
def tierOfPrice (unitPrice : Int) : LuckyTierId :=
  if unitPrice ≤ 199 then .t100
  else if unitPrice ≤ 999 then .t500
  else if unitPrice ≤ 4999 then .t2k
  else if unitPrice ≤ 49999 then .t10k
  else .t50k

/-- Every version has its tier's seeded range, and no tier is missing. -/
structure Ranged (configs : List LuckyTierConfig) : Prop where
  range : ∀ config ∈ configs, (config.priceMin, config.priceMax) = seededRange config.tierId
  tiers : ∀ tierId, ∃ config ∈ configs, config.tierId = tierId

theorem seededConfigs_ranged : Ranged seededConfigs where
  range := by decide
  tiers tierId := by
    cases tierId <;> decide

theorem covers_iff {config : LuckyTierConfig}
    (range : (config.priceMin, config.priceMax) = seededRange config.tierId) (unitPrice : Int) :
    config.covers unitPrice = true ↔ 1 ≤ unitPrice ∧ config.tierId = tierOfPrice unitPrice := by
  obtain ⟨low, high⟩ := Prod.mk.inj range
  unfold LuckyTierConfig.covers tierOfPrice
  rw [low, high]
  cases config.tierId <;> split_ifs <;> simp <;> omega

/-- What a process can hold of the configs: the index of some earlier moment, or nothing. -/
theorem find_covers {configs byTier : List LuckyTierConfig} (ranged : Ranged configs)
    (latest : IsLatest configs byTier) {unitPrice : Int} (priced : 1 ≤ unitPrice) :
    ∃ config ∈ byTier, byTier.find? (·.covers unitPrice) = some config ∧
      config.tierId = tierOfPrice unitPrice ∧
      ∀ other ∈ byTier, other.covers unitPrice = true → other = config := by
  obtain ⟨row, stored, rowTier⟩ := ranged.tiers (tierOfPrice unitPrice)
  obtain ⟨entry, member, entryTier⟩ := latest.complete row stored
  have covers : entry.covers unitPrice = true :=
    (covers_iff (ranged.range entry (latest.stored entry member)) unitPrice).mpr
      ⟨priced, entryTier.trans rowTier⟩
  cases found : byTier.find? (·.covers unitPrice) with
  | none => exact absurd covers (by simpa using List.find?_eq_none.mp found entry member)
  | some config =>
    have inside := List.mem_of_find?_eq_some found
    have hit : config.covers unitPrice = true := by simpa using List.find?_some found
    have tier := ((covers_iff (ranged.range config (latest.stored config inside)) unitPrice).mp
      hit).2
    refine ⟨config, inside, rfl, tier, fun other otherIn otherCovers => ?_⟩
    have otherTier := ((covers_iff (ranged.range other (latest.stored other otherIn)) unitPrice).mp
      otherCovers).2
    exact List.inj_on_of_nodup_map latest.distinct otherIn inside (otherTier.trans tier.symm)

/-! ### Creating versions -/

structure VersionRequest where
  tierId : LuckyTierId
  patch : LuckyTierPatch
  econValid : Bool

def createVersion (request : VersionRequest) : LedgerProg LuckyTierConfig :=
  createConfigVersion request.tierId request.patch request.econValid

theorem next_range {latest next : LuckyTierConfig} {patch : LuckyTierPatch}
    (made : latest.next patch = some next) :
    next.tierId = latest.tierId ∧ next.priceMin = latest.priceMin ∧
      next.priceMax = latest.priceMax := by
  unfold LuckyTierConfig.next at made
  dsimp only at made
  split at made
  · cases made
    exact ⟨rfl, rfl, rfl⟩
  · cases made

theorem createVersion_runs {db : MoneyDb} (ranged : Ranged db.lucky.configs)
    (request : VersionRequest) :
    (createVersion request).Runs (fun _ t => Ranged t.lucky.configs) db db := by
  refine Prog.runs_select_bind ?_
  cases found : highestVersion (db.lucky.configs.filter (·.tierId = request.tierId)) with
  | none => exact Prog.runs_fail ranged
  | some latest =>
    dsimp only
    cases made : latest.next request.patch with
    | none => exact Prog.runs_fail ranged
    | some next =>
      refine Prog.runs_ensure_bind (fun _ => ranged) fun _ => ?_
      refine Prog.runs_ensure_bind (fun _ => ranged) fun _ => ?_
      refine Prog.runs_autocommit_bind (Prog.runs_pure ?_)
      have stored : latest ∈ db.lucky.configs :=
        List.mem_of_mem_filter ((List.mem_insertionSort _).mp (List.mem_of_head? found))
      obtain ⟨tier, low, high⟩ := next_range made
      constructor
      · intro config member
        rcases List.mem_append.mp member with old | new
        · exact ranged.range config old
        · rw [List.mem_singleton] at new
          rw [new, tier, low, high]
          exact ranged.range latest stored
      · intro tierId
        obtain ⟨config, member, same⟩ := ranged.tiers tierId
        exact ⟨config, List.mem_append_left _ member, same⟩

abbrev AnyVersion (_ : MoneyDb) (_ : VersionRequest) : Prop := True

theorem ranged_of_served {db db' : MoneyDb} (seeded : db.lucky.configs = seededConfigs)
    (served : InTurn createVersion AnyVersion db db') : Ranged db'.lucky.configs := by
  refine served.invariant (fun db => Ranged db.lucky.configs) ?_ ?_
  · rw [seeded]
    exact seededConfigs_ranged
  · exact fun request t ranged _ => createVersion_runs ranged request

/-- The index a process routes by: the one it computes now, or one it computed at an earlier moment
of the run. -/
def RoutesBy (db db' : MoneyDb) (caches : LuckyCaches) : Prop :=
  ∀ byTier ∈ caches.latestConfigs, ∃ mid, InTurn createVersion AnyVersion db mid ∧
    InTurn createVersion AnyVersion mid db' ∧ byTier = latestConfigIndex mid.lucky.configs

theorem resolveTierConfig_eval {db : MoneyDb} {caches : LuckyCaches} {unitPrice : Int}
    {config : LuckyTierConfig}
    (found : (caches.latestConfigs.getD (latestConfigIndex db.lucky.configs)).find?
      (·.covers unitPrice) = some config) :
    (resolveTierConfig caches unitPrice).eval db =
      .ok (some (config, (db.lucky.mode config.tierId).getD .off), db) := by
  unfold resolveTierConfig refreshLatestConfigIndex
  cases cached : caches.latestConfigs with
  | none =>
    rw [cached, Option.getD_none] at found
    simp [pickTierForPrice, found, readTierModeInTx]
  | some byTier =>
    rw [cached, Option.getD_some] at found
    simp [pickTierForPrice, found, readTierModeInTx]

/-- The ranges of the latest versions are disjoint and leave no price out; every price is routed by
the index, to the tier of its seeded range, whatever versions have been added. -/
theorem ranges_partition {db db' : MoneyDb} (seeded : db.lucky.configs = seededConfigs)
    (served : InTurn createVersion AnyVersion db db') :
    IsLatest db'.lucky.configs (latestConfigIndex db'.lucky.configs) ∧
    (latestConfigIndex db'.lucky.configs).Pairwise
      (fun a b => ∀ unitPrice, ¬ (a.covers unitPrice = true ∧ b.covers unitPrice = true)) ∧
    ∀ unitPrice, 1 ≤ unitPrice →
      (∃! config, config ∈ latestConfigIndex db'.lucky.configs ∧
        config.covers unitPrice = true) ∧
      ∀ caches, RoutesBy db db' caches →
        ∃ config, (caches.latestConfigs.getD (latestConfigIndex db'.lucky.configs)).find?
            (·.covers unitPrice) = some config ∧
          config.tierId = tierOfPrice unitPrice ∧
          (resolveTierConfig caches unitPrice).eval db' =
            .ok (some (config, (db'.lucky.mode config.tierId).getD .off), db') := by
  have ranged := ranged_of_served seeded served
  have latest := latestConfigIndex_isLatest db'.lucky.configs
  refine ⟨latest, ?_, fun unitPrice priced => ⟨?_, fun caches routes => ?_⟩⟩
  · refine (List.Nodup.of_map _ latest.distinct).pairwise_of_forall_ne fun a inA b inB different => ?_
    rintro unitPrice ⟨coversA, coversB⟩
    obtain ⟨-, tierA⟩ := (covers_iff (ranged.range a (latest.stored a inA)) unitPrice).mp coversA
    obtain ⟨-, tierB⟩ := (covers_iff (ranged.range b (latest.stored b inB)) unitPrice).mp coversB
    exact different (List.inj_on_of_nodup_map latest.distinct inA inB (tierA.trans tierB.symm))
  · obtain ⟨config, member, found, -, unique⟩ := find_covers ranged latest priced
    refine ⟨config, ⟨member, ?_⟩, fun other covered => unique other covered.1 covered.2⟩
    simpa using List.find?_some found
  · obtain ⟨config, found, tier⟩ : ∃ config,
        (caches.latestConfigs.getD (latestConfigIndex db'.lucky.configs)).find?
          (·.covers unitPrice) = some config ∧ config.tierId = tierOfPrice unitPrice := by
      cases cached : caches.latestConfigs with
      | none =>
        obtain ⟨config, -, found, tier, -⟩ := find_covers ranged latest priced
        exact ⟨config, found, tier⟩
      | some byTier =>
        obtain ⟨mid, before, -, rfl⟩ := routes byTier cached
        obtain ⟨config, -, found, tier, -⟩ := find_covers (ranged_of_served seeded before)
          (latestConfigIndex_isLatest mid.lucky.configs) priced
        exact ⟨config, found, tier⟩
    exact ⟨config, found, tier, resolveTierConfig_eval found⟩

def seededLucky : MoneyDb :=
  MoneyDb.empty.setLucky { MoneyDb.empty.lucky with configs := seededConfigs }

/-- The pool of the second tier is enlarged; a process still routes by the index it had before. -/
theorem ranges_partition_enlarged :
    let db' := ((createVersion ⟨.t500, { l0 := some 500000 }, true⟩).call seededLucky).2
    (latestConfigIndex db'.lucky.configs).map (·.version) = [1, 1, 1, 2, 1] ∧
      ∃ config, (latestConfigIndex seededConfigs).find? (·.covers 999) = some config ∧
        config.tierId = .t500 := by
  intro db'
  have enlarged : (latestConfigIndex db'.lucky.configs).map (·.version) = [1, 1, 1, 2, 1] := by
    decide
  refine ⟨enlarged, ?_⟩
  have served : InTurn createVersion AnyVersion seededLucky db' := .step .refl trivial
  clear_value db'
  have seeded : seededLucky.lucky.configs = seededConfigs := rfl
  have routes : RoutesBy seededLucky db'
      { latestConfigs := some (latestConfigIndex seededConfigs), seedExists := fun _ => none } := by
    intro byTier stored
    rw [← Option.some.inj stored, ← seeded]
    exact ⟨seededLucky, .refl, served, rfl⟩
  obtain ⟨config, found, tier, -⟩ :=
    ((ranges_partition seeded served).2.2 999 (by decide)).2 _ routes
  exact ⟨config, found, tier⟩

end OlNode
