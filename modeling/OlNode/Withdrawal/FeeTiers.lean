import OlNode.Schema
import Mathlib.Data.List.Sort
import Mathlib.Data.Rat.Defs
import Mathlib.Algebra.Order.Field.Rat

/-!
# Fee tiers

The bands of `payroll-fee.ts` and the check of the admin update. Bands are stored with their bounds
as numbers, handed out with the bounds as text, and searched for the band of an amount. Accepted
bands leave no gap and the last one is open-ended, but the first need not start at 0: an amount
below it falls through the search and gets the rates of the last.

A number of dollars is the rational it stands for; the rounding of products of floating-point
numbers is left out.
-/
namespace OlNode.Payroll

/-! ### Bands -/

structure PayrollFeeTierRates where
  minPoints : Nat
  maxPoints : Option Nat
  platformFeeRateBp : Int
  agentRewardRateBp : Int
  deriving DecidableEq

structure PayrollFeeTierRow extends PayrollFeeTierRates where
  sortOrder : Nat
  deriving DecidableEq

structure PayrollFeeTierDto where
  minPoints : String
  maxPoints : Option String
  minUsd : Rat
  maxUsd : Option Rat
  platformFeeRateBp : Int
  agentRewardRateBp : Int
  sortOrder : Nat

def POINTS_PER_USD : Nat := 10000

def pointsToUsdNumber (points : Nat) : Rat := points / POINTS_PER_USD

/-- `Math.round` rounds a half up. -/
def usdToPoints (usd : Rat) : Int := (usd * POINTS_PER_USD + 1 / 2).floor

def formatPayrollFeeTierDto (row : PayrollFeeTierRow) : PayrollFeeTierDto :=
  { minPoints := toString row.minPoints
    maxPoints := row.maxPoints.map toString
    minUsd := pointsToUsdNumber row.minPoints
    maxUsd := row.maxPoints.map pointsToUsdNumber
    platformFeeRateBp := row.platformFeeRateBp
    agentRewardRateBp := row.agentRewardRateBp
    sortOrder := row.sortOrder }

/-- The rows that `softReplace` creates. -/
def numbered (tiers : List PayrollFeeTierRates) : List PayrollFeeTierRow :=
  tiers.mapIdx fun i tier => { tier with sortOrder := i + 1 }

def DEFAULT_PAYROLL_FEE_TIERS : List PayrollFeeTierRates :=
  [⟨0, some 200000, 500, 6000⟩, ⟨200000, some 1000000, 300, 6000⟩, ⟨1000000, none, 200, 6000⟩]

def defaultPayrollFeeTierDtos : List PayrollFeeTierDto :=
  (numbered DEFAULT_PAYROLL_FEE_TIERS).map formatPayrollFeeTierDto

/-! ### Parsing -/

/-- What matches `/^\d+$/`. -/
def isDigits (text : String) : Bool := text.toList.isEmpty = false && text.toList.all Char.isDigit

/-- A `SyntaxError`. -/
def cannotConvert (text : String) : LedgerError :=
  .app { status := 500, message := "Cannot convert " ++ text ++ " to a BigInt"
         code := .internalError }

/-- `BigInt` on the digits that are formatted above; on the empty text it is 0. -/
def bigInt (text : String) : Except LedgerError Nat :=
  if text = "" then .ok 0
  else if isDigits text then .ok (Nat.ofDigitChars 10 text.toList 0)
  else .error (cannotConvert text)

def parsePayrollFeeTier (t : PayrollFeeTierDto) : Except LedgerError PayrollFeeTierRates := do
  let minPoints ← bigInt t.minPoints
  let maxPoints ← match t.maxPoints with
    | none => pure none
    | some text => if text = "" then pure none else some <$> bigInt text
  pure ⟨minPoints, maxPoints, t.platformFeeRateBp, t.agentRewardRateBp⟩

/-- The list that results, or the error of the first entry that has one. -/
def parsePayrollFeeTiers (tiers : Option (List PayrollFeeTierDto)) :
    Except LedgerError (List PayrollFeeTierRates) :=
  (tiers.getD []).mapM parsePayrollFeeTier

/-! ### Matching -/

/-- An amount is in the band; the tests of the scan. -/
def PayrollFeeTierRates.contains (tier : PayrollFeeTierRates) (grossPoints : Int) : Bool :=
  !decide (grossPoints < tier.minPoints) &&
    !tier.maxPoints.any fun max => decide (max ≤ grossPoints)

/-- Stable, although the comparator never answers 0. -/
def sortByMin (tiers : List PayrollFeeTierRates) : List PayrollFeeTierRates :=
  tiers.insertionSort fun a b => a.minPoints ≤ b.minPoints

def matchPayrollFeeTier (grossPoints : Int) (tiers : List PayrollFeeTierRates) :
    PayrollFeeTierRates :=
  let sorted := sortByMin tiers
  match sorted.find? (·.contains grossPoints) with
  | some tier => tier
  | none => sorted.getLast?.getD (DEFAULT_PAYROLL_FEE_TIERS.getLast (by decide))

structure PayrollFeeRates where
  platformFeeRateBp : Int
  agentRewardRateBp : Int

def resolveDefaultPlatformFeeRateBp (grossPoints : Int) : Int :=
  (matchPayrollFeeTier grossPoints DEFAULT_PAYROLL_FEE_TIERS).platformFeeRateBp

def resolvePayrollFeeRates (grossPoints : Int) (feeTiers : Option (List PayrollFeeTierDto))
    (fallbackAgentRewardRateBp : Option Int) : Except LedgerError PayrollFeeRates := do
  let parsed ← parsePayrollFeeTiers feeTiers
  if parsed.isEmpty then
    pure ⟨resolveDefaultPlatformFeeRateBp grossPoints, fallbackAgentRewardRateBp.getD 6000⟩
  else
    let tier := matchPayrollFeeTier grossPoints parsed
    pure ⟨tier.platformFeeRateBp, tier.agentRewardRateBp⟩

/-! ### The check of the admin update -/

/-- An entry of `feeTiers` in the request. -/
structure FeeTierInput where
  minUsd : Option Rat := none
  maxUsd : Option Rat := none
  minPoints : Option String := none
  maxPoints : Option String := none
  platformFeeRateBp : Rat
  agentRewardRateBp : Rat

def validationError (message : String) : LedgerError :=
  .app { status := 400, message, code := .validationError }

def invalidFeeConfig (message : String) : LedgerError :=
  .app { status := 422, message, code := .invalidFeeConfig }

def parsePointsBound (points : Option String) (usd : Option Rat) (label : String) :
    Except LedgerError Nat :=
  match points.filter (· ≠ "") with
  | some points =>
    if isDigits points then bigInt points
    else .error (validationError s!"{label} must be a non-negative integer string")
  | none =>
    match usd.filter (0 ≤ ·) with
    | some usd => .ok (usdToPoints usd).toNat
    | none => .error (validationError s!"{label} requires minUsd/maxUsd or minPoints/maxPoints")

def checkRateBp (field : String) (rateBp : Rat) : Except LedgerError Int :=
  if !rateBp.isInt || decide (rateBp < 0) || decide (10000 < rateBp) then
    .error (invalidFeeConfig s!"{field} must be 0–10000")
  else .ok rateBp.num

/-- The exclusive upper bound, if the row gives one. -/
def parseMaxPoints (row : FeeTierInput) (label : String) : Except LedgerError (Option Nat) :=
  let maxOpen := row.maxPoints.isNone && row.maxUsd.isNone
  if maxOpen then .ok none else some <$> parsePointsBound row.maxPoints row.maxUsd label

def normalizeFeeTier (i : Nat) (row : FeeTierInput) : Except LedgerError PayrollFeeTierRates := do
  let platformFeeRateBp ← checkRateBp s!"feeTiers[{i}].platformFeeRateBp" row.platformFeeRateBp
  let agentRewardRateBp ← checkRateBp s!"feeTiers[{i}].agentRewardRateBp" row.agentRewardRateBp
  let minPoints ← parsePointsBound row.minPoints row.minUsd s!"feeTiers[{i}].min"
  let maxPoints ← parseMaxPoints row s!"feeTiers[{i}].max"
  if maxPoints.any (· ≤ minPoints) then
    .error (validationError s!"feeTiers[{i}].max must be greater than min")
  else pure ⟨minPoints, maxPoints, platformFeeRateBp, agentRewardRateBp⟩

def checkContiguous (i : Nat) : List PayrollFeeTierRates → Except LedgerError Unit
  | [] => .ok ()
  | [cur] =>
    if cur.maxPoints.isSome then
      .error (validationError "The last fee tier must be open-ended (max null)")
    else .ok ()
  | cur :: next :: rest =>
    match cur.maxPoints with
    | none =>
      .error (validationError s!"feeTiers[{i}] must have a max so the next band can start")
    | some max =>
      if max ≠ next.minPoints then
        .error (validationError "Fee tiers must be contiguous (each max equals the next min)")
      else checkContiguous (i + 1) (next :: rest)

def normalizeAndValidateFeeTiers (input : List FeeTierInput) :
    Except LedgerError (List PayrollFeeTierRates) := do
  if input.isEmpty then .error (validationError "At least one fee tier is required")
  else
    let tiers ← input.zipIdx.mapM fun (row, i) => normalizeFeeTier i row
    let tiers := sortByMin tiers
    checkContiguous 0 tiers
    pure tiers

/-! ### Text and back -/

theorem toString_digits (n : Nat) : isDigits (toString n) = true := by
  have digits : (toString n).toList = Nat.toDigits 10 n := by
    rw [Nat.toString_eq_repr, Nat.toList_repr]
  rw [isDigits, digits, Bool.and_eq_true]
  constructor
  · simp
  · rw [List.all_eq_true]
    intro c member
    exact Nat.isDigit_of_mem_toDigits (by decide) (by decide) member

theorem toString_ne_empty (n : Nat) : toString n ≠ "" := by
  intro empty
  have digits := toString_digits n
  rw [empty] at digits
  exact absurd digits (by decide)

theorem bigInt_toString (n : Nat) : bigInt (toString n) = .ok n := by
  rw [bigInt, if_neg (toString_ne_empty n), if_pos (toString_digits n), Nat.toString_eq_repr,
    Nat.toList_repr, Nat.ofDigitChars_ten_toDigits]

theorem parsePayrollFeeTier_format (row : PayrollFeeTierRow) :
    parsePayrollFeeTier (formatPayrollFeeTierDto row) = .ok row.toPayrollFeeTierRates := by
  obtain ⟨⟨minPoints, maxPoints, platformFeeRateBp, agentRewardRateBp⟩, sortOrder⟩ := row
  cases maxPoints with
  | none =>
    simp only [parsePayrollFeeTier, formatPayrollFeeTierDto, bigInt_toString, Option.map_none]
    rfl
  | some max =>
    simp only [parsePayrollFeeTier, formatPayrollFeeTierDto, bigInt_toString, Option.map_some,
      if_neg (toString_ne_empty max)]
    rfl

/-- Formatting and parsing is the identity on the bands, whatever rows hold them. -/
theorem parsePayrollFeeTiers_format (rows : List PayrollFeeTierRow) :
    parsePayrollFeeTiers (some (rows.map formatPayrollFeeTierDto)) =
      .ok (rows.map (·.toPayrollFeeTierRates)) := by
  unfold parsePayrollFeeTiers
  rw [Option.getD_some]
  induction rows with
  | nil => rfl
  | cons row rest ih =>
    rw [List.map_cons, List.mapM_cons, parsePayrollFeeTier_format, ih]
    rfl

theorem numbered_rates (tiers : List PayrollFeeTierRates) :
    (numbered tiers).map (·.toPayrollFeeTierRates) = tiers := by
  apply List.ext_getElem
  · simp [numbered]
  · intro i _ _
    simp [numbered]

/-! ### Contiguous bands -/

/-- Bands from this bound on that leave no gap, the last one open-ended. -/
inductive Bands : Nat → List PayrollFeeTierRates → Prop
  | last (tier : PayrollFeeTierRates) (endless : tier.maxPoints = none) :
      Bands tier.minPoints [tier]
  | band (tier : PayrollFeeTierRates) {max : Nat} {rest : List PayrollFeeTierRates}
      (ends : tier.maxPoints = some max) (wide : tier.minPoints < max) (next : Bands max rest) :
      Bands tier.minPoints (tier :: rest)

theorem contains_iff {tier : PayrollFeeTierRates} {grossPoints : Int} :
    tier.contains grossPoints = true ↔
      tier.minPoints ≤ grossPoints ∧ ∀ max, tier.maxPoints = some max → grossPoints < max := by
  unfold PayrollFeeTierRates.contains
  cases tier.maxPoints <;> simp

section Bands

variable {start : Nat} {tiers : List PayrollFeeTierRates}

theorem Bands.head (bands : Bands start tiers) :
    ∃ first rest, tiers = first :: rest ∧ first.minPoints = start := by
  cases bands with
  | last tier _ => exact ⟨tier, [], rfl, rfl⟩
  | band tier _ _ _ => exact ⟨tier, _, rfl, rfl⟩

theorem Bands.from_start (bands : Bands start tiers) : ∀ t ∈ tiers, start ≤ t.minPoints := by
  induction bands with
  | last tier _ => simp
  | band tier ends wide next ih =>
    intro t member
    rcases List.mem_cons.mp member with rfl | later
    · exact Nat.le_refl _
    · have := ih t later
      omega

theorem Bands.increasing (bands : Bands start tiers) :
    tiers.Pairwise fun a b => a.minPoints < b.minPoints := by
  induction bands with
  | last tier _ => exact List.pairwise_singleton _ _
  | band tier ends wide next ih =>
    rw [List.pairwise_cons]
    constructor
    · intro b later
      exact Nat.lt_of_lt_of_le wide (next.from_start b later)
    · exact ih

variable {grossPoints : Int}

/-- From the first bound on every amount is in some band. -/
theorem Bands.covers (bands : Bands start tiers) (within : start ≤ grossPoints) :
    ∃ t ∈ tiers, t.contains grossPoints = true := by
  induction bands with
  | last tier endless =>
    refine ⟨tier, List.mem_singleton_self tier, contains_iff.mpr ⟨within, ?_⟩⟩
    simp [endless]
  | @band tier max rest ends wide next ih =>
    by_cases more : (max : Int) ≤ grossPoints
    · obtain ⟨t, later, contains⟩ := ih more
      exact ⟨t, List.mem_cons_of_mem tier later, contains⟩
    · refine ⟨tier, List.mem_cons_self, contains_iff.mpr ⟨within, ?_⟩⟩
      intro other is
      rw [ends] at is
      cases is
      exact Int.not_le.mp more

/-- No two bands have an amount in common: a band ends before those after it begin. -/
theorem Bands.unique (bands : Bands start tiers) {s t : PayrollFeeTierRates} (s_mem : s ∈ tiers)
    (t_mem : t ∈ tiers) (in_s : s.contains grossPoints = true)
    (in_t : t.contains grossPoints = true) : s = t := by
  induction bands with
  | last tier _ => rw [List.mem_singleton.mp s_mem, List.mem_singleton.mp t_mem]
  | @band tier max rest ends wide next ih =>
    have apart : ∀ u ∈ rest, u.contains grossPoints = true →
        tier.contains grossPoints = true → False := by
      intro u later in_u in_tier
      have bound := next.from_start u later
      have below := (contains_iff.mp in_tier).2 max ends
      have above := (contains_iff.mp in_u).1
      omega
    rcases List.mem_cons.mp s_mem with rfl | s_later
    · rcases List.mem_cons.mp t_mem with rfl | t_later
      · rfl
      · exact (apart t t_later in_t in_s).elim
    · rcases List.mem_cons.mp t_mem with rfl | t_later
      · exact (apart s s_later in_s in_t).elim
      · exact ih s_later t_later

instance : Std.Total fun a b : PayrollFeeTierRates => a.minPoints ≤ b.minPoints where
  total a b := Nat.le_total a.minPoints b.minPoints

instance : IsTrans PayrollFeeTierRates fun a b => a.minPoints ≤ b.minPoints where
  trans _ _ _ := Nat.le_trans

/-- Bands are sorted, so whatever the order they are stored in, the scan goes through them as
accepted. -/
theorem Bands.sortByMin_eq (bands : Bands start tiers) {stored : List PayrollFeeTierRates}
    (perm : stored.Perm tiers) : sortByMin stored = tiers := by
  have sorted := List.pairwise_insertionSort (fun a b => a.minPoints ≤ b.minPoints) stored
  have same := (List.perm_insertionSort (fun a b => a.minPoints ≤ b.minPoints) stored).trans perm
  have distinct : (tiers.map (·.minPoints)).Nodup :=
    List.pairwise_map.mpr (bands.increasing.imp fun less => Nat.ne_of_lt less)
  have ascending := bands.increasing.imp fun less => Nat.le_of_lt less
  refine List.Perm.eq_of_pairwise ?_ sorted ascending same
  intro a b a_mem b_mem ab ba
  exact List.inj_on_of_nodup_map distinct (same.subset a_mem) b_mem (Nat.le_antisymm ab ba)

theorem Bands.match_eq_iff (bands : Bands start tiers) {stored : List PayrollFeeTierRates}
    (perm : stored.Perm tiers) (within : start ≤ grossPoints) (t : PayrollFeeTierRates) :
    matchPayrollFeeTier grossPoints stored = t ↔ t ∈ tiers ∧ t.contains grossPoints = true := by
  unfold matchPayrollFeeTier
  rw [bands.sortByMin_eq perm]
  dsimp only
  cases found : tiers.find? (·.contains grossPoints) with
  | none =>
    obtain ⟨u, member, contains⟩ := bands.covers within
    exact absurd contains (List.find?_eq_none.mp found u member)
  | some u =>
    have member := List.mem_of_find?_eq_some found
    have contains : u.contains grossPoints = true := by simpa using List.find?_some found
    constructor
    · rintro rfl
      exact ⟨member, contains⟩
    · rintro ⟨t_mem, in_t⟩
      exact bands.unique member t_mem contains in_t

/-- Below the first bound no band contains the amount. -/
theorem Bands.none_below (bands : Bands start tiers) (less : grossPoints < start) :
    ∀ t ∈ tiers, t.contains grossPoints = false := by
  intro t member
  have := bands.from_start t member
  rw [Bool.eq_false_iff, Ne, contains_iff]
  rintro ⟨above, -⟩
  omega

end Bands

/-! ### What the admin update accepts -/

theorem bind_ok {α β : Type} {x : Except LedgerError α} {f : α → Except LedgerError β} {b : β} :
    (x >>= f) = .ok b ↔ ∃ a, x = .ok a ∧ f a = .ok b := by
  cases x with
  | error e => simp [bind, Except.bind]
  | ok a => simp [bind, Except.bind]

theorem mem_of_mapM_ok {α β : Type} {f : α → Except LedgerError β} {xs : List α} {ys : List β}
    (mapped : xs.mapM f = .ok ys) : ∀ y ∈ ys, ∃ x ∈ xs, f x = .ok y := by
  induction xs generalizing ys with
  | nil =>
    cases mapped
    simp
  | cons x rest ih =>
    rw [List.mapM_cons, bind_ok] at mapped
    obtain ⟨y, first, mapped⟩ := mapped
    obtain ⟨zs, others, same⟩ := bind_ok.mp mapped
    cases same
    intro z member
    rcases List.mem_cons.mp member with rfl | later
    · exact ⟨x, List.mem_cons_self, first⟩
    · obtain ⟨x', x_mem, is⟩ := ih others z later
      exact ⟨x', List.mem_cons_of_mem x x_mem, is⟩

def IsRate (rateBp : Int) : Prop := 0 ≤ rateBp ∧ rateBp ≤ 10000

structure WellFormed (tier : PayrollFeeTierRates) : Prop where
  platform : IsRate tier.platformFeeRateBp
  agent : IsRate tier.agentRewardRateBp
  wide : ∀ max, tier.maxPoints = some max → tier.minPoints < max

theorem checkRateBp_ok {field : String} {rateBp : Rat} {value : Int}
    (checked : checkRateBp field rateBp = .ok value) : IsRate value := by
  unfold checkRateBp at checked
  split at checked
  · cases checked
  next within =>
    cases checked
    simp only [Bool.or_eq_true, Bool.not_eq_true', decide_eq_true_eq, not_or, not_lt,
      Bool.not_eq_false] at within
    obtain ⟨⟨whole, nonneg⟩, bounded⟩ := within
    rw [Rat.eq_num_of_isInt whole] at nonneg bounded
    constructor
    · exact_mod_cast nonneg
    · exact_mod_cast bounded

theorem normalizeFeeTier_ok {i : Nat} {row : FeeTierInput} {tier : PayrollFeeTierRates}
    (normalized : normalizeFeeTier i row = .ok tier) : WellFormed tier := by
  unfold normalizeFeeTier at normalized
  simp only [bind_ok] at normalized
  obtain ⟨platform, platformOk, agent, agentOk, minPoints, _, maxPoints, _, wide⟩ := normalized
  split at wide
  · cases wide
  next wide' =>
    cases wide
    constructor
    · exact checkRateBp_ok platformOk
    · exact checkRateBp_ok agentOk
    · rintro max rfl
      simpa using wide'

/-- The last loop accepts what is contiguous. -/
theorem checkContiguous_ok {i : Nat} {tiers : List PayrollFeeTierRates}
    (checked : checkContiguous i tiers = .ok ()) (nonempty : tiers ≠ [])
    (wellFormed : ∀ t ∈ tiers, WellFormed t) : ∃ start, Bands start tiers := by
  induction tiers generalizing i with
  | nil => exact absurd rfl nonempty
  | cons cur others ih =>
    cases others with
    | nil =>
      unfold checkContiguous at checked
      split at checked
      · cases checked
      next endless => exact ⟨_, .last cur (by simpa using endless)⟩
    | cons next rest =>
      unfold checkContiguous at checked
      split at checked
      · cases checked
      next max ends =>
        split at checked
        · cases checked
        next meets =>
          have meets : max = next.minPoints := by simpa using meets
          obtain ⟨start, bands⟩ := ih checked (List.cons_ne_nil next rest)
            fun t later => wellFormed t (List.mem_cons_of_mem cur later)
          -- The bands after this one start where it ends.
          obtain ⟨first, _, same, starts⟩ := bands.head
          cases same
          have wide := (wellFormed cur List.mem_cons_self).wide max ends
          rw [← starts, ← meets] at bands
          exact ⟨_, .band cur ends wide bands⟩

theorem normalizeAndValidateFeeTiers_ok {input : List FeeTierInput}
    {tiers : List PayrollFeeTierRates} (accepted : normalizeAndValidateFeeTiers input = .ok tiers) :
    (∀ t ∈ tiers, WellFormed t) ∧ ∃ start, Bands start tiers := by
  unfold normalizeAndValidateFeeTiers at accepted
  split at accepted
  · cases accepted
  next nonempty =>
    obtain ⟨rows, normalized, accepted⟩ := bind_ok.mp accepted
    obtain ⟨_, checked, same⟩ := bind_ok.mp accepted
    cases same
    have mem : ∀ {t}, t ∈ sortByMin rows ↔ t ∈ rows := List.mem_insertionSort _
    have wellFormed : ∀ t ∈ sortByMin rows, WellFormed t := by
      intro t member
      obtain ⟨x, _, ok⟩ := mem_of_mapM_ok normalized t (mem.mp member)
      exact normalizeFeeTier_ok ok
    constructor
    · exact wellFormed
    · refine checkContiguous_ok checked ?_ wellFormed
      -- The first row of the request is still there after the sort.
      cases input with
      | nil => exact absurd rfl nonempty
      | cons row rest =>
        rw [List.zipIdx_cons, List.mapM_cons] at normalized
        obtain ⟨tier, _, normalized⟩ := bind_ok.mp normalized
        obtain ⟨others, _, same⟩ := bind_ok.mp normalized
        cases same
        exact List.ne_nil_of_mem (mem.mpr List.mem_cons_self)

/-! ### The lookup -/

/-- What the table promises for an amount: the bands come back from their text as they were, the
search finds the band that contains the amount and no other, and its rates are the ones resolved,
in whatever order the bands are stored. -/
structure LooksUp (tiers : List PayrollFeeTierRates) (grossPoints : Int) : Prop where
  parsed : ∀ rows : List PayrollFeeTierRow, rows.map (·.toPayrollFeeTierRates) = tiers →
    parsePayrollFeeTiers (some (rows.map formatPayrollFeeTierDto)) = .ok tiers
  found : ∀ stored : List PayrollFeeTierRates, stored.Perm tiers → ∀ t,
    matchPayrollFeeTier grossPoints stored = t ↔ t ∈ tiers ∧ t.contains grossPoints = true
  rates : ∀ rows : List PayrollFeeTierRow, (rows.map (·.toPayrollFeeTierRates)).Perm tiers →
    ∀ fallback, ∃ t ∈ tiers, t.contains grossPoints = true ∧
      resolvePayrollFeeRates grossPoints (some (rows.map formatPayrollFeeTierDto)) fallback =
        .ok ⟨t.platformFeeRateBp, t.agentRewardRateBp⟩

theorem resolvePayrollFeeRates_format {rows : List PayrollFeeTierRow} (nonempty : rows ≠ [])
    (grossPoints : Int) (fallback : Option Int) :
    let tier := matchPayrollFeeTier grossPoints (rows.map (·.toPayrollFeeTierRates))
    resolvePayrollFeeRates grossPoints (some (rows.map formatPayrollFeeTierDto)) fallback =
      .ok ⟨tier.platformFeeRateBp, tier.agentRewardRateBp⟩ := by
  unfold resolvePayrollFeeRates
  rw [parsePayrollFeeTiers_format]
  have some_row : (rows.map (·.toPayrollFeeTierRates)).isEmpty = false := by simpa using nonempty
  simp only [bind, Except.bind, some_row]
  rfl

/-- The table keeps its promise just for the amounts that are not below its first band. -/
theorem lookup_iff {input : List FeeTierInput} {tiers : List PayrollFeeTierRates}
    (accepted : normalizeAndValidateFeeTiers input = .ok tiers) (grossPoints : Int) :
    LooksUp tiers grossPoints ↔
      ∀ first, tiers.head? = some first → first.minPoints ≤ grossPoints := by
  obtain ⟨-, start, bands⟩ := normalizeAndValidateFeeTiers_ok accepted
  obtain ⟨first, rest, same, starts⟩ := bands.head
  have condition : (∀ first, tiers.head? = some first → first.minPoints ≤ grossPoints) ↔
      start ≤ grossPoints := by
    rw [same, ← starts]
    simp
  rw [condition]
  constructor
  · intro promised
    -- Whatever band the search finds, it must contain the amount.
    have found := (promised.found tiers (List.Perm.refl tiers) _).mp rfl
    by_contra below
    have none := bands.none_below (Int.not_le.mp below) _ found.1
    rw [none] at found
    exact absurd found.2 (by decide)
  · intro within
    have found : ∀ stored : List PayrollFeeTierRates, stored.Perm tiers → ∀ t,
        matchPayrollFeeTier grossPoints stored = t ↔ t ∈ tiers ∧ t.contains grossPoints = true :=
      fun stored perm t => bands.match_eq_iff perm within t
    constructor
    · rintro rows rfl
      exact parsePayrollFeeTiers_format rows
    · exact found
    · intro rows perm fallback
      have nonempty : rows ≠ [] := by
        rintro rfl
        rw [same] at perm
        cases perm.length_eq
      obtain ⟨member, contains⟩ := (found _ perm _).mp rfl
      exact ⟨_, member, contains, resolvePayrollFeeRates_format nonempty grossPoints fallback⟩

/-- Bands from 20 dollars on, one of 300 and one of 200 basis points. -/
def raisedBands : List FeeTierInput :=
  [{ minUsd := some 20, maxUsd := some 100, platformFeeRateBp := 300, agentRewardRateBp := 6000 },
   { minUsd := some 100, platformFeeRateBp := 200, agentRewardRateBp := 6000 }]

theorem raisedBands_accepted : normalizeAndValidateFeeTiers raisedBands =
    .ok [⟨200000, some 1000000, 300, 6000⟩, ⟨1000000, none, 200, 6000⟩] := by
  decide +kernel

theorem lookup_fifty_dollars :
    LooksUp [⟨200000, some 1000000, 300, 6000⟩, ⟨1000000, none, 200, 6000⟩] 500000 := by
  rw [lookup_iff raisedBands_accepted 500000]
  rintro first ⟨⟩
  decide

/-- Ten dollars are charged the rates of the largest amounts. -/
theorem not_lookup : ¬ ∀ (input : List FeeTierInput) (tiers : List PayrollFeeTierRates),
    normalizeAndValidateFeeTiers input = .ok tiers → ∀ grossPoints : Int, 0 < grossPoints →
      LooksUp tiers grossPoints := by
  intro claim
  have promised := claim raisedBands _ raisedBands_accepted 100000 (by decide)
  have found := (promised.found _ (List.Perm.refl _) ⟨1000000, none, 200, 6000⟩).mp (by decide)
  exact absurd found.2 (by decide)

end OlNode.Payroll
