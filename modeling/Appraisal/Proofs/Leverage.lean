/-
The score of a negotiation, and the arguments that stand behind it.

The score adds up four factors. Three of them can be said as an argument for a lower price: the age of the
stock, the damage that will be seen, and a discount below the usual. The arguments are put together apart from
the score, from conditions of their own. They agree all the same: an argument is given exactly if its factor
adds something to the score, and none is given besides but the one about excluded labor, which adds nothing.

An argument is recognised by its opening words, which say what it rests on (`Ground`).

The odds follow the score, except at a retailer who does not negotiate. Whatever makes a factor larger makes
neither the score nor the odds lower.
-/
import Appraisal.Proofs.Slots
import Appraisal.Proofs.Worsening

set_option autoImplicit false

namespace Appraisal

/-! ## Grounds -/

/-- What an argument for a lower price rests on, in the order in which arguments are given. -/
inductive Ground where
  | age | damage | discount | labor
  deriving DecidableEq

namespace Ground

/-- All grounds in the order in which arguments are given. -/
def all : List Ground :=
  [.age, .damage, .discount, .labor]

/-- The words that begin an argument on this ground. -/
def opening : Ground → String
  | .age => "Unit has been in inventory for "
  | .damage => "Damage "
  | .discount => "Current discount of "
  | .labor => "Warranty excludes labor"

/-- The ground that an argument rests on, by the words that it begins with. -/
def ofPoint? (point : String) : Option Ground :=
  all.find? fun ground => ground.opening.toList.isPrefixOf point.toList

/-- No two grounds begin with the same letter, so the first one that fits is the only one. -/
theorem ofPoint?_opening (ground : Ground) (rest : String) :
    ofPoint? (ground.opening ++ rest) = some ground := by
  cases ground <;> simp [ofPoint?, all, opening, String.toList_append]

end Ground

namespace Bargaining

variable (deal : Deal) (tier : DamageTier) (price : Price)

/-- What a ground adds to the score; excluded labor adds nothing. -/
def factor : Ground → UInt32
  | .age => ageFactor deal.retailer.inventoryAgeDays
  | .damage => tierFactor tier
  | .discount => discountFactor price.meetsExpectation
  | .labor => 0

/-- Is there something to say on a ground? -/
def hasGround : Ground → Bool
  | .labor => !deal.warranty.laborIncluded
  | ground => factor deal tier price ground ≠ 0

/-- The arguments on one ground. -/
def points : Ground → List String
  | .age => agePoint deal.retailer.inventoryAgeDays
  | .damage => damagePoint tier deal.damage.marks.toList
  | .discount => discountPoint price
  | .labor => laborPoint deal.warranty.laborIncluded

theorem leverageOf_eq_flatMap : leverageOf deal tier price = Ground.all.flatMap (points deal tier price) := by
  simp [leverageOf, Ground.all, points]

/-! ## The arguments -/

/-- Stock is worth an argument from the age on from which it counts, although it counts more when it is
older still. -/
theorem map_ofPoint?_agePoint (age : Option UInt32) :
    (agePoint age).map Ground.ofPoint? = if ageFactor age ≠ 0 then [some .age] else [] := by
  cases age with
  | none => rfl
  | some days =>
      have hstale : days > Threshold.inventoryStaleDays → days > Threshold.inventoryAgedDays :=
        UInt32.lt_trans (by decide)
      have hopening := Ground.ofPoint?_opening .age
        (toString days.toNat ++ " days; the retailer wants it off the floor")
      rw [agePoint, ageFactor]
      split_ifs with haged hstale' hstale' hzero <;> simp_all [Ground.opening, String.append_assoc]

theorem map_ofPoint?_damagePoint (marks : List Mark) :
    (damagePoint tier marks).map Ground.ofPoint? = if tierFactor tier ≠ 0 then [some .damage] else [] := by
  -- with marks and without them the sentence begins with the same word
  have hplain : ∀ rest : String, Ground.ofPoint? ("Damage is " ++ rest) = some .damage := by
    intro rest
    rw [show "Damage is " = Ground.damage.opening ++ "is " by decide, String.append_assoc]
    exact Ground.ofPoint?_opening .damage _
  have hmarked : ∀ rest : String, Ground.ofPoint? ("Damage (" ++ rest) = some .damage := by
    intro rest
    rw [show "Damage (" = Ground.damage.opening ++ "(" by decide, String.append_assoc]
    exact Ground.ofPoint?_opening .damage _
  have hvisible : tierFactor tier ≠ 0 ↔ tier ≠ .hidden := by cases tier <;> decide
  rw [damagePoint, if_congr hvisible rfl rfl]
  split_ifs <;> simp_all [String.append_assoc]

theorem map_ofPoint?_discountPoint :
    (discountPoint price).map Ground.ofPoint?
      = if discountFactor price.meetsExpectation ≠ 0 then [some .discount] else [] := by
  have hopening := fun rest => Ground.ofPoint?_opening .discount rest
  cases hmeets : price.meetsExpectation <;>
    simp_all [discountPoint, discountFactor, Ground.opening, String.append_assoc]

theorem map_ofPoint?_laborPoint (laborIncluded : Bool) :
    (laborPoint laborIncluded).map Ground.ofPoint? = if !laborIncluded then [some .labor] else [] := by
  have hopening := Ground.ofPoint?_opening .labor ", shifting repair risk to you"
  cases laborIncluded with
  | true => rfl
  | false =>
      rw [Ground.opening, show "Warranty excludes labor" ++ ", shifting repair risk to you"
        = "Warranty excludes labor, shifting repair risk to you" by decide] at hopening
      simp [laborPoint, hopening]

/-- On every ground there is one argument or none, depending on whether there is something to say. -/
theorem map_ofPoint?_points (ground : Ground) :
    (points deal tier price ground).map Ground.ofPoint?
      = if hasGround deal tier price ground then [some ground] else [] := by
  cases ground with
  | age => exact (map_ofPoint?_agePoint _).trans (if_congr decide_eq_true_iff.symm rfl rfl)
  | damage => exact (map_ofPoint?_damagePoint _ _).trans (if_congr decide_eq_true_iff.symm rfl rfl)
  | discount => exact (map_ofPoint?_discountPoint _).trans (if_congr decide_eq_true_iff.symm rfl rfl)
  | labor => exact map_ofPoint?_laborPoint _

/-- **The arguments are those on the grounds on which there is something to say**, in order, and no others. -/
theorem map_ofPoint?_leverageOf :
    (leverageOf deal tier price).map Ground.ofPoint?
      = (Ground.all.filter (hasGround deal tier price)).map some := by
  rw [leverageOf_eq_flatMap, List.map_flatMap]
  simp only [map_ofPoint?_points]
  generalize Ground.all = grounds
  induction grounds with
  | nil => rfl
  | cons ground rest ih =>
      rw [List.flatMap_cons, ih, List.filter_cons]
      split_ifs <;> rfl

/-- An argument on a ground is listed exactly if there is something to say on it. -/
theorem exists_point_iff (ground : Ground) :
    (∃ point ∈ leverageOf deal tier price, Ground.ofPoint? point = some ground)
      ↔ hasGround deal tier price ground = true := by
  have hall : ground ∈ Ground.all := by cases ground <;> decide
  have hmem := List.mem_map (f := Ground.ofPoint?) (l := leverageOf deal tier price) (b := some ground)
  rw [← hmem, map_ofPoint?_leverageOf, List.mem_map]
  simp [hall]

/-! ## The score -/

theorem toNat_retailerFactor_le (kind : RetailerKind) : (retailerFactor kind).toNat ≤ 2 := by
  cases kind <;> decide

theorem toNat_ageFactor_le (age : Option UInt32) : (ageFactor age).toNat ≤ 2 := by
  unfold ageFactor
  split
  · decide
  · split_ifs <;> decide

theorem toNat_tierFactor_le (tier : DamageTier) : (tierFactor tier).toNat ≤ 2 := by
  cases tier <;> decide

theorem toNat_discountFactor_le (meets : Bool) : (discountFactor meets).toNat ≤ 2 := by
  cases meets <;> decide

/-- The four factors are at most two each. -/
theorem toNat_factors_le :
    (retailerFactor deal.retailer.kind).toNat + (ageFactor deal.retailer.inventoryAgeDays).toNat
      + (tierFactor tier).toNat + (discountFactor price.meetsExpectation).toNat ≤ 8 := by
  have hretailer := toNat_retailerFactor_le deal.retailer.kind
  have hage := toNat_ageFactor_le deal.retailer.inventoryAgeDays
  have htier := toNat_tierFactor_le tier
  have hdiscount := toNat_discountFactor_le price.meetsExpectation
  omega

/-- **The score is the sum of its factors**, which is too small to wrap around. -/
theorem toNat_scoreOf :
    (scoreOf deal tier price).toNat
      = (retailerFactor deal.retailer.kind).toNat + (ageFactor deal.retailer.inventoryAgeDays).toNat
        + (tierFactor tier).toNat + (discountFactor price.meetsExpectation).toNat := by
  have hfactors := toNat_factors_le deal tier price
  rw [scoreOf, UInt32.toNat_add, UInt32.toNat_add, UInt32.toNat_add]
  omega

end Bargaining

/-! ## The odds -/

/-- Only a score of nothing makes a lower price unlikely. -/
theorem Odds.ofScore_eq_unlikely_iff (score : UInt32) : ofScore score = .unlikely ↔ score = 0 := by
  unfold ofScore
  split_ifs with hhigh hmedium hlow
  · exact iff_of_false (by decide) (by rintro rfl; exact absurd hhigh (by decide))
  · exact iff_of_false (by decide) (by rintro rfl; exact absurd hmedium (by decide))
  · exact iff_of_false (by decide) (by rintro rfl; exact absurd hlow (by decide))
  · have hzero : score.toNat < 1 := by
      rw [ge_iff_le, UInt32.le_iff_toNat_le] at hlow
      exact not_le.mp hlow
    exact iff_of_true rfl (UInt32.toNat_inj.mp (Nat.lt_one_iff.mp hzero))

/-- A higher score never makes for lower odds. -/
theorem Odds.favour_ofScore_le {less more : UInt32} (h : less ≤ more) :
    (ofScore less).favour ≤ (ofScore more).favour := by
  have hreach : ∀ limit : UInt32, limit ≤ less → limit ≤ more := fun _ hlimit => UInt32.le_trans hlimit h
  unfold ofScore
  split_ifs <;> grind [Odds.favour]

namespace Bargaining

/-- The odds at any retailer are those of the score, or the lowest. -/
theorem oddsAt_eq_unlikely_iff (kind : RetailerKind) (score : UInt32) :
    oddsAt kind score = .unlikely ↔ kind = .bigBox ∨ score = 0 := by
  rw [oddsAt]
  cases kind with
  | bigBox => exact iff_of_true rfl (Or.inl rfl)
  | independent => exact (Odds.ofScore_eq_unlikely_iff score).trans (by simp)
  | liquidation => exact (Odds.ofScore_eq_unlikely_iff score).trans (by simp)
  | outlet => exact (Odds.ofScore_eq_unlikely_iff score).trans (by simp)

theorem favour_oddsAt_le (kind : RetailerKind) {less more : UInt32} (h : less ≤ more) :
    (oddsAt kind less).favour ≤ (oddsAt kind more).favour := by
  rw [oddsAt, oddsAt]
  split_ifs
  · exact Odds.favour_ofScore_le h
  · exact le_rfl

/-! ## More reason to lower the price -/

theorem ageFactor_le {less more : Option UInt32}
    (h : ∀ days, less = some days → ∃ days', more = some days' ∧ days ≤ days') :
    (ageFactor less).toNat ≤ (ageFactor more).toNat := by
  cases less with
  | none => exact Nat.zero_le _
  | some days =>
      obtain ⟨days', rfl, hdays⟩ := h days rfl
      have hreach : ∀ limit : UInt32, days > limit → days' > limit := fun _ hlimit =>
        UInt32.lt_of_lt_of_le hlimit hdays
      rw [ageFactor, ageFactor]
      split_ifs <;> first | decide | exact absurd (hreach _ ‹_›) ‹_›

theorem tierFactor_le {less more : DamageTier} (h : less.number ≤ more.number) :
    (tierFactor less).toNat ≤ (tierFactor more).toNat := by
  cases less <;> cases more <;> first | decide | exact absurd h (by decide)

theorem discountFactor_le {less more : Bool} (h : more = true → less = true) :
    (discountFactor less).toNat ≤ (discountFactor more).toNat := by
  cases less <;> cases more <;> first | decide | exact absurd (h rfl) (by decide)

end Bargaining

/-- The second deal gives at least as much reason to lower the price, at a retailer of the same kind: the stock
is older, or its age is known at last, the damage shows more, and the discount is lower, the same, or below what
is usual. -/
structure Deal.Presses (less more : Deal) : Prop where
  retailer : less.retailer.kind = more.retailer.kind
  age : ∀ days, less.retailer.inventoryAgeDays = some days →
    ∃ days', more.retailer.inventoryAgeDays = some days' ∧ days ≤ days'
  tier : less.visibility.result.tier.number ≤ more.visibility.result.tier.number
  discount : more.price.result.discountPercent ≤ less.price.result.discountPercent
    ∨ more.price.result.discountPercent = less.price.result.discountPercent
    ∨ more.price.result.meetsExpectation = false

namespace Deal.Presses

variable {less more : Deal}

/-- If the discount is enough for the second deal, it is enough for the first, where no more is usual. -/
theorem meetsExpectation (h : Presses less more) (hmore : more.price.result.meetsExpectation = true) :
    less.price.result.meetsExpectation = true := by
  have husual := DamageTier.expectedDiscount_le h.tier
  have hreached : more.visibility.result.tier.expectedDiscount.1 ≤ more.price.result.discountPercent :=
    of_decide_eq_true hmore
  refine decide_eq_true (Binary64.float_le_trans husual ?_)
  rcases h.discount with hlower | hsame | hbelow
  · exact Binary64.float_le_trans hreached hlower
  · rw [hsame] at hreached
    exact hreached
  · rw [hmore] at hbelow
    cases hbelow

/-- **More reason to lower the price never makes for a lower score.** -/
theorem score_le (h : Presses less more) :
    less.bargaining.result.score ≤ more.bargaining.result.score := by
  have hage := Bargaining.ageFactor_le h.age
  have htier := Bargaining.tierFactor_le h.tier
  have hdiscount := Bargaining.discountFactor_le h.meetsExpectation
  rw [UInt32.le_iff_toNat_le]
  change (Bargaining.scoreOf less _ _).toNat ≤ (Bargaining.scoreOf more _ _).toNat
  rw [Bargaining.toNat_scoreOf, Bargaining.toNat_scoreOf, h.retailer]
  omega

/-- Nor for lower odds. -/
theorem favour_odds_le (h : Presses less more) :
    less.bargaining.result.odds.favour ≤ more.bargaining.result.odds.favour := by
  change (Bargaining.oddsAt less.retailer.kind _).favour ≤ (Bargaining.oddsAt more.retailer.kind _).favour
  rw [h.retailer]
  exact Bargaining.favour_oddsAt_le _ h.score_le

end Deal.Presses

/-! ## The negotiation of a deal -/

namespace Deal

/-- **The score of a negotiation is explained by its arguments.** Whatever the deal, the score is the sum of
the four factors and at most eight. A ground is among those that the arguments rest on exactly if its factor
adds something; the arguments come in the order of the grounds, with one about excluded labor behind them, and
there are no others. A lower price is unlikely exactly at a big-box store and for a score of nothing. More
reason to lower the price, at a retailer of the same kind, makes neither the score nor the odds lower. -/
theorem score_explained_by_leverage (deal : Deal) :
    let tier := deal.visibility.result.tier
    let price := deal.price.result
    let found := deal.bargaining.result
    let listed := fun ground => ∃ point ∈ found.leverage, Ground.ofPoint? point = some ground
    found.score.toNat
        = (Bargaining.retailerFactor deal.retailer.kind).toNat
          + (Bargaining.ageFactor deal.retailer.inventoryAgeDays).toNat
          + (Bargaining.tierFactor tier).toNat
          + (Bargaining.discountFactor price.meetsExpectation).toNat
      ∧ found.score ≤ 8
      ∧ (Bargaining.ageFactor deal.retailer.inventoryAgeDays ≠ 0 ↔ listed .age)
      ∧ (Bargaining.tierFactor tier ≠ 0 ↔ listed .damage)
      ∧ (Bargaining.discountFactor price.meetsExpectation ≠ 0 ↔ listed .discount)
      ∧ (deal.warranty.laborIncluded = false ↔ listed .labor)
      ∧ found.leverage.map Ground.ofPoint?
        = (Ground.all.filter (Bargaining.hasGround deal tier price)).map some
      ∧ (found.odds = .unlikely ↔ deal.retailer.kind = .bigBox ∨ found.score = 0)
      ∧ ∀ other, Presses deal other →
          found.score ≤ other.bargaining.result.score
            ∧ found.odds.favour ≤ other.bargaining.result.odds.favour := by
  intro tier price found listed
  have hscore := Bargaining.toNat_scoreOf deal tier price
  have height : found.score ≤ 8 := by
    rw [UInt32.le_iff_toNat_le]
    change (Bargaining.scoreOf deal tier price).toNat ≤ 8
    rw [hscore]
    exact Bargaining.toNat_factors_le deal tier price
  have hlisted : ∀ ground, listed ground ↔ Bargaining.hasGround deal tier price ground = true :=
    Bargaining.exists_point_iff deal tier price
  refine ⟨hscore, height, ?_, ?_, ?_, ?_, Bargaining.map_ofPoint?_leverageOf deal tier price,
    Bargaining.oddsAt_eq_unlikely_iff _ _, fun other h => ⟨h.score_le, h.favour_odds_le⟩⟩
  · exact ((hlisted .age).trans decide_eq_true_iff).symm
  · exact ((hlisted .damage).trans decide_eq_true_iff).symm
  · exact ((hlisted .discount).trans decide_eq_true_iff).symm
  · exact ((hlisted .labor).trans (iff_of_eq (Bool.not_eq_true' _))).symm

/-- The refrigerator on worse terms has dents in sight and too small a discount for them. There are arguments on
all four grounds now, and the score went up from three to seven. -/
theorem rattlingRefrigerator_presses :
    let less := Sample.dentedRefrigerator.deal
    let more := Sample.rattlingRefrigerator
    Presses less more
      ∧ less.bargaining.result.score ≤ more.bargaining.result.score
      ∧ less.bargaining.result.odds.favour ≤ more.bargaining.result.odds.favour
      ∧ less.bargaining.result.score = 3 ∧ more.bargaining.result.score = 7
      ∧ more.bargaining.result.leverage.map Ground.ofPoint?
        = [some .age, some .damage, some .discount, some .labor] := by
  intro less more
  have hpresses : Presses less more :=
    { retailer := rfl
      age := by
        rintro _ ⟨⟩
        exact ⟨_, rfl, by decide⟩
      tier := by decide
      discount := Or.inl (by decide +kernel) }
  have hgrounds : Ground.all.filter (Bargaining.hasGround more more.visibility.result.tier more.price.result)
      = Ground.all := by decide +kernel
  obtain ⟨_, _, _, _, _, _, _, _, hmonotone⟩ := score_explained_by_leverage less
  obtain ⟨_, _, _, _, _, _, hleverage, _⟩ := score_explained_by_leverage more
  obtain ⟨hscore, hodds⟩ := hmonotone more hpresses
  rw [hgrounds] at hleverage
  exact ⟨hpresses, hscore, hodds, by decide +kernel, by decide +kernel, hleverage⟩

end Deal

end Appraisal
