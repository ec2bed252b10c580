/-
The kinds of thing that a deal speaks of, and what a spot on the cabinet means for its looks.

Each kind is a closed vocabulary (`Appraisal.Vocabulary`): its members stand in a fixed order, and each has
the word by which a deal is written down. A spot of damage is judged by two questions. Is it concealed
once the appliance stands in its place, as the back, the bottom and the top normally are? And which side
of the room does it face? The top is asked both: it is concealed as a rule, and it faces upwards where the
installation leaves that side open.
-/
import Appraisal.Vocabulary

set_option autoImplicit false

namespace Appraisal

/-! ## Vocabularies -/

/-- What is for sale. -/
inductive ApplianceKind where
  | refrigerator | washer | dryer | range | dishwasher | microwave
  deriving DecidableEq

instance : Vocabulary ApplianceKind where
  all := [.refrigerator, .washer, .dryer, .range, .dishwasher, .microwave]
  word
    | .refrigerator => "refrigerator"
    | .washer => "washer"
    | .dryer => "dryer"
    | .range => "range"
    | .dishwasher => "dishwasher"
    | .microwave => "microwave"
  mem_all a := by cases a <;> decide
  word_inj a b := by cases a <;> cases b <;> decide

/-- Where on the cabinet cosmetic damage sits. -/
inductive Spot where
  | back | bottom | top | leftSide | rightSide | frontDoor | frontPanel | controlPanel | handle
  deriving DecidableEq

instance : Vocabulary Spot where
  all := [.back, .bottom, .top, .leftSide,
    .rightSide, .frontDoor, .frontPanel, .controlPanel, .handle]
  word
    | .back => "back"
    | .bottom => "bottom"
    | .top => "top"
    | .leftSide => "left_side"
    | .rightSide => "right_side"
    | .frontDoor => "front_door"
    | .frontPanel => "front_panel"
    | .controlPanel => "control_panel"
    | .handle => "handle"
  mem_all a := by cases a <;> decide
  word_inj a b := by cases a <;> cases b <;> decide

/-- How bad the damage looks. -/
inductive DamageSeverity where
  | minor | moderate | severe
  deriving DecidableEq

instance : Vocabulary DamageSeverity where
  all := [.minor, .moderate, .severe]
  word
    | .minor => "minor"
    | .moderate => "moderate"
    | .severe => "severe"
  mem_all a := by cases a <;> decide
  word_inj a b := by cases a <;> cases b <;> decide

/-- What kind of damage it is. -/
inductive Mark where
  | dent | scratch | chip | crack | discoloration
  deriving DecidableEq

instance : Vocabulary Mark where
  all := [.dent, .scratch, .chip, .crack, .discoloration]
  word
    | .dent => "dent"
    | .scratch => "scratch"
    | .chip => "chip"
    | .crack => "crack"
    | .discoloration => "discoloration"
  mem_all a := by cases a <;> decide
  word_inj a b := by cases a <;> cases b <;> decide

/-- Who sells it. -/
inductive RetailerKind where
  | bigBox | independent | liquidation | outlet
  deriving DecidableEq

instance : Vocabulary RetailerKind where
  all := [.bigBox, .independent, .liquidation, .outlet]
  word
    | .bigBox => "big_box"
    | .independent => "independent"
    | .liquidation => "liquidation"
    | .outlet => "outlet"
  mem_all a := by cases a <;> decide
  word_inj a b := by cases a <;> cases b <;> decide

/-- How the appliance will stand. -/
inductive InstallationKind where
  | freestanding | builtIn | stacked | underCounter
  deriving DecidableEq

instance : Vocabulary InstallationKind where
  all := [.freestanding, .builtIn, .stacked, .underCounter]
  word
    | .freestanding => "freestanding"
    | .builtIn => "built_in"
    | .stacked => "stacked"
    | .underCounter => "under_counter"
  mem_all a := by cases a <;> decide
  word_inj a b := by cases a <;> cases b <;> decide

/-- A side of the appliance that can face the room. -/
inductive Side where
  | front | left | right | top
  deriving DecidableEq

instance : Vocabulary Side where
  all := [.front, .left, .right, .top]
  word
    | .front => "front"
    | .left => "left"
    | .right => "right"
    | .top => "top"
  mem_all a := by cases a <;> decide
  word_inj a b := by cases a <;> cases b <;> decide

/-- What the appliance is bought for. -/
inductive Purpose where
  | primaryResidence | rentalProperty | secondaryAppliance
  deriving DecidableEq

instance : Vocabulary Purpose where
  all := [.primaryResidence, .rentalProperty, .secondaryAppliance]
  word
    | .primaryResidence => "primary_residence"
    | .rentalProperty => "rental_property"
    | .secondaryAppliance => "secondary_appliance"
  mem_all a := by cases a <;> decide
  word_inj a b := by cases a <;> cases b <;> decide

/-- How many warnings the buyer puts up with. -/
inductive RiskTolerance where
  | low | moderate | high
  deriving DecidableEq

instance : Vocabulary RiskTolerance where
  all := [.low, .moderate, .high]
  word
    | .low => "low"
    | .moderate => "moderate"
    | .high => "high"
  mem_all a := by cases a <;> decide
  word_inj a b := by cases a <;> cases b <;> decide

/-- How firm the buyer's price is. -/
inductive PriceFlexibility where
  | firm | flexible | veryFlexible
  deriving DecidableEq

instance : Vocabulary PriceFlexibility where
  all := [.firm, .flexible, .veryFlexible]
  word
    | .firm => "firm"
    | .flexible => "flexible"
    | .veryFlexible => "very_flexible"
  mem_all a := by cases a <;> decide
  word_inj a b := by cases a <;> cases b <;> decide

/-- The manufacturer's warranty, as far as it is known. It is written `true`, `false` or `"unknown"` and
so has no words of its own. -/
inductive Coverage where
  | covered | notCovered | unknown
  deriving DecidableEq

/-- Only coverage that was confirmed counts. -/
def Coverage.isCovered (c : Coverage) : Bool :=
  c = .covered

/-! ## What a spot means -/

namespace Spot

/-- Is the spot concealed once the appliance stands in its place? -/
def isHidden : Spot → Bool
  | .back | .bottom | .top => true
  | _ => false

/-- Is the spot one that everybody looks at? -/
def isProminent : Spot → Bool
  | .frontDoor | .frontPanel | .controlPanel | .handle => true
  | _ => false

/-- The side that the spot faces; the back and the bottom never face the room. -/
def side? : Spot → Option Side
  | .frontDoor | .frontPanel | .controlPanel | .handle => some .front
  | .leftSide => some .left
  | .rightSide => some .right
  | .top => some .top
  | .back | .bottom => none

end Spot

/-! ## Tiers of damage -/

/-- How visible the damage is once the appliance stands in its place. -/
inductive DamageTier where
  | hidden | partlyVisible | prominent
  deriving DecidableEq

namespace DamageTier

/-- The tiers from the least visible one on. -/
def all : List DamageTier :=
  [.hidden, .partlyVisible, .prominent]

/-- Tiers are numbered from one. -/
def number : DamageTier → Nat
  | .hidden => 1
  | .partlyVisible => 2
  | .prominent => 3

/-- The tier in words. -/
def label : DamageTier → String
  | .hidden => "Hidden"
  | .partlyVisible => "Partially Visible"
  | .prominent => "Prominently Visible"

/-- The tier with the given number. -/
def ofNumber? : Nat → Option DamageTier
  | 1 => some .hidden
  | 2 => some .partlyVisible
  | 3 => some .prominent
  | _ => none

end DamageTier

end Appraisal
