/-
How the appliance gets home.

The plan depends on two kinds alone, that of the appliance and that of the installation. A stacked
installation is always work for professionals; otherwise the appliance decides. The two checklists, for
the transport and for the installation, are fixed texts; the installation list is the appliance's own notes
followed by those of the installation.
-/
import Appraisal.Deal.Basic
import Appraisal.Rule.Catalog

set_option autoImplicit false

namespace Appraisal

/-- Who should bring the appliance home. -/
inductive DeliveryMethod where
  | professional | either
  deriving DecidableEq

instance : Vocabulary DeliveryMethod where
  all := [.professional, .either]
  word
    | .professional => "professional"
    | .either => "either"
  mem_all a := by cases a <;> decide
  word_inj a b := by cases a <;> cases b <;> decide

/-- What was found out about bringing the appliance home. -/
structure Delivery where
  method : DeliveryMethod
  reason : String
  transport : List String
  installation : List String

namespace Delivery

/-- What stands in for a delivery that nobody thought about. -/
def placeholder : Delivery where
  method := .professional
  reason := "not evaluated"
  transport := []
  installation := []

/-! ## The method -/

/-- The method that the appliance alone calls for, and why. -/
def methodByAppliance : ApplianceKind → DeliveryMethod × String
  | .refrigerator =>
    (.professional,
      "Refrigerators are heavy, must stay upright, and often need a water line connection")
  | .range =>
    (.professional,
      "Ranges may need a gas line or 240V hookup that should be done by a professional")
  | .washer | .dryer | .dishwasher | .microwave =>
    (.either,
      "Self transport works with a helper and a truck; professional delivery adds haul-away")

/-- The method for an appliance in an installation, and why. -/
def methodFor (appliance : ApplianceKind) (installation : InstallationKind) :
    DeliveryMethod × String :=
  if installation = .stacked then
    (.professional, "Stacked installations need two installers and a manufacturer stacking kit")
  else methodByAppliance appliance

/-! ## Checklists -/

/-- The rule about the transport of an appliance. -/
def transportRule : ApplianceKind → Rule
  | .refrigerator => Rule.refrigeratorTransport
  | .washer => Rule.washerTransport
  | .range => Rule.rangeTransport
  | .dryer | .dishwasher | .microwave => Rule.generalTransport

/-- The transport checklist of an appliance. -/
def transportList : ApplianceKind → List String
  | .refrigerator =>
    ["Keep the unit upright during transport",
     "Secure doors closed with straps, not tape on the finish",
     "Let it stand upright for 4 hours before plugging in",
     "Use an appliance dolly rated for 300 lb or more"]
  | .washer =>
    ["Install drum shipping bolts before moving",
     "Drain remaining water from the pump and hoses",
     "Use an appliance dolly and moving blankets"]
  | .range =>
    ["Remove grates, racks, and knobs before moving",
     "Secure the oven door closed",
     "Disconnect gas or power only with the supply shut off"]
  | .dryer =>
    ["Secure the drum and door for transport",
     "Bring a new vent hose and clamps"]
  | .dishwasher =>
    ["Drain residual water before moving",
     "Keep the unit upright and protect the door hinges"]
  | .microwave =>
    ["Remove the glass turntable and pack it separately",
     "Transport in a padded box or blanket"]

/-- What the appliance asks of an installation. -/
def applianceNotes : ApplianceKind → List String
  | .refrigerator =>
    ["Confirm door swing clearance and opening dimensions",
     "Have a water line shutoff available for the ice maker"]
  | .washer =>
    ["Verify hot and cold supply valves and a standpipe drain",
     "Level the unit to prevent walking during spin"]
  | .dryer =>
    ["Confirm 240V outlet type or gas supply",
     "Use rigid or semi-rigid metal venting"]
  | .range =>
    ["Install the anti-tip bracket",
     "Confirm 240V outlet or gas connection type"]
  | .dishwasher =>
    ["Confirm hot water supply, drain connection, and dedicated circuit",
     "Check cabinet opening height and depth"]
  | .microwave =>
    ["Confirm a dedicated outlet within cord reach"]

/-- What the place asks of an installation. -/
def placeNotes : InstallationKind → List String
  | .freestanding =>
    ["Leave ventilation space on the sides and back"]
  | .builtIn =>
    ["Measure the cabinet cutout; built-in fit tolerances are tight",
     "Side damage will be hidden by cabinetry once installed"]
  | .stacked =>
    ["Use the manufacturer stacking kit for the exact model pair",
     "Confirm ceiling height clears the stacked units"]
  | .underCounter =>
    ["Confirm counter height and depth clearance",
     "Only the front panel remains visible under a counter"]

/-- The installation checklist of an appliance in its place. -/
def installationList (appliance : ApplianceKind) (installation : InstallationKind) : List String :=
  applianceNotes appliance ++ placeNotes installation

/-! ## Findings -/

/-- A method the way a recommendation says it. -/
def methodText : DeliveryMethod → String
  | .professional => "Professional"
  | .either => "Self or professional"

/-- The finding about the method. -/
def methodFinding (method : DeliveryMethod) (reason : String) : Finding :=
  Rule.delivery.finding true (methodText method ++ " delivery recommended: " ++ reason)
    ["appliance.type", "installation.type"] ["logistics.delivery"]

/-- The finding about the transport. -/
def transportFinding (appliance : ApplianceKind) : Finding :=
  (transportRule appliance).finding true
    (Vocabulary.word appliance ++ " transport checklist has "
      ++ toString (transportList appliance).length ++ " item(s)")
    ["appliance.type"] ["logistics.transportRequirements"]

/-- The finding about the installation. -/
def installationFinding (appliance : ApplianceKind) (installation : InstallationKind) : Finding :=
  Rule.installationNotes.finding true
    (Vocabulary.word installation ++ " installation of a " ++ Vocabulary.word appliance ++ " has "
      ++ toString (installationList appliance installation).length ++ " checklist item(s)")
    ["appliance.type", "installation.type"] ["logistics.installationNotes"]

/-! ## The assessment -/

/-- Plans the delivery of an appliance to its place. -/
def assess (appliance : Appliance) (installation : Installation) : Assessed Delivery :=
  let (method, reason) := methodFor appliance.kind installation.kind
  { result :=
      { method
        reason
        transport := transportList appliance.kind
        installation := installationList appliance.kind installation.kind }
    findings := [
      methodFinding method reason,
      transportFinding appliance.kind,
      installationFinding appliance.kind installation.kind] }

end Delivery

end Appraisal
