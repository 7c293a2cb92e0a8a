import Playout.Filter.Custom
import Playout.Filter.Step

/-!
# What is done to an item

The operators of an item in the order in which they are applied: geometry comes before timing, fades
come after geometry, and the logo sits on top of the faded picture. The custom filters are last,
first the one for all items and then the item's own.
-/

namespace Playout.Filter

open Chain Number

/-- What is known about the picture of an item. -/
structure Picture (α : Type) where
  width : Option Int
  height : Option Int
  fieldOrder : Datum
  aspect : α
  rate : α
  duration : Option α

/-- What is known about the sound of an item for one track. -/
inductive Sound (α : Type)
  /-- A stream, or an audio file of its own. -/
  | present (duration : Option α)
  /-- A file without such a stream. -/
  | missing
  /-- A live source, whose streams are not known. -/
  | live

/-- All that the operators of an item depend on, besides the configuration. -/
structure Item (α : Type) where
  picture : Option (Picture α)
  lowerThird : Option String
  cut : Cut α
  live : Bool
  advertisement : Bool
  afterAd : Bool
  beforeAd : Bool
  hasLogo : Bool
  speed : α
  commonFilter : Custom.Parts
  ownFilter : Custom.Parts

namespace Item

variable {α : Type} [Scalar α]

/-- The picture is brought to the target format and to its full length. Without usable data about
    it, every step that could be needed is taken. -/
def geometry (c : Config α) (cut : Cut α) : Option (Picture α) → List (Operator α)
  | some p =>
    Step.deinterlace p.fieldOrder ++ Step.pad c p.width p.height p.aspect ++ Step.rate c p.rate ++
      Step.scale c p.width p.height p.aspect ++ Step.extendPicture cut p.duration
  | none => Step.rate c 0.0 ++ Step.scale c none none 1.0

/-- The lower third, if there is one. -/
def title (text : Option String) : List (Operator α) :=
  match text with
  | some t => if t = "" then [] else [.lowerThird t]
  | none => []

/-- The operators of the picture. -/
def video (c : Config α) (i : Item α) : List (Operator α) :=
  geometry c i.cut i.picture ++ title i.lowerThird ++ Step.fade i.cut i.live .video ++
    Step.overlay c i.hasLogo i.advertisement i.afterAd i.beforeAd i.cut ++
    Step.realtime c .video i.speed ++ Step.custom i.commonFilter.video ++
    Step.custom i.ownFilter.video

/-- A sound that ends too early is filled up, and one that is missing is replaced by silence. -/
def supply (cut : Cut α) : Sound α → List (Operator α)
  | .present duration => Step.extendSound cut duration
  | .missing => [.silence cut.playTime]
  | .live => []

/-- The operators of the sound of a track. There is always at least one, so that every track has a
    chain. -/
def audio (c : Config α) (i : Item α) (sound : Sound α) : List (Operator α) :=
  supply i.cut sound ++ [.keepSound] ++ Step.loudness c ++ Step.fade i.cut i.live .audio ++
    Step.volume c ++ Step.realtime c .audio i.speed ++ Step.custom i.commonFilter.audio ++
    Step.custom i.ownFilter.audio

end Item

/-! ## Live feeds -/

namespace Ingest

variable {α : Type} [Scalar α]

/-- The operators of the picture of a live feed of unknown geometry. -/
def video (c : Config α) (hasLogo : Bool) (filter : Custom.Parts) : List (Operator α) :=
  [.rate c.processing.rate, .scale c.processing.width c.processing.height,
    .displayAspect c.processing.aspect, .fadeIn .video] ++
    (if hasLogo then [Step.logo c false none] else []) ++ Step.custom filter.video

/-- The operators of the sound of a live feed. -/
def audio (c : Config α) (filter : Custom.Parts) : List (Operator α) :=
  [.keepSound] ++ (if c.processing.loudnessOnIngest then [Step.loudnessTarget c] else []) ++
    Step.custom filter.audio

end Ingest

end Playout.Filter
