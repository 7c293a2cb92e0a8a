import Playout.Chain.Graph
import Playout.Filter.Item
import Playout.Filter.Logo
import Playout.Filter.LowerThird
import Playout.Media.Basic
import Playout.Media.Ratio

/-!
# Filter programs

The program of an item is the filter graph of its operators. What the operators depend on is found
out in the order of the processing, so of several faults the first one in that order is reported.
-/

namespace Playout.Filter

open Chain

/-! ## Numbers in texts -/

/-- Checks a number that is written into a text: it must not have too many digits. -/
def written (n : Int) : Except Fault Unit := do
  let _ ← Datum.wholeChars n

/-- Checks the target size, if it stands in the text of an operator. -/
def writtenSize (c : Config Float) (operators : List (Operator Float)) : Except Fault Unit := do
  if operators.any Operator.namesSize then
    written c.processing.width
    written c.processing.height

/-! ## Facts about an item -/

/-- What is known about the picture of an item. -/
def pictureOf (c : Config Float) (m : Media) : Except Fault (Option (Picture Float)) :=
  match m.probe.bind (·.firstVideo?) with
  | none => do
    writtenSize c (Step.scale c none none 1.0)
    return none
  | some s => do
    let aspect ← Media.aspectRatio c.processing.aspect s.aspect
    let rate ← Media.frameRate 1.0 s.rate
    writtenSize c (Step.pad c s.width s.height aspect ++ Step.scale c s.width s.height aspect)
    let duration ← m.pictureDuration
    return some ⟨s.width, s.height, s.fieldOrder, aspect, rate, duration⟩

/-- Whether the probe of an item has a sound stream for a track. -/
def hasTrack (m : Media) (track : Int) : Bool :=
  (m.probe.bind (·.audioStream? track)).isSome

/-- What is known about the sound of an item. A separate audio file stands in for every track. -/
def soundOf (site : Site) (m : Media) (track : Int) : Except Fault (Sound Float) :=
  if hasTrack m track || m.hasAudioFile site then (m.trackDuration site track).map .present
  else .ok (if m.live then .live else .missing)

/-- The lower third of an item with a source, or of no item at all. -/
def lowerThirdOf (site : Site) (c : Config Float) (source : Option String)
    (registry : Option Registry) : Except Fault (Option String) :=
  if LowerThird.isWanted c then (LowerThird.operator site c source registry).map some
  else .ok none

/-- The speed at which an item catches up with its schedule. -/
def catchUpSpeed (site : Site) (c : Config Float) (m : Media) : Float :=
  c.timetable.speed m.begin m.cut site.clock

/-- The category of advertisements, which have no logo. -/
def advertisement : String := "advertisement"

/-- All facts about an item but those about its sound. -/
def itemOf (site : Site) (c : Config Float) (m : Media) (registry : Option Registry) :
    Run (Item Float) := do
  let picture ← Run.ofExcept (pictureOf c m)
  let lowerThird ← Run.ofExcept (lowerThirdOf site c (some m.source) registry)
  let commonFilter ← Custom.parts c.processing.customFilter
  let ownFilter ← Custom.partsOf m.customFilter
  return {
    picture, lowerThird, commonFilter, ownFilter
    cut := m.cut
    live := m.live
    advertisement := m.category == advertisement
    afterAd := m.afterAd
    beforeAd := m.beforeAd
    hasLogo := Logo.isAvailable site c
    speed := catchUpSpeed site c m }

/-! ## Plans and graphs -/

/-- The operators of a picture and of its audio tracks. -/
structure Plan where
  video : List (Operator Float)
  audio : List (Int × List (Operator Float))

/-- Adds operators to the chain of a track. -/
def addOperators (g : Graph) (kind : Kind) (track : Int) (operators : List (Operator Float)) :
    Attempt Graph :=
  match operators.mapM Operator.fragment with
  | .error f => .failed g f
  | .ok fragments => g.addAll kind track fragments

/-- The graph of a plan, whose sound is read from an input. -/
def Plan.graph (p : Plan) (audioPosition : Int) : Except Fault Graph := do
  let pictured ← (addOperators (.empty audioPosition 0) .video 0 p.video).toExcept
  let full ← p.audio.foldlM (fun g t => (addOperators g .audio t.1 t.2).toExcept) pictured
  return full.closeAll

/-- The sound of a track. One that is missing is reported. -/
def trackSound (site : Site) (m : Media) (track : Int) : Run (Sound Float) := do
  let sound ← Run.ofExcept (soundOf site m track)
  Run.ofExcept (written track)
  match sound with
  | .missing => Run.notify (.missingTrack track m.source)
  | _ => pure ()
  return sound

/-- The plan of an item. -/
def planOf (site : Site) (c : Config Float) (m : Media) (registry : Option Registry) :
    Run Plan := do
  let item ← itemOf site c m registry
  let audio ← c.audioIndexes.mapM fun track => do
    return (track, item.audio c (← trackSound site m track))
  return ⟨item.video c, audio⟩

/-- The input that the sound of an item is read from: the second one for a separate audio file. -/
def audioPosition (site : Site) (m : Media) : Int :=
  if m.hasAudioFile site then 1 else 0

/-- The filter graph of an item. -/
def graphOf (site : Site) (c : Config Float) (m : Media) (registry : Option Registry) :
    Run Graph := do
  let plan ← planOf site c m registry
  Run.ofExcept (plan.graph (audioPosition site m))

/-- The arguments for the encoder of an item. -/
def itemArguments (site : Site) (c : Config Float) (m : Media) (registry : Option Registry) :
    Run (List String) := do
  Run.ofExcept (← graphOf site c m registry).arguments

/-! ## Live feeds -/

/-- The plan of a live feed. -/
def ingestPlan (site : Site) (c : Config Float) : Run Plan := do
  Run.ofExcept (writtenSize c [.scale c.processing.width c.processing.height])
  let filter ← Custom.parts c.ingest.customFilter
  return ⟨Ingest.video c (Logo.isAvailable site c) filter, [(0, Ingest.audio c filter)]⟩

/-- The filter graph of a live feed. -/
def ingestGraph (site : Site) (c : Config Float) : Run Graph := do
  Run.ofExcept ((← ingestPlan site c).graph 0)

/-- The arguments for the encoder of a live feed. -/
def ingestArguments (site : Site) (c : Config Float) : Run (List String) := do
  Run.ofExcept (← ingestGraph site c).arguments

end Playout.Filter
