import Playout.Chain.Fragment
import Playout.Number.Scalar
import Playout.Number.SixPlaces

/-!
# Filter operators

What is done to a picture or a sound, one operator at a time, with its numbers still as numbers. An
operator over `Float` has a text, which is what the encoder is given.
-/

namespace Playout.Filter

open Chain

/-- Which side of a picture is brought down to the target before bars are added, and to what. -/
inductive Shrink
  | width (pixels : Int)
  | height (pixels : Int)
  deriving Repr, DecidableEq

/-- An operator. -/
inductive Operator (α : Type)
  /-- Rebuilds full pictures from interlaced ones. -/
  | deinterlace
  /-- Adds bars up to the aspect of the target size. -/
  | pad (shrink : Option Shrink) (width height : Int)
  | rate (framesPerSecond : α)
  | scale (width height : Int)
  /-- Leaves the picture as it is. -/
  | keepPicture
  | displayAspect (ratio : α)
  /-- Repeats the last picture. -/
  | holdPicture (seconds : α)
  /-- A lower third. -/
  | lowerThird (text : String)
  | fadeIn (kind : Kind)
  | fadeOut (kind : Kind) (start : α)
  /-- The logo: loaded from a file, shown with an opacity, faded in and out, laid over the picture
      by a filter text. -/
  | logo (path : String) (opacity : α) (fadesIn : Bool) (fadesOut : Option α) (overlay : String)
  /-- Slows the stream down to its own speed. -/
  | realtime (kind : Kind) (speed : α)
  | custom (text : String)
  /-- Silence instead of a missing track. -/
  | silence (seconds : α)
  /-- Adds silence behind the sound. -/
  | padSound (whole : α)
  /-- Leaves the sound as it is. -/
  | keepSound
  | loudness (integrated peak range : α)
  | volume (factor : α)

namespace Operator

variable {α : Type}

/-- How an operator is joined to its chain. Silence has no input, and the logo brings its links. -/
def role : Operator α → Role
  | silence _ => .source
  | logo _ _ _ _ _ => .continuation
  | _ => .operator

/-- Whether the target size stands in the text of an operator. -/
def namesSize : Operator α → Bool
  | pad _ _ _ => true
  | scale _ _ => true
  | _ => false

end Operator

/-- What the sound filters have in front of the names of the picture filters. -/
def kindMark : Kind → String
  | .audio => "a"
  | .video => ""

/-- A path as a value of a filter option: forward slashes, and colons escaped. -/
def escapePath (path : String) : String :=
  String.ofList (path.toList.flatMap fun c =>
    if c = '\\' then ['/'] else if c = ':' then ['\\', '\\', ':'] else [c])

open Number (optionText)

/-- The chain of a logo: it ends the running chain and loads the picture again and again. -/
def logoBody (path : String) (opacity : Float) : String :=
  "[v];movie=" ++ escapePath path ++ ":loop=0,setpts=N/(FRAME_RATE*TB)," ++
    "format=rgba,colorchannelmixer=aa=" ++ optionText opacity

/-- The end of a logo's chain: the logo is laid over the picture. -/
def logoTail (overlay : String) : String :=
  "[l];[v][l]" ++ overlay ++ ":shortest=1"

/-- The fades of a logo. -/
def logoFades (fadesIn : Bool) (fadesOut : Option Float) : String :=
  (if fadesIn then ",fade=in:st=0:d=1.0:alpha=1" else "") ++
    (match fadesOut with
      | none => ""
      | some start => ",fade=out:st=" ++ optionText start ++ ":d=1.0:alpha=1")

/-- The operator that shrinks a picture, with the comma behind it. -/
def shrinkText : Option Shrink → String
  | none => ""
  | some (.width w) => "scale=" ++ w.repr ++ ":-1,"
  | some (.height h) => "scale=-1:" ++ h.repr ++ ","

namespace Operator

/-- The text of an operator. -/
def text : Operator Float → String
  | deinterlace => "yadif=0:-1:0"
  | pad shrink width height =>
    let ratio := "(" ++ width.repr ++ "/" ++ height.repr ++ ")"
    shrinkText shrink ++ "pad=max(iw\\,ih*" ++ ratio ++ "):ow/" ++ ratio ++
      ":(ow-iw)/2:(oh-ih)/2"
  | rate r => "fps=" ++ optionText r
  | scale width height => "scale=" ++ width.repr ++ ":" ++ height.repr
  | keepPicture => "null"
  | displayAspect ratio => "setdar=dar=" ++ optionText ratio
  | holdPicture seconds => "tpad=stop_mode=add:stop_duration=" ++ optionText seconds
  | lowerThird t => t
  | fadeIn kind => kindMark kind ++ "fade=in:st=0:d=0.5"
  | fadeOut kind start => kindMark kind ++ "fade=out:st=" ++ optionText start ++ ":d=1.0"
  | logo path opacity fadesIn fadesOut overlay =>
    logoBody path opacity ++ logoFades fadesIn fadesOut ++ logoTail overlay
  | realtime kind speed => kindMark kind ++ "realtime=speed=" ++ optionText speed
  | custom t => t
  | silence seconds =>
    "aevalsrc=0:channel_layout=stereo:duration=" ++ optionText seconds ++ ":sample_rate=48000"
  | padSound whole => "apad=whole_dur=" ++ optionText whole
  | keepSound => "anull"
  | loudness integrated peak range =>
    "loudnorm=I=" ++ optionText integrated ++ ":TP=" ++ optionText peak ++ ":LRA=" ++
      optionText range
  | volume factor => "volume=" ++ optionText factor

/-- The fragment of an operator, unless its text is empty. -/
def fragment (o : Operator Float) : Except Fault Fragment :=
  Fragment.ofText o.text o.role

end Operator

end Playout.Filter
