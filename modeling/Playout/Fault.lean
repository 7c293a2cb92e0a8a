/-!
# Faults

Why a call fails. A `Refusal` is a rule of this library that a caller or a document has broken, and
has a message. All other faults say which general rule a value broke: they have a kind and, one
apart, no message.
-/

namespace Playout

/-- A rule of this library that was broken. -/
inductive Refusal
  /-- A fragment without text. -/
  | emptyFragment
  /-- A second start of the chain with this label. -/
  | segmentOpened (label : String)
  /-- A linked fragment as the first one of a chain. -/
  | linkedStart (label : String)
  /-- A fragment for, or the end of, a chain that is not running. -/
  | segmentNotOpen (label : String)
  /-- A source fragment for a chain that is running already. -/
  | sourceInside (label : String)
  /-- A fragment for a track whose chain is finished. -/
  | trackClosed (track : String)
  | rateMissing
  | rateKind
  | timeMissing
  | timeKind
  | sectionKind (name : String)
  | dayStartRange
  | frameSizeRange
  | rateRange
  | trackCountRange
  | modeKind
  | modeUnknown (modes : List String)
  | configMissing (path : String)
  | configSize
  | configKind
  | reportKind
  | fileMissing (path : String)
  | probeFailed (path : String) (reason : String)
  /-- An item that would end before it begins. Both times as texts. -/
  | trimOrder (out : String) (seek : String)
  deriving Repr, DecidableEq

/-- The message of a broken rule. -/
def Refusal.message : Refusal → String
  | .emptyFragment => "filter fragment must be a non-empty string"
  | .segmentOpened label => "chain segment " ++ label ++ " was already opened"
  | .linkedStart label => "chain segment " ++ label ++ " cannot start with a linked fragment"
  | .segmentNotOpen label => "chain segment " ++ label ++ " is not open"
  | .sourceInside label => "source fragment must start a new chain, not " ++ label
  | .trackClosed track => "track " ++ track ++ " already has a closed chain"
  | .rateMissing => "processing.fps is required"
  | .rateKind => "processing.fps must be int, float, or fraction string"
  | .timeMissing => "time value is required"
  | .timeKind => "time values must be int, float, or timecode string"
  | .sectionKind name => name ++ " must be a mapping"
  | .dayStartRange => "playlist.day_start must be within one day"
  | .frameSizeRange => "processing.width and processing.height must be positive"
  | .rateRange => "processing.fps must be positive"
  | .trackCountRange => "processing.audio_tracks must not be negative"
  | .modeKind => "out.mode must be a string"
  | .modeUnknown modes => "out.mode must be one of: " ++ String.intercalate ", " modes
  | .configMissing path => "config file not found: " ++ path
  | .configSize => "yaml file is larger than 10MB"
  | .configKind => "config yaml must be a mapping at the top level"
  | .reportKind => "ffprobe data must be a mapping"
  | .fileMissing path => "file not found: " ++ path
  | .probeFailed path reason => "ffprobe failed for " ++ path ++ ": " ++ reason
  | .trimOrder out seek => "media out (" ++ out ++ ") is before seek (" ++ seek ++ ")"

/-- Why a call fails. -/
inductive Fault
  | refused (rule : Refusal)
  /-- A text that is not the number it should be, or a number that has no whole part. -/
  | malformedNumber
  /-- An aspect ratio that is not made of two fields; holds the text in quotes. -/
  | aspectFields (quoted : String)
  /-- A process that could not be started. -/
  | notStarted (reason : String)
  /-- A value of a type that the operation does not take. -/
  | wrongType
  /-- A value of a type that has no such operation. -/
  | noOperation
  | missingKey
  | emptyList
  | divisionByZero
  /-- A number beyond the largest finite `Float`. -/
  | overflow
  /-- A decimal that cannot be read or has no value. -/
  | invalidDecimal
  /-- A decimal beyond the largest exponent. -/
  | decimalOverflow
  | malformedJson
  | malformedYaml
  | malformedPattern
  /-- Flags of a pattern that exclude each other. -/
  | clashingFlags
  deriving Repr, DecidableEq

/-- The message of a fault, for those that have one. -/
def Fault.message? : Fault → Option String
  | .refused rule => some rule.message
  | .aspectFields quoted => some ("aspect ratio must be W:H, got " ++ quoted)
  | _ => none

/-- What a call leaves behind: the state after it and, if the call failed, the fault. A failed call
    keeps what it had changed before it failed. -/
structure Attempt (σ : Type) where
  state : σ
  fault? : Option Fault
  deriving Repr, DecidableEq

namespace Attempt

variable {σ τ : Type}

/-- A call that went well. -/
def done (s : σ) : Attempt σ :=
  ⟨s, none⟩

/-- A call that failed in a state. -/
def failed (s : σ) (f : Fault) : Attempt σ :=
  ⟨s, some f⟩

/-- A call that changes nothing unless it goes well. -/
def ofExcept (s : σ) : Except Fault σ → Attempt σ
  | .ok s' => .done s'
  | .error f => .failed s f

/-- The attempt with its state in another form. -/
def map (form : σ → τ) (a : Attempt σ) : Attempt τ :=
  ⟨form a.state, a.fault?⟩

/-- The next call, unless an earlier one has failed. -/
def andThen (a : Attempt σ) (next : σ → Attempt σ) : Attempt σ :=
  match a.fault? with
  | none => next a.state
  | some _ => a

/-- The result of the call as a value or a fault, without the state after a failure. -/
def toExcept (a : Attempt σ) : Except Fault σ :=
  match a.fault? with
  | none => .ok a.state
  | some f => .error f

end Attempt

end Playout
