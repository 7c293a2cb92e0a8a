import Playout.Config.Basic

/-!
# Settings in exact numbers

The decisions about an item are made in an arithmetic that is a parameter, so the settings can also
be exact numbers.
-/

namespace Playout.Config

/-- The usual settings in exact numbers: those that hold when nothing is configured, but with the
    aspect of the target size. -/
def exact : Config Rat where
  file := none
  general := ⟨11, false⟩
  playlist := ⟨"00:00:00", 0, "24:00:00", 86400⟩
  processing := {
    width := 1024
    height := 576
    aspect := 16 / 9
    rate := 25
    addLogo := false
    logo := ""
    logoOpacity := 7 / 10
    logoFilter := "overlay=W-w-12:12"
    addLoudness := false
    loudnessOnIngest := false
    loudness := -18
    truePeak := -3 / 2
    loudnessRange := 11
    volume := 1
    audioTracks := 1
    audioTrackIndex := -1
    customFilter := "" }
  ingest := default.ingest
  text := default.text
  mode := .desktop

end Playout.Config
