import ChibiCopter.Gps.Position

/-!
# The three position sentences agree

GPGGA, GPRMC and GPGLL sentences that carry the same four texts leave the same position,
well-formed or not, whatever the parser was doing and whatever else the sentences carry.
-/

namespace ChibiCopter.Gps

/-- The four texts of a position. -/
structure PositionTexts where
  lat : List UInt8
  northSouth : List UInt8
  lon : List UInt8
  eastWest : List UInt8
  plain : ∀ text ∈ [lat, northSouth, lon, eastWest], Plain text

namespace PositionTexts

def list (texts : PositionTexts) : List (List UInt8) :=
  [texts.lat, texts.northSouth, texts.lon, texts.eastWest]

end PositionTexts

/-- A complete sentence of some type that carries four texts as its position. -/
structure PositionSentence (kind : SentenceType) (texts : PositionTexts) where
  front : List (List UInt8)
  back : List (List UInt8)
  ending : List UInt8
  position : latitudeNumber kind = some (front.length + 1)
  plain : ∀ field ∈ front ++ back, Plain field
  count : front.length + 4 + back.length ≤ 255
  ends : Ending ending

namespace PositionSentence

variable {kind : SentenceType} {texts : PositionTexts}

def fields (sentence : PositionSentence kind texts) : List (List UInt8) :=
  sentence.front ++ texts.list ++ sentence.back

def text (sentence : PositionSentence kind texts) : List UInt8 :=
  dollar :: body kind.name sentence.fields ++ sentence.ending

theorem plain_fields (sentence : PositionSentence kind texts) :
    ∀ field ∈ sentence.fields, Plain field := by
  intro field member
  rcases List.mem_append.mp member with early | late
  · rcases List.mem_append.mp early with inFront | inTexts
    · exact sentence.plain field (List.mem_append_left _ inFront)
    · exact texts.plain field inTexts
  · exact sentence.plain field (List.mem_append_right _ late)

theorem length_fields (sentence : PositionSentence kind texts) :
    sentence.fields.length ≤ 255 := by
  have count := sentence.count
  rw [fields, List.length_append, List.length_append]
  exact count

/-- The position behind the sentence depends on its four texts and on nothing else. -/
theorem position_left (sentence : PositionSentence kind texts) {gps : Globals}
    (reachable : Reachable gps) :
    (parser.final gps sentence.text).gpsWorkingData.lat =
        signed 'S' texts.northSouth texts.lat ∧
      (parser.final gps sentence.text).gpsWorkingData.lon =
        signed 'W' texts.eastWest texts.lon := by
  have working_eq : (parser.final gps sentence.text).working =
      foldFields kind 1 sentence.fields gps.working :=
    working_ended reachable (named_of_position sentence.position) sentence.plain_fields
      sentence.length_fields sentence.ends
  have data_eq : (parser.final gps sentence.text).gpsWorkingData =
      (foldFields kind 1 sentence.fields gps.working).data := congrArg Working.data working_eq
  rw [data_eq]
  exact foldFields_position sentence.position texts.lat texts.northSouth texts.lon
    texts.eastWest sentence.back gps.working

end PositionSentence

/-- Three parsers that receive the same four texts in sentences of the three types end
with the same position. -/
theorem positions_agree {first second third : Globals} (firstReachable : Reachable first)
    (secondReachable : Reachable second) (thirdReachable : Reachable third)
    {texts : PositionTexts} (gpgga : PositionSentence .gpgga texts)
    (gprmc : PositionSentence .gprmc texts) (gpgll : PositionSentence .gpgll texts) :
    let gpggaData := (parser.final first gpgga.text).gpsWorkingData
    let gprmcData := (parser.final second gprmc.text).gpsWorkingData
    let gpgllData := (parser.final third gpgll.text).gpsWorkingData
    (gpggaData.lat = gprmcData.lat ∧ gprmcData.lat = gpgllData.lat) ∧
      gpggaData.lon = gprmcData.lon ∧ gprmcData.lon = gpgllData.lon := by
  obtain ⟨gpgga_lat, gpgga_lon⟩ := gpgga.position_left firstReachable
  obtain ⟨gprmc_lat, gprmc_lon⟩ := gprmc.position_left secondReachable
  obtain ⟨gpgll_lat, gpgll_lon⟩ := gpgll.position_left thirdReachable
  refine ⟨⟨?_, ?_⟩, ?_, ?_⟩
  · rw [gpgga_lat, gprmc_lat]
  · rw [gprmc_lat, gpgll_lat]
  · rw [gpgga_lon, gprmc_lon]
  · rw [gprmc_lon, gpgll_lon]

/-- A latitude with a letter in it, a hemisphere of two letters, and no longitude. -/
def garbledTexts : PositionTexts where
  lat := ascii ['4', '5', 'x', '3', '.', '3', '5']
  northSouth := ascii ['S', 'N']
  lon := []
  eastWest := ascii ['W']
  plain := by decide

def garbledGpgga : PositionSentence .gpgga garbledTexts where
  front := [[]]
  back := [ascii ['1']]
  ending := [star]
  position := rfl
  plain := by decide
  count := by decide
  ends := ⟨star, [], rfl, by decide, by decide⟩

def garbledGprmc : PositionSentence .gprmc garbledTexts where
  front := [[], ascii ['V']]
  back := []
  ending := [carriageReturn, lineFeed]
  position := rfl
  plain := by decide
  count := by decide
  ends := ⟨carriageReturn, [lineFeed], rfl, by decide, by decide⟩

def garbledGpgll : PositionSentence .gpgll garbledTexts where
  front := []
  back := [[], ascii ['A']]
  ending := [lineFeed]
  position := rfl
  plain := by decide
  count := by decide
  ends := ⟨lineFeed, [], rfl, by decide, by decide⟩

theorem positions_agree_garbled :
    let gps := gpsParserInit zeroGlobals
    let behind := parser.final gps garbledGpgga.text
    (parser.final behind garbledGprmc.text).gpsWorkingData.lat =
      (parser.final gps garbledGpgll.text).gpsWorkingData.lat := by
  have reachable := reachable_init zeroGlobals
  exact (positions_agree reachable (reachable.run garbledGpgga.text) reachable garbledGpgga
    garbledGprmc garbledGpgll).1.2

end ChibiCopter.Gps
