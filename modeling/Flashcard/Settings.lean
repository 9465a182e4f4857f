import Flashcard.Text.Quoted

/-!
# Settings

How the brackets around a deletion look, changes to those settings, and the styles that carry them
into a page.
-/

namespace Flashcard

structure Settings where
  /-- Stands between the brackets on the front where a deletion has no hint. -/
  clozeFiller : String := "..."
  /-- The colour of the brackets and the filler on the front. -/
  frontColor : String := "dodgerblue"
  /-- The colour of the brackets on the back. -/
  backColor : String := "red"
deriving DecidableEq, Repr, Inhabited

/-- Changes to some of the settings. -/
structure SettingsPatch where
  clozeFiller : Option String := none
  frontColor : Option String := none
  backColor : Option String := none
deriving DecidableEq, Repr

namespace Settings

/-- The settings with the changes in `patch`. -/
def patch (s : Settings) (patch : SettingsPatch) : Settings where
  clozeFiller := patch.clozeFiller.getD s.clozeFiller
  frontColor := patch.frontColor.getD s.frontColor
  backColor := patch.backColor.getD s.backColor

/-- The style rule of one class of bracket markup. -/
def styleRule (className color : String) : String :=
  "            ." ++ className ++ " \x7b\n" ++
  "                font-size: 150%;\n" ++
  "                font-family: monospace;\n" ++
  "                font-weight: bolder;\n" ++
  "                color: " ++ color ++ ";\n" ++
  "            \x7d\n"

/-- The styles of the bracket markup. -/
def stylesheet (s : Settings) : String :=
  "\n" ++ styleRule "cloze-brackets-front" s.frontColor ++
    styleRule "cloze-filler-front" s.frontColor ++ styleRule "cloze-brackets-back" s.backColor

/-- The settings as one line for a reader of logs. -/
def describe (s : Settings) : String :=
  "RenderSettings \x7b cloze_filler: " ++ quoted s.clozeFiller ++ ", front_color: " ++
    quoted s.frontColor ++ ", back_color: " ++ quoted s.backColor ++ " \x7d"

end Settings

end Flashcard
