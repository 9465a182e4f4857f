import Flashcard.Settings

/-!
# Pages

A page is one side of a card as a document of its own: the styles of the brackets, then those of
the template, then the side.
-/

namespace Flashcard

/-- The document that shows `body` under the styles of `settings` and `css`. -/
def page (settings : Settings) (css body : String) : String :=
  "\n<!DOCTYPE html>\n    <head>\n        <style>" ++ settings.stylesheet ++
  "        </style>\n        <style>\n            " ++ css ++
  "\n        </style>\n    </head>\n    <body>\n        " ++ body ++ "\n    </body>\n</html>\n"

end Flashcard
