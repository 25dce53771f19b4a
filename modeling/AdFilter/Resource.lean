import AdFilter.Text.Basic

namespace AdFilter

/-!
# Resources for rewrites

A rule may replace a request by a harmless resource instead of blocking it.
-/

namespace Resource

/-- The resources by their names. -/
def addresses : List (Text × Text) :=
  [("blank-html".toList, "about:blank".toList),
   ("blank-js".toList, "data:application/javascript,".toList),
   ("blank-css".toList, "data:text/css,".toList),
   ("blank-text".toList, "data:text/plain,".toList),
   ("blank-mp3".toList,
    ("data:audio/mpeg;base64,/+NIxAAAAAANIAAAAAExBTUUzLjEwMFVVVVVVVVVVVVVVVVVVVVVVVVVVVVVVVVVVVV" ++
      "VVVVVVVVVVVVVVVVVVVVVVVVVVVVVVVVVVVVVVVVVVVVVVVVVVVVVVVVVVVVVVVVVVVVVVVVVVVVVVVVVVVVVVVVVV" ++
      "VVVVVVVVVVVVVVVVVVVVVVVVVVVVVVVVVVVVVVVVVVVVVVVVVVVVVVVQ==").toList),
   ("1x1-transparent-gif".toList,
    "data:image/gif;base64,R0lGODlhAQABAIAAAAAAAP///yH5BAEAAAAALAAAAAABAAEAAAIBRAA7".toList),
   ("2x2-transparent-png".toList,
    ("data:image/png;base64,iVBORw0KGgoAAAANSUhEUgAAAAIAAAACCAYAAABytg0kAAAAC0lEQVQI12NgAAIAAAUA" ++
      "AeImBZsAAAAASUVORK5CYII=").toList),
   ("3x2-transparent-png".toList,
    ("data:image/png;base64,iVBORw0KGgoAAAANSUhEUgAAAAMAAAACCAYAAACddGYaAAAAC0lEQVQI12NgAAIAAAUA" ++
      "AeImBZsAAAAASUVORK5CYII=").toList),
   ("32x32-transparent-png".toList,
    ("data:image/png;base64,iVBORw0KGgoAAAANSUhEUgAAACAAAAAgCAYAAABzenr0AAAAGklEQVRYR+3OAQEAAAQE" ++
      "MP7/1KhkUKsA7BkPCgCjAAACsEXLAAAAAElFTkSuQmCC").toList),
   ("tracking-pixel".toList,
    "data:image/gif;base64,R0lGODlhAQABAAAAACH5BAEKAAEALAAAAAABAAEAAAICTAEAOw==".toList)]

/-- Other names of resources. -/
def aliases : List (Text × Text) :=
  [("blank-txt".toList, "blank-text".toList)]

/-- The address of the resource with a name. -/
def address? (name : Text) : Option Text :=
  addresses.lookup ((aliases.lookup name).getD name)

end Resource

end AdFilter
