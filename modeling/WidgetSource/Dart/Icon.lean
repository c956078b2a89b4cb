import WidgetSource.Dart.Identifier
import WidgetSource.Dart.Token
import WidgetSource.Text.Search

namespace WidgetSource.Dart

def iconAliases : List (String × String) := [
  ("back", "arrow_back"), ("forward", "arrow_forward"), ("up", "arrow_upward"), ("down", "arrow_downward"),
  ("calendar", "calendar_today"), ("location", "location_on"), ("checkbox", "check_box"),
  ("radio", "radio_button_checked"), ("filter", "filter_list"), ("more", "more_vert"), ("account", "account_circle"),
  ("notification", "notifications"), ("camera", "camera_alt"), ("video", "videocam"), ("audio", "audiotrack"),
  ("play", "play_arrow"), ("time", "access_time"), ("attach", "attach_file")]

def defaultIcon : String := "Icons.help_outline"

def withoutCollection (cs : List Char) : List Char :=
  (Text.afterPrefix? "Icons.".toList cs).getD cs

/-- The icon of a name. Names that are no alias are put into snake case. -/
def iconOf (name : String) : String :=
  let bare := withoutCollection (Text.trimChars name.toList)
  match (TokenTable.mk iconAliases "").find? (String.ofList bare) with
  | some icon => "Icons." ++ icon
  | none =>
    match (Text.snakeCase bare).filter isWordChar with
    | [] => defaultIcon
    | c :: rest => if isDigit c then defaultIcon else "Icons." ++ String.ofList (c :: rest)

end WidgetSource.Dart
