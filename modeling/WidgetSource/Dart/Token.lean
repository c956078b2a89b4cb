import WidgetSource.Dart.Literal

/-!
# Tokens

Words with a fixed meaning. They match in any ASCII letter case and with white space around them, and every table has
one literal for all other words.
-/
namespace WidgetSource.Dart

/-- Words with their literals, and the literal of any other word. -/
structure TokenTable where
  entries : List (String × String)
  fallback : String

def TokenTable.find? (table : TokenTable) (word : String) : Option String :=
  let token := Text.asciiLowerText (Text.trim word)
  (table.entries.find? fun entry => Text.asciiLowerText entry.1 == token).map Prod.snd

def TokenTable.read (table : TokenTable) (word : String) : String :=
  (table.find? word).getD table.fallback

def members (enumeration : String) (names : List String) : List (String × String) :=
  names.map fun name => (name, enumeration ++ "." ++ name)

def alignments : TokenTable :=
  ⟨members "Alignment" ["topLeft", "topCenter", "topRight", "centerLeft", "center", "centerRight", "bottomLeft",
      "bottomCenter", "bottomRight"] ++
    [("top", "Alignment.topCenter"), ("bottom", "Alignment.bottomCenter"), ("left", "Alignment.centerLeft"),
      ("right", "Alignment.centerRight")],
    "Alignment.center"⟩

def mainAxisAlignments : TokenTable :=
  ⟨members "MainAxisAlignment" ["start", "end", "center", "spaceBetween", "spaceAround", "spaceEvenly"],
    "MainAxisAlignment.start"⟩

def crossAxisAlignments : TokenTable :=
  ⟨members "CrossAxisAlignment" ["start", "end", "center", "stretch", "baseline"], "CrossAxisAlignment.center"⟩

def mainAxisSizes : TokenTable :=
  ⟨members "MainAxisSize" ["min"], "MainAxisSize.max"⟩

def textAligns : TokenTable :=
  ⟨members "TextAlign" ["left", "right", "center", "justify", "start", "end"], "TextAlign.left"⟩

def textOverflows : TokenTable :=
  ⟨members "TextOverflow" ["clip", "fade", "ellipsis", "visible"], "TextOverflow.ellipsis"⟩

def weightNumbers : List String :=
  ["100", "200", "300", "400", "500", "600", "700", "800", "900"]

def fontWeights : TokenTable :=
  ⟨members "FontWeight" (["normal", "bold"] ++ weightNumbers.map ("w" ++ ·)) ++
      weightNumbers.map (fun n => (n, "FontWeight.w" ++ n)),
    "FontWeight.normal"⟩

def fontStyles : TokenTable :=
  ⟨members "FontStyle" ["italic"], "FontStyle.normal"⟩

def textDecorations : TokenTable :=
  ⟨members "TextDecoration" ["underline", "overline", "lineThrough"] ++
      [("line-through", "TextDecoration.lineThrough")],
    "TextDecoration.none"⟩

def boxFits : TokenTable :=
  ⟨members "BoxFit" ["fill", "contain", "cover", "fitWidth", "fitHeight", "none", "scaleDown"], "BoxFit.contain"⟩

def axes : TokenTable :=
  ⟨members "Axis" ["horizontal"], "Axis.vertical"⟩

def stackFits : TokenTable :=
  ⟨members "StackFit" ["loose", "expand", "passthrough"], "StackFit.loose"⟩

def flexFits : TokenTable :=
  ⟨members "FlexFit" ["tight"], "FlexFit.loose"⟩

def wrapAlignments : TokenTable :=
  ⟨members "WrapAlignment" ["start", "end", "center", "spaceBetween", "spaceAround", "spaceEvenly"],
    "WrapAlignment.start"⟩

def scrollPhysics : TokenTable :=
  ⟨[("never", "NeverScrollableScrollPhysics()"), ("bouncing", "BouncingScrollPhysics()"),
      ("clamping", "ClampingScrollPhysics()"), ("always", "AlwaysScrollableScrollPhysics()")],
    "BouncingScrollPhysics()"⟩

def keyboardTypes : TokenTable :=
  ⟨[("text", "TextInputType.text"), ("number", "TextInputType.number"), ("email", "TextInputType.emailAddress"),
      ("emailAddress", "TextInputType.emailAddress"), ("phone", "TextInputType.phone"), ("url", "TextInputType.url"),
      ("multiline", "TextInputType.multiline"), ("datetime", "TextInputType.datetime")],
    "TextInputType.text"⟩

def fontWeightOf : Value → String
  | .text s => fontWeights.read s
  | .number x => fontWeights.read (intText ((x.round?.map clampInteger).getD 0))
  | _ => fontWeights.fallback

end WidgetSource.Dart
