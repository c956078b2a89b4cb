import WidgetSource.Widget.Node

namespace WidgetSource

inductive Kind
  | scaffold | appBar
  | container | padding | center | sizedBox | align | expanded | flexible | positioned | card
  | column | row | stack | listView | gridView | wrap
  | text | icon | image | divider | listTile
  | button | elevatedButton | textButton | outlinedButton | iconButton
  | textField | checkbox | switch | radio | slider
  | generic
  deriving DecidableEq, Repr

/-- How a kind takes children: not at all, one, a list, or in slots of its own. -/
inductive Cardinality
  | leaf | single | multi | slots
  deriving DecidableEq, Repr

namespace Kind

def spellings : List (String × Kind) := [
  ("scaffold", .scaffold), ("appbar", .appBar), ("container", .container), ("padding", .padding), ("center", .center),
  ("sizedbox", .sizedBox), ("align", .align), ("expanded", .expanded), ("flexible", .flexible),
  ("positioned", .positioned), ("card", .card), ("column", .column), ("row", .row), ("stack", .stack),
  ("listview", .listView), ("gridview", .gridView), ("wrap", .wrap), ("text", .text), ("icon", .icon),
  ("image", .image), ("divider", .divider), ("listtile", .listTile), ("button", .button),
  ("elevatedbutton", .elevatedButton), ("textbutton", .textButton), ("outlinedbutton", .outlinedButton),
  ("iconbutton", .iconButton), ("textfield", .textField), ("checkbox", .checkbox), ("switch", .switch),
  ("radio", .radio), ("slider", .slider)]

def ofType (type : String) : Kind :=
  (spellings.lookup (normalizeType type)).getD .generic

def cardinality : Kind → Cardinality
  | .scaffold => .slots
  | .container | .padding | .center | .sizedBox | .align | .expanded | .flexible | .positioned | .card
  | .button | .elevatedButton | .textButton | .outlinedButton => .single
  | .column | .row | .stack | .listView | .gridView | .wrap | .generic => .multi
  | .appBar | .text | .icon | .image | .divider | .listTile | .iconButton | .textField | .checkbox | .switch
  | .radio | .slider => .leaf

def hasConstConstructor : Kind → Bool
  | .container | .appBar | .listView | .gridView | .image | .checkbox | .switch | .radio | .slider => false
  | _ => true

def isNamed (kind : Kind) : Bool :=
  kind != .generic

end Kind

def Node.kind (node : Node) : Kind :=
  Kind.ofType node.type

end WidgetSource
