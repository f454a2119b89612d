import OneFile.Style.Reading

/-!
# Colors

A color that is given by its components is kept with eight bits for each of them, whatever way it
was written, and is written in the shortest way: by name or by hexadecimal digits.

## Main definitions

* `OneFile.Style.Color`
* `OneFile.Style.Color.read` — a color in any notation.
* `OneFile.Style.Color.write`
-/

namespace OneFile.Style

/-- A color. -/
inductive Color where
  /-- Red, green, blue and opacity, each from 0 to 255. -/
  | components (red green blue alpha : Nat)
  /-- The color of the text. -/
  | current
  /-- A color of the system's own, by its name in lower case. -/
  | system (name : Text)
deriving DecidableEq, Repr

namespace Color

/-! ### Names -/

/-- The colors that have names, as three bytes. -/
def named : List (String × Nat) := [
  ("aliceblue", 0xF0F8FF), ("antiquewhite", 0xFAEBD7), ("aqua", 0x00FFFF), ("aquamarine", 0x7FFFD4),
  ("azure", 0xF0FFFF), ("beige", 0xF5F5DC), ("bisque", 0xFFE4C4), ("black", 0x000000),
  ("blanchedalmond", 0xFFEBCD), ("blue", 0x0000FF), ("blueviolet", 0x8A2BE2), ("brown", 0xA52A2A),
  ("burlywood", 0xDEB887), ("cadetblue", 0x5F9EA0), ("chartreuse", 0x7FFF00),
  ("chocolate", 0xD2691E), ("coral", 0xFF7F50), ("cornflowerblue", 0x6495ED),
  ("cornsilk", 0xFFF8DC), ("crimson", 0xDC143C), ("cyan", 0x00FFFF), ("darkblue", 0x00008B),
  ("darkcyan", 0x008B8B), ("darkgoldenrod", 0xB8860B), ("darkgray", 0xA9A9A9),
  ("darkgreen", 0x006400), ("darkgrey", 0xA9A9A9), ("darkkhaki", 0xBDB76B),
  ("darkmagenta", 0x8B008B), ("darkolivegreen", 0x556B2F), ("darkorange", 0xFF8C00),
  ("darkorchid", 0x9932CC), ("darkred", 0x8B0000), ("darksalmon", 0xE9967A),
  ("darkseagreen", 0x8FBC8F), ("darkslateblue", 0x483D8B), ("darkslategray", 0x2F4F4F),
  ("darkslategrey", 0x2F4F4F), ("darkturquoise", 0x00CED1), ("darkviolet", 0x9400D3),
  ("deeppink", 0xFF1493), ("deepskyblue", 0x00BFFF), ("dimgray", 0x696969), ("dimgrey", 0x696969),
  ("dodgerblue", 0x1E90FF), ("firebrick", 0xB22222), ("floralwhite", 0xFFFAF0),
  ("forestgreen", 0x228B22), ("fuchsia", 0xFF00FF), ("gainsboro", 0xDCDCDC),
  ("ghostwhite", 0xF8F8FF), ("gold", 0xFFD700), ("goldenrod", 0xDAA520), ("gray", 0x808080),
  ("green", 0x008000), ("greenyellow", 0xADFF2F), ("grey", 0x808080), ("honeydew", 0xF0FFF0),
  ("hotpink", 0xFF69B4), ("indianred", 0xCD5C5C), ("indigo", 0x4B0082), ("ivory", 0xFFFFF0),
  ("khaki", 0xF0E68C), ("lavender", 0xE6E6FA), ("lavenderblush", 0xFFF0F5), ("lawngreen", 0x7CFC00),
  ("lemonchiffon", 0xFFFACD), ("lightblue", 0xADD8E6), ("lightcoral", 0xF08080),
  ("lightcyan", 0xE0FFFF), ("lightgoldenrodyellow", 0xFAFAD2), ("lightgray", 0xD3D3D3),
  ("lightgreen", 0x90EE90), ("lightgrey", 0xD3D3D3), ("lightpink", 0xFFB6C1),
  ("lightsalmon", 0xFFA07A), ("lightseagreen", 0x20B2AA), ("lightskyblue", 0x87CEFA),
  ("lightslategray", 0x778899), ("lightslategrey", 0x778899), ("lightsteelblue", 0xB0C4DE),
  ("lightyellow", 0xFFFFE0), ("lime", 0x00FF00), ("limegreen", 0x32CD32), ("linen", 0xFAF0E6),
  ("magenta", 0xFF00FF), ("maroon", 0x800000), ("mediumaquamarine", 0x66CDAA),
  ("mediumblue", 0x0000CD), ("mediumorchid", 0xBA55D3), ("mediumpurple", 0x9370DB),
  ("mediumseagreen", 0x3CB371), ("mediumslateblue", 0x7B68EE), ("mediumspringgreen", 0x00FA9A),
  ("mediumturquoise", 0x48D1CC), ("mediumvioletred", 0xC71585), ("midnightblue", 0x191970),
  ("mintcream", 0xF5FFFA), ("mistyrose", 0xFFE4E1), ("moccasin", 0xFFE4B5),
  ("navajowhite", 0xFFDEAD), ("navy", 0x000080), ("oldlace", 0xFDF5E6), ("olive", 0x808000),
  ("olivedrab", 0x6B8E23), ("orange", 0xFFA500), ("orangered", 0xFF4500), ("orchid", 0xDA70D6),
  ("palegoldenrod", 0xEEE8AA), ("palegreen", 0x98FB98), ("paleturquoise", 0xAFEEEE),
  ("palevioletred", 0xDB7093), ("papayawhip", 0xFFEFD5), ("peachpuff", 0xFFDAB9),
  ("peru", 0xCD853F), ("pink", 0xFFC0CB), ("plum", 0xDDA0DD), ("powderblue", 0xB0E0E6),
  ("purple", 0x800080), ("rebeccapurple", 0x663399), ("red", 0xFF0000), ("rosybrown", 0xBC8F8F),
  ("royalblue", 0x4169E1), ("saddlebrown", 0x8B4513), ("salmon", 0xFA8072),
  ("sandybrown", 0xF4A460), ("seagreen", 0x2E8B57), ("seashell", 0xFFF5EE), ("sienna", 0xA0522D),
  ("silver", 0xC0C0C0), ("skyblue", 0x87CEEB), ("slateblue", 0x6A5ACD), ("slategray", 0x708090),
  ("slategrey", 0x708090), ("snow", 0xFFFAFA), ("springgreen", 0x00FF7F), ("steelblue", 0x4682B4),
  ("tan", 0xD2B48C), ("teal", 0x008080), ("thistle", 0xD8BFD8), ("tomato", 0xFF6347),
  ("turquoise", 0x40E0D0), ("violet", 0xEE82EE), ("wheat", 0xF5DEB3), ("white", 0xFFFFFF),
  ("whitesmoke", 0xF5F5F5), ("yellow", 0xFFFF00), ("yellowgreen", 0x9ACD32)]

/-- The names that are shorter than the hexadecimal digits of their colors. -/
def shortNames : List String := [
  "navy", "green", "teal", "indigo", "maroon", "purple", "olive", "gray", "sienna", "brown",
  "silver", "peru", "tan", "orchid", "plum", "violet", "khaki", "azure", "wheat", "beige", "salmon",
  "linen", "red", "tomato", "coral", "orange", "pink", "gold", "bisque", "snow", "ivory"]

/-- The names of the colors of the system. -/
def systemNames : List String := [
  "accentcolor", "accentcolortext", "activetext", "buttonborder", "buttonface", "buttontext",
  "canvas", "canvastext", "field", "fieldtext", "graytext", "highlight", "highlighttext",
  "linktext", "mark", "marktext", "selecteditem", "selecteditemtext", "visitedtext", "activeborder",
  "activecaption", "appworkspace", "background", "buttonhighlight", "buttonshadow", "captiontext",
  "inactiveborder", "inactivecaption", "inactivecaptiontext", "infobackground", "infotext", "menu",
  "menutext", "scrollbar", "threeddarkshadow", "threedface", "threedhighlight", "threedlightshadow",
  "threedshadow", "window", "windowframe", "windowtext"]

/-- An opaque color, from its three bytes. -/
def ofBytes (n : Nat) : Color := components (n / 0x10000) (n / 0x100 % 0x100) (n % 0x100) 255

/-- No color at all. -/
def transparent : Color := components 0 0 0 0

/-- The color of the given name, which is in lower case. -/
def ofName? (name : Text) : Option Color :=
  if name = "transparent".toList then some transparent
  else if name = "currentcolor".toList then some current
  else
    match named.find? fun entry => entry.1.toList = name with
    | some (_, n) => some (ofBytes n)
    | none => if Keyword.isAmong systemNames name then some (system name) else none

/-! ### Hexadecimal digits -/

/-- The color of hexadecimal digits: one or two for each of three or four components. -/
def ofHex? (ds : Text) : Option Color := do
  let values ← ds.mapM hexDigit?
  match values with
  | [r, g, b] => some (components (r * 17) (g * 17) (b * 17) 255)
  | [r, g, b, a] => some (components (r * 17) (g * 17) (b * 17) (a * 17))
  | [r, r', g, g', b, b'] => some (components (r * 16 + r') (g * 16 + g') (b * 16 + b') 255)
  | [r, r', g, g', b, b', a, a'] =>
    some (components (r * 16 + r') (g * 16 + g') (b * 16 + b') (a * 16 + a'))
  | _ => none

/-! ### Functions -/

/-- A part of one as a component, which is cut off at 0 and 255. -/
def byte (q : Rat) : Nat := min 255 (Single.roundUp (q * 255)).toNat

/-- What is written in place of a number: the number, and whether it is a percentage. -/
def part : Reading (Rat × Bool) := Reading.accept fun n =>
  match n with
  | .leaf (.number v) _ => some (v.value, false)
  | .leaf (.percentage v) _ => some (v.value, true)
  | _ => none

/-- An angle in degrees. -/
def hue : Reading Rat := Reading.accept fun n =>
  match n with
  | .leaf (.number v) _ => some v.value
  | .leaf (.dimension v unit) _ =>
    match String.ofList (Text.lower unit) with
    | "deg" => some v.value
    | "grad" => some (v.value * 9 / 10)
    | "turn" => some (v.value * 360)
    | _ => none
  | _ => none

/-- The opacity after `separator`, if there is one. -/
def opacity (separator : Reading Unit) : Reading Nat := do
  match ← Reading.attempt separator with
  | none => return 255
  | some () => return byte (← part).1

/-- Three components and the opacity, with commas or with blanks between them. -/
def triple {α β : Type} (first : Reading α) (other : Reading β) : Reading (α × β × β × Nat) := do
  let a ← first
  let commas ← Reading.passes Reading.comma
  let b ← other
  if commas then Reading.comma
  let c ← other
  let alpha ← opacity (if commas then Reading.comma else Reading.delim '/')
  return (a, b, c, alpha)

/-- A color by its red, green and blue. -/
def rgb : Reading Color := do
  let (r, g, b, alpha) ← triple part part
  guard (r.2 = g.2 ∧ g.2 = b.2)
  let component (p : Rat × Bool) : Nat := byte (if p.2 then p.1 else p.1 / 255)
  return components (component r) (component g) (component b) alpha

/-- The component at the given place of the color wheel. -/
def wheel (low high h : Rat) : Rat :=
  let h := h - 360 * (h / 360).floor
  if h < 60 then low + (high - low) * h / 60
  else if h < 180 then high
  else if h < 240 then low + (high - low) * (240 - h) / 60
  else low

/-- A part of one, which is cut off at both ends. -/
def clamp (q : Rat) : Rat := if q < 0 then 0 else if 1 < q then 1 else q

/-- A color by its place on the color wheel, and how far it is from gray and from black. -/
def hsl : Reading Color := do
  let percentage : Reading Rat := do
    let (q, isPercentage) ← part
    guard isPercentage
    return clamp q
  let (h, s, l, alpha) ← triple hue percentage
  let high := if 2 * l ≤ 1 then l * (s + 1) else l + s - l * s
  let low := 2 * l - high
  return components (byte (wheel low high (h + 120))) (byte (wheel low high h))
    (byte (wheel low high (h - 120))) alpha

/-- A color by its place on the color wheel, and how much white and black is in it. -/
def hwb : Reading Color := do
  let percentage : Reading Rat := do
    let (q, isPercentage) ← part
    guard isPercentage
    return clamp q
  let (h, w, b, alpha) ← triple hue percentage
  let component (h : Rat) : Nat :=
    if 1 ≤ w + b then byte (w / (w + b)) else byte (wheel 0 1 h * (1 - w - b) + w)
  return components (component (h + 120)) (component h) (component (h - 120)) alpha

/-- What reads the arguments of the function with the given name, in lower case. -/
def function? (name : Text) : Option (Reading Color) :=
  match String.ofList name with
  | "rgb" | "rgba" => some rgb
  | "hsl" | "hsla" => some hsl
  | "hwb" => some hwb
  | _ => none

/-- The color that a node stands for, unless it is a name. -/
def ofNode? : Node → Option Color
  | .leaf (.hash ds _) _ => ofHex? ds
  | .block (.call f) _ children _ => (function? (Text.lower f)).bind fun r => r.all children
  | _ => none

/-- A color in any notation. -/
def read : Reading Color := Reading.accept fun n =>
  match n with
  | .leaf (.ident name) _ => ofName? (Text.lower name)
  | _ => ofNode? n

/-! ### Writing -/

/-- Two hexadecimal digits. -/
def writeByte (n : Nat) : Text := [Nat.digitChar (n / 16), Nat.digitChar (n % 16)]

/-- Components in hexadecimal digits, one for each if that is enough. -/
def writeBytes (bytes : List Nat) : Text :=
  '#' :: (if bytes.all fun n => n / 16 == n % 16 then bytes.map fun n => Nat.digitChar (n % 16)
    else bytes.flatMap writeByte)

/-- The short name of an opaque color. -/
def shortName? (red green blue : Nat) : Option String :=
  shortNames.find? fun name => ofName? name.toList = some (components red green blue 255)

/-- A color in the shortest way. -/
def write : Color → Text
  | components r g b 255 =>
    match shortName? r g b with
    | some name => name.toList
    | none => writeBytes [r, g, b]
  | components r g b a => writeBytes [r, g, b, a]
  | current => "currentColor".toList
  | system name => name

end Color

end OneFile.Style
