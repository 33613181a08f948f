/-!
# Styled text

Text with weights and colours for a terminal, which can be shown with them or without.

## Main definitions

* `Style` : weights and a colour.
* `Styled` : pieces of text, each with a style.
* `Styled.render` : the text, with escape codes where they are wanted.

## Main results

* `Styled.render_append` : pieces are shown one after the other.
-/

namespace StringsAudit
namespace Text

/-- A colour of a terminal. -/
inductive Color where
  | red
  | green
  | yellow
  | blue
  | cyan
  deriving DecidableEq, Repr

/-- The escape code of a colour. -/
def Color.code : Color → Nat
  | .red => 31
  | .green => 32
  | .yellow => 33
  | .blue => 34
  | .cyan => 36

/-- Weights and a colour. -/
structure Style where
  bold : Bool
  dimmed : Bool
  color? : Option Color
  deriving DecidableEq, Repr

namespace Style

/-- Text as it is. -/
def plain : Style :=
  ⟨false, false, none⟩

/-- Bold text. -/
def strong : Style :=
  ⟨true, false, none⟩

/-- Bold text in a colour. -/
def strongIn (color : Color) : Style :=
  ⟨true, false, some color⟩

/-- Dimmed text in a colour. -/
def faintIn (color : Color) : Style :=
  ⟨false, true, some color⟩

/-- Text in a colour. -/
def inColor (color : Color) : Style :=
  ⟨false, false, some color⟩

/-- The escape codes of a style, weights first. -/
def codes (style : Style) : List Nat :=
  (if style.bold then [1] else []) ++ (if style.dimmed then [2] else [])
    ++ (style.color?.map Color.code).toList

end Style

/-- A piece of text with a style. -/
structure Span where
  style : Style
  text : String
  deriving DecidableEq, Repr

/-- What starts an escape code. -/
def escapeStart : String := "\x1b["

/-- A piece of text between its escape codes, if there are any. -/
def Span.render (colored : Bool) (span : Span) : String :=
  if !colored || span.style.codes.isEmpty then span.text
  else
    escapeStart ++ ";".intercalate (span.style.codes.map toString) ++ "m" ++ span.text
      ++ escapeStart ++ "0m"

/-- Pieces of text, each with a style. -/
abbrev Styled := List Span

namespace Styled

/-- Text as it is. -/
def plain (text : String) : Styled :=
  [⟨.plain, text⟩]

/-- Bold text. -/
def strong (text : String) : Styled :=
  [⟨.strong, text⟩]

/-- Bold text in a colour. -/
def strongIn (color : Color) (text : String) : Styled :=
  [⟨.strongIn color, text⟩]

/-- Dimmed text in a colour. -/
def faintIn (color : Color) (text : String) : Styled :=
  [⟨.faintIn color, text⟩]

/-- Text in a colour. -/
def inColor (color : Color) (text : String) : Styled :=
  [⟨.inColor color, text⟩]

/-- The text, with escape codes where they are wanted. -/
def render (colored : Bool) (styled : Styled) : String :=
  String.join (styled.map (Span.render colored))

/-- Pieces with a space between them. -/
def spaced (pieces : List Styled) : Styled :=
  (pieces.intersperse (plain " ")).flatten

/-- Lines, each with its line feed. -/
def renderLines (colored : Bool) (lines : List Styled) : String :=
  String.join (lines.map fun line => render colored line ++ "\n")

/-- Pieces are shown one after the other. -/
@[simp] theorem render_append
    (colored : Bool)
    (a b : Styled) :
    render colored (a ++ b) = render colored a ++ render colored b := by
  simp [render]

end Styled
end Text
end StringsAudit
