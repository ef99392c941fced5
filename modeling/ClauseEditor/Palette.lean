import ClauseEditor.Text.CodePoint

/-!
# Colour schemes

A palette gives a colour to the ground, to plain text and to every kind of
token.  There is a dark and a light one; a name that is not known means the
dark one.
-/

namespace ClauseEditor

/-- A colour by its red, green and blue bytes. -/
structure Colour where
  code : Nat
deriving DecidableEq

/-- The colour as a hash sign and six hexadecimal digits. -/
def Colour.hex (colour : Colour) : Text :=
  let digits :=
    (Nat.toDigits 16 (colour.code % 0x1000000)).map CodePoint.ofChar
  Text.ofString "#" ++ Text.zeros (6 - digits.length) ++ digits

structure Palette where
  background : Colour
  foreground : Colour
  keyword : Colour
  constant : Colour
  operator : Colour
  type : Colour
  declaration : Colour
  comment : Colour
  string : Colour
  number : Colour
deriving DecidableEq

namespace Palette

def dark : Palette where
  background := ⟨0x282C34⟩
  foreground := ⟨0xABB2BF⟩
  keyword := ⟨0xC678DD⟩
  constant := ⟨0xD19A66⟩
  operator := ⟨0x56B6C2⟩
  type := ⟨0x61AFEF⟩
  declaration := ⟨0xE5C07B⟩
  comment := ⟨0x5C6370⟩
  string := ⟨0x98C379⟩
  number := ⟨0xD19A66⟩

def light : Palette where
  background := ⟨0xFAFAFA⟩
  foreground := ⟨0x383A42⟩
  keyword := ⟨0xA626A4⟩
  constant := ⟨0xC18401⟩
  operator := ⟨0x0997B3⟩
  type := ⟨0x0184BC⟩
  declaration := ⟨0x795DA3⟩
  comment := ⟨0x6A737D⟩
  string := ⟨0x50A14F⟩
  number := ⟨0x986801⟩

end Palette

/-- The schemes that a user can choose from. -/
inductive ColourScheme where
  | dark
  | light
deriving DecidableEq

namespace ColourScheme

/-- All schemes in the order of the menu. -/
def all : List ColourScheme := [dark, light]

/-- The name of a scheme in the settings. -/
def name : ColourScheme → Text
  | dark => Text.ofString "dark"
  | light => Text.ofString "light"

/-- The name of a scheme in the menu. -/
def title : ColourScheme → Text
  | dark => Text.ofString "Dark"
  | light => Text.ofString "Light"

def ofName? (name : Text) : Option ColourScheme :=
  all.find? (·.name = name)

def palette : ColourScheme → Palette
  | dark => .dark
  | light => .light

end ColourScheme

/-- The palette of the scheme with that name, or else the dark one. -/
def Palette.named (name : Text) : Palette :=
  ((ColourScheme.ofName? name).map ColourScheme.palette).getD .dark

end ClauseEditor
