set_option autoImplicit false

namespace ThreeAddress.Terminal

inductive Color where
  | red
  | green
  | yellow
  | blue
  | magenta
  | cyan
  | white
deriving DecidableEq

def Color.code : Color → String
  | .red => "91"
  | .green => "32"
  | .yellow => "33"
  | .blue => "34"
  | .magenta => "35"
  | .cyan => "36"
  | .white => "37"

def escape : Char := '\x1b'

def Color.start (color : Color) : List Char := escape :: '[' :: (color.code ++ "m").toList

def reset : List Char := [escape, '[', '0', 'm']

def reopen (again : List Char) : List Char → List Char
  | '\x1b' :: '[' :: '0' :: 'm' :: tail => reset ++ again ++ reopen again tail
  | c :: tail => c :: reopen again tail
  | [] => []

structure Piece where
  color : Option Color
  text : String
deriving DecidableEq

namespace Piece

def plain (text : String) : Piece := ⟨none, text⟩

def painted (color : Color) (text : String) : Piece := ⟨some color, text⟩

def chars (colored : Bool) (piece : Piece) : List Char :=
  match colored, piece.color with
  | true, some color => color.start ++ reopen color.start piece.text.toList ++ reset
  | _, _ => piece.text.toList

end Piece

abbrev Styled := List Piece

def Styled.chars (colored : Bool) (styled : Styled) : List Char :=
  styled.flatMap (Piece.chars colored)

end ThreeAddress.Terminal
