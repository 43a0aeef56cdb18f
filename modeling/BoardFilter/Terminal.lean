/-!
# Styled text

Text for a terminal, with the codes that switch a style on before it and off after it.
-/

namespace BoardFilter.Terminal

inductive Colour where
  | red
  | green
  | yellow
  | blue
deriving DecidableEq, Repr, Inhabited

def Colour.code : Colour → String
  | red => "31"
  | green => "32"
  | yellow => "33"
  | blue => "34"

def escape (code : String) : String := "\x1b[" ++ code ++ "m"

def coloured (c : Colour) (s : String) : String := escape c.code ++ s ++ escape "39"

def bold (s : String) : String := escape "1" ++ s ++ escape "0"

def dimmed (s : String) : String := escape "2" ++ s ++ escape "0"

def padLeft (width : Nat) (s : String) : String :=
  String.ofList (List.replicate (width - s.length) ' ') ++ s

end BoardFilter.Terminal
