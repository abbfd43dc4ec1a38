import SolInterface.Text.Basic

/-!
The console that a batch prints to. How it reads markup and draws its progress display is left open
here: a batch takes any console, and all that matters to it is which texts cannot be shown.
-/
namespace SolInterface

namespace Console

/-- Why a text cannot be shown. -/
inductive Fault where
  /-- A tag closes what is not open. -/
  | notOpen
  /-- The arguments of an action are no values. -/
  | badArguments
  /-- A colour has a part that is no number. -/
  | badColour
  deriving DecidableEq, Repr

def Fault.message : Fault → Text
  | notOpen => "A tag closes what is not open"
  | badArguments => "The arguments of an action are no values"
  | badColour => "A part of a colour is no number"

/-- The styles in which messages are set off. -/
inductive Style where
  | red | green | yellow | blue | bold
  deriving DecidableEq, Repr

namespace Style

def name : Style → Text
  | red => "red"
  | green => "green"
  | yellow => "yellow"
  | blue => "blue"
  | bold => "bold"

/-- The text between the tags of the style. -/
def tagged (s : Style) (t : Text) : Text := Text.cat ["[", s.name, "]", t, "[/", s.name, "]"]

end Style
end Console

structure Console where
  /-- What is printed for a text with markup. -/
  render : Text → Except Console.Fault Text
  /-- The lines of the progress display over a description with markup, for work that is finished
  or not. -/
  progress : Bool → Text → Except Console.Fault (List Text)

end SolInterface
