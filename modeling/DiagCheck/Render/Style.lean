import DiagCheck.Render.Output

/-!
# Styles

Terminal styles are switched on by escape sequences. Each sequence is an escape character, an
opening bracket, a parameter and the letter `m`.
-/

namespace DiagCheck

inductive Style where
  | reset
  | bold
  | red
  | green
  | yellow
  | cyan
  | redBackground
  | orangeBackground
  deriving DecidableEq, Repr

namespace Style

def escape : Char := '\x1b'

/-- What stands between the bracket and the final letter. -/
def parameter : Style → Text
  | reset => "0".toList
  | bold => "1".toList
  | red => "31".toList
  | green => "32".toList
  | yellow => "33".toList
  | cyan => "36".toList
  | redBackground => "48;5;160".toList
  | orangeBackground => "48;5;202".toList

def code (s : Style) : Text := [escape, '['] ++ s.parameter ++ ['m']

def ofLevel : Level → Style
  | .none => reset
  | .warning => orangeBackground
  | .error => redBackground

theorem parameter_injective {s t : Style} (h : s.parameter = t.parameter) : s = t := by
  cases s <;> cases t <;> first | rfl | exact absurd h (by decide)

theorem code_injective {s t : Style} (h : s.code = t.code) : s = t := by
  apply parameter_injective
  simpa [code] using h

/-- A parameter has neither an escape character nor the letter that ends a sequence. -/
theorem parameter_plain (s : Style) : escape ∉ s.parameter ∧ 'm' ∉ s.parameter := by
  cases s <;> decide

end Style

/-- The output between the codes of `styles` and a reset, if there is anything to switch on. The
reset is written also behind an output that was stopped. -/
def Output.styled (enabled : Bool) (styles : List Style) (x : Output α) : Output α :=
  if enabled && !styles.isEmpty then
    ⟨styles.flatMap Style.code ++ x.text ++ Style.reset.code, x.result⟩
  else x

@[simp] theorem Output.styled_false (styles : List Style) (x : Output α) :
    x.styled false styles = x := rfl

@[simp] theorem Output.styled_nil (enabled : Bool) (x : Output α) : x.styled enabled [] = x := by
  simp [Output.styled]

@[simp] theorem Output.result_styled (enabled : Bool) (styles : List Style) (x : Output α) :
    (x.styled enabled styles).result = x.result := by
  unfold Output.styled
  split <;> rfl

end DiagCheck
