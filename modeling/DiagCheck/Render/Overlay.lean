import DiagCheck.Render.Style
import DiagCheck.Render.Highlight

/-!
# Source overlays

A source is shown line by line behind a lead. In colour each character carries the style of its
level; every line is closed by a reset and the style is opened again behind the next lead.
-/

namespace DiagCheck.Overlay

/-- The plain form: the lead before every line and a newline after it. -/
def plainText (lead source : Text) : Text :=
  (Text.lines source).flatMap fun line => lead ++ line.filter (· != '\n') ++ ['\n']

/-- The characters in their styles; `current` is the style that was switched on last. -/
def styledFrom (lead : Text) (current : Option Style) : List (Char × Style) → Text
  | [] => []
  | (c, s) :: rest =>
    (if current = some s then [] else s.code) ++
      (if c = '\n' then
        Style.reset.code ++ ['\n'] ++ if rest.isEmpty then [] else lead ++ s.code
      else [c]) ++ styledFrom lead (some s) rest

/-- The coloured form of a source with the given levels. Nothing is shown of an empty source. -/
def styledText (lead source : Text) (levels : List Level) : Text :=
  if source = [] then []
  else lead ++ styledFrom lead none (source.zip (levels.map Style.ofLevel)) ++ Style.reset.code

/-- Shows the source, in colour only if the diagnostics all lie inside it. -/
def print (lead source : Text) (ds : List Diagnostic) (formatted : Bool) : Output Unit :=
  if !formatted then Output.write (plainText lead source)
  else if source = [] then Output.pure ()
  else match Highlight.levels source.length ds with
    | .error e => Output.fail e
    | .ok levels => Output.write (styledText lead source levels)

theorem print_plain (lead source : Text) (ds : List Diagnostic) :
    print lead source ds false = ⟨plainText lead source, .ok ()⟩ := rfl

theorem text_of_print_error {lead source : Text} {ds : List Diagnostic} {formatted : Bool}
    {e : Render.Fault} (h : (print lead source ds formatted).result = .error e) :
    (print lead source ds formatted).text = [] := by
  unfold print at h ⊢
  split at h
  · cases h
  · split at h
    · cases h
    · split at h <;> simp_all [Output.fail, Output.write]

end DiagCheck.Overlay
