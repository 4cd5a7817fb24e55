import DiagCheck.Render.Output

/-!
# Highlights

Every source character is marked by the diagnostics whose spans cover it: by an error if one of
them is an error, otherwise by a warning. A diagnostic that misses an end of its span marks
nothing, and one that points behind the end of the source is a fault.
-/

namespace DiagCheck.Highlight

def Covers (d : Diagnostic) (i : Nat) : Prop := d.hasSpan = true ∧ d.start ≤ i ∧ (i : Int) < d.stop

instance (d : Diagnostic) (i : Nat) : Decidable (Covers d i) :=
  inferInstanceAs (Decidable (_ ∧ _))

/-- The diagnostic has a span that does not lie in a source of `length` characters. -/
def Outside (length : Nat) (d : Diagnostic) : Prop :=
  d.hasSpan = true ∧ ((length : Int) < d.start ∨ (length : Int) < d.stop)

instance (length : Nat) (d : Diagnostic) : Decidable (Outside length d) :=
  inferInstanceAs (Decidable (_ ∧ _))

/-- Marks what the diagnostic covers, unless a stronger mark is there. -/
def paint (d : Diagnostic) (levels : List Level) : List Level :=
  levels.mapIdx fun i l => if Covers d i then l.join d.level else l

def fault (length : Nat) (d : Diagnostic) : Render.Fault :=
  if d.Writable then .outsideSource d.start d.stop length else .offsetTooLong

/-- Marks by the diagnostics in their order, up to the first that points outside. -/
def paintAll (length : Nat) : List Diagnostic → List Level → Except Render.Fault (List Level)
  | [], levels => .ok levels
  | d :: ds, levels =>
    if Outside length d then .error (fault length d)
    else paintAll length ds (paint d levels)

def levels (length : Nat) (ds : List Diagnostic) : Except Render.Fault (List Level) :=
  paintAll length ds (List.replicate length .none)

@[simp] theorem length_paint (d : Diagnostic) (levels : List Level) :
    (paint d levels).length = levels.length := by simp [paint]

theorem getElem?_paint (d : Diagnostic) (levels : List Level) (i : Nat) :
    (paint d levels)[i]? = levels[i]?.map fun l => if Covers d i then l.join d.level else l := by
  simp [paint]

theorem length_paintAll {length : Nat} {ds : List Diagnostic} {levels painted : List Level}
    (h : paintAll length ds levels = .ok painted) : painted.length = levels.length := by
  induction ds generalizing levels with
  | nil => cases h; rfl
  | cons d ds ih =>
    simp only [paintAll] at h
    split at h
    · cases h
    · simpa using ih h

theorem length_levels {length : Nat} {ds : List Diagnostic} {painted : List Level}
    (h : levels length ds = .ok painted) : painted.length = length := by
  simpa using length_paintAll h

end DiagCheck.Highlight
