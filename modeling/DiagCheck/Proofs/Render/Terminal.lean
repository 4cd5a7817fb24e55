import DiagCheck.Proofs.Render.Erasure

/-! Coloured sources on a terminal. A terminal that receives a coloured source shows the lead in
front of every line in plain style and each character in the style of its level, and it is plain
again behind the source. -/
namespace DiagCheck

/-- A terminal knows a style by the sequence that switches it on. It is plain after a reset, and
when nothing has been received. -/
def Style.plain : Text := reset.code

open Style (escape plain)

structure Terminal where
  style : Text := plain
  shown : List (Char × Text) := []
  /-- What has come of a sequence that is not complete. -/
  pending : Option Text := none

namespace Terminal

/-- A sequence begins with an escape character and ends with an `m`. Every other character is
shown in the style of the last sequence. -/
def receive (t : Terminal) (c : Char) : Terminal :=
  match t.pending with
  | some begun =>
    if c = 'm' then { t with style := begun ++ [c], pending := none }
    else { t with pending := some (begun ++ [c]) }
  | none =>
    if c = escape then { t with pending := some [c] }
    else { t with shown := t.shown ++ [(c, t.style)] }

def receiveAll (t : Terminal) (x : Text) : Terminal := x.foldl receive t

variable {style : Text} {shown : List (Char × Text)}

@[simp] theorem receiveAll_nil (t : Terminal) : t.receiveAll [] = t := rfl

theorem receiveAll_cons (t : Terminal) (c : Char) (x : Text) :
    t.receiveAll (c :: x) = (t.receive c).receiveAll x := rfl

@[simp] theorem receiveAll_append (t : Terminal) (x y : Text) :
    t.receiveAll (x ++ y) = (t.receiveAll x).receiveAll y :=
  List.foldl_append

theorem receiveAll_pending {p : Text} (h : 'm' ∉ p) (begun : Text) :
    receiveAll ⟨style, shown, some begun⟩ (p ++ ['m']) = ⟨begun ++ p ++ ['m'], shown, none⟩ := by
  induction p generalizing begun with
  | nil => simp [receiveAll, receive]
  | cons c p ih =>
    simp only [List.mem_cons, not_or] at h
    obtain ⟨other, rest⟩ := h
    have step : receive ⟨style, shown, some begun⟩ c = ⟨style, shown, some (begun ++ [c])⟩ := by
      simp [receive, Ne.symm other]
    rw [List.cons_append, receiveAll_cons, step, ih rest]
    simp

theorem receiveAll_code (s : Style) :
    receiveAll ⟨style, shown, none⟩ s.code = ⟨s.code, shown, none⟩ := by
  have parameter : 'm' ∉ '[' :: s.parameter := by
    simpa using s.parameter_plain.2
  have shape : s.code = escape :: (('[' :: s.parameter) ++ ['m']) := by simp [Style.code]
  rw [shape]
  exact receiveAll_pending parameter [escape]

theorem receiveAll_of_isPlain {x : Text} (h : x.IsPlain) :
    receiveAll ⟨style, shown, none⟩ x = ⟨style, shown ++ x.map (·, style), none⟩ := by
  induction x generalizing shown with
  | nil => simp
  | cons c x ih =>
    obtain ⟨other, rest⟩ := Text.isPlain_cons.mp h
    have step : receive ⟨style, shown, none⟩ c = ⟨style, shown ++ [(c, style)], none⟩ := by
      simp [receive, escape, other]
    rw [receiveAll_cons, step, ih rest]
    simp

end Terminal

namespace Overlay

open Terminal

/-- What is to be seen of the character with number `i` in a source of `length` characters. A
newline is plain, and the lead of the next line is behind it unless it is the last character. -/
def cell (lead : Text) (length : Nat) : (Char × Level) × Nat → List (Char × Text)
  | ((c, level), i) =>
    if c = '\n' then (c, plain) :: if i + 1 = length then [] else lead.map (·, plain)
    else [(c, (Style.ofLevel level).code)]

/-- What is to be seen of a source with the given levels. -/
def display (lead source : Text) (levels : List Level) : List (Char × Text) :=
  if source = [] then []
  else lead.map (·, plain) ++ (source.zip levels).zipIdx.flatMap (cell lead source.length)

variable {lead source : Text}

/-- The style of a character is on when the character comes, whether it was switched on just now
or had been before. -/
theorem receiveAll_switch (s : Style) {current : Option Style} {style : Text}
    (on : current = some s → style = s.code) (shown : List (Char × Text)) :
    receiveAll ⟨style, shown, none⟩ (if current = some s then [] else s.code) =
      ⟨s.code, shown, none⟩ := by
  split
  · next same =>
    rw [on same]
    rfl
  · exact receiveAll_code s

/-- One character, the style of which is on. A newline ends the style, and unless it is the last
character of all, the lead of the next line comes before the style is opened again. -/
theorem receiveAll_character (hl : lead.IsPlain) {c : Char} (other : c ≠ '\x1b') (level : Level)
    {i length : Nat} {final : Bool} (last : final = true ↔ i + 1 = length)
    (shown : List (Char × Text)) :
    receiveAll ⟨(Style.ofLevel level).code, shown, none⟩
        (if c = '\n' then
          Style.reset.code ++ ['\n'] ++ if final then [] else lead ++ (Style.ofLevel level).code
          else [c]) =
      ⟨if c = '\n' ∧ final then plain else (Style.ofLevel level).code,
        shown ++ cell lead length ((c, level), i), none⟩ := by
  have single : Text.IsPlain [c] := by simpa using other
  by_cases newline : c = '\n'
  · subst newline
    simp only [if_pos, cell, true_and, ← last, receiveAll_append, receiveAll_code,
      receiveAll_of_isPlain single]
    cases final with
    | true => rfl
    | false =>
      simp only [Bool.false_eq_true, if_false, receiveAll_append]
      rw [receiveAll_of_isPlain hl, receiveAll_code, List.append_assoc]
      rfl
  · simp only [newline, if_neg, cell, false_and, not_false_eq_true]
    exact receiveAll_of_isPlain single

/-- The loop over the characters from number `n` on. Its memory of the style that was switched on
last tells the style of the terminal as long as there are characters left: behind the last newline
the terminal is plain, but that is not noticed any more. -/
theorem receiveAll_styledFrom (hl : lead.IsPlain) {marked : List (Char × Level)}
    (h : Text.IsPlain (marked.map Prod.fst)) (n : Nat) {current : Option Style} {style : Text}
    (on : ∀ s, current = some s → marked ≠ [] → style = s.code) (shown : List (Char × Text)) :
    ∃ last, receiveAll ⟨style, shown, none⟩
        (styledFrom lead current (marked.map fun m => (m.1, Style.ofLevel m.2))) =
      ⟨last, shown ++ (marked.zipIdx n).flatMap (cell lead (n + marked.length)), none⟩ := by
  induction marked generalizing style shown n current with
  | nil => exact ⟨style, by simp [styledFrom]⟩
  | cons m rest ih =>
    obtain ⟨c, level⟩ := m
    obtain ⟨other, plainRest⟩ := Text.isPlain_cons.mp h
    have switch := receiveAll_switch (Style.ofLevel level) (fun same => on _ same (by simp)) shown
    have length : n + ((c, level) :: rest).length = n + 1 + rest.length := by
      rw [List.length_cons]
      omega
    have final : rest.isEmpty = true ↔ n + 1 = n + 1 + rest.length := by
      rw [List.isEmpty_iff, ← List.length_eq_zero_iff]
      omega
    have own := receiveAll_character hl other level final shown
    have still : ∀ s, some (Style.ofLevel level) = some s → rest ≠ [] →
        (if c = '\n' ∧ rest.isEmpty then plain else (Style.ofLevel level).code) = s.code := by
      intro s same more
      obtain rfl := Option.some.inj same
      rw [if_neg fun done => more (List.isEmpty_iff.mp done.2)]
    obtain ⟨last, later⟩ :=
      ih plainRest (n + 1) still (shown ++ cell lead (n + 1 + rest.length) ((c, level), n))
    refine ⟨last, ?_⟩
    simp only [List.map_cons, styledFrom, receiveAll_append, switch, List.isEmpty_map, length]
    rw [own, later, List.zipIdx_cons, List.flatMap_cons, List.append_assoc]

theorem receiveAll_styledText (hl : lead.IsPlain) (hs : source.IsPlain) {levels : List Level}
    (all : levels.length = source.length) :
    receiveAll {} (styledText lead source levels) = { shown := display lead source levels } := by
  unfold styledText display
  split
  · rfl
  · have marked : source.zip (levels.map Style.ofLevel) =
        (source.zip levels).map fun m => (m.1, Style.ofLevel m.2) := List.zip_map_right
    have characters : (source.zip levels).map Prod.fst = source := List.map_fst_zip (by simp [all])
    have length : 0 + (source.zip levels).length = source.length := by simp [all]
    have unknown : ∀ s : Style, none = some s → source.zip levels ≠ [] → plain = s.code := nofun
    obtain ⟨last, body⟩ :=
      receiveAll_styledFrom hl (characters.symm ▸ hs) 0 unknown (lead.map (·, plain))
    rw [length] at body
    rw [marked, receiveAll_append, receiveAll_append, receiveAll_of_isPlain hl, List.nil_append,
      body, receiveAll_code]
    rfl

/-- A source is shown in the colours of its levels: a terminal that receives the coloured form
shows what is to be seen of the source and is plain again. -/
theorem print_displayed {ds : List Diagnostic} {levels : List Level} (hl : lead.IsPlain)
    (hs : source.IsPlain) (marks : Highlight.levels source.length ds = .ok levels) :
    ∃ x, print lead source ds true = ⟨x, .ok ()⟩ ∧
      receiveAll {} x = { shown := display lead source levels } := by
  have written : print lead source ds true = ⟨styledText lead source levels, .ok ()⟩ := by
    unfold print
    by_cases empty : source = []
    · simp [empty, styledText, Output.pure]
    · simp [empty, marks, Output.write]
  exact ⟨_, written, receiveAll_styledText hl hs (Highlight.length_levels marks)⟩

/-- The warning goes over an empty line and gives way to the error, on a line that is not
closed. -/
theorem print_displayed_across_lines :
    let lead := "> ".toList
    let source := "ab\n\ncd".toList
    let ds : List Diagnostic := [
      { kind := "Warning".toList, message := "unused".toList, start := 1, stop := 5 },
      { kind := "TypeError".toList, message := "wrong".toList, start := 4, stop := 5 }]
    let warning := Style.orangeBackground.code
    let error := Style.redBackground.code
    Text.IsPlain lead ∧ Text.IsPlain source ∧
      Highlight.levels source.length ds =
        .ok [.none, .warning, .warning, .warning, .error, .none] ∧
      ∃ x, print lead source ds true = ⟨x, .ok ()⟩ ∧
        receiveAll {} x = { shown := [
          ('>', plain), (' ', plain), ('a', plain), ('b', warning), ('\n', plain),
          ('>', plain), (' ', plain), ('\n', plain),
          ('>', plain), (' ', plain), ('c', error), ('d', plain)] } := by
  intro lead source ds warning error
  have hl : Text.IsPlain lead := by decide
  have hs : Text.IsPlain source := by decide
  have marks : Highlight.levels source.length ds =
      .ok [.none, .warning, .warning, .warning, .error, .none] := by rfl
  obtain ⟨x, written, displayed⟩ := print_displayed hl hs marks
  exact ⟨hl, hs, marks, x, written, displayed⟩

end Overlay

end DiagCheck
