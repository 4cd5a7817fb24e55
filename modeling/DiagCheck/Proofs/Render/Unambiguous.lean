import DiagCheck.Proofs.Render.Result
import DiagCheck.Proofs.TestCase.Built

/-! Listings that tell diagnostics apart. The lines of a listing are cut off one by one behind a
lead of known length, so representable diagnostics are found again whatever the lead is made of.
Hence a difference between two lists is seen in what is written of them. -/
namespace DiagCheck

/-- There is one way to cut a text at the first occurrence of a character. -/
theorem Text.cut_unique {c : Char} {l l' r r' : Text} (first : c ∉ l) (first' : c ∉ l')
    (same : l ++ c :: r = l' ++ c :: r') : l = l' ∧ r = r' := by
  have cut : cut? c (l ++ c :: r) = some (l, r) := cut?_eq_some_iff.mpr ⟨rfl, first⟩
  have cut' : cut? c (l' ++ c :: r') = some (l', r') := cut?_eq_some_iff.mpr ⟨rfl, first'⟩
  rw [same, cut'] at cut
  obtain ⟨left, right⟩ := Prod.mk.inj (Option.some.inj cut)
  exact ⟨left.symm, right.symm⟩

theorem Numeral.not_mem_ofNat {c : Char} (other : c.isDigit = false) (n : Nat) : c ∉ ofNat n := by
  intro m
  rw [isDigit_of_mem_ofNat m] at other
  cases other

theorem Numeral.ofNat_injective : Function.Injective ofNat :=
  Function.LeftInverse.injective toNat_ofNat

namespace Diagnostic

variable {d e : Diagnostic}

/-- The parenthesis tells whether there is a span. Without one the message begins otherwise. -/
theorem span_unique (hd : d.Representable) (he : e.Representable)
    (same : d.locationText ++ d.message = e.locationText ++ e.message) :
    d.start = e.start ∧ d.stop = e.stop ∧ d.message = e.message := by
  rcases Expectation.offsets_of_representable hd with ⟨a, b, start, stop⟩ | ⟨start, stop, head⟩
  · rw [Expectation.locationText_of_nat start stop] at same
    rcases Expectation.offsets_of_representable he with
      ⟨a', b', start', stop'⟩ | ⟨start', stop', head'⟩
    · rw [Expectation.locationText_of_nat start' stop'] at same
      simp only [List.cons_append, List.append_assoc, List.cons.injEq, true_and] at same
      obtain ⟨first, behind⟩ := Text.cut_unique (Numeral.not_mem_ofNat (by decide) a)
        (Numeral.not_mem_ofNat (by decide) a') same
      obtain ⟨second, message⟩ := Text.cut_unique (Numeral.not_mem_ofNat (by decide) b)
        (Numeral.not_mem_ofNat (by decide) b') behind
      rw [start, start', stop, stop', Numeral.ofNat_injective first,
        Numeral.ofNat_injective second]
      exact ⟨rfl, rfl, by simpa using message⟩
    · rw [Expectation.locationText_of_absent start' stop', List.nil_append] at same
      rw [← same] at head'
      exact absurd rfl head'
  · rw [Expectation.locationText_of_absent start stop, List.nil_append] at same
    rcases Expectation.offsets_of_representable he with
      ⟨a', b', start', stop'⟩ | ⟨start', stop', _⟩
    · rw [Expectation.locationText_of_nat start' stop'] at same
      rw [same] at head
      exact absurd rfl head
    · rw [Expectation.locationText_of_absent start' stop', List.nil_append] at same
      exact ⟨start.trans start'.symm, stop.trans stop'.symm, same⟩

end Diagnostic

namespace Listing

variable {lead : Text} {formatted : Bool} {d e : Diagnostic} {ds es : List Diagnostic}

/-- The codes that switch a colour of a listing on. -/
def opening (formatted : Bool) (colour : Style) : Text :=
  if formatted then Style.bold.code ++ colour.code else []

def closing (formatted : Bool) : Text := if formatted then Style.reset.code else []

def line (lead : Text) (formatted : Bool) (colour : Style) (t : Text) : Text :=
  opening formatted colour ++ lead ++ (t ++ ['\n'])

/-- What a line says of a diagnostic. Only its kind is coloured. -/
def row (formatted : Bool) (d : Diagnostic) : Text :=
  d.kind ++ ':' :: ' ' :: (closing formatted ++ (d.locationText ++ d.message))

/-- What the line of an empty listing says. -/
def emptyRow (formatted : Bool) : Text :=
  ['S', 'u', 'c', 'c', 'e', 's', 's'] ++ closing formatted

def colour (d : Diagnostic) : Style := if d.isWarning then .yellow else .red

/-! ## What is written -/

theorem styled_write (formatted : Bool) (s : Style) (t : Text) :
    Output.styled formatted [.bold, s] (Output.write t) =
      ⟨opening formatted s ++ t ++ closing formatted, .ok ()⟩ := by
  cases formatted with
  | false => simp [Output.write, opening, closing]
  | true => simp [Output.styled, Output.write, opening, closing]

theorem printLine_of_writable (lead : Text) (formatted : Bool) (h : d.Writable) :
    printLine lead formatted d = ⟨line lead formatted (colour d) (row formatted d), .ok ()⟩ := by
  unfold printLine
  rw [if_pos h, ← colour, styled_write]
  simp [Output.write, line, row]

theorem printLines_of_writable (lead : Text) (formatted : Bool) (h : ∀ d ∈ ds, d.Writable) :
    printLines lead formatted ds =
      ⟨ds.flatMap fun d => line lead formatted (colour d) (row formatted d), .ok ()⟩ := by
  induction ds with
  | nil => rfl
  | cons d ds ih =>
    have first := printLine_of_writable lead formatted (h d (List.mem_cons_self ..))
    have rest := ih fun e he => h e (List.mem_cons_of_mem d he)
    simp [printLines, first, rest]

theorem text_print_nil (lead : Text) (formatted : Bool) :
    (print lead formatted []).text = line lead formatted .green (emptyRow formatted) := by
  have word : "Success".toList = ['S', 'u', 'c', 'c', 'e', 's', 's'] := rfl
  rw [print, if_pos rfl, styled_write, word]
  simp [Output.write, line, emptyRow]

theorem text_print (lead : Text) (formatted : Bool) (h : ∀ d ∈ ds, d.Writable) (some : ds ≠ []) :
    (print lead formatted ds).text =
      ds.flatMap fun d => line lead formatted (colour d) (row formatted d) := by
  rw [print, if_neg some, printLines_of_writable lead formatted h]

/-! ## What is found again -/

theorem not_mem_closing {c : Char} (formatted : Bool) (h : c ∉ Style.reset.code) :
    c ∉ closing formatted := by
  cases formatted with
  | false => exact List.not_mem_nil
  | true => exact h

theorem newline_not_mem_row (formatted : Bool) (h : d.Representable) : '\n' ∉ row formatted d := by
  have whole := Expectation.newline_not_mem_text h
  have code : '\n' ∉ closing formatted := not_mem_closing formatted (by decide)
  simp only [Diagnostic.text, List.mem_append, not_or] at whole
  simp [row, whole, code]

theorem row_unique (hd : d.Representable) (he : e.Representable)
    (same : row formatted d = row formatted e) : d = e := by
  obtain ⟨kind, behind⟩ := Text.cut_unique hd.kind.1 he.kind.1 same
  have details := List.append_cancel_left (List.cons.inj behind).2
  obtain ⟨start, stop, message⟩ := Diagnostic.span_unique hd he details
  cases d
  cases e
  cases kind
  cases start
  cases stop
  cases message
  rfl

/-- The row of an empty listing has no colon. -/
theorem row_ne_emptyRow : row formatted d ≠ emptyRow formatted := by
  intro same
  have code : ':' ∉ closing formatted := not_mem_closing formatted (by decide)
  have plain : ':' ∉ emptyRow formatted := by
    simp [emptyRow, code]
  exact plain (same ▸ by simp [row])

/-- The colours have codes of one length, so the lead begins at one place in all lines. -/
theorem length_opening (formatted : Bool) {s : Style} (h : s ∈ [.green, .yellow, .red]) :
    (opening formatted s).length = if formatted then 9 else 0 := by
  cases formatted with
  | false => rfl
  | true =>
    simp only [List.mem_cons, List.not_mem_nil, or_false] at h
    rcases h with rfl | rfl | rfl <;> rfl

theorem colour_mem (d : Diagnostic) : colour d ∈ [.green, .yellow, .red] := by
  unfold colour
  split <;> simp

theorem line_unique {s s' : Style} {t t' u u' : Text} (colour : s ∈ [.green, .yellow, .red])
    (colour' : s' ∈ [.green, .yellow, .red]) (plain : '\n' ∉ t) (plain' : '\n' ∉ t')
    (same : line lead formatted s t ++ u = line lead formatted s' t' ++ u') : t = t' ∧ u = u' := by
  simp only [line, List.append_assoc, List.singleton_append] at same
  have place := (length_opening formatted colour).trans (length_opening formatted colour').symm
  have text := List.append_cancel_left (List.append_inj_right same place)
  exact Text.cut_unique plain plain' text

theorem flatMap_line_unique (hd : ∀ d ∈ ds, d.Representable) (he : ∀ e ∈ es, e.Representable)
    (same : (ds.flatMap fun d => line lead formatted (colour d) (row formatted d)) =
      es.flatMap fun e => line lead formatted (colour e) (row formatted e)) : ds = es := by
  have some : ∀ c t, line lead formatted c t ≠ [] := by simp [line]
  induction ds generalizing es with
  | nil =>
    cases es with
    | nil => rfl
    | cons e es => simp [some] at same
  | cons d ds ih =>
    cases es with
    | nil => simp [some] at same
    | cons e es =>
      have own := hd d (List.mem_cons_self ..)
      have own' := he e (List.mem_cons_self ..)
      simp only [List.flatMap_cons] at same
      obtain ⟨first, rest⟩ := line_unique (colour_mem d) (colour_mem e)
        (newline_not_mem_row formatted own) (newline_not_mem_row formatted own') same
      rw [row_unique own own' first,
        ih (fun x hx => hd x (List.mem_cons_of_mem d hx))
          (fun x hx => he x (List.mem_cons_of_mem e hx)) rest]

/-- The first line tells whether there is a diagnostic at all. -/
theorem text_print_ne_nil (h : ∀ d ∈ ds, d.Representable ∧ d.Writable) (some : ds ≠ []) :
    (print lead formatted ds).text ≠ (print lead formatted []).text := by
  intro same
  rw [text_print lead formatted (fun d hd => (h d hd).2) some, text_print_nil] at same
  obtain ⟨d, rest, rfl⟩ := List.exists_cons_of_ne_nil some
  have own := (h d (List.mem_cons_self ..)).1
  have code : '\n' ∉ closing formatted := not_mem_closing formatted (by decide)
  have plain : '\n' ∉ emptyRow formatted := by simp [emptyRow, code]
  rw [List.flatMap_cons, ← List.append_nil (line lead formatted .green _)] at same
  exact row_ne_emptyRow (line_unique (colour_mem d) (List.mem_cons_self ..)
    (newline_not_mem_row formatted own) plain same).1

theorem print_injOn (lead : Text) (formatted : Bool) :
    Set.InjOn (fun ds => (print lead formatted ds).text)
      {ds | ∀ d ∈ ds, d.Representable ∧ d.Writable} := by
  intro ds hd es he same
  by_cases none : ds = []
  · subst none
    by_contra other
    exact text_print_ne_nil he (Ne.symm other) same.symm
  · by_cases none' : es = []
    · subst none'
      exact absurd same (text_print_ne_nil hd none)
    · have text := text_print lead formatted (fun d h => (hd d h).2) none
      have text' := text_print lead formatted (fun d h => (he d h).2) none'
      exact flatMap_line_unique (fun d h => (hd d h).1) (fun d h => (he d h).1)
        (text.symm.trans (same.trans text'))

end Listing

theorem Output.text_bind {x : Output α} {a : α} (through : x.result = .ok a) (f : α → Output β) :
    (x >>= f).text = x.text ++ (f a).text := by
  obtain ⟨text, result⟩ := x
  cases through
  rfl

namespace TestCase

variable {t : TestCase} {lead : Text} {formatted : Bool}

/-- A difference that is written in full has both lists below their headings. -/
theorem text_printDifference (different : (t.printDifference lead formatted).result = .ok false) :
    (t.printDifference lead formatted).text =
      (printHeading lead formatted "Expected result:".toList).text ++
        (Listing.print (lead ++ [' ', ' ']) formatted t.expectations).text ++
      ((printHeading lead formatted "Obtained result:".toList).text ++
        (Listing.print (lead ++ [' ', ' ']) formatted t.obtained).text) := by
  rw [result_printDifference] at different
  by_cases same : t.expectations = t.obtained
  · simp [same] at different
  · by_cases writable : (∀ d ∈ t.expectations, d.Writable) ∧ ∀ d ∈ t.obtained, d.Writable
    · have heading := result_printHeading lead formatted
      have expected := (Listing.result_print (lead ++ [' ', ' ']) formatted t.expectations).trans
        (if_pos writable.1)
      have obtained := (Listing.result_print (lead ++ [' ', ' ']) formatted t.obtained).trans
        (if_pos writable.2)
      have differ : ¬t.passed = true := by simpa [passed] using same
      rw [printDifference, if_neg differ, Output.text_bind (heading _), Output.text_bind expected,
        Output.text_bind (heading _), Output.text_bind obtained]
      simp
    · simp [same, writable] at different

theorem lists_of_difference (different : (t.printDifference lead formatted).result = .ok false) :
    t.expectations ≠ t.obtained ∧ ∀ d ∈ t.obtained, d.Writable := by
  rw [result_printDifference] at different
  by_cases same : t.expectations = t.obtained
  · simp [same] at different
  · refine ⟨same, ?_⟩
    by_contra long
    simp [same, long] at different

/-- A test that was built from a text expects only what annotation lines can say. Listings of such
diagnostics differ if the diagnostics do, whatever is in front of their lines and in colour or
not. So where a test shows a difference from what annotation lines can say as well, the two
listings that it shows are different ones. -/
theorem difference_shown (built : t.Built) :
    (∀ d ∈ t.expectations, d.Representable ∧ d.Writable) ∧
    (∀ lead formatted, Set.InjOn (fun ds => (Listing.print lead formatted ds).text)
      {ds | ∀ d ∈ ds, d.Representable ∧ d.Writable}) ∧
    ∀ obtained hasRun lead formatted, (∀ d ∈ obtained, d.Representable) →
      let u := { t with obtained, hasRun }
      let heading := fun title => (printHeading lead formatted title).text
      let listing := fun ds => (Listing.print (lead ++ [' ', ' ']) formatted ds).text
      (u.printDifference lead formatted).result = .ok false →
        (u.printDifference lead formatted).text =
          heading "Expected result:".toList ++ listing t.expectations ++
            (heading "Obtained result:".toList ++ listing obtained) ∧
        listing t.expectations ≠ listing obtained := by
  have expectations := built.fresh.expectations
  refine ⟨expectations, Listing.print_injOn, ?_⟩
  intro obtained hasRun lead formatted representable u heading listing different
  obtain ⟨differ, writable⟩ := lists_of_difference different
  refine ⟨text_printDifference different, ?_⟩
  intro same
  have known : ∀ d ∈ obtained, d.Representable ∧ d.Writable :=
    fun d hd => ⟨representable d hd, writable d hd⟩
  exact differ (Listing.print_injOn _ formatted expectations known same)

/-- An annotation says `Success`, and nothing is obtained. -/
theorem difference_shown_success :
    let t : TestCase := {
      name := "a".toList, options := {}, source := [], settings := [], optimise := false
      expectations := [{ kind := "Success".toList, message := [] }] }
    let lead := "\x1b[1m:\n".toList
    let listing := fun ds => (Listing.print (lead ++ [' ', ' ']) true ds).text
    ofText t.name {} "// ----\n//Success\r\n".toList = .ok t ∧
      (t.printDifference lead true).result = .ok false ∧
      listing t.expectations ≠ listing t.obtained := by
  intro t lead listing
  have made : ofText t.name {} "// ----\n//Success\r\n".toList = .ok t := by decide
  have different : (t.printDifference lead true).result = .ok false := by decide
  obtain ⟨_, _, shown⟩ := difference_shown (.text _ _ _ made)
  exact ⟨made, different, (shown [] false lead true nofun different).2⟩

end TestCase

end DiagCheck
