import DiagCheck.Proofs.Render.Result
import DiagCheck.Proofs.Render.Highlight
import DiagCheck.Proofs.Text.Lines

/-! Output without its colours. Erasing the escape sequences of a coloured listing, difference or
source gives the uncoloured one, as long as no escape character stands in what is shown. -/
namespace DiagCheck

open Style (escape)

/-- The text has no escape character. -/
def Text.IsPlain (t : Text) : Prop := escape ∉ t

instance (t : Text) : Decidable t.IsPlain := inferInstanceAs (Decidable (escape ∉ t))

namespace Text

@[simp] theorem isPlain_nil : IsPlain [] := by simp [IsPlain]

@[simp] theorem isPlain_cons {c : Char} {t : Text} :
    IsPlain (c :: t) ↔ c ≠ '\x1b' ∧ t.IsPlain := by
  simp [IsPlain, escape, eq_comm]

@[simp] theorem isPlain_append {s t : Text} : IsPlain (s ++ t) ↔ s.IsPlain ∧ t.IsPlain := by
  simp [IsPlain]

theorem IsPlain.subset {s t : Text} (h : t.IsPlain) (sub : s ⊆ t) : s.IsPlain := fun m => h (sub m)

theorem isPlain_flatMap {α : Type} {l : List α} {f : α → Text} (h : ∀ a ∈ l, (f a).IsPlain) :
    IsPlain (l.flatMap f) := by
  intro m
  obtain ⟨a, ha, m⟩ := List.mem_flatMap.mp m
  exact h a ha m

theorem IsPlain.of_mem_lines {t l : Text} (plain : t.IsPlain) (h : l ∈ lines t) :
    l.IsPlain := by
  refine plain.subset fun c hc => ?_
  rw [← flatten_lines t]
  exact List.mem_flatten.mpr ⟨l, h, hc⟩

theorem isPlain_of_digits {t : Text} (h : ∀ c ∈ t, c.isDigit = true) : t.IsPlain :=
  fun m => absurd (h escape m) (by decide)

end Text

namespace Style

/-- Between an escape character that begins a sequence and the `m` that ends it, nothing is
kept. -/
def eraseFrom : Bool → Text → Text
  | _, [] => []
  | true, c :: t => eraseFrom (c != 'm') t
  | false, c :: t =>
    if c = escape ∧ t.head? = some '[' ∧ 'm' ∈ t then eraseFrom true t else c :: eraseFrom false t

/-- The text without its sequences of an escape character, `[` and everything up to an `m`. -/
def erase (t : Text) : Text := eraseFrom false t

theorem erase_append_of_isPlain {s : Text} (h : s.IsPlain) (t : Text) :
    erase (s ++ t) = s ++ erase t := by
  induction s with
  | nil => rfl
  | cons c s ih =>
    obtain ⟨other, rest⟩ := Text.isPlain_cons.mp h
    have here : ¬(c = escape ∧ (s ++ t).head? = some '[' ∧ 'm' ∈ s ++ t) := fun seq => other seq.1
    rw [List.cons_append, erase, eraseFrom, if_neg here]
    exact congrArg (c :: ·) (ih rest)

theorem eraseFrom_true_append {p : Text} (h : 'm' ∉ p) (t : Text) :
    eraseFrom true (p ++ 'm' :: t) = erase t := by
  induction p with
  | nil => rfl
  | cons c p ih =>
    simp only [List.mem_cons, not_or] at h
    obtain ⟨other, rest⟩ := h
    have inside : (c != 'm') = true := by simpa using Ne.symm other
    rw [List.cons_append, eraseFrom, inside]
    exact ih rest

theorem erase_code_append (s : Style) (t : Text) : erase (s.code ++ t) = erase t := by
  have bracket : 'm' ∉ '[' :: s.parameter := by
    simpa using s.parameter_plain.2
  have shape : s.code ++ t = escape :: ('[' :: s.parameter ++ 'm' :: t) := by simp [code]
  rw [shape, erase, eraseFrom, if_pos (by simp)]
  exact eraseFrom_true_append bracket t

/-- Whatever follows `x`, erasing sequences leaves `p` of it. -/
def Erases (x p : Text) : Prop := ∀ t, erase (x ++ t) = p ++ erase t

theorem erases_of_isPlain {p : Text} (h : p.IsPlain) : Erases p p := erase_append_of_isPlain h

theorem erases_code (s : Style) : Erases s.code [] := erase_code_append s

theorem erases_nil : Erases [] [] := fun _ => rfl

theorem Erases.append {x p y q : Text} (first : Erases x p) (second : Erases y q) :
    Erases (x ++ y) (p ++ q) := by
  intro t
  rw [List.append_assoc, first, second, List.append_assoc]

theorem Erases.erase_eq {x p : Text} (h : Erases x p) : erase x = p := by
  have := h []
  rwa [List.append_nil, show erase [] = [] from rfl, List.append_nil] at this

theorem erases_codes (styles : List Style) : Erases (styles.flatMap code) [] := by
  induction styles with
  | nil => exact erases_nil
  | cons s styles ih => exact (erases_code s).append ih

end Style

/-- The second output is what is left of the first one without its sequences, and both end in the
same way. -/
structure Output.Erases (x y : Output α) : Prop where
  text : Style.Erases x.text y.text
  result : x.result = y.result

namespace Output

theorem erases_write {t : Text} (h : t.IsPlain) : (write t).Erases (write t) :=
  ⟨Style.erases_of_isPlain h, rfl⟩

theorem erases_pure (a : α) : (Output.pure a).Erases (Output.pure a) := ⟨Style.erases_nil, rfl⟩

theorem erases_fail (e : Render.Fault) : (fail e : Output α).Erases (fail e) :=
  ⟨Style.erases_nil, rfl⟩

theorem Erases.bind {x y : Output α} {f g : α → Output β} (h : x.Erases y)
    (k : ∀ a, (f a).Erases (g a)) : (x >>= f).Erases (y >>= g) := by
  obtain ⟨xt, xr⟩ := x
  obtain ⟨yt, yr⟩ := y
  obtain ⟨text, result⟩ := h
  cases result
  cases xr with
  | error e => exact ⟨text, rfl⟩
  | ok a => exact ⟨text.append (k a).text, (k a).result⟩

theorem Erases.styled {x y : Output α} (h : x.Erases y) (enabled : Bool) (styles : List Style) :
    (x.styled enabled styles).Erases y := by
  refine ⟨?_, by rw [result_styled, h.result]⟩
  unfold Output.styled
  split
  · simpa using ((Style.erases_codes styles).append h.text).append (Style.erases_code .reset)
  · exact h.text

end Output

@[simp] theorem Numeral.isPlain_ofNat (n : Nat) : (ofNat n).IsPlain :=
  Text.isPlain_of_digits fun _ => isDigit_of_mem_ofNat

@[simp] theorem Numeral.isPlain_ofInt (i : Int) : (ofInt i).IsPlain := by
  cases i with
  | ofNat n => exact isPlain_ofNat n
  | negSucc n => simp [ofInt]

namespace Diagnostic

structure IsPlain (d : Diagnostic) : Prop where
  kind : d.kind.IsPlain
  message : d.message.IsPlain

@[simp] theorem isPlain_offsetText (offset : Int) : (offsetText offset).IsPlain := by
  unfold offsetText
  split
  · exact Numeral.isPlain_ofInt offset
  · exact Text.isPlain_nil

@[simp] theorem isPlain_locationText (d : Diagnostic) : d.locationText.IsPlain := by
  unfold locationText
  split
  · simp
  · exact Text.isPlain_nil

end Diagnostic

@[simp] theorem Render.isPlain_outsideSource (start stop : Int) (length : Nat) :
    (Fault.outsideSource start stop length).message.IsPlain := by
  have message : (Fault.outsideSource start stop length).message =
      "Location (".toList ++ Numeral.ofInt start ++ ['-'] ++ Numeral.ofInt stop ++
        ") outside of source of length ".toList ++ Numeral.ofNat length := rfl
  simp [message]

namespace Listing

variable {lead : Text} {ds : List Diagnostic}

theorem erases_printLine {d : Diagnostic} (hl : lead.IsPlain) (h : d.IsPlain) (formatted : Bool) :
    (printLine lead formatted d).Erases (printLine lead false d) := by
  have kind : (lead ++ d.kind ++ [':', ' ']).IsPlain := by simp [hl, h.kind]
  refine ((Output.erases_write kind).styled formatted _).bind fun _ => ?_
  split
  · exact Output.erases_write (by simp [h.message])
  · exact Output.erases_fail _

theorem erases_printLines (hl : lead.IsPlain) (h : ∀ d ∈ ds, d.IsPlain) (formatted : Bool) :
    (printLines lead formatted ds).Erases (printLines lead false ds) := by
  induction ds with
  | nil => exact Output.erases_pure ()
  | cons d ds ih =>
    have first := erases_printLine hl (h d (List.mem_cons_self ..)) formatted
    exact first.bind fun _ => ih fun e he => h e (List.mem_cons_of_mem d he)

theorem erases_print (hl : lead.IsPlain) (h : ∀ d ∈ ds, d.IsPlain) (formatted : Bool) :
    (print lead formatted ds).Erases (print lead false ds) := by
  unfold print
  split
  · have word : (lead ++ "Success".toList).IsPlain := by simp [hl]
    refine ((Output.erases_write word).styled formatted _).bind fun _ => ?_
    exact Output.erases_write (by decide)
  · exact erases_printLines hl h formatted

end Listing

namespace Overlay

variable {lead source : Text}

/-- The characters, and the lead behind each newline that something follows. -/
def flow (lead : Text) : Text → Text
  | [] => []
  | c :: t => (if c = '\n' then ['\n'] ++ if t.isEmpty then [] else lead else [c]) ++ flow lead t

theorem erases_styledFrom (hl : lead.IsPlain) {marked : List (Char × Style)}
    (h : Text.IsPlain (marked.map (·.1))) (current : Option Style) :
    Style.Erases (styledFrom lead current marked) (flow lead (marked.map (·.1))) := by
  induction marked generalizing current with
  | nil => exact Style.erases_nil
  | cons cs rest ih =>
    obtain ⟨c, s⟩ := cs
    obtain ⟨other, plain⟩ := Text.isPlain_cons.mp h
    have switch : Style.Erases (if current = some s then [] else s.code) [] := by
      split
      · exact Style.erases_nil
      · exact Style.erases_code s
    have newline : Style.Erases (Style.reset.code ++ ['\n']) ['\n'] :=
      (Style.erases_code .reset).append (Style.erases_of_isPlain (by decide))
    have again : Style.Erases (if rest.isEmpty then [] else lead ++ s.code)
        (if rest.isEmpty then [] else lead) := by
      split
      · exact Style.erases_nil
      · simpa using (Style.erases_of_isPlain hl).append (Style.erases_code s)
    have own : Style.Erases
        (if c = '\n' then Style.reset.code ++ ['\n'] ++ if rest.isEmpty then [] else lead ++ s.code
          else [c])
        (if c = '\n' then ['\n'] ++ if rest.isEmpty then [] else lead else [c]) := by
      split
      · exact newline.append again
      · exact Style.erases_of_isPlain (Text.isPlain_cons.mpr ⟨other, Text.isPlain_nil⟩)
    simpa [styledFrom, flow] using (switch.append own).append (ih plain (some s))

theorem isPlain_plainText (hl : lead.IsPlain) (h : source.IsPlain) :
    (plainText lead source).IsPlain := by
  refine Text.isPlain_flatMap fun line hline => ?_
  have kept : Text.IsPlain (line.filter (· != '\n')) :=
    (h.of_mem_lines hline).subset fun _ m => (List.mem_filter.mp m).1
  simp [hl, kept]

theorem getLast?_plainText (lead : Text) (some : source ≠ []) :
    (plainText lead source).getLast? = Option.some '\n' := by
  have lines : Text.lines source ≠ [] := fun none => some (Text.lines_eq_nil none)
  obtain ⟨front, last, split⟩ := (List.eq_nil_or_concat (Text.lines source)).resolve_left lines
  simp [plainText, split]

theorem getLast?_styledText (lead : Text) (some : source ≠ []) (levels : List Level) :
    (styledText lead source levels).getLast? = Option.some 'm' := by
  rw [styledText, if_neg some, List.getLast?_append]
  rfl

/-- The coloured form without its codes. The last line has a newline only if the source has it. -/
def shown (lead source : Text) : Text := if source = [] then [] else lead ++ flow lead source

theorem plainText_of_ne_nil (some : source ≠ []) :
    plainText lead source =
      lead ++ flow lead source ++ if source.getLast? = Option.some '\n' then [] else ['\n'] := by
  induction source with
  | nil => contradiction
  | cons c t ih =>
    cases t with
    | nil =>
      by_cases newline : c = '\n'
      · simp [plainText, Text.lines, flow, newline]
      · simp [plainText, Text.lines, flow, newline]
    | cons e t =>
      have ih := ih (List.cons_ne_nil e t)
      rw [List.getLast?_cons_cons]
      by_cases newline : c = '\n'
      · simpa [plainText, Text.lines, newline, flow] using ih
      · -- The character is put in front of the first line of the others.
        obtain ⟨l, ls, first⟩ : ∃ l ls, Text.lines (e :: t) = l :: ls :=
          List.exists_cons_of_ne_nil fun none => by cases Text.lines_eq_nil none
        have longer : Text.lines (c :: e :: t) = (c :: l) :: ls := by
          rw [Text.lines, if_neg newline, first]
        have longerFlow : flow lead (c :: e :: t) = c :: flow lead (e :: t) := by
          rw [flow, if_neg newline]
          rfl
        simp only [plainText, first, List.flatMap_cons, List.append_assoc,
          List.append_cancel_left_eq] at ih
        rw [longerFlow, List.append_assoc, List.cons_append, ← ih]
        simp [plainText, longer, newline]

/-- The plain form closes the last line as well. -/
theorem plainText_eq (lead source : Text) :
    plainText lead source =
      if source = [] ∨ source.getLast? = some '\n' then shown lead source
      else shown lead source ++ ['\n'] := by
  by_cases empty : source = []
  · simp [empty, plainText, Text.lines, shown]
  · rw [plainText_of_ne_nil empty]
    simp only [empty, false_or, shown, if_false]
    split
    · exact List.append_nil _
    · rfl

theorem erases_styledText (hl : lead.IsPlain) (plain : source.IsPlain) {levels : List Level}
    (all : levels.length = source.length) :
    Style.Erases (styledText lead source levels) (shown lead source) := by
  unfold styledText shown
  split
  · exact Style.erases_nil
  · have characters : (source.zip (levels.map Style.ofLevel)).map (·.1) = source :=
      List.map_fst_zip (by simp [all])
    have visible : Text.IsPlain ((source.zip (levels.map Style.ofLevel)).map (·.1)) := by
      rw [characters]
      exact plain
    have inner := erases_styledFrom hl visible none
    rw [characters] at inner
    simpa using ((Style.erases_of_isPlain hl).append inner).append (Style.erases_code .reset)

end Overlay

namespace TestCase

theorem erases_printHeading {lead title : Text} (hl : lead.IsPlain) (ht : title.IsPlain)
    (formatted : Bool) :
    (printHeading lead formatted title).Erases (printHeading lead false title) := by
  have whole : (lead ++ title).IsPlain := Text.isPlain_append.mpr ⟨hl, ht⟩
  refine ((Output.erases_write whole).styled formatted _).bind fun _ => ?_
  exact Output.erases_write (by decide)

/-- The difference of the two lists reads the same in colour. -/
theorem erases_printDifference {t : TestCase} {lead : Text} (hl : lead.IsPlain)
    (expected : ∀ d ∈ t.expectations, d.IsPlain) (obtained : ∀ d ∈ t.obtained, d.IsPlain)
    (formatted : Bool) :
    (t.printDifference lead formatted).Erases (t.printDifference lead false) := by
  have indented : (lead ++ [' ', ' ']).IsPlain := by simp [hl]
  unfold printDifference
  split
  · exact Output.erases_pure true
  · refine (erases_printHeading hl (by decide) formatted).bind fun _ => ?_
    refine (Listing.erases_print indented expected formatted).bind fun _ => ?_
    refine (erases_printHeading hl (by decide) formatted).bind fun _ => ?_
    refine (Listing.erases_print indented obtained formatted).bind fun _ => ?_
    exact Output.erases_pure false

end TestCase

end DiagCheck
