import DiagCheck.Proofs.Render.Erasure

/-! What is shown with colours and without them. A listing and a difference have the same text
either way. A source has the same lines, but in colour its last line stays as open as it is. -/
namespace DiagCheck

/-- Both outputs are written in full and end in `a`. Without its sequences the first is the
second. -/
structure Output.Agree (coloured plain : Output α) (a : α) : Prop where
  coloured_result : coloured.result = .ok a
  plain_result : plain.result = .ok a
  text : Style.erase coloured.text = plain.text

theorem Output.Erases.agree {x y : Output α} {a : α} (h : x.Erases y) (through : y.result = .ok a) :
    x.Agree y a where
  coloured_result := h.result.trans through
  plain_result := through
  text := h.text.erase_eq

namespace Listing

variable {lead : Text} {ds : List Diagnostic}

theorem agree_print (hl : lead.IsPlain) (h : ∀ d ∈ ds, d.IsPlain)
    (writable : ∀ d ∈ ds, d.Writable) :
    (print lead true ds).Agree (print lead false ds) () :=
  (erases_print hl h true).agree ((result_print lead false ds).trans (if_pos writable))

theorem text_print_plain (some : ds ≠ []) (writable : ∀ d ∈ ds, d.Writable) :
    (print lead false ds).text = ds.flatMap fun d => lead ++ d.text ++ ['\n'] := by
  rw [print_plain writable, plainText, if_neg some]

end Listing

namespace Overlay

variable {lead source : Text} {ds : List Diagnostic}

/-- What goes through in colour shows the source. -/
theorem erases_print (hl : lead.IsPlain) (plain : source.IsPlain)
    (through : (print lead source ds true).result = .ok ()) :
    Style.Erases (print lead source ds true).text (shown lead source) := by
  by_cases empty : source = []
  · rw [print, shown, if_pos empty, if_pos empty]
    exact Style.erases_nil
  · cases marks : Highlight.levels source.length ds with
    | error e =>
      have refused := (print_eq_error_iff lead).mpr ⟨empty, marks⟩
      cases through.symm.trans refused
    | ok levels =>
      have written : (print lead source ds true).text = styledText lead source levels := by
        simp [print, empty, marks, Output.write]
      rw [written]
      exact erases_styledText hl plain (Highlight.length_levels marks)

/-- The plain form has the lead in front of every row and a newline behind it. -/
theorem plainText_eq_rows (lead source : Text) :
    plainText lead source = (Text.rows source).flatMap fun row => lead ++ row ++ ['\n'] := by
  rw [plainText, Text.rows, List.flatMap_map]

end Overlay

namespace TestCase

theorem agree_printDifference {t : TestCase} {lead : Text} (hl : lead.IsPlain)
    (expected : ∀ d ∈ t.expectations, d.IsPlain ∧ d.Writable)
    (obtained : ∀ d ∈ t.obtained, d.IsPlain ∧ d.Writable) :
    (t.printDifference lead true).Agree (t.printDifference lead false)
      (decide (t.expectations = t.obtained)) := by
  have erases := erases_printDifference hl (fun d hd => (expected d hd).1)
    (fun d hd => (obtained d hd).1) true
  refine erases.agree ?_
  rw [result_printDifference]
  split
  · next same => rw [decide_eq_true same]
  · next differ =>
    rw [if_pos ⟨fun d hd => (expected d hd).2, fun d hd => (obtained d hd).2⟩,
      decide_eq_false differ]

/-- Colours add nothing to what is read. A listing, and the difference of a test, has the same text
and the same result with them and without. A coloured source that is shown has the text of the
plain one, less the newline that closes an open last line there. The plain one has the lead in
front of every row of the source, where rows are what its newlines separate. -/
theorem print_uncoloured {t : TestCase} {lead source : Text} {ds : List Diagnostic}
    (hl : lead.IsPlain) (hs : source.IsPlain) (listed : ∀ d ∈ ds, d.IsPlain ∧ d.Writable)
    (expected : ∀ d ∈ t.expectations, d.IsPlain ∧ d.Writable)
    (obtained : ∀ d ∈ t.obtained, d.IsPlain ∧ d.Writable) :
    (Listing.print lead true ds).Agree (Listing.print lead false ds) () ∧
    (ds ≠ [] →
      (Listing.print lead false ds).text = ds.flatMap fun d => lead ++ d.text ++ ['\n']) ∧
    (t.printDifference lead true).Agree (t.printDifference lead false)
      (decide (t.expectations = t.obtained)) ∧
    (∀ marks, (Overlay.print lead source marks true).result = .ok () →
      (Overlay.print lead source marks false).text =
        if source = [] ∨ source.getLast? = some '\n' then
          Style.erase (Overlay.print lead source marks true).text
        else Style.erase (Overlay.print lead source marks true).text ++ ['\n']) ∧
    (∀ row ∈ Text.rows source, '\n' ∉ row) ∧
    (Text.rows source).flatMap (· ++ ['\n']) = Text.close source ∧
    ∀ marks, Overlay.print lead source marks false =
      ⟨(Text.rows source).flatMap fun row => lead ++ row ++ ['\n'], .ok ()⟩ := by
  have writable : ∀ d ∈ ds, d.Writable := fun d hd => (listed d hd).2
  refine ⟨Listing.agree_print hl (fun d hd => (listed d hd).1) writable,
    fun some => Listing.text_print_plain some writable,
    agree_printDifference hl expected obtained, ?_,
    fun _ => Text.newline_not_mem_of_mem_rows, Text.flatMap_rows source, ?_⟩
  · intro marks through
    rw [(Overlay.erases_print hl hs through).erase_eq]
    exact Overlay.plainText_eq lead source
  · intro marks
    rw [Overlay.print_plain, Overlay.plainText_eq_rows]

/-- Highlights cross the lines of an open source that has a carriage return and a form feed. -/
theorem print_uncoloured_open :
    let lead := "> ".toList
    let source := "a\r\nb\x0cc\n\nd".toList
    let ds : List Diagnostic := [
      { kind := "Warning".toList, message := "unused".toList, start := 0, stop := 7 },
      { kind := "TypeError".toList, message := "wrong".toList, start := 3, stop := 8 }]
    let t : TestCase := {
      name := [], options := {}, source, settings := [], optimise := false, expectations := [],
      obtained := ds }
    Text.IsPlain lead ∧ Text.IsPlain source ∧ (∀ d ∈ ds, d.IsPlain ∧ d.Writable) ∧
      Style.erase (Overlay.print lead source ds true).text ++ ['\n'] =
        "> a\r\n> b\x0cc\n> \n> d\n".toList ∧
      Style.erase (t.printDifference lead true).text = (t.printDifference lead false).text ∧
      (t.printDifference lead true).result = .ok false := by
  intro lead source ds t
  have hl : Text.IsPlain lead := by decide
  have hs : Text.IsPlain source := by decide
  have listed : ∀ d ∈ ds, d.IsPlain ∧ d.Writable := by
    have each : ∀ d ∈ ds, d.kind.IsPlain ∧ d.message.IsPlain ∧ d.Writable := by decide +kernel
    exact fun d hd => ⟨⟨(each d hd).1, (each d hd).2.1⟩, (each d hd).2.2⟩
  have none : ∀ d ∈ t.expectations, d.IsPlain ∧ d.Writable := nofun
  obtain ⟨_, _, difference, overlay, _, _, plain⟩ := print_uncoloured hl hs listed none listed
  have through : (Overlay.print lead source ds true).result = .ok () := by decide +kernel
  have same := overlay ds through
  rw [plain ds, if_neg (by decide)] at same
  refine ⟨hl, hs, listed, same.symm.trans ?_, difference.text, difference.coloured_result⟩
  decide +kernel

end TestCase

end DiagCheck
