import DiagCheck.Proofs.Expectation.Lines
import DiagCheck.Proofs.Expectation.Representable
import DiagCheck.Render.Listing

/-! Blocks of annotation lines. An uncoloured listing is read back as the list it was written
for exactly when every diagnostic of the list is representable. -/
namespace DiagCheck.Expectation

/-- Every diagnostic was read from one of the lines. -/
theorem exists_line_of_readFrom {n : Nat} {ls : List Text} {ds : List Diagnostic}
    (h : readFrom n ls = .ok ds) : ∀ d ∈ ds, ∃ l ∈ ls, read l = .ok (some d) := by
  obtain ⟨rs, each, rfl⟩ := readFrom_eq_ok_iff.mp h
  obtain ⟨length, each⟩ := List.forall₂_iff_get.mp each
  intro d hd
  have among : some d ∈ rs := by simpa using hd
  obtain ⟨i, inside, there⟩ := List.mem_iff_getElem.mp among
  have own := each i (length ▸ inside) inside
  rw [List.get_eq_getElem, List.get_eq_getElem, there] at own
  exact ⟨ls[i], List.getElem_mem _, own⟩

/-- Whatever lines of a text are read, only representable diagnostics come of them, and they
could be written again. -/
theorem representable_of_readFrom {n : Nat} {ls : List Text} {ds : List Diagnostic}
    (plain : ∀ l ∈ ls, '\n' ∉ Text.dropLineEnd l) (h : readFrom n ls = .ok ds) :
    ∀ d ∈ ds, d.Representable ∧ d.Writable := by
  intro d hd
  obtain ⟨l, hl, own⟩ := exists_line_of_readFrom h d hd
  exact ⟨representable_of_read (plain l hl) own, writable_of_read own⟩

theorem representable_of_readAll {t : Text} {ds : List Diagnostic}
    (h : readAll (Text.lines t) = .ok ds) : ∀ d ∈ ds, d.Representable ∧ d.Writable :=
  representable_of_readFrom (fun _ => Text.newline_not_mem_dropLineEnd) h

theorem readFrom_map_text {lead : Text} {ds : List Diagnostic} (hl : Lead lead)
    (h : ∀ d ∈ ds, d.Representable) (writable : ∀ d ∈ ds, d.Writable) (n : Nat) :
    readFrom n (ds.map fun d => lead ++ d.text ++ ['\n']) = .ok ds := by
  induction ds generalizing n with
  | nil => rfl
  | cons d ds ih =>
    have own := read_text hl (h d (List.mem_cons_self ..)) (writable d (List.mem_cons_self ..))
    have ih := ih (fun e he => h e (List.mem_cons_of_mem d he))
      (fun e he => writable e (List.mem_cons_of_mem d he)) (n + 1)
    simp only [List.map_cons, readFrom, own, ih, Except.map]

/-- The text of a listing falls into the lines of its diagnostics. -/
theorem lines_plainText {lead : Text} {ds : List Diagnostic} (hl : Lead lead) (some : ds ≠ [])
    (h : ∀ d ∈ ds, d.Representable) :
    Text.lines (Listing.plainText lead ds) = ds.map fun d => lead ++ d.text ++ ['\n'] := by
  have closed : ∀ l ∈ ds.map (fun d => lead ++ d.text), '\n' ∉ l := by
    intro l hm
    obtain ⟨d, hd, rfl⟩ := List.mem_map.mp hm
    simp [hl.1, newline_not_mem_text (h d hd)]
  have split := Text.lines_flatMap_append closed []
  simpa [Listing.plainText, some, List.flatMap_map, Text.lines, Function.comp_def] using split

theorem readAll_plainText_iff {lead : Text} {ds : List Diagnostic} (hl : Lead lead)
    (some : ds ≠ []) (writable : ∀ d ∈ ds, d.Writable) :
    readAll (Text.lines (Listing.plainText lead ds)) = .ok ds ↔ ∀ d ∈ ds, d.Representable := by
  constructor
  · intro h d hd
    exact (representable_of_readAll h d hd).1
  · intro h
    rw [lines_plainText hl some h]
    exact readFrom_map_text hl h writable 1

/-- A listing is written in full, and it is read back as it was exactly when each of its
diagnostics is representable. -/
theorem readAll_print_iff {lead : Text} {ds : List Diagnostic} (hl : Lead lead)
    (some : ds ≠ []) (writable : ∀ d ∈ ds, d.Writable) :
    ∃ text, Listing.print lead false ds = ⟨text, .ok ()⟩ ∧
      (readAll (Text.lines text) = .ok ds ↔ ∀ d ∈ ds, d.Representable) :=
  ⟨Listing.plainText lead ds, Listing.print_plain writable,
    readAll_plainText_iff hl some writable⟩

/-- The second of the two diagnostics has only one end of its span, so it is not read back. -/
theorem readAll_print_half_span :
    let lead := "//\u2003".toList
    let ds : List Diagnostic := [
      { kind := "TypeError".toList, message := "(a: b)".toList, start := 3, stop := 12 },
      { kind := "Warning".toList, message := "unused".toList, start := 7 }]
    Lead lead ∧ ds ≠ [] ∧ (∀ d ∈ ds, d.Writable) ∧
      ∃ text, Listing.print lead false ds = ⟨text, .ok ()⟩ ∧
        readAll (Text.lines text) ≠ .ok ds := by
  intro lead ds
  have hl : Lead lead := ⟨by decide, 2, "\u2003".toList, by decide⟩
  have writable : ∀ d ∈ ds, d.Writable := by decide +kernel
  have half : ¬∀ d ∈ ds, d.Representable := by decide
  obtain ⟨text, printed, read⟩ := readAll_print_iff hl (by decide) writable
  exact ⟨hl, by decide, writable, text, printed, mt read.mp half⟩

end DiagCheck.Expectation
