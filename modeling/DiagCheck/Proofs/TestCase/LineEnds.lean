import DiagCheck.Proofs.TestCase.Verdict

/-! Texts with other line ends. A carriage return in front of a newline belongs to the end of its
line, and each section is read from its lines without their ends. So texts that differ in such
characters alone make one and the same test. -/
namespace DiagCheck

namespace Text

/-- The second text is the first one with carriage returns put in front of newlines. -/
inductive WithReturns : Text → Text → Prop where
  | nil : WithReturns [] []
  | char : WithReturns s s' → WithReturns (c :: s) (c :: s')
  | newline (n : Nat) : WithReturns s s' →
      WithReturns ('\n' :: s) (List.replicate n '\r' ++ '\n' :: s')

theorem WithReturns.append_left (l : Text) {s s' : Text} (h : WithReturns s s') :
    WithReturns (l ++ s) (l ++ s') := by
  induction l with
  | nil => exact h
  | cons c l ih => exact .char ih

theorem dropEnd_cons (p : Char → Bool) (c : Char) (l : Text) :
    dropEnd p (c :: l) = if dropEnd p l = [] ∧ p c = true then [] else c :: dropEnd p l := by
  simp only [dropEnd, List.reverse_cons, List.dropWhile_append, List.reverse_eq_nil_iff,
    List.isEmpty_iff]
  by_cases blank : l.reverse.dropWhile p = []
  · by_cases own : p c = true <;> simp [blank, own]
  · simp [blank]

/-- What is left of a line without its end depends on what is left of its rest. -/
theorem dropLineEnd_cons_congr {l l' : Text} (h : dropLineEnd l = dropLineEnd l') (c : Char) :
    dropLineEnd (c :: l) = dropLineEnd (c :: l') := by
  simp only [dropLineEnd] at h ⊢
  rw [dropEnd_cons, dropEnd_cons, h]

theorem dropLineEnd_returns (n : Nat) :
    dropLineEnd (List.replicate n '\r' ++ ['\n']) = dropLineEnd ['\n'] := by
  rw [dropLineEnd_append_newline]
  exact dropEnd_append_of_all (by simp [isLineEnd]) []

theorem map_dropLineEnd_lines {s s' : Text} (h : WithReturns s s') :
    (lines s').map dropLineEnd = (lines s).map dropLineEnd := by
  induction h with
  | nil => rfl
  | newline n _ ih =>
    rw [lines_append_newline (by simp)]
    simp only [lines, if_true, List.map_cons, ih, dropLineEnd_returns]
  | @char s s' c _ ih =>
    by_cases newline : c = '\n'
    · simp only [lines, newline, if_true, List.map_cons, ih]
    · simp only [lines, if_neg newline]
      cases first : lines s with
      | nil =>
        rw [first, List.map_nil, List.map_eq_nil_iff] at ih
        rw [ih]
      | cons l ls =>
        rw [first, List.map_cons] at ih
        obtain ⟨m, ms, first', own, rest⟩ := List.map_eq_cons_iff.mp ih
        simp only [first', List.map_cons, rest, dropLineEnd_cons_congr own]

end Text

/-! ## Reading without line ends -/

namespace Sections

@[simp] theorem opensAnnotations_dropLineEnd (l : Text) :
    opensAnnotations (Text.dropLineEnd l) = opensAnnotations l := by
  rw [opensAnnotations, Text.dropLineEnd_dropLineEnd, opensAnnotations]

@[simp] theorem opensSettings_dropLineEnd (l : Text) :
    opensSettings (Text.dropLineEnd l) = opensSettings l := by
  rw [opensSettings, Text.dropLineEnd_dropLineEnd, opensSettings]

@[simp] theorem readSetting_dropLineEnd (l : Text) :
    readSetting (Text.dropLineEnd l) = readSetting l := by
  rw [readSetting, Text.dropLineEnd_dropLineEnd, readSetting]

/-- Only annotations are kept with their line ends. -/
def trimmed (r : Sections) : Sections :=
  { r with annotations := r.annotations.map Text.dropLineEnd }

theorem readSettings_map_dropLineEnd (s : Settings) (ls : List Text) :
    readSettings s (ls.map Text.dropLineEnd) = (readSettings s ls).map trimmed := by
  induction ls generalizing s with
  | nil => rfl
  | cons l ls ih =>
    simp only [List.map_cons, readSettings, opensAnnotations_dropLineEnd,
      opensSettings_dropLineEnd, readSetting_dropLineEnd]
    split
    · rfl
    · split
      · exact ih s
      · split
        · rfl
        · exact ih _

theorem ofLines_map_dropLineEnd (ls : List Text) :
    ofLines (ls.map Text.dropLineEnd) = (ofLines ls).map trimmed := by
  induction ls with
  | nil => rfl
  | cons l ls ih =>
    simp only [List.map_cons, ofLines, opensAnnotations_dropLineEnd, opensSettings_dropLineEnd,
      Text.dropLineEnd_dropLineEnd]
    split
    · rfl
    · split
      · exact readSettings_map_dropLineEnd [] ls
      · rw [ih]
        cases ofLines ls <;> rfl

end Sections

namespace Expectation

theorem readFrom_map_dropLineEnd (n : Nat) (ls : List Text) :
    readFrom n (ls.map Text.dropLineEnd) = readFrom n ls := by
  induction ls generalizing n with
  | nil => rfl
  | cons l ls ih =>
    have own : read (Text.dropLineEnd l) = read l := by
      rw [read, body, Text.dropLineEnd_dropLineEnd, read, body]
    simp only [List.map_cons, readFrom, own, ih]

end Expectation

namespace TestCase

theorem ofLines_map_dropLineEnd (name : Text) (o : Options) (ls : List Text) :
    ofLines name o (ls.map Text.dropLineEnd) = ofLines name o ls := by
  unfold ofLines
  rw [Sections.ofLines_map_dropLineEnd]
  cases Sections.ofLines ls with
  | error d => rfl
  | ok r =>
    simp only [Except.map, ofSections, Sections.trimmed, Expectation.readAll,
      Expectation.readFrom_map_dropLineEnd]

variable {t : TestCase} {s s' : Text}

theorem ofText_withReturns (h : Text.WithReturns s s') (name : Text) (o : Options) :
    ofText name o s' = ofText name o s := by
  rw [ofText, ← ofLines_map_dropLineEnd, Text.map_dropLineEnd_lines h, ofLines_map_dropLineEnd,
    ofText]

theorem settle_rename (t : TestCase) (name lead : Text) (formatted : Bool)
    (x : Compiler.Examination (Except Compiler.Fault Compiler.Outcome)) :
    { t with name }.settle lead formatted x =
      { t.settle lead formatted x with
        test := { (t.settle lead formatted x).test with name } } := by
  unfold settle
  split
  · rfl
  · rfl
  · rfl

/-- The name of a test shows only in the log of its run, and in the test itself. -/
theorem run_rename (fresh : t.hasRun = false) (name : Text) (stack : Compiler.Stack) (lead : Text)
    (formatted : Bool) :
    { t with name }.run stack lead formatted =
      { t.run stack lead formatted with
        test := { (t.run stack lead formatted).test with name }
        log := ({ t with name }.run stack lead formatted).log } := by
  simp only [run, fresh, Bool.false_eq_true, if_false, job]
  rw [settle_rename { t with hasRun := true } name]

/-- Carriage returns in front of newlines make no difference to a test. The same fault is found in
both texts, or the tests that they make are alike. Their runs then compile the same source on a
stack, obtain and report the same, and the same file is written for both. -/
theorem lineEnds_irrelevant (h : Text.WithReturns s s') (name name' : Text) (o : Options) :
    (∀ f, ofText name o s = .error f ↔ ofText name' o s' = .error f) ∧
    ∀ t, ofText name o s = .ok t → ∃ t', ofText name' o s' = .ok t' ∧
      t'.source = t.source ∧ t'.settings = t.settings ∧ t'.understood = t.understood ∧
      t'.optimise = t.optimise ∧ t'.expectations = t.expectations ∧
      t'.printUpdated = t.printUpdated ∧
      ∀ stack lead formatted,
        let r := t.run stack lead formatted
        let r' := t'.run stack lead formatted
        r'.stack = r.stack ∧ r'.test.obtained = r.test.obtained ∧ r'.report = r.report ∧
        r'.result = r.result ∧ r'.test.printUpdated = r.test.printUpdated := by
  have same : ofText name' o s' =
      (ofText name o s).map fun t => { t with name := name', options := o } := by
    rw [ofText_withReturns h]
    exact ofLines_relabel name name' o o (Text.lines s)
  cases made : ofText name o s with
  | error e =>
    rw [made] at same
    refine ⟨fun f => ?_, nofun⟩
    rw [same]
    rfl
  | ok t =>
    rw [made] at same
    refine ⟨fun f => ?_, ?_⟩
    · rw [same]
      exact ⟨nofun, nofun⟩
    · rintro u ⟨⟩
      obtain ⟨r, es, _, _, rfl⟩ := ofText_eq_ok_iff.mp made
      refine ⟨_, same, rfl, rfl, rfl, rfl, rfl, rfl, ?_⟩
      intro stack lead formatted r r'
      have renamed : r' = _ := run_rename rfl name' stack lead formatted
      rw [renamed]
      exact ⟨rfl, rfl, rfl, rfl, rfl⟩

/-- Returns are put in front of newlines in all three sections. Those inside a line stay, and so
does the one that is the end of a line already. -/
theorem lineEnds_irrelevant_throughout :
    let s := "a\rb\r\n// ====\n// optimize-yul:\n// ----\n//E: (1-2):\n//W".toList
    let s' := "a\rb\r\r\r\n// ====\r\n// optimize-yul:\n// ----\r\n//E: (1-2):\r\n//W".toList
    let t : TestCase := {
      name := "a".toList, options := {}, source := "a\rb\n".toList, settings := []
      understood := [(optimiseKey, "true".toList)], optimise := true
      expectations := [
        { kind := "E".toList, message := [], start := 1, stop := 2 },
        { kind := "W".toList, message := [] }] }
    Text.WithReturns s s' ∧ ofText t.name {} s = .ok t ∧
      ∃ t', ofText "b".toList {} s' = .ok t' ∧ t'.source = t.source ∧
        t'.expectations = t.expectations ∧ t'.printUpdated = t.printUpdated := by
  intro s s' t
  have more : Text.WithReturns s s' := by
    refine .append_left "a\rb\r".toList (.newline 2 ?_)
    refine .append_left "// ====".toList (.newline 1 ?_)
    refine .append_left "// optimize-yul:\n// ----".toList (.newline 1 ?_)
    refine .append_left "//E: (1-2):".toList (.newline 1 ?_)
    exact .append_left "//W".toList .nil
  have made : ofText t.name {} s = .ok t := by decide
  obtain ⟨t', made', source, _, _, _, expectations, updated, _⟩ :=
    (lineEnds_irrelevant more t.name "b".toList {}).2 t made
  exact ⟨more, made, t', made', source, expectations, updated⟩

end TestCase

end DiagCheck
