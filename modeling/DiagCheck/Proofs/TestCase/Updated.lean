import DiagCheck.Proofs.TestCase.Verdict

/-! Updated test files. The file that is written for a test is taken apart into the source and
the settings of that test again, so only its annotations decide what comes of reading it. -/
namespace DiagCheck.TestCase

variable {t u : TestCase}

/-- The annotations of the updated file. -/
def updatedBlock (t : TestCase) : Text := (t.printAnnotations []).text

def updatedText (t : TestCase) : Text :=
  t.source ++ (t.settingsText [] ++ (Sections.annotationsMark ++ '\n' :: t.updatedBlock))

theorem lead_comment : Expectation.Lead "// ".toList :=
  ⟨by decide, 2, [' '], by decide⟩

/-- What is written before a fault is the whole file too, up to the annotation at fault. -/
theorem printUpdated_eq (t : TestCase) :
    t.printUpdated = ⟨t.updatedText, (t.printAnnotations []).result⟩ := by
  cases h : t.printAnnotations [] with
  | mk text result => simp [printUpdated, updatedText, updatedBlock, h]

theorem printAnnotations_of_writable (h : ∀ d ∈ t.obtained, d.Writable) :
    t.printAnnotations [] =
      ⟨if t.obtained = [] then [] else Listing.plainText "// ".toList t.obtained, .ok ()⟩ := by
  unfold printAnnotations
  split
  · rfl
  · exact Listing.print_plain h

theorem printUpdated_of_writable (h : ∀ d ∈ t.obtained, d.Writable) :
    t.printUpdated = ⟨t.updatedText, .ok ()⟩ := by
  rw [printUpdated_eq, printAnnotations_of_writable h]

/-- No diagnostics are written as no annotations, and not as the line of an empty listing. -/
theorem readAll_updatedBlock_iff (writable : ∀ d ∈ t.obtained, d.Writable) :
    Expectation.readAll (Text.lines t.updatedBlock) = .ok t.obtained ↔
      ∀ d ∈ t.obtained, d.Representable := by
  rw [updatedBlock, printAnnotations_of_writable writable]
  by_cases none : t.obtained = []
  · simp [none, Text.lines, Expectation.readAll, Expectation.readFrom]
  · simp only [none, if_false]
    exact Expectation.readAll_plainText_iff lead_comment none writable

theorem ofLines_settingsText (formed : t.Formed) (annotations : Text) :
    Sections.ofLines (Text.lines
      (t.settingsText [] ++ (Sections.annotationsMark ++ '\n' :: annotations))) =
      .ok ⟨[], t.understood, Text.lines annotations⟩ := by
  cases asked : t.optimise with
  | false =>
    have none : t.understood = [] := by rw [formed.understood, asked]; rfl
    simp only [settingsText, none, if_true, List.nil_append, Sections.ofLines_annotationsMark]
  | true =>
    have one : t.understood = [(optimiseKey, "true".toList)] := by
      rw [formed.understood, asked]
      rfl
    have text : t.settingsText [] =
        Sections.settingsMark ++ '\n' :: ("// optimize-yul: true".toList ++ ['\n']) := by
      rw [settingsText, one]
      decide
    have setting : Sections.readSetting ("// optimize-yul: true".toList ++ ['\n']) =
        .ok (optimiseKey, "true".toList) := by decide
    simp only [text, List.append_assoc, List.cons_append, List.nil_append]
    rw [Sections.ofLines_settingsMark, Sections.readSettings_setting (by decide) (by decide)
      (by decide) setting, Sections.readSettings_annotationsMark, one]
    rfl

/-- The test that is made of an updated file. Settings that were not understood are lost. -/
def reread (t : TestCase) (name : Text) (options : Options) : Except Fault TestCase :=
  match Expectation.readAll (Text.lines t.updatedBlock) with
  | .error f => .error (.expectation f)
  | .ok expectations => .ok {
      name, options, source := t.source, settings := [], understood := t.understood
      optimise := t.optimise, expectations }

theorem ofText_updatedText (formed : t.Formed) (name : Text)
    (options : Options) : ofText name options t.updatedText = t.reread name options := by
  have sections : Sections.ofLines (Text.lines t.updatedText) =
      .ok ⟨t.source, t.understood, Text.lines t.updatedBlock⟩ := by
    rw [updatedText, Sections.ofLines_lines_append formed.source, ofLines_settingsText formed]
    simp [Except.map]
  have settings : t.understood.erase optimiseKey = [] ∧
      (t.understood.get? optimiseKey).isSome = t.optimise ∧
      understoodOf t.understood = t.understood := by
    rw [formed.understood]
    cases t.optimise with
    | false => decide
    | true => decide
  simp only [ofText, ofLines, sections, ofSections, settings.1, settings.2.1, settings.2.2]
  unfold reread
  cases Expectation.readAll (Text.lines t.updatedBlock) with
  | error f => simp only
  | ok es => simp only

theorem ofFile_updatedText {d : Directory} {path : Text} (formed : t.Formed)
    (written : d.read path = .ok (Utf8.encode t.updatedText)) (options : Options) :
    ofFile d path options = t.reread path options := by
  rw [ofFile_of_text written, ofText_updatedText formed]

theorem reread_eq_ok_iff {v : TestCase} {name : Text} {options : Options} :
    t.reread name options = .ok v ↔
      ∃ es, Expectation.readAll (Text.lines t.updatedBlock) = .ok es ∧
        v = { name, options, source := t.source, settings := [], understood := t.understood,
              optimise := t.optimise, expectations := es } := by
  unfold reread
  cases Expectation.readAll (Text.lines t.updatedBlock) with
  | error f => simp
  | ok es => simp [eq_comm]

/-- Reading the updated file of a test gives a test that expects what the first one obtained,
if that can be said in annotations, and otherwise a fault in them or other expectations. -/
structure Reloads (t : TestCase) (x : Except Fault TestCase) : Prop where
  faults : ∀ f, x = .error f → ∃ e, f = .expectation e
  accepted : (∃ v, x = .ok v) ↔ ∃ es, Expectation.readAll (Text.lines t.updatedBlock) = .ok es
  kept : ∀ v, x = .ok v → v.source = t.source ∧ v.optimise = t.optimise ∧
    v.understood = t.understood ∧ v.settings = []
  exact : (∃ v, x = .ok v ∧ v.expectations = t.obtained) ↔ ∀ d ∈ t.obtained, d.Representable

theorem reloads_reread (writable : ∀ d ∈ t.obtained, d.Writable) (name : Text)
    (options : Options) : t.Reloads (t.reread name options) := by
  constructor
  · intro f fault
    unfold reread at fault
    split at fault
    · next e _ =>
      cases fault
      exact ⟨e, rfl⟩
    · cases fault
  · constructor
    · rintro ⟨v, made⟩
      obtain ⟨es, read, _⟩ := reread_eq_ok_iff.mp made
      exact ⟨es, read⟩
    · rintro ⟨es, read⟩
      exact ⟨_, reread_eq_ok_iff.mpr ⟨es, read, rfl⟩⟩
  · intro v made
    obtain ⟨es, _, rfl⟩ := reread_eq_ok_iff.mp made
    exact ⟨rfl, rfl, rfl, rfl⟩
  · rw [← readAll_updatedBlock_iff writable]
    constructor
    · rintro ⟨v, made, same⟩
      obtain ⟨es, read, rfl⟩ := reread_eq_ok_iff.mp made
      rw [read, ← same]
    · intro read
      exact ⟨_, reread_eq_ok_iff.mpr ⟨_, read, rfl⟩, rfl⟩

/-! ## Reading after a run -/

theorem After.formed (after : t.After u) (formed : t.Formed) : u.Formed := by
  obtain ⟨ds, b, rfl⟩ := after.exists_eq
  exact ⟨formed.source, formed.understood⟩

/-- A second run is refused and changes nothing. -/
theorem After.eq_of_hasRun (ran : t.hasRun = true) (after : t.After u) : u = t := by
  induction after with
  | built => rfl
  | run _ ih =>
    subst ih
    rw [run_of_hasRun ran]

/-- A run that returned obtained the diagnostics of the script. -/
theorem obtained_of_run {b : Bool} {stack : Compiler.Stack} {lead : Text} {formatted : Bool}
    (returned : (t.run stack lead formatted).result = .ok b)
    (after : (t.run stack lead formatted).test.After u) :
    stack.upcoming.Collects ∧ u.obtained = stack.upcoming.diagnostics := by
  have fresh := hasRun_of_run returned
  have collects := collects_of_run fresh returned
  have left := (run_of_collects fresh collects lead formatted).1
  have same := after.eq_of_hasRun (by rw [left])
  exact ⟨collects, by rw [same, left]⟩

theorem run_of_expected {v : TestCase} {stack : Compiler.Stack} (fresh : v.hasRun = false)
    (collects : stack.upcoming.Collects) (expected : v.expectations = stack.upcoming.diagnostics)
    (lead : Text) (formatted : Bool) :
    (v.run stack lead formatted).result = .ok true ∧
    (v.run stack lead formatted).test.obtained = stack.upcoming.diagnostics := by
  obtain ⟨left, result⟩ := run_of_collects fresh collects lead formatted
  rw [left, result, if_pos expected]
  exact ⟨rfl, rfl⟩

/-- The updated file of a test can be written, over a file or as a new one, and reading it gives
the test back as far as annotations can say what was obtained. If they can, then a run of what was
read on a stack that answers as before passes. -/
theorem reloads_updated (built : t.Built) (after : t.After u)
    (writable : ∀ d ∈ u.obtained, d.Writable) :
    ∃ text, u.printUpdated = ⟨text, .ok ()⟩ ∧
      (∀ d path old, Directory.read d path = .ok old →
        Directory.read (d.write path (Utf8.encode text)) path = .ok (Utf8.encode text)) ∧
      (∀ d path name, Directory.newName? d path = some name →
        Directory.read (d.write path (Utf8.encode text)) path = .ok (Utf8.encode text)) ∧
      ∀ d path options, Directory.read d path = .ok (Utf8.encode text) →
        u.Reloads (ofFile d path options) ∧
        ∀ w stack lead formatted b, t.After w → (w.run stack lead formatted).result = .ok b →
          (w.run stack lead formatted).test.After u → (∀ d ∈ u.obtained, d.Representable) →
          ∃ v, ofFile d path options = .ok v ∧ v.expectations = u.obtained ∧
            ∀ again lead formatted, Compiler.Stack.upcoming again = stack.upcoming →
              (v.run again lead formatted).result = .ok true ∧
              (v.run again lead formatted).test.obtained = u.obtained := by
  have formed : u.Formed := after.formed built.fresh.toFormed
  refine ⟨u.updatedText, printUpdated_of_writable writable, ?_, ?_, ?_⟩
  · intro d path old there
    exact Directory.read_write there _
  · intro d path name new
    exact Directory.read_write_new new _
  · intro d path options written
    rw [ofFile_updatedText formed written]
    refine ⟨reloads_reread writable path options, ?_⟩
    intro w stack lead formatted b _ returned later representable
    obtain ⟨collects, obtained⟩ := obtained_of_run returned later
    have read := (readAll_updatedBlock_iff writable).mpr representable
    refine ⟨_, reread_eq_ok_iff.mpr ⟨_, read, rfl⟩, rfl, ?_⟩
    intro again lead formatted same
    rw [← same] at collects obtained
    rw [obtained]
    exact run_of_expected rfl collects rfl lead formatted

/-- A file with carriage returns and a setting, whose annotations are out of date. -/
theorem reloads_updated_outdated :
    let text := "contract C {}\r\n// ====\n// optimize-yul: no\n// ----\n// Warning: old\n".toList
    let t : TestCase := {
      name := "c.sol".toList, options := {}, source := "contract C {}\n".toList, settings := []
      understood := [(optimiseKey, "true".toList)], optimise := true
      expectations := [{ kind := "Warning".toList, message := "old".toList }] }
    let found : Compiler.Finding := {
      kind := "TypeError".toList, comment := some "bad\nname".toList, span := some (32, 33),
      secondary := some false }
    let stack : Compiler.Stack := { queue := [{ findings := [found] }] }
    let u := (t.run stack [] false).test
    ofText t.name {} text = .ok t ∧ t.After u ∧ (∀ d ∈ u.obtained, d.Writable) ∧
      ∃ v, ofFile [(t.name, Utf8.encode u.printUpdated.text)] t.name {} = .ok v ∧
        v.source = t.source ∧ v.optimise = true ∧ v.expectations = u.obtained ∧
        (v.run stack [] false).result = .ok true := by
  intro text t found stack u
  have read : ofText t.name {} text = .ok t := by decide
  have built : t.Built := .text t.name {} text read
  have after : t.After u := .run .built
  have writable : ∀ d ∈ u.obtained, d.Writable := by decide +kernel
  obtain ⟨new, written, _, _, reload⟩ := reloads_updated built after writable
  obtain ⟨reloads, rerun⟩ := reload [(t.name, Utf8.encode new)] t.name {} rfl
  obtain ⟨v, made, expected, again⟩ :=
    rerun t stack [] false false .built (by decide +kernel) .built (by decide +kernel)
  have kept := reloads.kept v made
  refine ⟨read, after, writable, v, by rw [written]; exact made, kept.1, kept.2.1, expected, ?_⟩
  exact (again stack [] false rfl).1

end DiagCheck.TestCase
