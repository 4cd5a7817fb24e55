import DiagCheck.Proofs.Expectation.RoundTrip
import DiagCheck.Proofs.File.Directory
import DiagCheck.Proofs.Sections
import DiagCheck.TestCase.Run

/-! Tests as they are built and as runs leave them. A test is built from a text or from a file
whose bytes encode one; what runs change of it is only what they obtained. -/
namespace DiagCheck

/-- Lines behind which nothing is broken are the lines of a text. -/
theorem Feed.lines_eq_of_unbroken {bs : Bytes} (h : (ofBytes bs).broken = false) :
    ∃ t, Utf8.decode? bs = some t ∧ (ofBytes bs).lines = Text.lines t := by
  unfold ofBytes Utf8.decode? at *
  cases decoded : Utf8.decode bs with
  | mk t defect =>
    cases defect with
    | none => exact ⟨t, rfl, rfl⟩
    | some d => simp [decoded] at h

namespace TestCase

/-- A test that was built from a text or from a file. -/
inductive Built (t : TestCase) : Prop where
  | text (name : Text) (options : Options) (s : Text) : ofText name options s = .ok t → Built t
  | file (d : Directory) (path : Text) (options : Options) : ofFile d path options = .ok t → Built t

/-- What becomes of a test by runs. Nothing else that is done with a test changes it. -/
inductive After (t : TestCase) : TestCase → Prop where
  | built : After t t
  | run : After t u → After t (u.run stack lead formatted).test

theorem ofFeed_eq_ok {name : Text} {options : Options} {bs : Bytes} {t : TestCase}
    (h : ofFeed name options (Feed.ofBytes bs) = .ok t) :
    ∃ s, Utf8.decode? bs = some s ∧ ofText name options s = .ok t := by
  have unbroken : (Feed.ofBytes bs).broken = false :=
    Bool.eq_false_iff.mpr fun broken => ofFeed_of_broken broken t h
  obtain ⟨s, decoded, lines⟩ := Feed.lines_eq_of_unbroken unbroken
  refine ⟨s, decoded, ?_⟩
  rw [ofText, ← lines]
  unfold ofFeed at h
  split at h
  · cases h
  · next read => rw [read]; simpa [unbroken] using h

theorem ofFile_eq_ok {d : Directory} {path : Text} {options : Options} {t : TestCase}
    (h : ofFile d path options = .ok t) :
    ∃ bs, d.read path = .ok bs ∧ ofFeed path options (Feed.ofBytes bs) = .ok t := by
  unfold ofFile at h
  split at h
  · cases h
  · cases h
  · next bs read => exact ⟨bs, read, h⟩

theorem locate_of_ofFile {d : Directory} {path : Text} {options : Options} {t : TestCase}
    (h : ofFile d path options = .ok t) : ∃ name, d.locate path = .ok name := by
  obtain ⟨bs, read, _⟩ := ofFile_eq_ok h
  obtain ⟨name, found, _⟩ := Directory.read_eq_ok_iff.mp read
  exact ⟨name, found⟩

theorem ofFile_of_text {d : Directory} {path s : Text} (h : d.read path = .ok (Utf8.encode s))
    (options : Options) : ofFile d path options = ofText path options s := by
  simp only [ofFile, h, ofFeed_encode]

theorem Built.exists_text {t : TestCase} (h : Built t) :
    ∃ name options s, ofText name options s = .ok t := by
  cases h with
  | text name options s h => exact ⟨name, options, s, h⟩
  | file d path options h =>
    obtain ⟨bs, _, h⟩ := ofFile_eq_ok h
    obtain ⟨s, _, h⟩ := ofFeed_eq_ok h
    exact ⟨_, _, s, h⟩

/-- A test is built of the sections of its text and of the annotations read from them. -/
theorem ofText_eq_ok_iff {name : Text} {options : Options} {s : Text} {t : TestCase} :
    ofText name options s = .ok t ↔
      ∃ r es, Sections.ofLines (Text.lines s) = .ok r ∧ Expectation.readAll r.annotations = .ok es ∧
        t = { name, options, source := r.source, settings := r.settings.erase optimiseKey,
              understood := understoodOf r.settings,
              optimise := (r.settings.get? optimiseKey).isSome, expectations := es } := by
  unfold ofText ofLines
  cases Sections.ofLines (Text.lines s) with
  | error e => simp
  | ok r =>
    unfold ofSections
    cases read : Expectation.readAll r.annotations with
    | error f => simp [read]
    | ok es => simp [read, eq_comm]

/-- What is read of the lines of a test, which is all that a test takes from them. -/
def contents (ls : List Text) : Except Fault (Sections × List Diagnostic) := do
  let r ← (Sections.ofLines ls).mapError .sections
  let es ← (Expectation.readAll r.annotations).mapError .expectation
  return (r, es)

def assemble (name : Text) (options : Options) : Sections × List Diagnostic → TestCase :=
  fun (r, es) => {
    name, options, source := r.source, settings := r.settings.erase optimiseKey
    understood := understoodOf r.settings
    optimise := (r.settings.get? optimiseKey).isSome, expectations := es }

theorem ofLines_eq (name : Text) (options : Options) (ls : List Text) :
    ofLines name options ls = (contents ls).map (assemble name options) := by
  unfold ofLines contents
  cases Sections.ofLines ls with
  | error d => rfl
  | ok r =>
    simp only [ofSections]
    cases read : Expectation.readAll r.annotations <;>
      simp [read, Except.mapError, bind, Except.bind, pure, Except.pure, Except.map, assemble]

/-- Neither the name of a test nor its options have a say in what is read of its lines. -/
theorem ofLines_relabel (name name' : Text) (o o' : Options) (ls : List Text) :
    ofLines name' o' ls =
      (ofLines name o ls).map fun t => { t with name := name', options := o' } := by
  rw [ofLines_eq, ofLines_eq]
  cases contents ls <;> rfl

/-- The options of a run have no say in how a test is built from its file. -/
theorem ofFile_options (d : Directory) (path : Text) (options other : Options) :
    ofFile d path other = (ofFile d path options).map fun t => { t with options := other } := by
  unfold ofFile
  split
  · rfl
  · rfl
  · next bytes _ =>
    unfold ofFeed
    rw [ofLines_eq, ofLines_eq]
    cases contents (Feed.ofBytes bytes).lines with
    | error f => rfl
    | ok read =>
      simp only [Except.map]
      split <;> rfl

/-- What holds of a test at all times, and lets its updated file be read. -/
structure Formed (t : TestCase) : Prop where
  source : Sections.IsSource t.source
  understood : t.understood = if t.optimise then [(optimiseKey, "true".toList)] else []

/-- What holds of every test as it is built. -/
structure Fresh (t : TestCase) : Prop extends Formed t where
  expectations : ∀ d ∈ t.expectations, d.Representable ∧ d.Writable
  obtained : t.obtained = []
  hasRun : t.hasRun = false

theorem Built.fresh {t : TestCase} (h : Built t) : t.Fresh := by
  obtain ⟨name, options, s, h⟩ := h.exists_text
  obtain ⟨r, es, sections, read, rfl⟩ := ofText_eq_ok_iff.mp h
  have plain : ∀ l ∈ Text.lines s, '\n' ∉ Text.dropLineEnd l :=
    fun _ => Text.newline_not_mem_dropLineEnd
  have own : ∀ l ∈ r.annotations, '\n' ∉ Text.dropLineEnd l :=
    fun l hl => plain l ((Sections.annotations_suffix sections).subset hl)
  exact ⟨⟨Sections.isSource_of_ofLines plain sections, rfl⟩,
    Expectation.representable_of_readFrom own read, rfl, rfl⟩

theorem After.exists_eq {t u : TestCase} (h : After t u) :
    ∃ ds b, u = { t with obtained := ds, hasRun := b } := by
  induction h with
  | built => exact ⟨t.obtained, t.hasRun, rfl⟩
  | run _ ih =>
    obtain ⟨ds, b, rfl⟩ := ih
    obtain ⟨es, h⟩ := test_run { t with obtained := ds, hasRun := b } _ _ _
    exact ⟨es, true, h⟩

end TestCase

end DiagCheck
