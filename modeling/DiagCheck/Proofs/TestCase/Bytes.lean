import DiagCheck.Proofs.TestCase.Built
import DiagCheck.Proofs.Text.Utf8

/-! Tests from bytes. A file makes the test that the text of its bytes makes, and no test if its
bytes encode no text. Of all characters only a newline ends a line, in a file as in a text. -/
namespace DiagCheck.TestCase

/-- Everything that a test takes from its text. -/
structure Alike (t u : TestCase) : Prop where
  source : t.source = u.source
  settings : t.settings = u.settings
  understood : t.understood = u.understood
  optimise : t.optimise = u.optimise
  expectations : t.expectations = u.expectations

/-- The lines of a file are the lines of its text, and these end at newlines alone. -/
theorem lines_of_encoded (s : Text) :
    ∃ (ls : List Text) (b : Text), (∀ l ∈ ls, '\n' ∉ l) ∧ '\n' ∉ b ∧
      s = ls.flatMap (· ++ ['\n']) ++ b ∧
      Feed.ofBytes (Utf8.encode s) =
        ⟨ls.map (· ++ ['\n']) ++ if b = [] then [] else [b], false⟩ := by
  obtain ⟨ls, b, closed, plain, rfl⟩ := Text.exists_closed_lines s
  refine ⟨ls, b, closed, plain, rfl, ?_⟩
  rw [Feed.ofBytes_encode, Text.lines_flatMap_append closed, Text.lines_of_not_mem plain]

variable {d : Directory} {path name : Text} {bytes : Bytes} {o o' : Options}

/-- The name of a text is its own, and so are its options. -/
theorem ofFile_eq_map_ofText {s : Text} (there : d.read path = .ok (Utf8.encode s)) :
    ofFile d path o = (ofText name o' s).map fun t => { t with name := path, options := o } := by
  rw [ofFile_of_text there]
  exact ofLines_relabel name path o' o (Text.lines s)

theorem exists_encoded_of_ofFile {t : TestCase} (there : d.read path = .ok bytes)
    (made : ofFile d path o = .ok t) : ∃ s, bytes = Utf8.encode s := by
  obtain ⟨own, read, made⟩ := ofFile_eq_ok made
  obtain rfl : own = bytes := by simpa [read] using there
  obtain ⟨s, decoded, _⟩ := ofFeed_eq_ok made
  exact ⟨s, Utf8.decode?_eq_some_iff.mp decoded⟩

/-- The bytes of a file make a test if and only if they encode a text that makes one, and the two
are alike. A fault in the text is the fault in the file. -/
theorem ofFile_agrees_with_ofText (there : d.read path = .ok bytes) (name : Text)
    (o o' : Options) :
    ((∃ t, ofFile d path o = .ok t) ↔
      ∃ s u, Utf8.decode? bytes = some s ∧ ofText name o' s = .ok u) ∧
    (∀ s, Utf8.decode? bytes = some s →
      (∀ u, ofText name o' s = .ok u → ∃ t, ofFile d path o = .ok t ∧ Alike t u) ∧
      (∀ f, ofText name o' s = .error f ↔ ofFile d path o = .error f) ∧
      ∃ (ls : List Text) (b : Text), (∀ l ∈ ls, '\n' ∉ l) ∧ '\n' ∉ b ∧
        s = ls.flatMap (· ++ ['\n']) ++ b ∧
        Feed.ofBytes bytes = ⟨ls.map (· ++ ['\n']) ++ if b = [] then [] else [b], false⟩) ∧
    (Utf8.decode? bytes = none → ∀ t, ofFile d path o ≠ .ok t) ∧
    ∀ s, Utf8.decode? bytes = some s ↔ bytes = Utf8.encode s := by
  have agree : ∀ s, Utf8.decode? bytes = some s → ofFile d path o =
      (ofText name o' s).map fun t => { t with name := path, options := o } := by
    intro s decoded
    rw [Utf8.decode?_eq_some_iff] at decoded
    exact ofFile_eq_map_ofText (decoded ▸ there)
  have encoded : ∀ t, ofFile d path o = .ok t → ∃ s, Utf8.decode? bytes = some s := by
    intro t made
    obtain ⟨s, h⟩ := exists_encoded_of_ofFile there made
    exact ⟨s, Utf8.decode?_eq_some_iff.mpr h⟩
  refine ⟨⟨?_, ?_⟩, ?_, ?_, fun s => Utf8.decode?_eq_some_iff⟩
  · rintro ⟨t, made⟩
    obtain ⟨s, decoded⟩ := encoded t made
    rw [agree s decoded] at made
    obtain ⟨u, own, _⟩ := Expectation.map_eq_ok made
    exact ⟨s, u, decoded, own⟩
  · rintro ⟨s, u, decoded, own⟩
    exact ⟨_, by rw [agree s decoded, own]; rfl⟩
  · intro s decoded
    rw [agree s decoded]
    refine ⟨?_, ?_, ?_⟩
    · intro u own
      rw [own]
      exact ⟨_, rfl, rfl, rfl, rfl, rfl, rfl⟩
    · intro f
      cases ofText name o' s <;> simp [Except.map]
    · rw [Utf8.decode?_eq_some_iff.mp decoded]
      exact lines_of_encoded s
  · intro undecoded t made
    obtain ⟨s, decoded⟩ := encoded t made
    rw [undecoded] at decoded
    cases decoded

/-- A byte order mark, a carriage return inside a line, a form feed and characters that elsewhere
break lines stay in the source. The second file has an overlong form behind a whole test. -/
theorem ofFile_agrees_with_ofText_marked :
    let s := "\ufeffa\rb\r\n\x0c\u0085é\u2028\n// ----\n//E: (1-2):".toList
    let broken := Utf8.encode s ++ [0x0A, 0xC0, 0x80]
    let d : Directory := [(['a'], Utf8.encode s), (['b'], broken)]
    d.read ['a'] = .ok (Utf8.encode s) ∧ d.read ['b'] = .ok broken ∧
      (∃ t, ofFile d ['a'] {} = .ok t ∧ t.source = "\ufeffa\rb\n\x0c\u0085é\u2028\n".toList ∧
        t.expectations = [{ kind := ['E'], message := [], start := 1, stop := 2 }]) ∧
      Utf8.decode? broken = none ∧ ∀ t, ofFile d ['b'] {} ≠ .ok t := by
  intro s broken d
  have whole : d.read ['a'] = .ok (Utf8.encode s) := rfl
  have part : d.read ['b'] = .ok broken := rfl
  have undecoded : Utf8.decode? broken = none := by decide
  have made : ofText ['c'] {} s = .ok {
      name := ['c'], options := {}, source := "\ufeffa\rb\n\x0c\u0085é\u2028\n".toList
      settings := [], optimise := false
      expectations := [{ kind := ['E'], message := [], start := 1, stop := 2 }] } := by decide
  obtain ⟨t, made', alike⟩ :=
    ((ofFile_agrees_with_ofText whole ['c'] {} {}).2.1 s (Utf8.decode?_encode s)).1 _ made
  exact ⟨whole, part, ⟨t, made', alike.source, alike.expectations⟩, undecoded,
    (ofFile_agrees_with_ofText part ['c'] {} {}).2.2.1 undecoded⟩

end DiagCheck.TestCase
