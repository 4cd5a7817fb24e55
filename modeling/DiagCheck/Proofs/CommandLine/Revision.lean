import DiagCheck.Proofs.CommandLine.FileRun

/-! What leave to update makes of a directory. A file is given a revision if its test fails on
the script, and a revision is either left alone by the same script or replaced by itself. -/
namespace DiagCheck.CommandLine

open Compiler TestCase

/-- The test fails on the script, in a way that can be told. -/
def Outdated (s : Script) (t : TestCase) : Prop :=
  t.settings = [] ∧ s.Collects ∧ t.expectations ≠ s.diagnostics ∧
    ∀ e ∈ s.diagnostics, e.Writable

instance (s : Script) (t : TestCase) : Decidable (Outdated s t) :=
  inferInstanceAs (Decidable (_ ∧ _))

/-- The bytes that the file is given. -/
def revision? (s : Script) (d : Directory) (path : Text) : Option Bytes :=
  match ofFile d path {} with
  | .error _ => none
  | .ok t =>
    if Outdated s t then some (Utf8.encode { t with obtained := s.diagnostics }.updatedText)
    else none

def revise (s : Script) (d : Directory) (path : Text) : Directory :=
  match revision? s d path with
  | none => d
  | some bytes => d.write path bytes

/-- Bytes that were written because a test failed on the script. -/
structure IsRevision (s : Script) (bytes : Bytes) : Prop where
  collects : s.Collects
  writable : ∀ e ∈ s.diagnostics, e.Writable
  updated : ∃ u : TestCase, u.Formed ∧ u.obtained = s.diagnostics ∧
    bytes = Utf8.encode u.updatedText

variable {s : Script} {d : Directory} {path : Text} {bytes : Bytes}

theorem revision?_of_test {t : TestCase} {o : Options} (made : ofFile d path o = .ok t) :
    revision? s d path =
      if Outdated s t then some (Utf8.encode { t with obtained := s.diagnostics }.updatedText)
      else none := by
  have neutral : ofFile d path {} = .ok { t with options := {} } := by
    rw [ofFile_options d path o, made]
    rfl
  simp only [revision?, neutral]
  rfl

theorem revision?_of_fault {f : TestCase.Fault} {o : Options} (h : ofFile d path o = .error f) :
    revision? s d path = none := by
  have neutral : ofFile d path {} = .error f := by
    rw [ofFile_options d path o, h]
    rfl
  simp only [revision?, neutral]

theorem revise_of_fault {f : TestCase.Fault} {o : Options} (h : ofFile d path o = .error f) :
    revise s d path = d := by
  rw [revise, revision?_of_fault h]

theorem revise_of_test {t : TestCase} {o : Options} (made : ofFile d path o = .ok t) :
    revise s d path =
      if Outdated s t then
        d.write path (Utf8.encode { t with obtained := s.diagnostics }.updatedText)
      else d := by
  rw [revise, revision?_of_test made]
  by_cases outdated : Outdated s t
  · simp only [if_pos outdated]
  · simp only [if_neg outdated]

theorem outdated_of_failed {c : Config} {t : TestCase} {stack : Stack}
    (loaded : load c d path = .ok t) {lead : Text} {formatted : Bool}
    (failed : (t.run stack lead formatted).result = .ok false) : Outdated stack.upcoming t := by
  have fresh := fresh_of_load loaded
  obtain ⟨collects, differ, _, writable⟩ := (run_eq_false_iff fresh.hasRun).mp failed
  exact ⟨(load_eq_ok_iff.mp loaded).2, collects, differ, writable⟩

theorem failed_of_outdated {c : Config} {t : TestCase} {stack : Stack}
    (loaded : load c d path = .ok t) (outdated : Outdated stack.upcoming t) (lead : Text)
    (formatted : Bool) :
    (t.run stack lead formatted).result = .ok false ∧
    (t.run stack lead formatted).test =
      { t with obtained := stack.upcoming.diagnostics, hasRun := true } := by
  obtain ⟨_, collects, differ, writable⟩ := outdated
  exact run_of_differing loaded collects differ writable lead formatted

/-- With leave to update, a run revises the file and does nothing else to the directory. -/
theorem directory_runFile_accept (c : Config) (d : Directory) (stack : Stack) (path : Text) :
    (runFile c true d (some stack) path).directory = revise stack.upcoming d path := by
  cases made : ofFile d path (options c) with
  | error f =>
    rw [revise_of_fault made]
    exact (runFile_of_fault (load_of_fault made) true _).2.1
  | ok t =>
    rw [revise_of_test made]
    by_cases known : t.settings = []
    · have loaded := load_eq_ok_iff.mpr ⟨made, known⟩
      rw [runFile_of_load loaded]
      split
      · next outdated =>
        obtain ⟨failed, left⟩ := failed_of_outdated loaded outdated c.lead c.formatted
        have obtained : ∀ e ∈ (t.run stack c.lead c.formatted).test.obtained, e.Writable := by
          rw [left]
          exact outdated.2.2.2
        rw [(conclude_of_failed failed obtained c true d path).2, left, printUpdated_eq]
        rfl
      · next current =>
        cases returned : (t.run stack c.lead c.formatted).result with
        | error f => exact (conclude_of_fault returned c true d path).2
        | ok b =>
          cases b with
          | true => exact (conclude_of_passed returned c true d path).2
          | false => exact absurd (outdated_of_failed loaded returned) current
    · have current : ¬Outdated stack.upcoming t := fun outdated => known outdated.1
      rw [if_neg current]
      exact (runFile_of_fault (load_of_unknown made known) true _).2.1

/-- A file is revised exactly if its verdict is that it failed. -/
theorem result_eq_failed_iff {c : Config} {accept : Bool} {stack : Stack} :
    (runFile c accept d (some stack) path).result = .ok .failed ↔
      ∃ t, ofFile d path (options c) = .ok t ∧ Outdated stack.upcoming t := by
  constructor
  · intro failed
    cases loaded : load c d path with
    | error f =>
      rw [(runFile_of_fault loaded accept _).1] at failed
      exact absurd failed (verdictOf_ne_failed f)
    | ok t =>
      rw [result_runFile loaded, judge_eq_failed_iff] at failed
      exact ⟨t, (load_eq_ok_iff.mp loaded).1, outdated_of_failed loaded failed⟩
  · rintro ⟨t, made, outdated⟩
    have loaded := load_eq_ok_iff.mpr ⟨made, outdated.1⟩
    rw [result_runFile loaded, judge_eq_failed_iff]
    exact (failed_of_outdated loaded outdated c.lead c.formatted).1

theorem revise_of_not_failed {c : Config} {accept : Bool} {stack : Stack}
    (h : (runFile c accept d (some stack) path).result ≠ .ok .failed) :
    revise stack.upcoming d path = d := by
  cases made : ofFile d path (options c) with
  | error f => exact revise_of_fault made
  | ok t =>
    rw [revise_of_test made, if_neg]
    intro outdated
    exact h (result_eq_failed_iff.mpr ⟨t, made, outdated⟩)

theorem revision?_eq_some_iff :
    revision? s d path = some bytes ↔ ∃ t, ofFile d path {} = .ok t ∧ Outdated s t ∧
      bytes = Utf8.encode { t with obtained := s.diagnostics }.updatedText := by
  cases made : ofFile d path {} with
  | error f => simp [revision?_of_fault made]
  | ok t =>
    rw [revision?_of_test made]
    by_cases outdated : Outdated s t
    · simp [outdated, eq_comm]
    · simp [outdated]

theorem isRevision_of_revision? (h : revision? s d path = some bytes) : IsRevision s bytes := by
  obtain ⟨t, made, ⟨_, collects, _, writable⟩, rfl⟩ := revision?_eq_some_iff.mp h
  have fresh := (Built.file d path {} made).fresh
  exact ⟨collects, writable, { t with obtained := s.diagnostics },
    ⟨fresh.source, fresh.understood⟩, rfl, rfl⟩

/-- The only revision of a revision is itself. -/
theorem IsRevision.unique (h : IsRevision s bytes) (there : d.read path = .ok bytes) {new : Bytes}
    (again : revision? s d path = some new) : new = bytes := by
  obtain ⟨_, _, u, formed, obtained, rfl⟩ := h
  obtain ⟨v, made, _, rfl⟩ := revision?_eq_some_iff.mp again
  rw [ofFile_updatedText formed there] at made
  obtain ⟨es, _, rfl⟩ := reread_eq_ok_iff.mp made
  rw [← obtained]
  rfl

/-- A revision passes exactly if it says what was found. -/
theorem IsRevision.passed_iff {stack : Stack} (h : IsRevision stack.upcoming bytes)
    (there : d.read path = .ok bytes) (c : Config) (accept : Bool) :
    (runFile c accept d (some stack) path).result = .ok .passed ↔
      ∀ e ∈ stack.upcoming.diagnostics, e.Representable := by
  obtain ⟨collects, writable, u, formed, obtained, rfl⟩ := h
  rw [← obtained] at writable ⊢
  have reloads : u.Reloads (ofFile d path (options c)) := by
    rw [ofFile_updatedText formed there]
    exact reloads_reread writable path (options c)
  rw [← reloads.exact]
  cases made : ofFile d path (options c) with
  | error f =>
    rw [(runFile_of_fault (load_of_fault made) accept _).1]
    constructor
    · intro passed
      exact absurd passed (verdictOf_ne_passed f)
    · rintro ⟨v, read, _⟩
      cases read
  | ok v =>
    have loaded := load_eq_ok_iff.mpr ⟨made, (reloads.kept v made).2.2.2⟩
    rw [result_runFile loaded, judge_eq_passed_iff, run_eq_true_iff (fresh_of_load loaded).hasRun,
      ← obtained]
    constructor
    · rintro ⟨_, expected⟩
      exact ⟨v, rfl, expected⟩
    · rintro ⟨w, read, expected⟩
      cases read
      exact ⟨collects, expected⟩

/-! ## Revisions in a directory -/

/-- Updating the file again changes nothing. -/
def Settled (s : Script) (d : Directory) (path : Text) : Prop := revise s d path = d

/-- The file of that name has been given a revision. -/
def Revised (s : Script) (name : Text) (d : Directory) : Prop :=
  ∃ bytes, IsRevision s bytes ∧ d.lookup name = some bytes

theorem locate_of_revision? (h : revision? s d path = some bytes) :
    ∃ name, d.locate path = .ok name := by
  obtain ⟨t, made, _⟩ := revision?_eq_some_iff.mp h
  exact locate_of_ofFile made

theorem revise_cases (s : Script) (d : Directory) (path : Text) :
    revise s d path = d ∨ ∃ name bytes, d.locate path = .ok name ∧ IsRevision s bytes ∧
      revise s d path = d.replace name bytes := by
  cases revised : revision? s d path with
  | none => exact .inl (by rw [revise, revised])
  | some bytes =>
    obtain ⟨name, found⟩ := locate_of_revision? revised
    refine .inr ⟨name, bytes, found, isRevision_of_revision? revised, ?_⟩
    rw [revise, revised]
    exact Directory.write_of_locate found bytes

theorem revision?_congr {e : Directory} (h : d.read path = e.read path) :
    revision? s d path = revision? s e path := by
  simp only [revision?, ofFile, h]

/-- A failed file is revised. -/
theorem revise_of_failed {c : Config} {accept : Bool} {stack : Stack} {name : Text}
    (failed : (runFile c accept d (some stack) path).result = .ok .failed)
    (found : d.locate path = .ok name) :
    ∃ bytes, IsRevision stack.upcoming bytes ∧
      revise stack.upcoming d path = d.replace name bytes := by
  obtain ⟨t, made, outdated⟩ := result_eq_failed_iff.mp failed
  have revised := revision?_of_test (s := stack.upcoming) made
  rw [if_pos outdated] at revised
  refine ⟨_, isRevision_of_revision? revised, ?_⟩
  rw [revise_of_test made, if_pos outdated, Directory.write_of_locate found]

theorem settled_replace {name : Text} (found : d.locate path = .ok name)
    (h : IsRevision s bytes) : Settled s (d.replace name bytes) path := by
  have there := Directory.read_replace found bytes
  have same : (d.replace name bytes).locate path = .ok name := by
    rw [Directory.locate_replace, found]
  unfold Settled revise
  split
  · rfl
  · next again =>
    rw [h.unique there again, Directory.write_of_locate same, Directory.replace_replace]

theorem settled_revise (s : Script) (d : Directory) (path : Text) :
    Settled s (revise s d path) path := by
  rcases revise_cases s d path with same | ⟨name, bytes, found, revision, replaced⟩
  · rw [same]
    exact same
  · rw [replaced]
    exact settled_replace found revision

/-- A file that is settled stays so when other files, or this one, are updated. -/
theorem Settled.revise (h : Settled s d path) (other : Text) :
    Settled s (revise s d other) path := by
  rcases revise_cases s d other with same | ⟨name, bytes, _, revision, replaced⟩
  · rw [same]
    exact h
  · rw [replaced]
    by_cases found : d.locate path = .ok name
    · exact settled_replace found revision
    · -- Another file is updated, so this one is read as before and would be given the same bytes.
      have there := Directory.read_replace_of_ne found bytes
      unfold Settled CommandLine.revise at h ⊢
      rw [revision?_congr there]
      cases revised : revision? s d path with
      | none => rfl
      | some new =>
        obtain ⟨own, located⟩ := locate_of_revision? revised
        have ne : name ≠ own := fun e => found (by rw [located, e])
        simp only [revised] at h ⊢
        rw [Directory.write_replace_of_ne located ne, h]

theorem Revised.revise {name : Text} (h : Revised s name d) (path : Text) :
    Revised s name (revise s d path) := by
  rcases revise_cases s d path with same | ⟨other, bytes, _, revision, replaced⟩
  · rw [same]
    exact h
  · obtain ⟨old, own, there⟩ := h
    rw [replaced, Revised]
    simp only [Directory.lookup_replace]
    by_cases same : name = other
    · subst same
      exact ⟨bytes, revision, by simp [there]⟩
    · exact ⟨old, own, by simp [same, there]⟩

end DiagCheck.CommandLine
