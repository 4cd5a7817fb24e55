import DiagCheck.Proofs.CommandLine.Acceptance

/-! What has no say in a run. A file that is not run is carried along as it is, and the lead and
the colours change nothing of the verdicts, of the stack and of the files. -/
namespace DiagCheck.CommandLine

open Compiler TestCase

/-- The configuration with another look of what is printed. -/
def restyle (c : Config) (lead : Text) (formatted : Bool) : Config := { c with lead, formatted }

variable {c : Config} {accept : Bool} {d : Directory} {stack : Option Stack} {path name : Text}
  {bytes : Bytes} {paths : List Text}

/-! ## A file that is not run -/

theorem load_replace (apart : d.locate path ≠ .ok name) (c : Config) (bytes : Bytes) :
    load c (d.replace name bytes) path = load c d path := by
  unfold load ofFile
  rw [Directory.read_replace_of_ne apart]

theorem conclude_replace {own : Text} (found : d.locate path = .ok own) (ne : name ≠ own)
    (c : Config) (accept : Bool) (bytes : Bytes) (r : TestCase.Run) :
    conclude c accept (d.replace name bytes) path r =
      { conclude c accept d path r with
        directory := (conclude c accept d path r).directory.replace name bytes } := by
  unfold conclude
  split
  · split <;> rfl
  · rfl
  · split
    · unfold update
      dsimp only
      split <;> simp only [Directory.write_replace_of_ne found ne]
    · rfl

/-- Another file is carried along as it is. -/
theorem runFile_replace (apart : d.locate path ≠ .ok name) (c : Config) (accept : Bool)
    (bytes : Bytes) (stack : Option Stack) :
    runFile c accept (d.replace name bytes) stack path =
      { runFile c accept d stack path with
        directory := (runFile c accept d stack path).directory.replace name bytes } := by
  unfold runFile
  rw [load_replace apart]
  split
  · split <;> rfl
  · next loaded =>
    obtain ⟨own, found⟩ := locate_of_ofFile (load_eq_ok_iff.mp loaded).1
    split
    · exact conclude_replace found (fun e => apart (by rw [found, e])) ..
    · rfl

/-- A run of a file gives new bytes to that file, if to any. -/
theorem directory_runFile_cases (c : Config) (accept : Bool) (d : Directory)
    (stack : Option Stack) (path : Text) :
    (runFile c accept d stack path).directory = d ∨ ∃ own new, d.locate path = .ok own ∧
      (runFile c accept d stack path).directory = d.replace own new := by
  cases accept with
  | false => exact .inl (directory_runFile c d stack path)
  | true =>
    cases stack with
    | none => exact .inl (directory_runFile_none c true d path)
    | some s =>
      rw [directory_runFile_accept]
      rcases revise_cases s.upcoming d path with same | ⟨own, new, found, _, replaced⟩
      · exact .inl same
      · exact .inr ⟨own, new, found, replaced⟩

theorem locate_runFile (c : Config) (accept : Bool) (d : Directory) (stack : Option Stack)
    (path other : Text) :
    (runFile c accept d stack path).directory.locate other = d.locate other := by
  rcases directory_runFile_cases c accept d stack path with same | ⟨own, new, _, replaced⟩
  · rw [same]
  · rw [replaced, Directory.locate_replace]

theorem lookup_runFile (apart : d.locate path ≠ .ok name) (c : Config) (accept : Bool)
    (stack : Option Stack) :
    (runFile c accept d stack path).directory.lookup name = d.lookup name := by
  rcases directory_runFile_cases c accept d stack path with same | ⟨own, new, found, replaced⟩
  · rw [same]
  · have other : name ≠ own := fun e => apart (by rw [found, e])
    rw [replaced, Directory.lookup_replace, if_neg other]

theorem runFiles_replace (apart : ∀ path ∈ paths, d.locate path ≠ .ok name) (c : Config)
    (accept : Bool) (bytes : Bytes) (stack : Option Stack) :
    runFiles c accept (d.replace name bytes) stack paths =
      { runFiles c accept d stack paths with
        directory := (runFiles c accept d stack paths).directory.replace name bytes } ∧
    (runFiles c accept d stack paths).directory.lookup name = d.lookup name := by
  induction paths generalizing d stack with
  | nil => exact ⟨rfl, rfl⟩
  | cons path paths ih =>
    have own := apart path (List.mem_cons_self ..)
    have kept := lookup_runFile own c accept stack
    have others : ∀ p ∈ paths, (runFile c accept d stack path).directory.locate p ≠ .ok name := by
      intro p hp
      rw [locate_runFile]
      exact apart p (List.mem_cons_of_mem path hp)
    obtain ⟨rest, later⟩ := ih others (runFile c accept d stack path).stack
    rw [kept] at later
    simp only [runFiles, runFile_replace own]
    cases (runFile c accept d stack path).result with
    | error f => exact ⟨rfl, kept⟩
    | ok v =>
      simp only [rest]
      exact ⟨trivial, later⟩

/-! ## Another look -/

variable {lead : Text} {formatted : Bool}

theorem load_restyle (c : Config) (lead : Text) (formatted : Bool) (d : Directory) (path : Text) :
    load (restyle c lead formatted) d path = load c d path := rfl

theorem runFile_restyle (c : Config) (lead : Text) (formatted : Bool) (accept : Bool)
    (d : Directory) (stack : Option Stack) (path : Text) :
    let r := runFile c accept d stack path
    let r' := runFile (restyle c lead formatted) accept d stack path
    r'.result = r.result ∧ r'.stack = r.stack ∧ r'.directory = r.directory := by
  intro r r'
  cases stack with
  | none =>
    have left : r'.directory = r.directory :=
      (directory_runFile_none ..).trans (directory_runFile_none ..).symm
    have gone : r'.stack = r.stack := (stack_runFile_none ..).trans (stack_runFile_none ..).symm
    refine ⟨?_, gone, left⟩
    simp only [r, r', runFile, load_restyle]
    split
    · split <;> rfl
    · rfl
  | some s =>
    refine ⟨result_runFile_congr rfl _ _ _ _ d path, ?_, ?_⟩
    · cases loaded : load c d path with
      | error f =>
        have loaded' : load (restyle c lead formatted) d path = .error f := loaded
        exact (stack_runFile_of_load_error loaded' ..).trans
          (stack_runFile_of_load_error loaded ..).symm
      | ok t =>
        have loaded' : load (restyle c lead formatted) d path = .ok t := loaded
        exact (stack_runFile loaded' ..).trans (stack_runFile loaded ..).symm
    · cases accept with
      | false => exact (directory_runFile ..).trans (directory_runFile ..).symm
      | true => exact (directory_runFile_accept ..).trans (directory_runFile_accept ..).symm

theorem runFiles_restyle (c : Config) (lead : Text) (formatted : Bool) (accept : Bool)
    (d : Directory) (stack : Option Stack) (paths : List Text) :
    let rs := runFiles c accept d stack paths
    let rs' := runFiles (restyle c lead formatted) accept d stack paths
    rs'.result = rs.result ∧ rs'.stack = rs.stack ∧ rs'.directory = rs.directory := by
  induction paths generalizing d stack with
  | nil => exact ⟨rfl, rfl, rfl⟩
  | cons path paths ih =>
    obtain ⟨result, left, directory⟩ := runFile_restyle c lead formatted accept d stack path
    simp only [runFiles, result, left, directory]
    cases (runFile c accept d stack path).result with
    | error f => exact ⟨rfl, rfl, rfl⟩
    | ok v =>
      obtain ⟨result', left', directory'⟩ := ih (runFile c accept d stack path).directory
        (runFile c accept d stack path).stack
      exact ⟨congrArg (Except.map (v :: ·)) result', left', directory'⟩

end DiagCheck.CommandLine
