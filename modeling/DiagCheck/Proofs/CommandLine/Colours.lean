import DiagCheck.Proofs.CommandLine.Frame
import DiagCheck.Proofs.Compiler.Isolation
import DiagCheck.Proofs.TestCase.Plain

/-! What colours add to the blocks of files. Without its colours the block of a file is the
uncoloured one, but for one addition where a source is shown. -/
namespace DiagCheck.CommandLine

open Compiler TestCase

/-- What stands in front of the source in the block of a failing file. -/
def front (c : Config) (path : Text) : Text := crossLine path ++ c.lead ++ "Contract:\n".toList

/-- The source in its plain form. -/
def overlay (c : Config) (t : TestCase) : Text := Overlay.plainText (c.lead ++ c.lead) t.source

/-- The line that tells which diagnostic keeps the source from being coloured. -/
def warningLine (c : Config) (t : TestCase) (e : Diagnostic) : Text :=
  c.lead ++ "WARNING: ".toList ++
    (Render.Fault.outsideSource e.start e.stop t.source.length).message ++ ['\n']

/-- The test in the file, as its run leaves it. -/
def RunsTo (c : Config) (d : Directory) (stack : Option Stack) (path : Text) (u : TestCase) :
    Prop :=
  ∃ t s, load c d path = .ok t ∧ stack = some s ∧ (t.run s c.lead c.formatted).test = u

/-- The block of a file in colour, less the colours, and the uncoloured block beside it. They are
the same text but for one addition if a source is shown. -/
inductive Beside (c : Config) (d : Directory) (stack : Option Stack) (path : Text) :
    Verdict → Text → Text → Prop where
  | other : v ≠ .failed → Beside c d stack path v x x
  | empty : RunsTo c d stack path u → u.source = [] → Beside c d stack path .failed x x
  | inside : RunsTo c d stack path u → u.source ≠ [] →
      (∀ e ∈ u.obtained, ¬Highlight.Outside u.source.length e) →
      Beside c d stack path .failed (front c path ++ overlay c u ++ ['\n'] ++ rest)
        (front c path ++ overlay c u ++ rest)
  | outside : RunsTo c d stack path u → u.source ≠ [] →
      u.obtained.find? (fun e => Highlight.Outside u.source.length e) = some e →
      Beside c d stack path .failed (front c path ++ warningLine c u e ++ overlay c u ++ rest)
        (front c path ++ overlay c u ++ rest)

/-- The verdicts of all files, and their blocks beside each other. -/
inductive BesideAll (c : Config) (accept : Bool) :
    Directory → Option Stack → List Text → List Verdict → Text → Text → Prop where
  | nil : BesideAll c accept d stack [] [] [] []
  | cons : runFile c accept d stack path = r → r.result = .ok v →
      (runFile (restyle c c.lead false) accept d stack path).output = y →
      Beside c d stack path v (Style.erase r.output) y →
      BesideAll c accept r.directory r.stack paths vs xs ys →
      BesideAll c accept d stack (path :: paths) (v :: vs) (Style.erase r.output ++ xs) (y ++ ys)

variable {c : Config} {accept : Bool} {d : Directory} {stack : Option Stack} {path : Text}
  {paths : List Text}

/-! ## The source -/

theorem closeLine_overlay {u : TestCase} (c : Config) (some : u.source ≠ []) :
    closeLine (overlay c u) = overlay c u :=
  if_pos (Overlay.getLast?_plainText _ some)

theorem sourceBlock_of_uncoloured {u : TestCase} (uncoloured : c.formatted = false)
    (some : u.source ≠ []) : sourceBlock c u = overlay c u := by
  simp only [sourceBlock, uncoloured, printSource, Overlay.print_plain]
  exact closeLine_overlay c some

theorem sourceBlock_of_empty {u : TestCase} (c : Config) (empty : u.source = []) :
    sourceBlock c u = ['\n'] := by
  unfold sourceBlock printSource Overlay.print
  simp only [empty]
  cases c.formatted with
  | false => rfl
  | true => rfl

/-- A coloured source without its colours: a newline comes behind it, or a warning before it. -/
theorem erases_sourceBlock {u : TestCase} (coloured : c.formatted = true) (hl : c.lead.IsPlain)
    (plain : u.source.IsPlain) (closed : u.source.getLast? = some '\n')
    (writable : ∀ e ∈ u.obtained, e.Writable) :
    ((∀ e ∈ u.obtained, ¬Highlight.Outside u.source.length e) ∧
        Style.Erases (sourceBlock c u) (overlay c u ++ ['\n'])) ∨
      ∃ e, u.obtained.find? (fun e => Highlight.Outside u.source.length e) = some e ∧
        Style.Erases (sourceBlock c u) (warningLine c u e ++ overlay c u) := by
  have some : u.source ≠ [] := by
    rintro empty
    simp [empty] at closed
  have twice : (c.lead ++ c.lead).IsPlain := Text.isPlain_append.mpr ⟨hl, hl⟩
  have shown : (overlay c u).IsPlain := Overlay.isPlain_plainText twice plain
  rcases Highlight.levels_eq u.source.length u.obtained with ⟨painted, levels, inside⟩ |
    ⟨e, levels, first⟩
  · refine .inl ⟨inside, ?_⟩
    have unclosed := Overlay.getLast?_styledText (c.lead ++ c.lead) some painted
    have block : sourceBlock c u =
        Overlay.styledText (c.lead ++ c.lead) u.source painted ++ ['\n'] := by
      simp only [sourceBlock, printSource, Overlay.print, coloured, Bool.not_true,
        Bool.false_eq_true, if_false, if_neg some, levels, Output.write]
      exact if_neg (by simp [unclosed])
    have lines : overlay c u = Overlay.shown (c.lead ++ c.lead) u.source := by
      rw [overlay, Overlay.plainText_eq, if_pos (.inr closed)]
    rw [block, lines]
    exact (Overlay.erases_styledText twice plain (Highlight.length_levels levels)).append
      (Style.erases_of_isPlain (by decide))
  · refine .inr ⟨e, first, ?_⟩
    have told : Highlight.fault u.source.length e =
        .outsideSource e.start e.stop u.source.length :=
      if_pos (writable e (List.mem_of_find?_eq_some first))
    have block : sourceBlock c u = warningLine c u e ++ overlay c u := by
      simp only [sourceBlock, printSource, Overlay.print, coloured, Bool.not_true,
        Bool.false_eq_true, if_false, if_neg some, levels, Output.fail, told]
      exact congrArg (warningLine c u e ++ ·) (closeLine_overlay c some)
    rw [block]
    exact Style.erases_of_isPlain (by simp [warningLine, hl, shown])

/-! ## Blocks by what came of a file -/

theorem output_runFile_of_load_fault {f : TestCase.Fault} (loaded : load c d path = .error f)
    (ends : f.endsTest = true) (accept : Bool) (stack : Option Stack) :
    (runFile c accept d stack path).output = errorBlock c.lead path f.message := by
  simp only [runFile, loaded, ends, if_true]

theorem output_runFile_of_run_fault {t : TestCase} {s : Stack} {f : TestCase.Fault}
    (loaded : load c d path = .ok t) (returned : (t.run s c.lead c.formatted).result = .error f)
    (ends : f.endsTest = true) (accept : Bool) :
    (runFile c accept d (some s) path).output = errorBlock c.lead path f.message := by
  simp only [runFile_of_load loaded, conclude, returned, ends, if_true]

theorem output_runFile_of_passed {t : TestCase} {s : Stack} (loaded : load c d path = .ok t)
    (passed : (t.run s c.lead c.formatted).result = .ok true) (accept : Bool) :
    (runFile c accept d (some s) path).output = passedBlock path := by
  simp only [runFile_of_load loaded, conclude, passed]

/-- A failing file is shown with what was obtained, and a line tells that it was updated. -/
theorem output_runFile_of_failed {t : TestCase} {s : Stack} (loaded : load c d path = .ok t)
    (failed : (t.run s c.lead c.formatted).result = .ok false) (accept : Bool) :
    let u : TestCase := { t with obtained := s.upcoming.diagnostics, hasRun := true }
    (runFile c accept d (some s) path).output =
      failedBlock c path u ((u.printDifference c.lead c.formatted).text ++
        if accept then updatedLine c.lead path else []) := by
  intro u
  have fresh := (fresh_of_load loaded).hasRun
  obtain ⟨collects, _, _, writable⟩ := (run_eq_false_iff fresh).mp failed
  have left : (t.run s c.lead c.formatted).test = u := (run_of_collects fresh collects ..).1
  have report := report_run fresh collects c.lead c.formatted
  rw [runFile_of_load loaded]
  unfold conclude
  rw [left] at report
  simp only [failed, left, report]
  cases accept with
  | false => simp
  | true => simp [update, printUpdated_of_writable (t := u) writable, failedBlock]

/-! ## Blocks beside each other -/

/-- Neither the name of the file nor the test in it has an escape character. -/
structure PlainFile (c : Config) (d : Directory) (path : Text) : Prop where
  name : path.IsPlain
  test : ∀ t, ofFile d path (options c) = .ok t → t.IsPlain

theorem isPlain_of_load {f : TestCase.Fault} (plain : PlainFile c d path)
    (h : load c d path = .error f) (ends : f.endsTest = true) : f.message.IsPlain := by
  cases made : ofFile d path (options c) with
  | error g =>
    obtain rfl : g = f := Except.error.inj ((load_of_fault made).symm.trans h)
    exact isPlain_of_ofFile plain.name made ends
  | ok t =>
    by_cases known : t.settings = []
    · rw [load_eq_ok_iff.mpr ⟨made, known⟩] at h
      cases h
    · rw [load_of_unknown made known] at h
      cases h
      exact isPlain_unknownSettings (plain.test t made).settings

/-- The block of a failing file. -/
theorem beside_failedBlock {u : TestCase} {report report' : Text} (coloured : c.formatted = true)
    (hl : c.lead.IsPlain) (hp : path.IsPlain) (runsTo : RunsTo c d stack path u)
    (plain : u.source.IsPlain) (source : Sections.IsSource u.source)
    (writable : ∀ e ∈ u.obtained, e.Writable) (told : Style.Erases report report') :
    ∃ x, Beside c d stack path .failed x
        (failedBlock (restyle c c.lead false) path u report') ∧
      Style.Erases (failedBlock c path u report) x := by
  have head : Style.Erases (front c path) (front c path) :=
    Style.erases_of_isPlain (by simp [front, crossLine, hl, hp])
  by_cases empty : u.source = []
  · have block :
        Style.Erases (failedBlock c path u report) (front c path ++ ['\n'] ++ report') := by
      rw [failedBlock, sourceBlock_of_empty c empty]
      exact (head.append (Style.erases_of_isPlain (by decide))).append told
    refine ⟨_, ?_, block⟩
    rw [failedBlock, sourceBlock_of_empty _ empty]
    exact .empty runsTo empty
  · have uncoloured : failedBlock (restyle c c.lead false) path u report' =
        front c path ++ overlay c u ++ report' := by
      rw [failedBlock, sourceBlock_of_uncoloured rfl empty]
      rfl
    rw [uncoloured]
    rcases erases_sourceBlock coloured hl plain (source.closed empty) writable with
      ⟨inside, erases⟩ | ⟨e, first, erases⟩
    · refine ⟨_, .inside runsTo empty inside, ?_⟩
      rw [List.append_assoc (front c path)]
      exact (head.append erases).append told
    · refine ⟨_, .outside runsTo empty first, ?_⟩
      rw [List.append_assoc (front c path)]
      exact (head.append erases).append told

theorem beside_of_failed {t : TestCase} {s : Stack} (coloured : c.formatted = true)
    (hl : c.lead.IsPlain) (plain : PlainFile c d path) (script : s.upcoming.IsPlain)
    (loaded : load c d path = .ok t)
    (failed : (t.run s c.lead c.formatted).result = .ok false) (accept : Bool) :
    ∃ x, Beside c d (some s) path .failed x
        (runFile (restyle c c.lead false) accept d (some s) path).output ∧
      Style.Erases (runFile c accept d (some s) path).output x := by
  have fresh := fresh_of_load loaded
  have made := plain.test t (load_eq_ok_iff.mp loaded).1
  obtain ⟨collects, _, _, writable⟩ := (run_eq_false_iff fresh.hasRun).mp failed
  have runsTo : RunsTo c d (some s) path
      { t with obtained := s.upcoming.diagnostics, hasRun := true } :=
    ⟨t, s, loaded, rfl, (run_of_collects fresh.hasRun collects ..).1⟩
  have failed' : (t.run s c.lead false).result = .ok false :=
    (result_run_congr fresh.hasRun fresh.hasRun rfl rfl ..).trans failed
  have updated : Text.IsPlain (if accept then updatedLine c.lead path else []) := by
    split
    · simp [updatedLine, hl, plain.name]
    · exact Text.isPlain_nil
  rw [output_runFile_of_failed loaded failed,
    output_runFile_of_failed (c := restyle c c.lead false) loaded failed']
  refine beside_failedBlock coloured hl plain.name runsTo made.source fresh.source writable ?_
  have told := erases_printDifference
    (t := { t with obtained := s.upcoming.diagnostics, hasRun := true }) hl made.expectations
    (script.diagnostics collects) c.formatted
  exact told.text.append (Style.erases_of_isPlain updated)

/-- Any block but that of a failing file is the same without colours. -/
theorem beside_of_same {v : Verdict} {t : Text} (plain : t.IsPlain) (other : v ≠ .failed)
    {x y : Text} (coloured : x = t) (uncoloured : y = t) :
    ∃ z, Beside c d stack path v z y ∧ Style.Erases x z := by
  subst coloured uncoloured
  exact ⟨_, .other other, Style.erases_of_isPlain plain⟩

theorem isPlain_errorBlock {message : Text} (hl : c.lead.IsPlain) (hp : path.IsPlain)
    (h : message.IsPlain) : (errorBlock c.lead path message).IsPlain := by
  simp [errorBlock, crossLine, hl, hp, h]

theorem beside_runFile {v : Verdict} (coloured : c.formatted = true) (hl : c.lead.IsPlain)
    (plain : PlainFile c d path) (script : ∀ s ∈ stack, Stack.upcoming s |>.IsPlain)
    (verdict : (runFile c accept d stack path).result = .ok v) :
    ∃ x, Beside c d stack path v x (runFile (restyle c c.lead false) accept d stack path).output ∧
      Style.Erases (runFile c accept d stack path).output x := by
  cases loaded : load c d path with
  | error f =>
    rw [(runFile_of_fault loaded accept stack).1, verdictOf] at verdict
    split at verdict
    · next ends =>
      cases verdict
      have block := isPlain_errorBlock hl plain.name (isPlain_of_load plain loaded ends)
      have output := output_runFile_of_load_fault loaded ends accept stack
      exact beside_of_same block (by decide) output
        (output_runFile_of_load_fault (c := restyle c c.lead false) loaded ends accept stack)
    · cases verdict
  | ok t =>
    cases stack with
    | none => simp [runFile, loaded] at verdict
    | some s =>
      have fresh := (fresh_of_load loaded).hasRun
      have script := script s rfl
      have congr : (t.run s c.lead false).result = (t.run s c.lead c.formatted).result :=
        result_run_congr fresh fresh rfl rfl ..
      rw [result_runFile loaded] at verdict
      cases returned : (t.run s c.lead c.formatted).result with
      | error f =>
        rw [returned, judge, verdictOf] at verdict
        split at verdict
        · next ends =>
          cases verdict
          have block := isPlain_errorBlock hl plain.name (isPlain_of_run fresh script returned ends)
          have output := output_runFile_of_run_fault loaded returned ends accept
          exact beside_of_same block (by decide) output (output_runFile_of_run_fault
            (c := restyle c c.lead false) loaded (congr.trans returned) ends accept)
        · cases verdict
      | ok b =>
        rw [returned] at verdict
        cases b with
        | true =>
          cases verdict
          have block : (passedBlock path).IsPlain := by simp [passedBlock, plain.name]
          have output := output_runFile_of_passed loaded returned accept
          exact beside_of_same block (by decide) output (output_runFile_of_passed
            (c := restyle c c.lead false) loaded (congr.trans returned) accept)
        | false =>
          cases verdict
          exact beside_of_failed coloured hl plain script loaded returned accept

/-! ## All files -/

/-- Nothing that the files, the scripts that are left or the stack may show has an escape
character. -/
structure PlainRun (c : Config) (d : Directory) (stack : Option Stack) (paths : List Text) :
    Prop where
  files : ∀ path ∈ paths, PlainFile c d path
  scripts : ∀ s ∈ stack, ∀ q ∈ Stack.queue s, q.IsPlain

theorem isPlain_upcoming {s : Stack} (h : ∀ q ∈ s.queue, q.IsPlain) : s.upcoming.IsPlain := by
  unfold Stack.upcoming
  cases first : s.queue.head? with
  | none => exact Script.isPlain_default
  | some q => exact h q (List.mem_of_head? first)

/-- A file that is updated for a plain script stays plain, and so do all others. -/
theorem PlainFile.revise {s : Script} {other : Text} (script : s.IsPlain)
    (plain : PlainFile c d path) (updated : PlainFile c d other) :
    PlainFile c (revise s d other) path := by
  refine ⟨plain.name, ?_⟩
  intro v made
  cases read : ofFile d other (options c) with
  | error f =>
    rw [revise_of_fault read] at made
    exact plain.test v made
  | ok t =>
    rw [revise_of_test read] at made
    split at made
    · next outdated =>
      obtain ⟨_, collects, _, writable⟩ := outdated
      obtain ⟨name, found⟩ := locate_of_ofFile read
      rw [Directory.write_of_locate found] at made
      -- Only a path to the file that was updated can lead to anything new.
      by_cases own : d.locate path = .ok name
      · have fresh := (Built.file d other _ read).fresh
        rw [ofFile_updatedText (t := { t with obtained := s.diagnostics })
          ⟨fresh.source, fresh.understood⟩
          (Directory.read_replace own _)] at made
        exact isPlain_reread (t := { t with obtained := s.diagnostics })
          (updated.test t read).source (script.diagnostics collects) writable made
      · rw [ofFile, Directory.read_replace_of_ne own] at made
        exact plain.test v made
    · exact plain.test v made

theorem PlainRun.next (h : PlainRun c d stack (path :: paths)) (accept : Bool) :
    PlainRun c (runFile c accept d stack path).directory (runFile c accept d stack path).stack
      paths := by
  have own := h.files path (List.mem_cons_self ..)
  have others := fun p hp => h.files p (List.mem_cons_of_mem path hp)
  cases stack with
  | none =>
    rw [directory_runFile_none, stack_runFile_none]
    exact ⟨others, h.scripts⟩
  | some s =>
    have script := isPlain_upcoming (h.scripts s rfl)
    constructor
    · cases accept with
      | false =>
        rw [directory_runFile]
        exact others
      | true =>
        rw [directory_runFile_accept]
        exact fun p hp => (others p hp).revise script own
    · cases loaded : load c d path with
      | error f =>
        rw [stack_runFile_of_load_error loaded]
        exact h.scripts
      | ok t =>
        rw [stack_runFile loaded, Stack.prepare_eq, Stack.remaining_eq]
        rintro _ ⟨⟩ q hq
        exact h.scripts s rfl q (List.mem_of_mem_drop hq)

theorem besideAll_runFiles {vs : List Verdict} (coloured : c.formatted = true)
    (hl : c.lead.IsPlain) (plain : PlainRun c d stack paths)
    (judged : (runFiles c accept d stack paths).result = .ok vs) :
    ∃ x, BesideAll c accept d stack paths vs x
        (runFiles (restyle c c.lead false) accept d stack paths).output ∧
      Style.Erases (runFiles c accept d stack paths).output x := by
  induction paths generalizing d stack vs with
  | nil =>
    cases judged
    exact ⟨[], .nil, Style.erases_nil⟩
  | cons path paths ih =>
    have script : ∀ s ∈ stack, (Stack.upcoming s).IsPlain :=
      fun s hs => isPlain_upcoming (plain.scripts s hs)
    obtain ⟨result, left, directory⟩ := runFile_restyle c c.lead false accept d stack path
    simp only [runFiles] at judged ⊢
    simp only [result, left, directory]
    cases verdict : (runFile c accept d stack path).result with
    | error f => simp [verdict] at judged
    | ok v =>
      simp only [verdict] at judged ⊢
      obtain ⟨us, later, rfl⟩ := Expectation.map_eq_ok judged
      obtain ⟨x, beside, erases⟩ := beside_runFile coloured hl
        (plain.files path (List.mem_cons_self ..)) script verdict
      obtain ⟨xs, besides, erased⟩ := ih (plain.next accept) later
      obtain rfl := erases.erase_eq
      exact ⟨_, .cons rfl verdict rfl beside besides, erases.append erased⟩

end DiagCheck.CommandLine
