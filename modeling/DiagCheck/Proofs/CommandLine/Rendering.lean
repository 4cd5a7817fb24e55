import DiagCheck.CommandLine.Scripted
import DiagCheck.Proofs.CommandLine.Colours
import DiagCheck.Proofs.CommandLine.Composition

/-! What rendering can change of a session. The lead and the colours have no say in what becomes
of the files and of the stack, and what colours add to the output is known. -/
namespace DiagCheck.CommandLine

open Compiler TestCase

variable {c : Config} {d : Directory} {name lead : Text} {bytes : Bytes} {formatted : Bool}

theorem isPlain_banner (vs : List Verdict) : (banner vs).IsPlain := by
  have line : rule.IsPlain := fun m => absurd (List.eq_of_mem_replicate m) (by decide)
  simp [banner, tally, line]

/-- A session that has a configuration. -/
theorem run_of_effective {env : Environment} {argv : List Text} {a : Arguments}
    (asked : Arguments.ofWords argv = .ok a) (configured : effective env a d = .ok c)
    (scripts : List Script) :
    Session.run env scripts d argv = match Pipeline.resolve env.modules c.pipeline with
      | .error f =>
        if f.isConfiguration then
          { output := "ERROR: ".toList ++ f.message ++ ['\n'], directory := d, result := .ok 1 }
        else { directory := d, result := .error (.start (.pipeline f)) }
      | .ok product => Session.ofRuns product.label? a.verbose
          (runFiles c a.accept d (fresh product scripts) a.files) := by
  simp only [Session.run, asked, Session.ofArguments, start, configured, Except.bind]
  cases Pipeline.resolve env.modules c.pipeline with
  | error f => rfl
  | ok product => rfl

theorem output_ofRuns {factory : Option Text} {verbose : Bool} {r : FileRuns} {n : Nat}
    (ended : (Session.ofRuns factory verbose r).result = .ok n) :
    ∃ vs, r.result = .ok vs ∧
      (Session.ofRuns factory verbose r).output = r.output ++ banner vs := by
  rw [(ofRuns_eq factory verbose r).1] at ended
  cases judged : r.result with
  | error f => simp [judged, Except.map, Except.mapError] at ended
  | ok vs => exact ⟨vs, rfl, by simp only [Session.ofRuns, judged]⟩

/-- Nothing that a session may show has an escape character, what it says of errors included. -/
structure Unescaped (env : Environment) (scripts : List Script) (d : Directory)
    (a : Arguments) (c : Config) : Prop where
  lead : c.lead.IsPlain
  files : ∀ path ∈ a.files, PlainFile c d path
  scripts : ∀ q ∈ scripts, q.IsPlain
  refusal : ∀ f, Pipeline.resolve env.modules c.pipeline = .error f → f.message.IsPlain

theorem Unescaped.run {env : Environment} {scripts : List Script} {a : Arguments}
    (plain : Unescaped env scripts d a c) (product : Pipeline.Product) :
    PlainRun c d (fresh product scripts) a.files := by
  refine ⟨plain.files, ?_⟩
  intro s new
  obtain ⟨_, _, rfl⟩ := Option.map_eq_some_iff.mp new
  exact plain.scripts

/-- The lead and the colours change nothing but what is printed, and it does not matter where they
are set: in the arguments or in the configuration file. Without its colours the coloured output
is the uncoloured one, but for one addition to the block of each failing file that has a source:
an empty line behind the source, or a warning in front of it if a diagnostic lies outside. -/
theorem session_restyled {env : Environment} {argv argv' : List Text} {a a' : Arguments}
    (asked : Arguments.ofWords argv = .ok a) (asked' : Arguments.ofWords argv' = .ok a')
    (files : a'.files = a.files) (accept : a'.accept = a.accept)
    (configured : effective env a d = .ok c)
    (configured' : effective env a' (d.replace name bytes) = .ok (restyle c lead formatted))
    (apart : ∀ path ∈ a.files, d.locate path ≠ .ok name) (scripts : List Script) :
    let s := Session.run env scripts d argv
    let s' := Session.run env scripts (d.replace name bytes) argv'
    (s'.result = s.result ∧ s'.factory = s.factory ∧ s'.stack = s.stack ∧
      s'.directory = s.directory.replace name bytes ∧
      s.directory.lookup name = d.lookup name) ∧
    (c.formatted = true → formatted = false → lead = c.lead → Unescaped env scripts d a c →
      ∀ n, s.result = .ok n →
        (∀ f, Pipeline.resolve env.modules c.pipeline = .error f → Style.erase s.output = s'.output) ∧
        ∀ product, Pipeline.resolve env.modules c.pipeline = .ok product →
          ∃ vs x y, BesideAll c a.accept d (fresh product scripts) a.files vs x y ∧
            Style.erase s.output = x ++ banner vs ∧ s'.output = y ++ banner vs) := by
  intro s s'
  have s_eq : s = _ := run_of_effective asked configured scripts
  have s'_eq : s' = _ := run_of_effective asked' configured' scripts
  have pipeline : (restyle c lead formatted).pipeline = c.pipeline := rfl
  rw [pipeline, files, accept] at s'_eq
  cases found : Pipeline.resolve env.modules c.pipeline with
  | error f =>
    simp only [found] at s_eq s'_eq
    split at s_eq
    · next reported =>
      rw [if_pos reported] at s'_eq
      rw [s_eq, s'_eq]
      refine ⟨⟨rfl, rfl, rfl, rfl, rfl⟩, ?_⟩
      intro _ _ _ plain _ _
      refine ⟨fun _ _ => Style.Erases.erase_eq (Style.erases_of_isPlain ?_), nofun⟩
      simp [plain.refusal f found]
    · next escaped =>
      rw [if_neg escaped] at s'_eq
      rw [s_eq, s'_eq]
      exact ⟨⟨rfl, rfl, rfl, rfl, rfl⟩, fun _ _ _ _ _ ended => nomatch ended⟩
  | ok product =>
    simp only [found] at s_eq s'_eq
    obtain ⟨carried, kept⟩ := runFiles_replace apart (restyle c lead formatted) a.accept bytes
      (fresh product scripts)
    obtain ⟨result, left, directory⟩ := runFiles_restyle c lead formatted a.accept d
      (fresh product scripts) a.files
    rw [directory] at kept
    simp only [carried, result, left, directory] at s'_eq
    rw [s_eq, s'_eq]
    constructor
    · simp only [ofRuns_eq, directory_ofRuns, kept, and_self]
    · rintro coloured rfl rfl plain n ended
      refine ⟨nofun, ?_⟩
      rintro _ ⟨⟩
      obtain ⟨vs, judged, output⟩ := output_ofRuns ended
      obtain ⟨x, beside, erases⟩ := besideAll_runFiles coloured plain.lead
        (plain.run product) judged
      refine ⟨vs, x, _, beside, ?_, by simp only [Session.ofRuns, judged]⟩
      rw [output]
      exact (erases.append (Style.erases_of_isPlain (isPlain_banner vs))).erase_eq

theorem eq_ok_of_toOption {ε α : Type} {x : Except ε α} {a : α} (h : x.toOption = some a) :
    x = .ok a := by
  cases x with
  | error e => cases h
  | ok b => exact congrArg Except.ok (Option.some.inj h)

/-- The configuration file switches colours off. The finding lies behind the end of the source, so
in colour a warning is shown. -/
theorem session_restyled_outside :
    let d : Directory := [
      ("run.yaml".toList, Utf8.encode "pipeline: fakestack:make_stack\n".toList),
      ("c.sol".toList, Utf8.encode "contract C {}\n// ----\n".toList)]
    let plain : Bytes := Utf8.encode "pipeline: fakestack:make_stack\nformatted: false\n".toList
    let found : Finding := {
      kind := "Warning".toList, comment := some "unused".toList, span := some (923, 924)
      secondary := some false }
    let scripts : List Script := [{ findings := [found] }]
    let argv := ["--config".toList, "run.yaml".toList, "--accept".toList, "c.sol".toList]
    let a : Arguments := { config := "run.yaml".toList, accept := true, files := ["c.sol".toList] }
    let c : Config := { pipeline := "fakestack:make_stack".toList }
    let product : Pipeline.Product := .stack "make_stack".toList
    let s := Session.run scripted scripts d argv
    let s' := Session.run scripted scripts (d.replace "run.yaml".toList plain) argv
    effective scripted a d = .ok c ∧ Unescaped scripted scripts d a c ∧
      s'.result = s.result ∧ s'.stack = s.stack ∧
      s'.directory = s.directory.replace "run.yaml".toList plain ∧
      ∃ vs x y, BesideAll c true d (fresh product scripts) a.files vs x y ∧
        Style.erase s.output = x ++ banner vs ∧ s'.output = y ++ banner vs := by
  intro d plain found scripts argv a c product s s'
  have asked : Arguments.ofWords argv = .ok a := by decide +kernel
  have configured : effective scripted a d = .ok c := eq_ok_of_toOption (by decide +kernel)
  have configured' : effective scripted a (d.replace "run.yaml".toList plain) =
      .ok (restyle c c.lead false) := eq_ok_of_toOption (by decide +kernel)
  have apart : ∀ path ∈ a.files, d.locate path ≠ .ok "run.yaml".toList := by decide +kernel
  have made : ofFile d "c.sol".toList (options c) = .ok {
      name := "c.sol".toList, options := options c, source := "contract C {}\n".toList
      settings := [], optimise := false, expectations := [] } := by decide +kernel
  have resolved : (Pipeline.resolve scripted.modules c.pipeline) = .ok product := by rfl
  have unescaped : Unescaped scripted scripts d a c := by
    refine ⟨by decide, ?_, ?_, ?_⟩
    · intro path named
      obtain rfl := List.mem_singleton.mp named
      refine ⟨by decide, ?_⟩
      intro t own
      rw [made] at own
      cases own
      exact ⟨by decide, nofun, nofun⟩
    · intro q queued
      obtain rfl := List.mem_singleton.mp queued
      refine ⟨fun _ => ?_, ?_⟩
      · intro e he
        have told : e = found.toDiagnostic versionLine.length := List.mem_singleton.mp he
        rw [told]
        exact ⟨by decide, by decide⟩
      · intro call _ f fails
        cases call <;> cases fails
    · intro f refused
      rw [resolved] at refused
      cases refused
  have ended : s.result = .ok 1 := eq_ok_of_toOption (by decide +kernel)
  obtain ⟨⟨result, _, left, directory, _⟩, colours⟩ := session_restyled asked asked rfl rfl
    configured configured' apart scripts
  obtain ⟨_, beside⟩ := colours rfl rfl rfl unescaped 1 ended
  exact ⟨configured, unescaped, result, left, directory, beside product resolved⟩

/-- The name of a setting is shown as it stands. An escape character in it begins a sequence that is
erased of the coloured output, while the uncoloured output keeps it. -/
theorem erase_escaped_setting :
    let path : Text := "t.sol".toList
    let d : Directory := [(path, Utf8.encode
      "contract C {}\n// ====\n// \x1b[1mlang: x\n// ----\n".toList)]
    let a : Arguments := { pipeline := "fakestack:Stack".toList, files := [path] }
    let argv := ["--pipeline".toList, "fakestack:Stack".toList, path]
    let argv' := ["--pipeline".toList, "fakestack:Stack".toList, "--no-color".toList, path]
    let c : Config := { pipeline := "fakestack:Stack".toList }
    let s := Session.run scripted [] d argv
    let s' := Session.run scripted [] d argv'
    Arguments.ofWords argv = .ok a ∧ Arguments.ofWords argv' = .ok { a with noColor := true } ∧
      effective scripted a d = .ok c ∧
      effective scripted { a with noColor := true } d = .ok (restyle c c.lead false) ∧
      c.formatted = true ∧ c.lead.IsPlain ∧ Text.IsPlain path ∧
      (∃ t, ofFile d path (options c) = .ok t ∧ t.source.IsPlain ∧ t.expectations = []) ∧
      s.stack.map (·.calls) = some [] ∧ s.result = .ok 1 ∧
      (runFiles c false d (some { queue := [] }) [path]).result = .ok [.errored] ∧
      Style.erase s.output ≠ s'.output := by
  intro path d a argv argv' c s s'
  have made : ofFile d path (options c) = .ok {
      name := path, options := options c, source := "contract C {}\n".toList
      settings := [("\x1b[1mlang".toList, ['x'])], optimise := false, expectations := [] } := by
    decide +kernel
  have ended : s.result = .ok 1 := eq_ok_of_toOption (by decide +kernel)
  exact ⟨by decide +kernel, by decide +kernel, rfl, rfl, rfl, by decide, by decide,
    ⟨_, made, by decide, rfl⟩, by decide +kernel, ended, by decide +kernel, by decide +kernel⟩

end DiagCheck.CommandLine
