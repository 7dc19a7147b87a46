/-
What a run leaves behind, on any file system that does what is expected of one (`Reliable`). A run takes its
own steps, and they come to what `compileFile` comes to: it fails with the same failure, or goes on with the
same program (`Goes.compileFile`). It writes only what has been compiled, so a project that cannot be compiled
costs no file and no directory.
-/
import SpriteScribe.Proofs.Command.FileTree
import SpriteScribe.Proofs.Command.Stages

namespace SpriteScribe.Command

open SpriteScribe.Markup

section Runs

variable {σ π : Type} [FileSystem (StateM σ)] {v : View σ π} {s s' : σ} {describe : SyntaxError → String}

/-! ## Compiling a file -/

section Compiling

variable {strict : Bool} {path location source : String}

theorem compileFile_lost {e : Failure} (h : (resolveInput path : StateM σ _).run s = (.error e, s')) :
    (compileFile describe strict path : StateM σ _).run s = (⟨[], .error e⟩, s') := by
  unfold compileFile
  rw [StateT.run_bind, h]
  rfl

theorem compileFile_located {s₁ : σ} (h : Located s path location s₁) :
    (compileFile describe strict path : StateM σ _).run s =
      match (FileSystem.read location : StateM σ _).run s₁ with
      | (.error e, s') => (⟨[], .error (.unreadable location e)⟩, s')
      | (.ok source, s') => (compileSource describe strict source location, s') := by
  unfold compileFile
  rw [StateT.run_bind, resolveInput_eq_ok_iff.2 h]
  change ((FileSystem.read location : StateM σ _) >>= _).run s₁ = _
  rw [StateT.run_bind]
  rcases (FileSystem.read location : StateM σ _).run s₁ with ⟨e | source, s'⟩ <;> rfl

theorem compileFile_unreadable {e : FileError} {s₁ : σ} (h : Located s path location s₁)
    (hread : (FileSystem.read location : StateM σ _).run s₁ = (.error e, s')) :
    (compileFile describe strict path : StateM σ _).run s = (⟨[], .error (.unreadable location e)⟩, s') := by
  rw [compileFile_located h, hread]

theorem compileFile_loaded (h : Loaded s path location source s') :
    (compileFile describe strict path : StateM σ _).run s = (compileSource describe strict source location, s') := by
  obtain ⟨s₁, hlocated, hread⟩ := h
  rw [compileFile_located hlocated, hread]

end Compiling

/-- A run and compiling its input agree: both fail in the same way and with the same files, or the run goes on
with the program that was compiled. -/
theorem Goes.compileFile {args : Arguments} {ending : Ending} (h : Goes describe args s ending s') :
    ∃ outcome s₁, (compileFile describe args.strict args.input : StateM σ _).run s = (outcome, s₁) ∧
      ((∃ e, outcome.result = .error e ∧ ending.failure = some e ∧ ending.stdout = "" ∧ s' = s₁) ∨
        ∃ program log, outcome.result = .ok program ∧ Finishes args.output program log s₁ ending s') := by
  cases h with
  | lost hlost => exact ⟨_, _, compileFile_lost hlost, .inl ⟨_, rfl, rfl, rfl, rfl⟩⟩
  | unreadable hlocated hread =>
    exact ⟨_, _, compileFile_unreadable hlocated hread, .inl ⟨_, rfl, rfl, rfl, rfl⟩⟩
  | uncompiled hloaded hcompiled =>
    refine ⟨_, _, compileFile_loaded hloaded, .inl ⟨_, ?_, rfl, rfl, rfl⟩⟩
    rw [compileSource_error _ hcompiled]
  | compiled hloaded hcompiled hfinishes =>
    refine ⟨_, _, compileFile_loaded hloaded, .inr ⟨_, _, ?_, hfinishes⟩⟩
    rw [compileSource_ok _ hcompiled]

/-! ## What is left behind -/

theorem resolveInput_same (hv : Reliable v) {path : String} {result : Except Failure String}
    (h : (resolveInput path : StateM σ _).run s = (result, s')) : v.Same s s' := by
  rw [resolveInput_run] at h
  split at h
  · rename_i hfile
    cases h
    exact hv.isFile_same hfile
  · rename_i hfile
    split at h
    · rename_i hresolved
      cases h
      exact (hv.isFile_same hfile).trans (hv.resolve_same hresolved)
    · rename_i hresolved
      cases h
      exact (hv.isFile_same hfile).trans (hv.resolve_same hresolved)

/-- Compiling only reads. -/
theorem compileFile_same (hv : Reliable v) {strict : Bool} {path : String} {outcome : SourceOutcome}
    (h : (compileFile describe strict path : StateM σ _).run s = (outcome, s')) : v.Same s s' := by
  rcases hresolved : (resolveInput path : StateM σ _).run s with ⟨e | location, s₁⟩
  · rw [compileFile_lost hresolved] at h
    cases h
    exact resolveInput_same hv hresolved
  · rcases hread : (FileSystem.read location : StateM σ _).run s₁ with ⟨result, s₂⟩
    have hsame := (resolveInput_same hv hresolved).trans (hv.read_same hread)
    rw [compileFile_located (resolveInput_eq_ok_iff.1 hresolved), hread] at h
    cases result with
    | error e => cases h; exact hsame
    | ok source => cases h; exact hsame

theorem Prepared.paved (hv : Reliable v) {path : String} (h : Prepared s path s') : v.Paved s s' path := by
  cases h with
  | bare => exact (View.Same.refl s).paved path
  | made hparent hmade => exact (hv.createDirectories_ok hmade).mono (isUpward_parent? hparent)

/-- With no output path the text is printed. With one it is written there, and all else is as it was but for
directories above it, or it could not be written and has cost no file. -/
theorem Finishes.cases (hv : Reliable v) {output : Option String} {program : Program} {log : List LogRecord}
    {ending : Ending} (h : Finishes output program log s ending s') :
    (output = none ∧ ending.failure = none ∧ ending.stdout = program.text ++ "\n" ∧ s' = s) ∨
    ∃ path, output = some path ∧ ending.stdout = "" ∧
      ((∃ e, ending.failure = some e ∧ v.SameFiles s s') ∨
        (ending.failure = none ∧ ∃ s₁ target, v.Paved s s₁ path ∧ v.Written s₁ s' path program.text target)) := by
  cases h with
  | printed houtput => exact .inl ⟨houtput, rfl, rfl, rfl⟩
  | unmade houtput _ hmade => exact .inr ⟨_, houtput, rfl, .inl ⟨_, rfl, hv.createDirectories_error hmade⟩⟩
  | unwritten houtput hprepared hwritten =>
    have hpaved := hprepared.paved hv
    exact .inr ⟨_, houtput, rfl, .inl ⟨_, rfl, hpaved.sameFiles.trans (hv.write_error hwritten)⟩⟩
  | written houtput hprepared hwritten =>
    obtain ⟨target, htarget⟩ := hv.write_ok hwritten
    exact .inr ⟨_, houtput, rfl, .inr ⟨rfl, _, target, hprepared.paved hv, htarget⟩⟩

/-- A run does what compiling its input does, and no more than it has to. Compiling changes nothing. A run fails
with what compiling fails with, and then nothing is created or changed. Without an output path it succeeds just
if the input is compiled, prints the text as a line, and changes nothing. With an output path it prints nothing;
if it succeeds, the text stands where the path leads, also if the input was there, and the rest is as it was but
for new directories above it. A run that fails prints nothing and leaves all files as they were. -/
theorem run_refines_compileFile (hv : Reliable v) (describe : SyntaxError → String) (s : σ) (args : Arguments) :
    ∃ (outcome : SourceOutcome) (s₁ : σ) (report : Report) (s' : σ),
      (compileFile describe args.strict args.input : StateM σ _).run s = (outcome, s₁) ∧ v.Same s s₁ ∧
      (run describe args : StateM σ _).run s = (report, s') ∧
      (∀ e, outcome.result = .error e → report.failure = some e ∧ v.Same s s') ∧
      (args.output = none → v.Same s s' ∧ (report.failure = none ↔ ∃ program, outcome.result = .ok program) ∧
        ∀ program, outcome.result = .ok program → report.stdout = program.text ++ "\n") ∧
      (∀ path, args.output = some path → report.stdout = "" ∧
        (report.failure = none → ∃ program, outcome.result = .ok program ∧
          ∃ target, v.target? s' path = some target ∧ v.node? s' target = some (.file program.text.toUTF8) ∧
            ∀ place, place ≠ target → v.node? s' place = v.node? s place ∨
              v.node? s place = none ∧ v.node? s' place = some .directory ∧
                ∃ above, IsAbove above path ∧ v.target? s' above = some place)) ∧
      (report.failure ≠ none → report.stdout = "" ∧ v.SameFiles s s') := by
  obtain ⟨ending, s', hgoes⟩ := exists_goes describe args s
  obtain ⟨outcome, s₁, hcompile, hends⟩ := hgoes.compileFile
  have hsame := compileFile_same hv hcompile
  refine ⟨outcome, s₁, ending.report args, s', hcompile, hsame, run_of_goes hgoes args.quiet, ?_⟩
  obtain ⟨e, hresult, hfailure, hstdout, rfl⟩ | ⟨program, log, hresult, hfinishes⟩ := hends
  · simp [Ending.report, hresult, hfailure, hstdout, hsame, hsame.sameFiles]
  obtain ⟨houtput, hfailure, hstdout, rfl⟩ | ⟨path, houtput, hstdout, hwriting⟩ := hfinishes.cases hv
  · simp [Ending.report, hresult, hfailure, hstdout, houtput, hsame]
  obtain ⟨e, hfailure, hfiles⟩ | ⟨hfailure, s₂, target, hpaved, hwritten⟩ := hwriting
  · simp [Ending.report, hresult, hfailure, hstdout, houtput, hsame.sameFiles.trans hfiles]
  · have hothers := fun place (hne : place ≠ target) => hwritten.paved (hsame.paved_trans hpaved) hne
    simpa [Ending.report, hresult, hfailure, hstdout, houtput] using ⟨target, hwritten.leads, hwritten.holds, hothers⟩

end Runs

/-- A project of one sprite in the directory where the program runs. -/
def catTree : FileTree where
  top := .directory [("home", .directory [("cat.xml",
    .file "<project><stage><sprites><sprite name='Cat'/></sprites></stage></project>".toUTF8)])]
  workplace := ["home"]

/-- The text goes to where the project was, by another path. -/
def overInput : Arguments := ⟨"cat.xml", some "/home/../home/cat.xml", false, true⟩

theorem run_refines_compileFile_overInput :
    Reliable FileTree.view ∧ catTree.target? "cat.xml" = some ["home", "cat.xml"] ∧
    ((run (fun _ => "") overInput : StateM FileTree _).run catTree).1.failure = none ∧
    ((run (fun _ => "") overInput : StateM FileTree _).run catTree).1.stdout = "" ∧
    ∃ program, ((compileFile (fun _ => "") false "cat.xml" : StateM FileTree _).run catTree).1.result = .ok program ∧
      ((run (fun _ => "") overInput : StateM FileTree _).run catTree).2.node? ["home", "cat.xml"] =
        some (.file program.text.toUTF8) := by
  have hfailure : ((run (fun _ => "") overInput : StateM FileTree _).run catTree).1.failure = none := by
    decide +kernel
  have hplace : ((run (fun _ => "") overInput : StateM FileTree _).run catTree).2.target? "/home/../home/cat.xml" =
      some ["home", "cat.xml"] := by
    decide +kernel
  obtain ⟨outcome, t₁, report, t', hcompile, -, hrun, -, -, houtput, -⟩ :=
    run_refines_compileFile FileTree.reliable (fun _ => "") catTree overInput
  have hcompiled : ((compileFile (fun _ => "") false "cat.xml" : StateM FileTree _).run catTree).1 = outcome :=
    congrArg Prod.fst hcompile
  obtain ⟨hstdout, hwritten⟩ := houtput "/home/../home/cat.xml" rfl
  rw [hrun] at hfailure hplace ⊢
  obtain ⟨program, hprogram, target, htarget, hnode, -⟩ := hwritten hfailure
  obtain rfl : target = ["home", "cat.xml"] := Option.some.inj (htarget.symm.trans hplace)
  exact ⟨FileTree.reliable, by decide +kernel, hfailure, hstdout, program, by rw [hcompiled, hprogram], hnode⟩

end SpriteScribe.Command
