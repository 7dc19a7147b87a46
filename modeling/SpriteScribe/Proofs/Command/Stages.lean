/-
How a run can go, on any file system. A run looks for its input, reads it, compiles it and then prints or
writes the text, and it ends with the first of these that fails (`Goes`). Every run goes one of these ways
(`exists_goes`), and the way fixes what it reports, the progress that it shows apart (`run_of_goes`).
-/
import SpriteScribe.Command.Run

namespace SpriteScribe.Command

open SpriteScribe.Markup

/-! ## Sessions -/

namespace Session

variable {σ α β ε : Type}

/-- What steps of a run come to, after what has been put out already and with the files as they are. -/
def execute (x : Session (StateM σ) α) (c : Console) (s : σ) : (Except Failure α × Console) × σ := (x.run.run c).run s

variable (c : Console) (s : σ)

@[simp] theorem execute_bind (x : Session (StateM σ) α) (f : α → Session (StateM σ) β) :
    execute (x >>= f) c s =
      match execute x c s with
      | ((.ok a, c'), s') => execute (f a) c' s'
      | ((.error e, c'), s') => ((.error e, c'), s') := by
  unfold execute
  rw [ExceptT.run_bind, StateT.run_bind, StateT.run_bind]
  rcases (x.run.run c).run s with ⟨⟨e | a, c'⟩, s'⟩ <;> rfl

@[simp] theorem execute_enter (progress : Progress) (step : Nat) (label : String) :
    execute (enter progress step label) c s =
      ((.ok (), { c with stderr := c.stderr ++ progress.announce step label }), s) := rfl

@[simp] theorem execute_record (records : List LogRecord) :
    execute (record records) c s = ((.ok (), { c with log := c.log ++ records }), s) := rfl

@[simp] theorem execute_settle (result : Except Failure α) : execute (settle result) c s = ((result, c), s) := by
  cases result <;> rfl

section Attempts

variable {s} {s' : σ} {operation : StateM σ (Except ε α)}

theorem execute_attempt (wrap : ε → Failure) {result : Except ε α} (h : operation.run s = (result, s')) :
    execute (attempt operation wrap) c s = ((result.mapError wrap, c), s') := by
  change execute (settle ((operation.run s).1.mapError wrap)) c (operation.run s).2 = _
  rw [execute_settle, h]

theorem execute_attempt_ok (wrap : ε → Failure) {a : α} (h : operation.run s = (.ok a, s')) :
    execute (attempt operation wrap) c s = ((.ok a, c), s') := execute_attempt c wrap h

theorem execute_attempt_error (wrap : ε → Failure) {e : ε} (h : operation.run s = (.error e, s')) :
    execute (attempt operation wrap) c s = ((.error (wrap e), c), s') := execute_attempt c wrap h

end Attempts

end Session

/-! ## The ways of a run -/

/-- What is shown of the stages, in their order. -/
def stageLabels : List String :=
  ["Resolving input path", "Reading project XML", "Translating sprites and scripts", "Writing generated code"]

/-- How many stages a run has. -/
def Arguments.stageCount (args : Arguments) : Nat := 3 + args.output.isSome.toNat

/-- What a run shows of its progress when it has begun some stages. -/
def Arguments.shown (args : Arguments) (begun : Nat) : String :=
  String.join ((stageLabels.take begun).mapIdx fun i label =>
    (Progress.new "Translate" args.stageCount args.quiet).announce (i + 1) label)

/-- How a run ended: in which stage, what it has printed and logged, and why it failed if it did. -/
structure Ending where
  stage : Nat
  stdout : String
  log : List LogRecord
  failure : Option Failure

/-- What is reported of a run with such an end. -/
def Ending.report (ending : Ending) (args : Arguments) : Report where
  stdout := ending.stdout
  stderr := args.shown ending.stage
  log := ending.log
  failure := ending.failure

section Ways

variable {σ : Type} [FileSystem (StateM σ)]

/-- A path is the one of a regular file, and this is its full path. -/
def Located (s : σ) (path location : String) (s' : σ) : Prop :=
  ∃ s₁, (FileSystem.isFile path : StateM σ _).run s = (true, s₁) ∧
    (FileSystem.resolve path : StateM σ _).run s₁ = (.ok location, s')

/-- A file is found and its text is read. -/
def Loaded (s : σ) (path location source : String) (s' : σ) : Prop :=
  ∃ s₁, Located s path location s₁ ∧ (FileSystem.read location : StateM σ _).run s₁ = (.ok source, s')

/-- The directory for an output is made, if the path of the output names one. -/
inductive Prepared (s : σ) (path : String) : σ → Prop
  | bare : parent? path = none → Prepared s path s
  | made {above : String} {s' : σ} : parent? path = some above →
      (FileSystem.createDirectories above : StateM σ _).run s = (.ok (), s') → Prepared s path s'

/-- How a run can go on with a program. -/
inductive Finishes (output : Option String) (program : Program) (log : List LogRecord) (s : σ) : Ending → σ → Prop
  | printed : output = none → Finishes output program log s ⟨3, program.text ++ "\n", log, none⟩ s
  | unmade {path above : String} {e : FileError} {s' : σ} : output = some path → parent? path = some above →
      (FileSystem.createDirectories above : StateM σ _).run s = (.error e, s') →
      Finishes output program log s ⟨4, "", log, some (.noDirectory e)⟩ s'
  | unwritten {path : String} {e : FileError} {s₁ s' : σ} : output = some path → Prepared s path s₁ →
      (FileSystem.write path program.text : StateM σ _).run s₁ = (.error e, s') →
      Finishes output program log s ⟨4, "", log, some (.unwritable path e)⟩ s'
  | written {path : String} {s₁ s' : σ} : output = some path → Prepared s path s₁ →
      (FileSystem.write path program.text : StateM σ _).run s₁ = (.ok (), s') →
      Finishes output program log s ⟨4, "", log, none⟩ s'

/-- How a run can go. -/
inductive Goes (describe : SyntaxError → String) (args : Arguments) (s : σ) : Ending → σ → Prop
  | lost {e : Failure} {s' : σ} : (resolveInput args.input : StateM σ _).run s = (.error e, s') →
      Goes describe args s ⟨1, "", [], some e⟩ s'
  | unreadable {location : String} {e : FileError} {s₁ s' : σ} : Located s args.input location s₁ →
      (FileSystem.read location : StateM σ _).run s₁ = (.error e, s') →
      Goes describe args s ⟨2, "", [], some (.unreadable location e)⟩ s'
  | uncompiled {location source : String} {log : List LogRecord} {e : CompileError} {s' : σ} :
      Loaded s args.input location source s' → compileText describe args.strict source = ⟨log, .error e⟩ →
      Goes describe args s ⟨3, "", log, some (.uncompiled location e)⟩ s'
  | compiled {location source : String} {log : List LogRecord} {program : Program} {ending : Ending} {s₁ s' : σ} :
      Loaded s args.input location source s₁ → compileText describe args.strict source = ⟨log, .ok program⟩ →
      Finishes args.output program (log ++ countRecord program) s₁ ending s' → Goes describe args s ending s'

variable {describe : SyntaxError → String} {args : Arguments} {s s' : σ} {ending : Ending}

theorem resolveInput_run (s : σ) (path : String) :
    (resolveInput path : StateM σ _).run s =
      match (FileSystem.isFile path : StateM σ _).run s with
      | (false, s₁) => (.error (.inputNotFound path), s₁)
      | (true, s₁) =>
        match (FileSystem.resolve path : StateM σ _).run s₁ with
        | (.error e, s') => (.error (.unresolved e), s')
        | (.ok location, s') => (.ok location, s') := by
  unfold resolveInput
  rw [StateT.run_bind]
  rcases (FileSystem.isFile path : StateM σ _).run s with ⟨_ | _, s₁⟩
  · rfl
  · change ((FileSystem.resolve path : StateM σ _) >>= _).run s₁ = _
    rw [StateT.run_bind]
    dsimp only
    rcases (FileSystem.resolve path : StateM σ _).run s₁ with ⟨_ | _, s'⟩ <;> rfl

theorem resolveInput_eq_ok_iff {path location : String} :
    (resolveInput path : StateM σ _).run s = (.ok location, s') ↔ Located s path location s' := by
  rw [resolveInput_run]
  constructor
  · intro h
    split at h
    · cases h
    · rename_i s₁ hfile
      split at h
      · cases h
      · rename_i hresolved
        cases h
        exact ⟨s₁, hfile, hresolved⟩
  · rintro ⟨s₁, hfile, hresolved⟩
    simp only [hfile, hresolved]

/-- No run goes another way. -/
theorem exists_finishes (output : Option String) (program : Program) (log : List LogRecord) (s : σ) :
    ∃ ending s', Finishes output program log s ending s' := by
  cases output with
  | none => exact ⟨_, _, .printed rfl⟩
  | some path =>
    have hwrite : ∀ s₁, Prepared s path s₁ → ∃ ending s', Finishes (some path) program log s ending s' := by
      intro s₁ hprepared
      rcases hwritten : (FileSystem.write path program.text : StateM σ _).run s₁ with ⟨e | ⟨⟩, s₂⟩
      · exact ⟨_, _, .unwritten rfl hprepared hwritten⟩
      · exact ⟨_, _, .written rfl hprepared hwritten⟩
    cases hparent : parent? path with
    | none => exact hwrite s (.bare hparent)
    | some above =>
      rcases hmade : (FileSystem.createDirectories above : StateM σ _).run s with ⟨e | ⟨⟩, s₁⟩
      · exact ⟨_, _, .unmade rfl hparent hmade⟩
      · exact hwrite s₁ (.made hparent hmade)

theorem exists_goes (describe : SyntaxError → String) (args : Arguments) (s : σ) :
    ∃ ending s', Goes describe args s ending s' := by
  rcases hresolved : (resolveInput args.input : StateM σ _).run s with ⟨e | location, s₁⟩
  · exact ⟨_, _, .lost hresolved⟩
  have hlocated := resolveInput_eq_ok_iff.1 hresolved
  rcases hread : (FileSystem.read location : StateM σ _).run s₁ with ⟨e | source, s₂⟩
  · exact ⟨_, _, .unreadable hlocated hread⟩
  have hloaded : Loaded s args.input location source s₂ := ⟨s₁, hlocated, hread⟩
  rcases hcompiled : compileText describe args.strict source with ⟨log, e | program⟩
  · exact ⟨_, _, .uncompiled hloaded hcompiled⟩
  · obtain ⟨ending, s', hfinishes⟩ := exists_finishes args.output program (log ++ countRecord program) s₂
    exact ⟨ending, s', .compiled hloaded hcompiled hfinishes⟩

/-! ## What a run comes to -/

theorem run_eq (describe : SyntaxError → String) (args : Arguments) (s : σ) :
    (run describe args : StateM σ _).run s =
      match Session.execute (stages describe args) .blank s with
      | ((.ok (), c), s') => (⟨c, none⟩, s')
      | ((.error e, c), s') => (⟨c, some e⟩, s') := by
  unfold run Session.execute
  rw [StateT.run_bind]
  rcases StateT.run (StateT.run (stages describe args).run .blank) s with ⟨⟨e | ⟨⟩, c⟩, s'⟩ <;> rfl

section Sources

variable {strict : Bool} {source : String} {log : List LogRecord} (origin : String)

theorem compileSource_ok {program : Program} (h : compileText describe strict source = ⟨log, .ok program⟩) :
    compileSource describe strict source origin = ⟨log, .ok program⟩ := by
  rw [compileSource, h]
  rfl

theorem compileSource_error {e : CompileError} (h : compileText describe strict source = ⟨log, .error e⟩) :
    compileSource describe strict source origin = ⟨log, .error (.uncompiled origin e)⟩ := by
  rw [compileSource, h]
  rfl

end Sources

open Session in
/-- The way that a run goes fixes its report, and whether it is quiet is no part of the way. -/
theorem run_of_goes (h : Goes describe args s ending s') (quiet : Bool) :
    (run describe { args with quiet } : StateM σ _).run s = (ending.report { args with quiet }, s') := by
  obtain ⟨input, output, strict, _⟩ := args
  rw [run_eq]
  unfold stages
  cases h with
  | lost hlost =>
    simp only [execute_bind, execute_enter, execute_attempt_error _ id hlost]
    rfl
  | unreadable hlocated hread =>
    simp only [execute_bind, execute_enter, execute_attempt_ok _ id (resolveInput_eq_ok_iff.2 hlocated),
      execute_attempt_error _ _ hread]
    rfl
  | uncompiled hloaded hcompiled =>
    obtain ⟨s₁, hlocated, hread⟩ := hloaded
    simp only [execute_bind, execute_enter, execute_attempt_ok _ id (resolveInput_eq_ok_iff.2 hlocated),
      execute_attempt_ok _ _ hread, compileSource_error _ hcompiled, execute_record, execute_settle]
    rfl
  | compiled hloaded hcompiled hfinishes =>
    obtain ⟨s₁, hlocated, hread⟩ := hloaded
    simp only [execute_bind, execute_enter, execute_attempt_ok _ id (resolveInput_eq_ok_iff.2 hlocated),
      execute_attempt_ok _ _ hread, compileSource_ok _ hcompiled, execute_record, execute_settle, List.append_assoc]
    cases hfinishes with
    | printed houtput =>
      cases houtput
      rfl
    | unmade houtput hparent hmade =>
      cases houtput
      simp only [execute_bind, execute_enter, hparent, execute_attempt_error _ _ hmade]
      rfl
    | unwritten houtput hprepared hwritten =>
      cases houtput
      cases hprepared with
      | bare hparent =>
        simp only [execute_bind, execute_enter, hparent, execute_attempt_error _ _ hwritten]
        rfl
      | made hparent hmade =>
        simp only [execute_bind, execute_enter, hparent, execute_attempt_ok _ _ hmade,
          execute_attempt_error _ _ hwritten]
        rfl
    | written houtput hprepared hwritten =>
      cases houtput
      cases hprepared with
      | bare hparent =>
        simp only [execute_bind, execute_enter, hparent, execute_attempt_ok _ _ hwritten]
        rfl
      | made hparent hmade =>
        simp only [execute_bind, execute_enter, hparent, execute_attempt_ok _ _ hmade, execute_attempt_ok _ _ hwritten]
        rfl

end Ways

end SpriteScribe.Command
