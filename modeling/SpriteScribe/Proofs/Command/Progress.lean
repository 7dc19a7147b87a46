/-
Progress of a run. A run goes through its stages in order and ends in one of them, and each begins when the one
before it has succeeded (`Begins`). It shows one line for every stage that it begins, with its number and how many
there are. A quiet run shows none of them, and apart from that it does the same, on whatever files it is run.
-/
import SpriteScribe.Proofs.Command.Run

namespace SpriteScribe.Command

open SpriteScribe.Markup

/-! ## Lines of progress -/

/-- The line for a stage, without its end. -/
def stageText (total : Nat) (label : String) (step : Nat) : String :=
  "[Translate] " ++ label ++ "... (" ++ toString step ++ "/" ++ toString total ++ ") " ++
    progressBar step total Progress.barWidth

theorem newline_not_mem_toDigits (n : Nat) : '\n' ∉ Nat.toDigits 10 n := by
  intro h
  exact absurd (Nat.isDigit_of_mem_toDigits (by decide) (by decide) h) (by decide)

theorem newline_not_mem_progressBar (step total width : Nat) : '\n' ∉ (progressBar step total width).toList := by
  unfold progressBar
  rw [String.toList_ofList, List.cons_append, List.mem_cons, List.mem_append, List.mem_map, List.mem_singleton]
  rintro (h | ⟨i, -, h⟩ | h)
  · cases h
  · split at h <;> cases h
  · cases h

theorem newline_not_mem_stageText {label : String} (h : '\n' ∉ label.toList) (total step : Nat) :
    '\n' ∉ (stageText total label step).toList := by
  unfold stageText
  simp [h, newline_not_mem_toDigits, newline_not_mem_progressBar]

/-- A stage that there is keeps its number. -/
theorem Progress.line_new {total step : Nat} (hpos : 1 ≤ step) (hle : step ≤ total) (quiet : Bool) (label : String) :
    (Progress.new "Translate" total quiet).line step label = stageText total label step ++ "\n" := by
  have htotal : max total 1 = total := by omega
  have hstep : min (max step 1) total = step := by omega
  have htitle : "[" ++ "Translate" ++ "] " = "[Translate] " := by decide
  unfold Progress.line Progress.new stageText
  dsimp only
  rw [htotal, hstep, htitle]

theorem lines_join {texts : List String} (h : ∀ t ∈ texts, '\n' ∉ t.toList) :
    Text.lines (String.join (texts.map (· ++ "\n"))) = texts ++ [""] := by
  induction texts with
  | nil => rfl
  | cons t texts ih =>
    rw [List.map_cons, String.join_cons, Text.lines_append, Text.lines_of_not_mem (h t List.mem_cons_self),
      ih fun x hx => h x (List.mem_cons_of_mem _ hx)]
    rfl

/-- The lines for the first stages of a run, without their ends. -/
def stageTexts (total begun : Nat) : List String :=
  (stageLabels.take begun).mapIdx fun i label => stageText total label (i + 1)

theorem length_stageTexts {begun : Nat} (h : begun ≤ 4) (total : Nat) : (stageTexts total begun).length = begun := by
  unfold stageTexts
  rw [List.length_mapIdx, List.length_take]
  exact Nat.min_eq_left h

theorem getElem?_stageTexts {total begun i : Nat} {line : String} (h : (stageTexts total begun)[i]? = some line) :
    ∃ label, stageLabels[i]? = some label ∧ line = stageText total label (i + 1) := by
  unfold stageTexts at h
  rw [List.getElem?_mapIdx, Option.map_eq_some_iff] at h
  obtain ⟨label, hlabel, rfl⟩ := h
  rw [List.getElem?_take] at hlabel
  split at hlabel
  · exact ⟨label, hlabel, rfl⟩
  · cases hlabel

namespace Arguments

theorem shown_of_quiet {args : Arguments} (h : args.quiet = true) (begun : Nat) : args.shown begun = "" := by
  unfold shown
  simp only [Progress.announce, Progress.new, h, if_true, List.mapIdx_eq_zipIdx_map]
  generalize (stageLabels.take begun).zipIdx = labels
  induction labels with
  | nil => rfl
  | cons _ labels ih => rw [List.map_cons, String.join_cons, ih, String.append_empty]

theorem lines_shown {args : Arguments} (h : args.quiet = false) {begun : Nat} (hle : begun ≤ args.stageCount) :
    Text.lines (args.shown begun) = stageTexts args.stageCount begun ++ [""] := by
  have hlabels : ∀ label ∈ stageLabels, '\n' ∉ label.toList := by decide +kernel
  have htext : args.shown begun = String.join ((stageTexts args.stageCount begun).map (· ++ "\n")) := by
    unfold shown stageTexts
    rw [h]
    congr 1
    apply List.ext_getElem
    · simp
    · intro i hi _
      have hbegun : i < begun := by
        rw [List.length_mapIdx, List.length_take] at hi
        omega
      rw [List.getElem_mapIdx, List.getElem_map, List.getElem_mapIdx,
        ← Progress.line_new (Nat.succ_pos i) (Nat.le_trans hbegun hle) false]
      rfl
  rw [htext]
  apply lines_join
  intro t ht
  obtain ⟨i, hi, rfl⟩ := List.mem_mapIdx.1 ht
  exact newline_not_mem_stageText (hlabels _ (List.mem_of_mem_take (List.getElem_mem hi))) _ _

end Arguments

/-! ## Stages -/

section Stages

variable {σ : Type} [FileSystem (StateM σ)] {s s' : σ} {describe : SyntaxError → String} {args : Arguments}

/-- The stages that a run begins, counted from one. -/
inductive Begins (describe : SyntaxError → String) (args : Arguments) (s : σ) : Nat → Prop
  | resolving : Begins describe args s 1
  | reading {location : String} {s' : σ} (hlocated : Located s args.input location s') : Begins describe args s 2
  | compiling {location source : String} {s' : σ} (hloaded : Loaded s args.input location source s') :
      Begins describe args s 3
  | writing {location source path : String} {program : Program} {s' : σ}
      (hloaded : Loaded s args.input location source s')
      (hcompiled : (compileText describe args.strict source).result = .ok program)
      (houtput : args.output = some path) : Begins describe args s 4

/-- Stages begin in their order. -/
theorem Begins.mono {n m : Nat} (h : Begins describe args s n) (hpos : 1 ≤ m) (hle : m ≤ n) :
    Begins describe args s m := by
  have hreading {location source : String} {s' : σ} (h : Loaded s args.input location source s') :
      Begins describe args s 2 := by
    obtain ⟨s₁, hlocated, -⟩ := h
    exact .reading hlocated
  cases h with
  | resolving =>
    obtain rfl : m = 1 := by omega
    exact .resolving
  | reading hlocated =>
    obtain rfl | rfl : m = 1 ∨ m = 2 := by omega
    · exact .resolving
    · exact .reading hlocated
  | compiling hloaded =>
    obtain rfl | rfl | rfl : m = 1 ∨ m = 2 ∨ m = 3 := by omega
    · exact .resolving
    · exact hreading hloaded
    · exact .compiling hloaded
  | writing hloaded hcompiled houtput =>
    obtain rfl | rfl | rfl | rfl : m = 1 ∨ m = 2 ∨ m = 3 ∨ m = 4 := by omega
    · exact .resolving
    · exact hreading hloaded
    · exact .compiling hloaded
    · exact .writing hloaded hcompiled houtput

theorem Begins.pos {n : Nat} (h : Begins describe args s n) : 1 ≤ n := by
  cases h <;> decide

/-- The stage that a run ends in: it begins and the next does not. -/
def EndsIn (describe : SyntaxError → String) (args : Arguments) (s : σ) (k : Nat) : Prop :=
  Begins describe args s k ∧ ¬ Begins describe args s (k + 1)

theorem EndsIn.begins_iff {k : Nat} (h : EndsIn describe args s k) (n : Nat) :
    Begins describe args s n ↔ 1 ≤ n ∧ n ≤ k := by
  obtain ⟨hlast, hnext⟩ := h
  constructor
  · intro hn
    refine ⟨hn.pos, ?_⟩
    by_cases hle : n ≤ k
    · exact hle
    · exact absurd (hn.mono (by omega) (by omega)) hnext
  · rintro ⟨hpos, hle⟩
    exact hlast.mono hpos hle

/-! ## Runs -/

/-- The same input is found in the same place. -/
theorem Located.unique {path location location' : String} {s₁ s₂ : σ} (h : Located s path location s₁)
    (h' : Located s path location' s₂) : location = location' ∧ s₁ = s₂ := by
  cases (resolveInput_eq_ok_iff.2 h).symm.trans (resolveInput_eq_ok_iff.2 h')
  exact ⟨rfl, rfl⟩

theorem Loaded.unique {path location location' source source' : String} {s₁ s₂ : σ}
    (h : Loaded s path location source s₁) (h' : Loaded s path location' source' s₂) : source = source' := by
  obtain ⟨_, hlocated, hread⟩ := h
  obtain ⟨_, hlocated', hread'⟩ := h'
  obtain ⟨rfl, rfl⟩ := hlocated.unique hlocated'
  cases hread.symm.trans hread'
  rfl

/-- What goes on with a program ends in the last stage. -/
theorem Finishes.stage {program : Program} {log : List LogRecord} {ending : Ending}
    (h : Finishes args.output program log s ending s') : ending.stage = args.stageCount := by
  cases h with
  | printed houtput => rw [Arguments.stageCount, houtput]; rfl
  | unmade houtput => rw [Arguments.stageCount, houtput]; rfl
  | unwritten houtput => rw [Arguments.stageCount, houtput]; rfl
  | written houtput => rw [Arguments.stageCount, houtput]; rfl

theorem Goes.stage_le {ending : Ending} (h : Goes describe args s ending s') : ending.stage ≤ args.stageCount := by
  cases h with
  | lost => exact Nat.le_trans (by decide : 1 ≤ 3) (Nat.le_add_right ..)
  | unreadable => exact Nat.le_trans (by decide : 2 ≤ 3) (Nat.le_add_right ..)
  | uncompiled => exact Nat.le_add_right ..
  | compiled _ _ hfinishes => exact Nat.le_of_eq hfinishes.stage

/-- A run that succeeds has gone through all stages. -/
theorem Goes.stage_of_success {ending : Ending} (h : Goes describe args s ending s')
    (hsuccess : ending.failure = none) : ending.stage = args.stageCount := by
  cases h with
  | lost => cases hsuccess
  | unreadable => cases hsuccess
  | uncompiled => cases hsuccess
  | compiled _ _ hfinishes => exact hfinishes.stage

theorem endsIn_stageCount {location source : String} {program : Program}
    (hloaded : Loaded s args.input location source s')
    (hcompiled : (compileText describe args.strict source).result = .ok program) :
    EndsIn describe args s args.stageCount := by
  unfold Arguments.stageCount
  cases houtput : args.output with
  | none =>
    refine ⟨.compiling hloaded, ?_⟩
    intro hnext
    cases hnext with
    | writing _ _ houtput' => cases houtput.symm.trans houtput'
  | some path => exact ⟨.writing hloaded hcompiled houtput, nofun⟩

/-- A run begins all stages up to the one that it ends in. -/
theorem Goes.endsIn {ending : Ending} (h : Goes describe args s ending s') : EndsIn describe args s ending.stage := by
  cases h with
  | lost hlost =>
    refine ⟨.resolving, ?_⟩
    intro hnext
    -- the next stage begins only with a file, and the same question has the same answer
    cases hnext with
    | reading hlocated => cases hlost.symm.trans (resolveInput_eq_ok_iff.2 hlocated)
  | unreadable hlocated hread =>
    refine ⟨.reading hlocated, ?_⟩
    intro hnext
    cases hnext with
    | compiling hloaded =>
      obtain ⟨_, hlocated', hread'⟩ := hloaded
      obtain ⟨rfl, rfl⟩ := hlocated.unique hlocated'
      cases hread.symm.trans hread'
  | uncompiled hloaded hcompiled =>
    refine ⟨.compiling hloaded, ?_⟩
    intro hnext
    cases hnext with
    | writing hloaded' hcompiled' =>
      obtain rfl := hloaded.unique hloaded'
      rw [hcompiled] at hcompiled'
      cases hcompiled'
  | compiled hloaded hcompiled hfinishes =>
    rw [hfinishes.stage]
    exact endsIn_stageCount hloaded (by rw [hcompiled])

/-- Being quiet hides the progress and changes nothing else. On the same files, a quiet run and one that is not
end the same way, print and log the same, and leave the same files behind. A quiet run shows nothing. The other
shows one line for each stage that it begins, with the number of the stage and how many there are, four with an
output path and three without one. It shows them all if it succeeds. -/
theorem quiet_hides_only_progress (describe : SyntaxError → String) (s : σ) (args : Arguments) :
    ∃ (loud silent : Report) (s' : σ),
      (run describe { args with quiet := false } : StateM σ _).run s = (loud, s') ∧
      (run describe { args with quiet := true } : StateM σ _).run s = (silent, s') ∧
      silent.failure = loud.failure ∧ silent.stdout = loud.stdout ∧ silent.log = loud.log ∧ silent.stderr = "" ∧
      ∃ (total : Nat) (shown : List String), total = (if args.output.isSome then 4 else 3) ∧
        Text.lines loud.stderr = shown ++ [""] ∧ (∀ n, Begins describe args s n ↔ 1 ≤ n ∧ n ≤ shown.length) ∧
        (∀ i line, shown[i]? = some line → ∃ label, stageLabels[i]? = some label ∧
          line = "[Translate] " ++ label ++ "... (" ++ toString (i + 1) ++ "/" ++ toString total ++ ") " ++
            progressBar (i + 1) total Progress.barWidth) ∧
        (loud.failure = none → shown.length = total) := by
  obtain ⟨ending, s', hgoes⟩ := exists_goes describe args s
  have hcount : args.stageCount = if args.output.isSome then 4 else 3 := by
    unfold Arguments.stageCount
    cases args.output <;> rfl
  have hle : ending.stage ≤ 4 := Nat.le_trans hgoes.stage_le (by rw [hcount]; split <;> decide)
  have hlength := length_stageTexts hle args.stageCount
  refine ⟨_, _, s', run_of_goes hgoes false, run_of_goes hgoes true, rfl, rfl, rfl, Arguments.shown_of_quiet rfl _,
    args.stageCount, stageTexts args.stageCount ending.stage, hcount, Arguments.lines_shown rfl hgoes.stage_le, ?_⟩
  rw [hlength]
  exact ⟨hgoes.endsIn.begins_iff, fun i line => getElem?_stageTexts, hgoes.stage_of_success⟩

end Stages

/-- The text goes to a directory that is not there yet. -/
def toNewDirectory : Arguments := ⟨"cat.xml", some "out/cat.js", false, false⟩

theorem quiet_hides_only_progress_toNewDirectory :
    ((run (fun _ => "") toNewDirectory : StateM FileTree _).run catTree).1.failure = none ∧
    ((run (fun _ => "") { toNewDirectory with quiet := true } : StateM FileTree _).run catTree).2 =
      ((run (fun _ => "") toNewDirectory : StateM FileTree _).run catTree).2 ∧
    ((run (fun _ => "") { toNewDirectory with quiet := true } : StateM FileTree _).run catTree).1.stderr = "" ∧
    (Text.lines ((run (fun _ => "") toNewDirectory : StateM FileTree _).run catTree).1.stderr).length = 5 ∧
    ∀ n, Begins (fun _ => "") toNewDirectory catTree n ↔ 1 ≤ n ∧ n ≤ 4 := by
  have hfailure : ((run (fun _ => "") toNewDirectory : StateM FileTree _).run catTree).1.failure = none := by
    decide +kernel
  obtain ⟨loud, silent, t', hloud, hsilent, -, -, -, hstderr, total, shown, htotal, hlines, hbegins, -, hall⟩ :=
    quiet_hides_only_progress (fun _ => "") catTree toNewDirectory
  change (run (fun _ => "") toNewDirectory : StateM FileTree _).run catTree = (loud, t') at hloud
  rw [hloud] at hfailure ⊢
  rw [hsilent]
  have hlength : shown.length = 4 := (hall hfailure).trans htotal
  rw [hlength] at hbegins
  refine ⟨hfailure, rfl, hstderr, ?_, hbegins⟩
  rw [hlines, List.length_append, hlength]
  rfl

end SpriteScribe.Command
