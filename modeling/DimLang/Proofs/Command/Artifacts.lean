import DimLang.Command.Run
import DimLang.Proofs.Command.Disks
import DimLang.Proofs.Grammar.Moves
import DimLang.Proofs.Lexing.Tokens

/-!
# The artifacts of a check

A check changes what is on the disk only if the source file can be read and its text is accepted.
Then the output directory is made, and the artifacts are written into it one after the other. The
first failure ends the run; what was made or written before it stays, and nothing else is changed
(`run_check`). This holds on every lawful disk, with whatever failures, and for every way of
showing diagnostics and of writing JSON values.

- `Writes` says that files can be written one after the other
- `Wrote` says what this changes
-/

namespace DimLang

variable {σ : Type} {disk : Disk (StateM σ)} {printers : Printers} {path source : String}

/-- The state behind an action is the one in which the next action begins. -/
theorem run_bind {α β : Type} (action : StateM σ α) (next : α → StateM σ β) (state : σ) :
    (action >>= next).run state = (next (action.run state).1).run (action.run state).2 :=
  rfl

/-! ## The source text -/

/-- The file of a path can be read, and the text is its content. -/
def Disk.HoldsText (disk : Disk (StateM σ)) (path text : String) (state : σ) : Prop :=
  ∃ content, ((disk.read path).run state).1 = .ok content ∧ String.fromUTF8? content = some text

/-- The run has failed, and there is no output. -/
def Outcome.IsFailure (outcome : Outcome) : Prop :=
  outcome.exit = 1 ∧ outcome.stdout = ""

/-- A failure that is reported is one. -/
theorem Outcome.isFailure_reported (printers : Printers) (diagnostic : Diagnostic) :
    (Outcome.reported printers diagnostic).IsFailure :=
  ⟨rfl, rfl⟩

/-- A file that has been read has a text, or there is a failure to report. -/
theorem sourceText_cases (printers : Printers) (disk : Disk (StateM σ)) (path : String)
    (state : σ) :
    (∃ outcome, outcome.IsFailure ∧
      sourceText printers path ((disk.read path).run state).1 = .error outcome) ∨
    ∃ source, disk.HoldsText path source state ∧
      sourceText printers path ((disk.read path).run state).1 = .ok source := by
  cases readable : ((disk.read path).run state).1 with
  | error cause => exact .inl ⟨_, Outcome.isFailure_reported printers _, rfl⟩
  | ok content =>
    cases decoded : String.fromUTF8? content with
    | none =>
      refine .inl ⟨.unreadable printers path "stream did not contain valid UTF-8",
        Outcome.isFailure_reported printers _, ?_⟩
      simp only [sourceText, decoded]
    | some source =>
      exact .inr ⟨source, ⟨content, readable, decoded⟩, by simp only [sourceText, decoded]⟩

/-- A text that is not accepted yields no artifacts but a failure. -/
theorem checkedFiles_cases (printers : Printers) (disk : Disk (StateM σ)) (path : String)
    (state : σ)
    (rejected : ∀ source program, disk.HoldsText path source state → check source ≠ .ok program) :
    ∃ outcome, outcome.IsFailure ∧
      checkedFiles printers path ((disk.read path).run state).1 = .error outcome := by
  rcases sourceText_cases printers disk path state with
    ⟨outcome, fails, text⟩ | ⟨source, holds, text⟩
  · exact ⟨outcome, fails, by simp only [checkedFiles, text]⟩
  · cases result : checkWithTokens source with
    | error error =>
      refine ⟨_, Outcome.isFailure_reported printers (.ofError source (some path) error), ?_⟩
      simp only [checkedFiles, text, result]
    | ok checked =>
      have accepted := check_eq_map_snd source
      rw [result] at accepted
      exact absurd accepted (rejected source _ holds)

/-- The artifacts of a text that is accepted. -/
theorem checkedFiles_eq {state : σ} {tokens : List Token} {program : Program}
    (holds : disk.HoldsText path source state) (tokenized : tokenize source = .ok tokens)
    (checked : check source = .ok program) :
    checkedFiles printers path ((disk.read path).run state).1 =
      .ok (checkFiles printers tokens program) := by
  obtain ⟨content, readable, decoded⟩ := holds
  obtain ⟨tokens', parsed, tokenized', parses, analyzed⟩ := check_eq_ok_iff.mp checked
  cases tokenized.symm.trans tokenized'
  simp only [checkedFiles, sourceText, readable, decoded, checkWithTokens, tokenized, parses,
    analyzed]

/-! ## Writing -/

/-- The files can be written into a directory one after the other. -/
inductive Writes (disk : Disk (StateM σ)) (directory : String) :
    σ → List (String × String) → σ → Prop
  | done (state : σ) : Writes disk directory state [] state
  | next {state written after : σ} {name text : String} {rest : List (String × String)} :
    (disk.write (Path.join directory name) text.toUTF8).run state = (.ok (), written) →
      Writes disk directory written rest after →
        Writes disk directory state ((name, text) :: rest) after

/-- The files stand in a directory; everything else is as before, but for an entry of the directory
whose writing may have failed. -/
structure Wrote (place : Location) (files : List (String × String)) (failed : Option String)
    (before after : View) : Prop where
  complete : ∀ file ∈ files, after (file.1 :: place) = some (.file file.2.toUTF8)
  others : ∀ other, (∀ file ∈ files, other ≠ file.1 :: place) →
    (∀ name ∈ failed, other ≠ name :: place) → after other = before other

section Writes

variable {directory : String} {state after : σ} {files : List (String × String)}

/-- Without an output directory no artifact is written. -/
theorem run_writeArtifacts_of_not_made {cause : String}
    (fails : (disk.makeDirectories directory).run state = (.error cause, after)) :
    (writeArtifacts disk directory files).run state =
      (.error (.failed ("failed to create " ++ directory) cause), after) := by
  rw [writeArtifacts, run_bind, fails]
  rfl

/-- The artifacts are written in the state in which the output directory is made. -/
theorem run_writeArtifacts_of_made
    (makes : (disk.makeDirectories directory).run state = (.ok (), after)) :
    (writeArtifacts disk directory files).run state =
      (writeFiles disk directory files).run after := by
  rw [writeArtifacts, run_bind, makes]

/-- Files that can be written one after the other are written. -/
theorem Writes.run_writeFiles (writes : Writes disk directory state files after) :
    (writeFiles disk directory files).run state = (.ok (), after) := by
  induction writes with
  | done => rfl
  | next succeeds _ ih =>
    rw [writeFiles, run_bind, succeeds]
    exact ih

/-- A failure ends the writing. -/
theorem Writes.run_writeFiles_of_failure {name text cause : String} {last : σ}
    (writes : Writes disk directory state files after)
    (fails : (disk.write (Path.join directory name) text.toUTF8).run after = (.error cause, last))
    (rest : List (String × String)) :
    (writeFiles disk directory (files ++ (name, text) :: rest)).run state =
      (.error (.failed ("failed to write " ++ Path.join directory name) cause), last) := by
  induction writes with
  | done =>
    rw [List.nil_append, writeFiles, run_bind, fails]
    rfl
  | next succeeds _ ih =>
    rw [List.cons_append, writeFiles, run_bind, succeeds]
    exact ih fails

end Writes

section Wrote

variable {view : σ → View} {workDir : Location} {directory : String} {state after : σ}
  {files : List (String × String)}

/-- The name is that of an entry of a directory. -/
def IsEntryName (name : String) : Prop :=
  '/' ∉ name.toList ∧ name ≠ "" ∧ ¬ (name = "." ∨ name = "..")

instance (name : String) : Decidable (IsEntryName name) :=
  inferInstanceAs (Decidable (_ ∧ _))

/-- The place of an entry is below that of its directory. -/
theorem IsEntryName.place_join {name : String} (named : IsEntryName name) (workDir : Location)
    (directory : String) :
    (Path.ofText (Path.join directory name)).place workDir =
      name :: (Path.ofText directory).place workDir :=
  Path.place_ofText_join workDir directory named.1 named.2.1 named.2.2

/-- Files with different names do not overwrite each other. -/
theorem Writes.wrote (lawful : disk.Lawful view workDir)
    (named : ∀ file ∈ files, IsEntryName file.1) (distinct : (files.map Prod.fst).Nodup)
    (writes : Writes disk directory state files after) :
    Wrote ((Path.ofText directory).place workDir) files none (view state) (view after) := by
  induction writes with
  | done state => exact ⟨nofun, fun _ _ _ => rfl⟩
  | @next state written after name text rest succeeds _ ih =>
    obtain ⟨isName, named⟩ := List.forall_mem_cons.mp named
    obtain ⟨new, distinct⟩ := List.nodup_cons.mp distinct
    have wrote := ih named distinct
    have place := isName.place_join workDir directory
    have stands := lawful.written (congrArg Prod.fst succeeds)
    rw [succeeds, place] at stands
    refine ⟨List.forall_mem_cons.mpr ⟨?_, wrote.complete⟩, fun other outside none => ?_⟩
    · rw [wrote.others _ ?_ nofun, stands]
      intro file member same
      exact new ((List.cons.inj same).1 ▸ List.mem_map_of_mem member)
    · obtain ⟨notFirst, outside⟩ := List.forall_mem_cons.mp outside
      have kept := lawful.others (place ▸ notFirst) text.toUTF8 state
      rw [succeeds] at kept
      rw [wrote.others other outside none, kept]

/-- A failure to write one more file leaves the others as they are. -/
theorem Wrote.of_failure {name text cause : String} {last : σ} {before : View}
    (lawful : disk.Lawful view workDir) (isName : IsEntryName name)
    (new : name ∉ files.map Prod.fst)
    (wrote : Wrote ((Path.ofText directory).place workDir) files none before (view after))
    (fails : (disk.write (Path.join directory name) text.toUTF8).run after =
      (.error cause, last)) :
    Wrote ((Path.ofText directory).place workDir) files (some name) before (view last) := by
  have kept {other : Location} (outside : other ≠ name :: (Path.ofText directory).place workDir) :
      view last other = view after other := by
    have same := lawful.others (isName.place_join workDir directory ▸ outside) text.toUTF8 after
    rwa [fails] at same
  refine ⟨fun file member => ?_, fun other outside others => ?_⟩
  · rw [kept ?_, wrote.complete file member]
    intro same
    exact new ((List.cons.inj same).1 ▸ List.mem_map_of_mem member)
  · rw [kept (others name rfl), wrote.others other outside nofun]

end Wrote

/-! ## Checks -/

/-- The artifacts have different names, and each is the name of an entry. -/
theorem names_checkFiles (printers : Printers) (tokens : List Token) (program : Program) :
    (∀ file ∈ checkFiles printers tokens program, IsEntryName file.1) ∧
      ((checkFiles printers tokens program).map Prod.fst).Nodup := by
  have each : ∀ name ∈ ["tokens.json", "ast.txt", "ast.json"], IsEntryName name := by decide
  have distinct : ["tokens.json", "ast.txt", "ast.json"].Nodup := by decide
  exact ⟨fun file member => each _ (List.mem_map_of_mem (f := Prod.fst) member), distinct⟩

/-- The outcome of a check that has come to write its artifacts. -/
def Outcome.ofWriting (path : String) : Except Outcome Unit → Outcome
  | .error outcome => outcome
  | .ok _ => .accepted path

section Check

variable {view : σ → View} {workDir : Location} {outDir : Option String} {current : String}
  {state : σ}

/-- Without a working directory nothing is done. -/
theorem run_check_of_displaced (lawful : disk.Lawful view workDir) {cause : String}
    (displaced : (disk.currentDir.run state).1 = .error cause) :
    ((Request.check path outDir).run disk printers).run state = (.displaced cause, state) := by
  rw [Request.run, run_bind, displaced, lawful.currentDir]
  rfl

/-- A source file that cannot be read or is rejected is only read. -/
theorem run_check_of_rejected (lawful : disk.Lawful view workDir) {outcome : Outcome}
    (placed : (disk.currentDir.run state).1 = .ok current)
    (rejected : checkedFiles printers path ((disk.read path).run state).1 = .error outcome) :
    ((Request.check path outDir).run disk printers).run state = (outcome, state) := by
  rw [Request.run, run_bind, placed, lawful.currentDir]
  dsimp only
  rw [run_bind, rejected, lawful.read]
  rfl

/-- The artifacts of a source file that is accepted are written. -/
theorem run_check_of_accepted (lawful : disk.Lawful view workDir) {files : List (String × String)}
    (placed : (disk.currentDir.run state).1 = .ok current)
    (accepted : checkedFiles printers path ((disk.read path).run state).1 = .ok files) :
    ((Request.check path outDir).run disk printers).run state =
      (.ofWriting path
          ((writeArtifacts disk (outDir.getD (defaultOutDir current)) files).run state).1,
        ((writeArtifacts disk (outDir.getD (defaultOutDir current)) files).run state).2) := by
  rw [Request.run, run_bind, placed, lawful.currentDir]
  dsimp only
  rw [run_bind, accepted, lawful.read]
  dsimp only
  rw [run_bind]
  rcases (writeArtifacts disk _ files).run state with ⟨outcome | done, after⟩ <;> rfl

end Check

/-- The command on a file system is the run of what its arguments ask for. -/
theorem runCommand_eq {request : Request} {arguments : List String} (workDir : Location)
    (fs : FileSystem) (requested : Request.ofArguments arguments = .ok request) :
    runCommand workDir fs arguments =
      (request.run (FileSystem.disk workDir) .standard).run fs := by
  rw [runCommand, runArguments, requested]
  rfl

end DimLang
