import DimLang.Command.Disk
import DimLang.Proofs.FileSystem.Changes

/-!
# Lawful disks

What a run relies on of its disk is stated for a view of the disk's state, which is what stands at
each place (`Disk.Lawful`). The operations may fail at any time and for any cause. The disk of a
file system is lawful (`FileSystem.lawful_disk`).
-/

namespace DimLang

/-- Reading changes nothing, making a directory adds directories on the way to its place, and
writing a file changes what stands at its place only, whether it fails or not. What was made or
written without a failure stands at its place. -/
structure Disk.Lawful {σ : Type} (disk : Disk (StateM σ)) (view : σ → View)
    (workDir : Location) : Prop where
  currentDir (state : σ) : (disk.currentDir.run state).2 = state
  read (path : String) (state : σ) : ((disk.read path).run state).2 = state
  grows (path : String) (state : σ) :
    View.Grows ((Path.ofText path).OnWay workDir) (view state)
      (view ((disk.makeDirectories path).run state).2)
  stands {path : String} {state : σ} (made : ((disk.makeDirectories path).run state).1 = .ok ()) :
    view ((disk.makeDirectories path).run state).2 ((Path.ofText path).place workDir) =
      some .directory
  written {path : String} {content : ByteArray} {state : σ}
    (succeeds : ((disk.write path content).run state).1 = .ok ()) :
    view ((disk.write path content).run state).2 ((Path.ofText path).place workDir) =
      some (.file content)
  others {path : String} {other : Location} (outside : other ≠ (Path.ofText path).place workDir)
    (content : ByteArray) (state : σ) :
    view ((disk.write path content).run state).2 other = view state other

namespace FileSystem

section Disk

variable {workDir : Location} {fs after : FileSystem} {path : String} {content : ByteArray}

/-- The disk makes the directories that the file system makes. -/
theorem run_makeDirectories_of_ok
    (makes : fs.createDirectories workDir path = (after, .ok ())) :
    ((disk workDir).makeDirectories path).run fs = (.ok (), after) := by
  simp only [disk, StateT.run, makes]

/-- When the file system cannot make a directory, those above it that it has made stay. -/
theorem run_makeDirectories_of_error {error : FileError}
    (fails : fs.createDirectories workDir path = (after, .error error)) :
    ((disk workDir).makeDirectories path).run fs = (.error error.message, after) := by
  simp only [disk, StateT.run, fails]

/-- The disk writes the files that the file system writes. -/
theorem run_write_of_ok (succeeds : fs.write workDir path content = .ok after) :
    ((disk workDir).write path content).run fs = (.ok (), after) := by
  simp only [disk, StateT.run, succeeds]

/-- A file that the file system cannot write changes nothing. -/
theorem run_write_of_error {error : FileError}
    (fails : fs.write workDir path content = .error error) :
    ((disk workDir).write path content).run fs = (.error error.message, fs) := by
  simp only [disk, StateT.run, fails]

end Disk

/-- Whether a file can be read or not, nothing is changed. -/
theorem state_run_read (workDir : Location) (path : String) (fs : FileSystem) :
    (((disk workDir).read path).run fs).2 = fs := by
  cases result : fs.read workDir path <;> simp only [disk, StateT.run, result]

/-- The disk of a file system shows what stands at each place of it. -/
theorem lawful_disk (workDir : Location) : (disk workDir).Lawful find? workDir where
  currentDir _ := rfl
  read := state_run_read workDir
  grows path fs := by
    obtain ⟨grows, _⟩ := fs.grows_createDirectories workDir path
    rcases result : fs.createDirectories workDir path with ⟨made, error | done⟩
    · rw [result] at grows
      rwa [run_makeDirectories_of_error result]
    · rw [result] at grows
      rwa [run_makeDirectories_of_ok result]
  stands {path fs} made := by
    obtain ⟨_, stands⟩ := fs.grows_createDirectories workDir path
    rcases result : fs.createDirectories workDir path with ⟨after, error | done⟩
    · rw [run_makeDirectories_of_error result] at made
      cases made
    · rw [result] at stands
      rw [run_makeDirectories_of_ok result]
      exact stands rfl
  written {path content fs} succeeds := by
    cases result : fs.write workDir path content with
    | error error =>
      rw [run_write_of_error result] at succeeds
      cases succeeds
    | ok after =>
      obtain ⟨below, rfl⟩ := eq_put_of_write result
      rw [run_write_of_ok result, find?_put _ _ _ below, if_pos rfl]
  others {path other} outside content fs := by
    cases result : fs.write workDir path content with
    | error error => rw [run_write_of_error result]
    | ok after =>
      obtain ⟨below, rfl⟩ := eq_put_of_write result
      rw [run_write_of_ok result, find?_put _ _ _ below, if_neg outside]

end FileSystem

end DimLang
