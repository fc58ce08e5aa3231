import DimLang.FileSystem

/-!
# Changes of a file system

An operation on a file system changes what stands at the place of its path and, when it makes
directories, at the places that are passed on the way there. Where a path leads does not depend on
the file system, which decides only whether the way is open (`eq_follow_of_walk`).

- `Path.place` is the place of a path, and `Path.OnWay` says that it is passed on the way there
- `View` is what stands at each place
- `View.Grows` says that nothing but new directories at some places was added

Making a directory adds directories on the way to its place (`grows_createDirectories`), and writing
a file puts it at its place (`eq_put_of_write`), which for a file in a directory is one below that
of the directory (`Path.place_ofText_join`).
-/

namespace DimLang

/-! ## Places -/

/-- The place that names lead to from another one, whatever stands on the way. -/
def Location.follow (location : Location) : List String → Location
  | [] => location
  | name :: rest =>
    if name = "." then follow location rest
    else if name = ".." then follow location.tail rest
    else follow (name :: location) rest

namespace Location

/-- Names lead on from where those in front of them lead. -/
theorem follow_append (location : Location) (front rest : List String) :
    location.follow (front ++ rest) = (location.follow front).follow rest := by
  fun_induction follow location front with
  | case1 => rfl
  | case2 location front ih => rw [List.cons_append, follow, if_pos rfl, ih]
  | case3 location front other ih =>
    rw [List.cons_append, follow, if_neg other, if_pos rfl, ih]
  | case4 location name front here above ih =>
    rw [List.cons_append, follow, if_neg here, if_neg above, ih]

/-- The name for the directory itself leads nowhere else. -/
theorem follow_here (location : Location) (rest : List String) :
    location.follow ("." :: rest) = location.follow rest := by
  rw [follow, if_pos rfl]

/-- A last name that is no special one leads to an entry of the directory. -/
theorem follow_concat (location : Location) (names : List String) {last : String}
    (named : ¬ (last = "." ∨ last = "..")) :
    location.follow (names ++ [last]) = last :: location.follow names := by
  obtain ⟨here, above⟩ := not_or.mp named
  rw [follow_append, follow, if_neg here, if_neg above, follow]

end Location

/-- The place of a path. -/
def Path.place (workDir : Location) (path : Path) : Location :=
  (path.origin workDir).follow path.names

/-- The place is passed on the way to that of the path, or is it. -/
def Path.OnWay (workDir : Location) (path : Path) (place : Location) : Prop :=
  ∃ front, front <+: path.names ∧ place = (path.origin workDir).follow front

/-- Leaving out names for the directory itself leads to the same places. -/
theorem exists_front_of_kept {entries : List (String × Nat)} {dropped : String × Nat → Prop}
    [DecidablePred dropped] (here : ∀ entry, dropped entry → entry.1 = ".") {kept : List String}
    (front : kept <+: entries.filterMap fun entry => if dropped entry then none else some entry.1) :
    ∃ names, names <+: entries.map Prod.fst ∧
      ∀ location : Location, location.follow kept = location.follow names := by
  induction entries generalizing kept with
  | nil => exact ⟨[], List.nil_prefix, fun _ => by rw [List.prefix_nil.mp front]⟩
  | cons entry entries ih =>
    by_cases out : dropped entry
    · rw [List.filterMap_cons_none (by rw [if_pos out])] at front
      obtain ⟨names, inFront, same⟩ := ih front
      refine ⟨entry.1 :: names, List.cons_prefix_cons.mpr ⟨rfl, inFront⟩, fun location => ?_⟩
      rw [here entry out, Location.follow_here, same]
    · rw [List.filterMap_cons_some (by rw [if_neg out])] at front
      cases kept with
      | nil => exact ⟨[], List.nil_prefix, fun _ => rfl⟩
      | cons name kept =>
        obtain ⟨rfl, tail⟩ := List.cons_prefix_cons.mp front
        obtain ⟨names, inFront, same⟩ := ih tail
        refine ⟨entry.1 :: names, List.cons_prefix_cons.mpr ⟨rfl, inFront⟩, fun location => ?_⟩
        simp only [Location.follow, same]

/-- The directories above that of a path are on the way to it. -/
theorem Path.onWay_of_above {path : Path} {workDir : Location} {front : List String}
    (above : front <+: path.above.reverse) :
    path.OnWay workDir ((path.origin workDir).follow front) := by
  rw [Path.above, List.reverse_reverse] at above
  obtain ⟨names, inFront, same⟩ := exists_front_of_kept (fun _ dropped => dropped.1)
    (above.trans (List.dropLast_prefix _))
  rw [List.zipIdx_map_fst] at inFront
  exact ⟨names, inFront, same _⟩

/-! ## Paths of entries -/

/-- A slash cuts the names of a path. -/
theorem Path.names_ofText_append (front back : List Char) :
    (Path.ofText (String.ofList (front ++ '/' :: back))).names =
      (Path.ofText (String.ofList front)).names ++ (Path.ofText (String.ofList back)).names := by
  simp only [Path.ofText, String.toList_ofList, List.splitOn_append_cons_self, List.filter_append,
    List.map_append]

/-- A text without slashes is a single name. -/
theorem Path.names_ofText_name {name : String} (plain : '/' ∉ name.toList) (nonempty : name ≠ "") :
    (Path.ofText name).names = [name] := by
  simp [Path.ofText, List.splitOn_eq_singleton plain, nonempty]

/-- The names of an entry are those of its directory and its own one. -/
theorem Path.names_ofText_join (directory : String) {name : String} (plain : '/' ∉ name.toList)
    (nonempty : name ≠ "") :
    (Path.ofText (Path.join directory name)).names = (Path.ofText directory).names ++ [name] := by
  have single := names_ofText_name plain nonempty
  rw [join]
  split
  · rename_i ends
    rcases ends with empty | slashed
    · rw [String.isEmpty_iff.mp empty, String.empty_append, single]
      rfl
    · obtain ⟨front, text⟩ := List.getLast?_eq_some_iff.mp slashed
      have directory_eq : directory = String.ofList (front ++ ['/']) := by
        rw [← text, String.ofList_toList]
      have joined : directory ++ name = String.ofList (front ++ '/' :: name.toList) := by
        apply String.toList_injective
        simp [text]
      rw [joined, directory_eq, names_ofText_append, names_ofText_append, String.ofList_toList,
        single]
      simp [Path.ofText]
  · have joined : directory ++ "/" ++ name =
        String.ofList (directory.toList ++ '/' :: name.toList) := by
      apply String.toList_injective
      simp
    rw [joined, names_ofText_append, String.ofList_toList, String.ofList_toList, single]

/-- The path of an entry begins where that of its directory does. -/
theorem Path.origin_ofText_join (workDir : Location) (directory : String) {name : String}
    (plain : '/' ∉ name.toList) :
    (Path.ofText (Path.join directory name)).origin workDir =
      (Path.ofText directory).origin workDir := by
  have rooted : (Path.ofText (Path.join directory name)).rooted =
      (Path.ofText directory).rooted := by
    rw [join]
    cases chars : directory.toList with
    | nil =>
      obtain rfl := String.toList_eq_nil_iff.mp chars
      have unrooted : name.toList.head? ≠ some '/' :=
        fun first => plain (List.mem_of_head? first)
      simp [Path.ofText, unrooted]
    | cons c cs =>
      simp only [Path.ofText]
      split <;> simp [chars]
  rw [origin, origin, rooted]

/-- The place of an entry is below that of its directory. -/
theorem Path.place_ofText_join (workDir : Location) (directory : String) {name : String}
    (plain : '/' ∉ name.toList) (nonempty : name ≠ "") (named : ¬ (name = "." ∨ name = "..")) :
    (Path.ofText (Path.join directory name)).place workDir =
      name :: (Path.ofText directory).place workDir := by
  rw [place, names_ofText_join directory plain nonempty, origin_ofText_join workDir directory plain,
    Location.follow_concat _ _ named, place]

/-! ## Views -/

/-- What stands at each place. -/
abbrev View :=
  Location → Option Entry

namespace View

variable {places : Location → Prop} {before middle after : View}

/-- Where there was nothing, directories may have come to stand at some of the places; everything
else is as before. -/
def Grows (places : Location → Prop) (before after : View) : Prop :=
  ∀ place, after place = before place ∨
    places place ∧ before place = none ∧ after place = some .directory

/-- Leaving everything as it is counts as growth. -/
theorem Grows.refl (view : View) : Grows places view view :=
  fun _ => .inl rfl

/-- Growing twice is growing. -/
theorem Grows.trans (first : Grows places before middle) (second : Grows places middle after) :
    Grows places before after := by
  intro place
  rcases second place with same | ⟨inside, missing, added⟩
  · rw [same]
    exact first place
  · rcases first place with same | ⟨_, _, added'⟩
    · exact .inr ⟨inside, same ▸ missing, added⟩
    · rw [missing] at added'
      cases added'

end View

namespace FileSystem

/-- Where a way is open, it leads where its names do. -/
theorem eq_follow_of_walk {fs : FileSystem} {location place : Location} {names : List String}
    (walked : fs.walk location names = .ok place) : place = location.follow names := by
  fun_induction fs.walk location names with
  | case1 => exact (Except.ok.inj walked).symm
  | case2 => cases walked
  | case3 => cases walked
  | case4 location rest isDirectory ih => rw [Location.follow_here, ih walked]
  | case5 location rest isDirectory other ih =>
    rw [Location.follow, if_neg other, if_pos rfl, ih walked]
  | case6 => cases walked
  | case7 => cases walked
  | case8 location name rest isDirectory here above short found ih =>
    rw [Location.follow, if_neg here, if_neg above, ih walked]

/-! ## Making directories -/

section Grows

open View

variable {places : Location → Prop} {fs made : FileSystem}

/-- A directory that is put where nothing stands is growth. -/
theorem grows_put {place : Location} (inside : places place) (below : place ≠ [])
    (missing : fs.find? place = none) :
    Grows places fs.find? (fs.put place .directory).find? := by
  intro other
  rw [find?_put fs .directory other below]
  split
  · rename_i same
    subst same
    exact .inr ⟨inside, missing, rfl⟩
  · exact .inl rfl

variable {location : Location} {names : List String}

/-- A directory is made where nothing stood. -/
theorem eq_put_of_makeDirectory (succeeds : fs.makeDirectory location names = .ok made) :
    location.follow names ≠ [] ∧ fs.find? (location.follow names) = none ∧
      made = fs.put (location.follow names) .directory := by
  rw [makeDirectory] at succeeds
  split at succeeds
  · cases succeeds
  rename_i last ends
  obtain ⟨front, rfl⟩ := List.getLast?_eq_some_iff.mp ends
  rw [List.dropLast_concat] at succeeds
  split at succeeds
  · cases succeeds
  rename_i place walked
  split at succeeds
  · cases succeeds
  split at succeeds
  · cases succeeds
  rename_i named
  split at succeeds
  · cases succeeds
  split at succeeds
  · cases succeeds
  rename_i missing
  rw [Location.follow_concat location front named, ← eq_follow_of_walk walked]
  exact ⟨List.cons_ne_nil _ _, by simpa using missing, (Except.ok.inj succeeds).symm⟩

/-- Names that lead to a directory lead to its place. -/
theorem find?_follow_of_isDirectory (stands : fs.isDirectory location names = true) :
    fs.find? (location.follow names) = some .directory := by
  rw [isDirectory] at stands
  split at stands
  · rename_i place walked
    rw [← eq_follow_of_walk walked]
    rw [holdsDirectory] at stands
    split at stands
    · assumption
    · cases stands
  · cases stands

/-- Behind a directory that is made or found, nothing else has changed. -/
theorem grows_of_ensureDirectory (inside : places (location.follow names))
    (succeeds : fs.ensureDirectory location names = .ok made) :
    Grows places fs.find? made.find? ∧ made.find? (location.follow names) = some .directory := by
  rw [ensureDirectory] at succeeds
  split at succeeds
  · rename_i made' makes
    obtain ⟨below, missing, rfl⟩ := eq_put_of_makeDirectory makes
    cases succeeds
    exact ⟨grows_put inside below missing, by rw [find?_put _ _ _ below, if_pos rfl]⟩
  · split at succeeds
    · rename_i stands
      cases succeeds
      exact ⟨.refl _, find?_follow_of_isDirectory stands⟩
    · cases succeeds

/-- Makes a directory; if there is none above it, this is done once more in the file system where
the directories above were made. -/
def makeWith (fs : FileSystem) (location : Location) (names : List String)
    (above : FileSystem × Except FileError Unit) : FileSystem × Except FileError Unit :=
  match fs.ensureDirectory location names with
  | .ok made => (made, .ok ())
  | .error .notFound =>
    match above with
    | (made, .error error) => (made, .error error)
    | (made, .ok _) =>
      match made.ensureDirectory location names with
      | .ok made => (made, .ok ())
      | .error error => (made, .error error)
  | .error error => (fs, .error error)

/-- Making a directory with those above it adds directories on the way, and it stands if nothing
fails. -/
theorem grows_makeWith {above : FileSystem × Except FileError Unit}
    (inside : places (location.follow names)) (growsAbove : Grows places fs.find? above.1.find?) :
    Grows places fs.find? (fs.makeWith location names above).1.find? ∧
      ((fs.makeWith location names above).2 = .ok () →
        (fs.makeWith location names above).1.find? (location.follow names) =
          some .directory) := by
  fun_cases fs.makeWith location names above with
  | case1 above made makes =>
    obtain ⟨grows, stands⟩ := grows_of_ensureDirectory inside makes
    exact ⟨grows, fun _ => stands⟩
  | case2 missing made error => exact ⟨growsAbove, nofun⟩
  | case3 missing made done made' makes =>
    obtain ⟨grows, stands⟩ := grows_of_ensureDirectory inside makes
    exact ⟨growsAbove.trans grows, fun _ => stands⟩
  | case4 missing made done error fails => exact ⟨growsAbove, nofun⟩
  | case5 above error other fails => exact ⟨.refl _, nofun⟩

/-- The directories above are made only if the first attempt misses one. -/
theorem ensureAll_cons (fs : FileSystem) (location : Location) (name : String)
    (above : List String) :
    fs.ensureAll location (name :: above) =
      fs.makeWith location (name :: above).reverse (fs.ensureAll location above) :=
  rfl

/-- Making the directory of a path is making it with those above it. -/
theorem createDirectories_eq (fs : FileSystem) (workDir : Location) (text : String) :
    fs.createDirectories workDir text =
      fs.makeWith ((Path.ofText text).origin workDir) (Path.ofText text).names
        (fs.ensureAll ((Path.ofText text).origin workDir) (Path.ofText text).above) :=
  rfl

/-- Making directories from the outermost on adds directories on the way. -/
theorem grows_ensureAll (fs : FileSystem) {above : List String}
    (inside : ∀ front, front <+: above.reverse → places (location.follow front)) :
    Grows places fs.find? (fs.ensureAll location above).1.find? := by
  induction above with
  | nil => exact .refl _
  | cons name above ih =>
    rw [ensureAll_cons]
    refine (grows_makeWith (inside _ (List.prefix_refl _)) (ih fun front shorter => ?_)).1
    rw [List.reverse_cons] at inside
    exact inside front (shorter.trans (List.prefix_append _ _))

end Grows

/-- Making a directory adds directories on the way to its place, which is one if nothing fails. -/
theorem grows_createDirectories (fs : FileSystem) (workDir : Location) (text : String) :
    View.Grows ((Path.ofText text).OnWay workDir) fs.find?
        (fs.createDirectories workDir text).1.find? ∧
      ((fs.createDirectories workDir text).2 = .ok () →
        (fs.createDirectories workDir text).1.find? ((Path.ofText text).place workDir) =
          some .directory) := by
  rw [createDirectories_eq]
  refine grows_makeWith ⟨_, List.prefix_refl _, rfl⟩ (grows_ensureAll fs ?_)
  exact fun front above => Path.onWay_of_above above

/-! ## Writing files -/

/-- A file that is written stands at the place of its path. -/
theorem eq_put_of_write {fs written : FileSystem} {workDir : Location} {text : String}
    {content : ByteArray} (succeeds : fs.write workDir text content = .ok written) :
    (Path.ofText text).place workDir ≠ [] ∧
      written = fs.put ((Path.ofText text).place workDir) (.file content) := by
  rw [write] at succeeds
  split at succeeds
  · cases succeeds
  rename_i last ends
  obtain ⟨front, names⟩ := List.getLast?_eq_some_iff.mp ends
  rw [names, List.dropLast_concat] at succeeds
  split at succeeds
  · cases succeeds
  rename_i place walked
  split at succeeds
  · cases succeeds
  split at succeeds
  · cases succeeds
  rename_i named
  split at succeeds
  · cases succeeds
  split at succeeds
  · cases succeeds
  · have plain : ¬ (last = "." ∨ last = "..") := fun special => named (special.imp_right .inl)
    rw [Path.place, names, Location.follow_concat _ _ plain, ← eq_follow_of_walk walked]
    exact ⟨List.cons_ne_nil _ _, (Except.ok.inj succeeds).symm⟩

end FileSystem

end DimLang
