import Mathlib.Tactic.Common
import StreamedInference.Model.FileSystem
import StreamedInference.Proofs.Text.Utf8

/-!
# Which model file counts

The path of a file names that file, whatever it is called. The path of a directory names the first,
in the order of bytes, of the files directly in it that have the extension of model files. What is
first is a matter of the names alone: no two names have the same bytes, so the order in which a
directory is read does not matter, nor does anything in it that is not such a file.

## Main definitions

* `ModelFile.HasExtension`: names with the extension of model files, in letters of either case.
* `ModelFile.IsFirst`: the first name, in the order of bytes, of those with a property.
* `ModelFile.Offers`: the names of the model files in a directory.
* `ModelFile.Names`: the model file that a path names.

## Main results

* `Path.extension?_eq_some_iff`: what the extension of a name is.
* `ModelFile.least?_eq_some_iff`: the least of some names is the first of them.
* `FileSystem.mem_entries_iff`: what is listed in a directory is what stands directly in it.
* `ModelFile.resolve_takes_first`: the model file that is found, and why none is found.
-/

namespace StreamedInference

/-- The extension stands behind the last dot, and something else in front of that dot. -/
theorem Path.extension?_eq_some_iff {name ext : List Char} :
    extension? name = some ext ↔
      name ≠ ['.', '.'] ∧ '.' ∉ ext ∧ ∃ stem, stem ≠ [] ∧ name = stem ++ '.' :: ext := by
  -- The name of the directory above is the only one with such a dot and no extension.
  by_cases hup : name = ['.', '.']
  · simp [extension?, hup]
  have hcut : extension? name = some ext ↔
      ∃ c cs, Pieces.spanLast '.' name = (some (c :: cs), ext) := by
    simp only [extension?, beq_iff_eq, hup, if_false]
    split
    · rename_i c cs behind h
      simp [h]
    · rename_i h
      simp only [reduceCtorEq, false_iff, not_exists]
      exact fun c cs hsome => h c cs ext hsome
  rw [hcut]
  constructor
  · rintro ⟨c, cs, h⟩
    obtain ⟨heq, hext⟩ := Pieces.spanLast_eq_some_iff.1 h
    exact ⟨hup, hext, c :: cs, List.cons_ne_nil _ _, heq⟩
  · rintro ⟨-, hext, stem, hstem, heq⟩
    obtain ⟨c, cs, rfl⟩ := List.exists_cons_of_ne_nil hstem
    exact ⟨c, cs, Pieces.spanLast_eq_some_iff.2 ⟨heq, hext⟩⟩

namespace FileSystem

variable {fs : FileSystem} {dir place : List String} {name : String} {kind : FileEntry}

theorem nameWithin?_eq_some_iff : nameWithin? dir place = some name ↔ place = dir ++ [name] := by
  constructor
  · intro h
    unfold nameWithin? at h
    split at h
    · rename_i hdir
      obtain ⟨front, hfront⟩ := List.getLast?_eq_some_iff.1 h
      rw [← beq_iff_eq.1 hdir, hfront, List.dropLast_concat]
    · cases h
  · rintro rfl
    simp [nameWithin?]

/-- What is listed in a directory is what stands directly in it. -/
theorem mem_entries_iff :
    (name, kind) ∈ fs.entries dir ↔ fs.entry? (dir ++ [name]) = some kind := by
  have hnamed : ∀ (places : List (List String)) (k : FileEntry),
      (name, kind) ∈ (places.filterMap (nameWithin? dir)).map (·, k) ↔
        dir ++ [name] ∈ places ∧ k = kind := by
    intro places k
    simp [nameWithin?_eq_some_iff]
  rw [entries, List.mem_append, hnamed, hnamed, List.mem_filter, beq_iff_eq]
  unfold entry?
  by_cases hd : dir ++ [name] ∈ fs.directoryPaths
  · simp [hd]
  · by_cases hf : dir ++ [name] ∈ fs.filePaths <;> simp [hd, hf]

end FileSystem

namespace ModelFile

/-! ### The first of some names -/

/-- The first name, in the order of bytes, of those with a property. -/
def IsFirst (p : String → Prop) (name : String) : Prop :=
  p name ∧ ∀ other, p other → Utf8.bytes name ≤ Utf8.bytes other

theorem bytesLE_iff {a b : List UInt8} : bytesLE a b = true ↔ a ≤ b := by
  induction a generalizing b with
  | nil => simp [bytesLE]
  | cons x a ih =>
    cases b with
    | nil => simp [bytesLE]
    | cons y b => simp [bytesLE, List.cons_le_cons_iff, ih]

theorem lesser_eq_or (a b : String) : lesser a b = a ∨ lesser a b = b := by
  unfold lesser
  split
  · exact .inl rfl
  · exact .inr rfl

theorem bytes_lesser_le (a b : String) :
    Utf8.bytes (lesser a b) ≤ Utf8.bytes a ∧ Utf8.bytes (lesser a b) ≤ Utf8.bytes b := by
  unfold lesser
  split
  · rename_i h
    exact ⟨List.le_refl _, bytesLE_iff.1 h⟩
  · rename_i h
    have hle : ¬Utf8.bytes a ≤ Utf8.bytes b := fun hle => h (bytesLE_iff.2 hle)
    exact ⟨(List.le_total _ _).resolve_left hle, List.le_refl _⟩

theorem isFirst_foldl_lesser (n : String) (ns : List String) :
    IsFirst (· ∈ n :: ns) (ns.foldl lesser n) := by
  induction ns generalizing n with
  | nil => exact ⟨List.mem_singleton_self n, fun m hm => by simp [List.mem_singleton.1 hm]⟩
  | cons m ns ih =>
    obtain ⟨hmem, hfirst⟩ := ih (lesser n m)
    obtain ⟨hn, hm⟩ := bytes_lesser_le n m
    have hle := hfirst _ List.mem_cons_self
    refine ⟨?_, fun k hk => ?_⟩
    · rw [List.foldl_cons]
      rcases List.mem_cons.1 hmem with heq | hmem
      · rw [heq]
        rcases lesser_eq_or n m with h | h <;> simp [h]
      · exact List.mem_cons_of_mem _ (List.mem_cons_of_mem _ hmem)
    · rcases List.mem_cons.1 hk with rfl | hk
      · exact List.le_trans hle hn
      rcases List.mem_cons.1 hk with rfl | hk
      · exact List.le_trans hle hm
      · exact hfirst k (List.mem_cons_of_mem _ hk)

/-- Two names that both come first are the same, as their bytes are. -/
theorem IsFirst.unique {p : String → Prop} {a b : String} (ha : IsFirst p a) (hb : IsFirst p b) :
    a = b := by
  have hbytes := List.le_antisymm (ha.2 b hb.1) (hb.2 a ha.1)
  have h := Utf8.decodeString?_bytes a
  rw [hbytes, Utf8.decodeString?_bytes] at h
  exact (Option.some.inj h).symm

theorem least?_eq_some_iff {ns : List String} {n : String} :
    least? ns = some n ↔ IsFirst (· ∈ ns) n := by
  cases ns with
  | nil => simp [least?, IsFirst]
  | cons m ns =>
    have hfirst := isFirst_foldl_lesser m ns
    rw [least?, Option.some.injEq]
    exact ⟨fun h => h ▸ hfirst, hfirst.unique⟩

/-! ### What a directory offers -/

/-- A name has the extension of model files, in letters of either case: the extension stands behind
a dot, and the dot not at the front. -/
def HasExtension (name : String) : Prop :=
  ∃ stem ext, stem ≠ [] ∧ name.toList = stem ++ '.' :: ext ∧ ext.map Char.toLower = extension

theorem isModelName_iff {name : String} : isModelName name = true ↔ HasExtension name := by
  have hletters : ∀ ext, Path.sameLetters ext extension = true ↔
      ext.map Char.toLower = extension := fun _ => beq_iff_eq
  simp only [isModelName, Option.any_eq_true, hletters, Path.extension?_eq_some_iff]
  constructor
  · rintro ⟨ext, ⟨-, -, stem, hstem, hname⟩, hext⟩
    exact ⟨stem, ext, hstem, hname, hext⟩
  · rintro ⟨stem, ext, hstem, hname, hext⟩
    -- What stands behind the dot has no other dot in it: its letters are those of the extension.
    have hdot : '.' ∉ ext := fun hmem =>
      absurd (hext ▸ List.mem_map_of_mem hmem) (by decide : Char.toLower '.' ∉ extension)
    have hup : name.toList ≠ ['.', '.'] := by
      intro hup
      have hlength := congrArg List.length (hname.symm.trans hup)
      have hfour : ext.length = 4 := by rw [← List.length_map, hext]; rfl
      simp [hfour] at hlength
    exact ⟨ext, ⟨hup, hdot, stem, hstem, hname⟩, hext⟩

instance (name : String) : Decidable (HasExtension name) :=
  decidable_of_iff _ isModelName_iff

/-- A directory offers a model file: a file with the extension is directly in it. -/
def Offers (entries : List (String × FileEntry)) (name : String) : Prop :=
  (name, .file) ∈ entries ∧ HasExtension name

variable {path file : String} {entries entries' : List (String × FileEntry)}

theorem mem_candidates_iff {name : String} : name ∈ candidates entries ↔ Offers entries name := by
  simp [candidates, Offers, isModelName_iff]

/-- The candidate that is taken comes first among what the directory offers. -/
theorem least?_candidates_eq_some_iff {name : String} :
    least? (candidates entries) = some name ↔ IsFirst (Offers entries) name := by
  simp only [least?_eq_some_iff, IsFirst, mem_candidates_iff]

theorem least?_candidates_eq_none_iff :
    least? (candidates entries) = none ↔ ∀ name, ¬Offers entries name := by
  have hnil : least? (candidates entries) = none ↔ candidates entries = [] := by
    cases candidates entries <;> simp [least?]
  simp only [hnil, List.eq_nil_iff_forall_not_mem, mem_candidates_iff]

/-- Nothing counts in a directory but what it offers. -/
theorem least?_candidates_congr (h : ∀ name, Offers entries name ↔ Offers entries' name) :
    least? (candidates entries) = least? (candidates entries') := by
  have hoffers : Offers entries = Offers entries' := funext fun name => propext (h name)
  exact Option.ext fun name => by
    rw [least?_candidates_eq_some_iff, least?_candidates_eq_some_iff, hoffers]

/-! ### The model file of a path -/

/-- The model file that a path names, given what stands there. -/
inductive Names (path : String) : FileTree → String → Prop
  /-- A file is named by its path, whatever it is called. -/
  | itself : Names path .file path
  | within {entries : List (String × FileEntry)} {name : String}
      (h : IsFirst (Offers entries) name) :
      Names path (.directory entries) (Path.join path name)

theorem resolve_eq_ok_iff {tree : FileTree} :
    resolve path tree = .ok file ↔ Names path tree file := by
  constructor
  · intro h
    cases tree with
    | absent | other => cases h
    | file =>
      cases h
      exact .itself
    | directory entries =>
      unfold resolve at h
      cases hleast : least? (candidates entries) with
      | none => simp [hleast] at h
      | some name =>
        simp only [hleast] at h
        cases h
        exact .within (least?_candidates_eq_some_iff.1 hleast)
  · intro h
    cases h with
    | itself => rfl
    | within h => rw [resolve, least?_candidates_eq_some_iff.2 h]

theorem resolve_eq_error_iff {tree : FileTree} {fault : ModelFault} :
    resolve path tree = .error fault ↔
      (tree = .absent ∨ tree = .other) ∧ fault = .missing path ∨
      ∃ entries, tree = .directory entries ∧ (∀ name, ¬Offers entries name) ∧
        fault = .noModel path := by
  cases tree with
  | absent | other => simp [resolve, eq_comm]
  | file => simp [resolve]
  | directory entries =>
    rw [resolve]
    cases hleast : least? (candidates entries) with
    | none => simp [least?_candidates_eq_none_iff.1 hleast, eq_comm]
    | some name =>
      obtain ⟨hoffers, -⟩ := least?_candidates_eq_some_iff.1 hleast
      simp only [reduceCtorEq, FileTree.directory.injEq, false_or, false_and, or_self, false_iff]
      rintro ⟨entries, rfl, hnone, -⟩
      exact hnone name hoffers

end ModelFile

/-- What stands at a path that leads to a directory. -/
theorem FileSystem.look_of_directory {fs : FileSystem} {path : String} {place : List String}
    (hp : fs.place? path = some place) (hd : fs.entry? place = some .directory) :
    fs.look path = .directory (fs.entries place) := by
  simp [look, hp, hd]

namespace ModelFile

/-- **Which model file a path names.** Whatever stands at a path:

* A model file is found exactly if the path names one: the path itself if it is that of a file, and
  the first, in the order of bytes, of the files with the extension directly in a directory.
* If none is found, then either nothing stands at the path, or neither a file nor a directory, or a
  directory that offers no model file. Which of these it is can be seen from the fault.
* Directories that offer the same model files have the same result, whatever the order in which
  they are read, and whatever else is in them: directories and other things with any name, and files
  without the extension.
* In a working directory with files and directories at any depth, only what stands directly in the
  directory to which the path leads can be found. -/
theorem resolve_takes_first (path : String) (tree : FileTree) :
    (∀ file, resolve path tree = .ok file ↔ Names path tree file) ∧
    (∀ fault, resolve path tree = .error fault ↔
      (tree = .absent ∨ tree = .other) ∧ fault = .missing path ∨
      ∃ entries, tree = .directory entries ∧ (∀ name, ¬Offers entries name) ∧
        fault = .noModel path) ∧
    (∀ entries entries', (∀ name, Offers entries name ↔ Offers entries' name) →
      resolve path (.directory entries) = resolve path (.directory entries')) ∧
    ∀ (fs : FileSystem) (place : List String), fs.place? path = some place →
      fs.entry? place = some .directory → ∀ file, resolve path (fs.look path) = .ok file ↔
        ∃ name, file = Path.join path name ∧
          IsFirst (fun name => fs.entry? (place ++ [name]) = some .file ∧ HasExtension name)
            name := by
  refine ⟨fun file => resolve_eq_ok_iff, fun fault => resolve_eq_error_iff,
    fun entries entries' h => ?_, fun fs place hp hd file => ?_⟩
  · rw [resolve, resolve, least?_candidates_congr h]
  · have hoffers : Offers (fs.entries place) =
        fun name => fs.entry? (place ++ [name]) = some .file ∧ HasExtension name :=
      funext fun name => by rw [Offers, FileSystem.mem_entries_iff]
    rw [FileSystem.look_of_directory hp hd, resolve_eq_ok_iff, ← hoffers]
    constructor
    · rintro (_ | h)
      exact ⟨_, rfl, h⟩
    · rintro ⟨name, rfl, h⟩
      exact .within h

/-- A directory in which the extension is spelt in several ways, and begins or ends some names. -/
def shelf : List (String × FileEntry) :=
  [("b.gguf", .file), ("a.gguf", .directory), (".gguf", .file), ("é.gguf", .file),
    ("a.gguf.part", .file), ("agguf", .file), ("a.b.GGuf", .file), ("Z.gguf", .other)]

/-- Beside it there is a directory with nothing but a hidden file and a directory, and a working
directory in which other model files lie deeper. -/
theorem resolve_takes_first_of_shelf :
    resolve "m" (.directory shelf) = .ok "m/a.b.GGuf" ∧
    resolve "m" (.directory shelf.reverse) = .ok "m/a.b.GGuf" ∧
    resolve "m" (.directory [(".gguf", .file), ("a.gguf", .directory)]) = .error (.noModel "m") ∧
    resolve "m/.gguf" .file = .ok "m/.gguf" ∧
    let fs : FileSystem := ⟨["d/a/a.gguf", "d/b.gguf", "d/c.gguf"], ["d/a.gguf"]⟩
    ∃ name, "d/b.gguf" = Path.join "d/" name ∧
      IsFirst (fun name => fs.entry? ["d", name] = some .file ∧ HasExtension name) name := by
  have hfirst : IsFirst (Offers shelf) "a.b.GGuf" := by
    refine ⟨⟨by decide, by decide +kernel⟩, fun other h => ?_⟩
    have hall : ∀ e ∈ shelf, e.2 = .file → HasExtension e.1 →
        Utf8.bytes "a.b.GGuf" ≤ Utf8.bytes e.1 := by
      decide +kernel
    exact hall _ h.1 rfl h.2
  have hnone : ∀ name, ¬Offers [(".gguf", .file), ("a.gguf", .directory)] name := by
    intro name h
    have hall : ∀ e ∈ [(".gguf", FileEntry.file), ("a.gguf", .directory)],
        e.2 = .file → ¬HasExtension e.1 := by
      decide +kernel
    exact hall _ h.1 rfl h.2
  obtain ⟨hfound, -, hsame, -⟩ := resolve_takes_first "m" (.directory shelf)
  obtain ⟨-, hfault, -⟩ :=
    resolve_takes_first "m" (.directory [(".gguf", .file), ("a.gguf", .directory)])
  have hok := (hfound "m/a.b.GGuf").2 (.within hfirst)
  have hreverse := hsame shelf shelf.reverse fun name => by simp [Offers]
  obtain ⟨-, -, -, hfs⟩ := resolve_takes_first "d/" .absent
  exact ⟨hok, hreverse ▸ hok, (hfault _).2 (.inr ⟨_, rfl, hnone, rfl⟩),
    ((resolve_takes_first "m/.gguf" .file).1 _).2 .itself,
    (hfs _ ["d"] (by decide +kernel) (by decide +kernel) _).1 (by decide +kernel)⟩

end ModelFile

end StreamedInference
