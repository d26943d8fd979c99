/-
What loading a configuration reads of a file system. A chain of files that extend
one another is followed with fuel. The fuel is enough, since a chain that does not
come back to itself visits each entry once (`readChain_eq_of_length_lt`), so a
file system with other entries besides gives the same answer. What counts is what
opening the files of the chain gives (`readFile_eq_of_opens`), and for the whole
configuration the files that are looked for (`load_eq_of_sameFiles`).
-/
import Mathlib.Data.List.Perm.Subperm
import TreeExplorer.Config.Load

namespace TreeExplorer

/-- A file that stands at a place is an entry. -/
theorem FileSystem.mem_entries_of_at? {fs : FileSystem} {place : Location} {bytes : ByteArray}
    (h : fs.at? place = some (.file bytes)) : place ∈ fs.entries.map (·.1) := by
  unfold at? at h
  split at h
  next e he =>
    have hplace : e.1 = place := by simpa using List.find?_some he
    rw [← hplace]
    exact List.mem_map_of_mem (List.mem_of_find?_eq_some he)
  next =>
    split at h
    · cases h
    · cases h

theorem FileSystem.at?_of_resolveIn {fs : FileSystem} {directory : String} {name : List Char}
    {place : Location} {entry : FileEntry} (h : fs.resolveIn directory name = .ok (place, entry)) :
    fs.at? place = some entry := by
  unfold resolveIn at h
  cases hdir : fs.resolve directory with
  | error f => simp [hdir, bind, Except.bind] at h
  | ok found =>
    obtain ⟨base, inside⟩ := found
    cases inside with
    | file bytes => simp [hdir, bind, Except.bind] at h
    | directory =>
      simp only [hdir, bind, Except.bind] at h
      split at h
      next => cases h
      split at h
      next => cases h
      split at h
      next e he =>
        cases h
        exact he
      next => cases h

namespace Config

/-! ## Chains -/

/-- The paths of the entries of a file system. -/
def entryPaths (fs : FileSystem) : List String :=
  fs.entries.map fun e => FileSystem.absolute e.1

theorem mem_entryPaths_of_openFile {fs : FileSystem} {path place : String} {bytes : ByteArray}
    (h : openFile fs path = .ok (some (place, bytes))) : place ∈ entryPaths fs := by
  unfold openFile at h
  split at h
  next => cases h
  split at h
  next => cases h
  next => cases h
  next => cases h
  next hin =>
    cases h
    have hmem := FileSystem.mem_entries_of_at? (FileSystem.at?_of_resolveIn hin)
    obtain ⟨e, he, rfl⟩ := List.mem_map.1 hmem
    exact List.mem_map_of_mem he

theorem mem_entryPaths_of_readSingle {fs : FileSystem} {path place : String} {fields : Fields}
    (h : readSingle fs path = .ok (some (place, fields))) : place ∈ entryPaths fs := by
  unfold readSingle at h
  cases hopen : openFile fs path with
  | error f => simp [hopen, bind, Except.bind] at h
  | ok found =>
    cases found with
    | none => simp [hopen, bind, Except.bind, pure, Except.pure] at h
    | some x =>
      obtain ⟨place', bytes⟩ := x
      have hmem := mem_entryPaths_of_openFile hopen
      simp only [hopen, bind, Except.bind] at h
      split at h
      next => cases h
      next => cases h
      next text _ _ =>
        cases hdoc : readDocument place' text with
        | error f => simp [hdoc] at h
        | ok fields' =>
          simp only [hdoc, pure, Except.pure, Except.ok.injEq, Option.some.injEq,
            Prod.mk.injEq] at h
          exact h.1 ▸ hmem

/-- The chain holds entries of the file system, each once. -/
structure IsChain (fs : FileSystem) (chain : List String) : Prop where
  nodup : chain.Nodup
  subset : chain ⊆ entryPaths fs

theorem IsChain.length_le {fs : FileSystem} {chain : List String} (h : IsChain fs chain) :
    chain.length ≤ fs.entries.length := by
  have hle := (List.subperm_of_subset h.nodup h.subset).length_le
  rwa [entryPaths, List.length_map] at hle

theorem IsChain.concat {fs : FileSystem} {chain : List String} {place : String}
    (h : IsChain fs chain) (hmem : place ∈ entryPaths fs) (hnew : place ∉ chain) :
    IsChain fs (chain ++ [place]) where
  nodup := by
    rw [List.nodup_append]
    refine ⟨h.nodup, List.pairwise_singleton _ place, ?_⟩
    rintro a ha b hb rfl
    exact hnew (List.mem_singleton.1 hb ▸ ha)
  subset := List.append_subset.2 ⟨h.subset, List.cons_subset.2 ⟨hmem, List.nil_subset _⟩⟩

/-- One step of following a chain, with what the rest of it gives left open. -/
def chainStep (fs : FileSystem) (rest : List String → String → Except FileFault (Option Fields))
    (chain : List String) (path : String) : Except FileFault (Option Fields) := do
  match ← readSingle fs path with
  | none => return none
  | some (place, fields) =>
    if chain.contains place then .error (.cycle (chain ++ [place]))
    else
      match ← basePath place fields with
      | none => return some fields
      | some base =>
        match ← rest (chain ++ [place]) base with
        | none => .error (.problem base (.baseMissing base place))
        | some lower => return some (Json.layFields fields lower)

theorem readChain_succ (fs : FileSystem) (fuel : Nat) (chain : List String) (path : String) :
    readChain fs (fuel + 1) chain path = chainStep fs (readChain fs fuel) chain path := rfl

/-- A step asks for the rest of the chain only behind a file that is not in it. -/
theorem chainStep_congr {fs : FileSystem} {chain : List String} {path : String}
    {rest rest' : List String → String → Except FileFault (Option Fields)}
    (h : ∀ place fields base, readSingle fs path = .ok (some (place, fields)) → place ∉ chain →
      basePath place fields = .ok (some base) →
      rest (chain ++ [place]) base = rest' (chain ++ [place]) base) :
    chainStep fs rest chain path = chainStep fs rest' chain path := by
  unfold chainStep
  cases hsingle : readSingle fs path with
  | error f => rfl
  | ok found =>
    cases found with
    | none => rfl
    | some x =>
      obtain ⟨place, fields⟩ := x
      by_cases hin : place ∈ chain
      · simp [bind, Except.bind, hin]
      · cases hbase : basePath place fields with
        | error f => simp [bind, Except.bind, hin, hbase]
        | ok found =>
          cases found with
          | none => simp [bind, Except.bind, hin, hbase]
          | some base =>
            have hrest := h place fields base hsingle hin hbase
            simp [bind, Except.bind, hin, hbase, hrest]

/-- Fuel beyond the entries that are not yet in the chain is enough. -/
theorem readChain_eq_of_length_lt {fs : FileSystem} {fuel fuel' : Nat} {chain : List String}
    (hchain : IsChain fs chain) (h : fs.entries.length < chain.length + fuel)
    (h' : fs.entries.length < chain.length + fuel') (path : String) :
    readChain fs fuel chain path = readChain fs fuel' chain path := by
  have hle := hchain.length_le
  induction fuel generalizing fuel' chain path with
  | zero => omega
  | succ fuel ih =>
    obtain ⟨fuel', rfl⟩ : ∃ k, fuel' = k + 1 := ⟨fuel' - 1, by omega⟩
    rw [readChain_succ, readChain_succ]
    refine chainStep_congr fun place fields base hsingle hnew _ => ?_
    have hnext := hchain.concat (mem_entryPaths_of_readSingle hsingle) hnew
    have hlength : (chain ++ [place]).length = chain.length + 1 := by simp
    exact ih hnext (by omega) (by omega) base hnext.length_le

/-! ## Agreement -/

/-- Following a file and those it extends may open the second path. -/
inductive Opens (fs : FileSystem) : String → String → Prop
  | self (path : String) : Opens fs path path
  | base {path place base later : String} {fields : Fields}
      (hsingle : readSingle fs path = .ok (some (place, fields)))
      (hbase : basePath place fields = .ok (some base)) (h : Opens fs base later) :
      Opens fs path later

theorem readSingle_eq_of_openFile {fs fs' : FileSystem} {path : String}
    (h : openFile fs path = openFile fs' path) : readSingle fs path = readSingle fs' path := by
  simp only [readSingle, h]

theorem readChain_eq_of_opens {fs fs' : FileSystem} (fuel : Nat) (chain : List String) {path : String}
    (h : ∀ later, Opens fs path later → openFile fs later = openFile fs' later) :
    readChain fs fuel chain path = readChain fs' fuel chain path := by
  induction fuel generalizing chain path with
  | zero => rfl
  | succ fuel ih =>
    have hsame := readSingle_eq_of_openFile (h path (.self path))
    have hstep : chainStep fs' (readChain fs' fuel) chain path =
        chainStep fs (readChain fs' fuel) chain path := by
      simp only [chainStep, hsame]
    rw [readChain_succ, readChain_succ, hstep]
    refine chainStep_congr fun place fields base hsingle _ hbase => ?_
    exact ih _ fun later hlater => h later (.base hsingle hbase hlater)

/-- A configuration file is read the same in two file systems in which the files of
its chain open the same, whatever else these hold. -/
theorem readFile_eq_of_opens {fs fs' : FileSystem} {path : String}
    (h : ∀ later, Opens fs path later → openFile fs later = openFile fs' later) :
    readFile fs path = readFile fs' path := by
  have hnil : ∀ fs, IsChain fs [] := fun fs => ⟨List.nodup_nil, List.nil_subset _⟩
  have hmore : ∀ fs : FileSystem, ∀ fuel, fs.entries.length < fuel →
      readFile fs path = readChain fs fuel [] path := by
    intro fs fuel hfuel
    exact readChain_eq_of_length_lt (hnil fs) (by simp) (by simpa using hfuel) path
  rw [hmore fs (max fs.entries.length fs'.entries.length + 1) (by omega),
    hmore fs' (max fs.entries.length fs'.entries.length + 1) (by omega)]
  exact readChain_eq_of_opens _ _ h

/-! ## Loading -/

/-- The file that flags name. -/
def namedFile (arguments : List Argument) : Option String :=
  match readFlags arguments with
  | .ok flags => flags.configPath.map Argument.shown
  | .error _ => none

/-- The paths at which a configuration file is looked for. -/
def lookedFor (workingDirectory : Location) (environment : Variables) (arguments : List Argument) :
    List String :=
  (namedFile arguments).toList ++ candidates environment (FileSystem.absolute workingDirectory)

/-- Loading a configuration opens the same files with the same outcome. -/
structure SameFiles (environment : Variables) (arguments : List Argument) (fs fs' : FileSystem) :
    Prop where
  workingDirectory : fs.workingDirectory = fs'.workingDirectory
  opened : ∀ path ∈ lookedFor fs.workingDirectory environment arguments,
    ∀ later, Opens fs path later → openFile fs later = openFile fs' later

theorem Opens.eq_of_absent {fs : FileSystem} {path later : String}
    (h : openFile fs path = .ok none) (hopens : Opens fs path later) : later = path := by
  cases hopens with
  | self => rfl
  | base hsingle => simp [readSingle, h, bind, Except.bind, pure, Except.pure] at hsingle

/-- Where there is no configuration file, nothing is opened that could differ. -/
theorem SameFiles.of_absent {environment : Variables} {arguments : List Argument}
    {fs fs' : FileSystem} (hdir : fs.workingDirectory = fs'.workingDirectory)
    (h : ∀ path ∈ lookedFor fs.workingDirectory environment arguments,
      openFile fs path = .ok none ∧ openFile fs' path = .ok none) :
    SameFiles environment arguments fs fs' := by
  refine ⟨hdir, fun path hpath later hopens => ?_⟩
  obtain ⟨hfs, hfs'⟩ := h path hpath
  rw [hopens.eq_of_absent hfs, hfs, hfs']

theorem firstFile_congr {fs fs' : FileSystem} {paths : List String}
    (h : ∀ path ∈ paths, readFile fs path = readFile fs' path) :
    firstFile fs paths = firstFile fs' paths := by
  induction paths with
  | nil => rfl
  | cons path rest ih =>
    have hrest := ih fun p hp => h p (List.mem_cons_of_mem _ hp)
    simp only [firstFile, h path List.mem_cons_self, hrest]

theorem fileFields_congr {fs fs' : FileSystem} {environment : Variables} {named : Option String}
    (hdir : fs.workingDirectory = fs'.workingDirectory)
    (h : ∀ path ∈ named.toList ++ candidates environment (FileSystem.absolute fs.workingDirectory),
      readFile fs path = readFile fs' path) :
    fileFields fs environment named = fileFields fs' environment named := by
  have hothers : ∀ path ∈ (candidates environment (FileSystem.absolute fs.workingDirectory)).filter
      fun path => some path != named, readFile fs path = readFile fs' path :=
    fun path hpath => h path (List.mem_append_right _ (List.mem_of_mem_filter hpath))
  have hnamed : named.map (requiredFile fs) = named.map (requiredFile fs') := by
    refine Option.map_congr fun path hpath => ?_
    rw [requiredFile, requiredFile, h path (List.mem_append_left _ (Option.mem_toList.2 hpath))]
  simp only [fileFields, ← hdir, firstFile_congr hothers, hnamed]

/-- A configuration is loaded the same from two file systems in which the files that
are looked for open the same. -/
theorem load_eq_of_sameFiles {environment : Variables} {arguments : List Argument}
    {fs fs' : FileSystem} (h : SameFiles environment arguments fs fs') :
    load fs environment arguments = load fs' environment arguments := by
  have hread : ∀ path ∈ lookedFor fs.workingDirectory environment arguments,
      readFile fs path = readFile fs' path :=
    fun path hpath => readFile_eq_of_opens (h.opened path hpath)
  have hfields := fileFields_congr h.workingDirectory hread
  unfold namedFile at hfields
  unfold load
  cases hflags : readFlags arguments with
  | error stop =>
    rw [hflags] at hfields
    dsimp only at hfields ⊢
    rw [Option.map_none, hfields]
  | ok flags =>
    rw [hflags] at hfields
    dsimp only at hfields ⊢
    rw [hfields]

end Config

end TreeExplorer
