import ListingPanel.Proofs.Path.NormalForm
import ListingPanel.Toolchain

/-!
The order in which interpreters are looked for. Along a search path the first directory that has one
is taken, whatever the later ones have, and what is found there can be run. Of the files nothing is
asked but which paths lead to files and which to directories, and that may be any two predicates.
-/
namespace ListingPanel.Toolchain

/-! ### The directories of a search path -/

/-- The texts without a colon that make up a search path, with colons between them. -/
def Lists (searchPath : String) (ds : List String) : Prop :=
  ds ≠ [] ∧ (∀ d ∈ ds, ':' ∉ d.toList) ∧ ":".intercalate ds = searchPath

theorem directories_eq_splitOn (cs : List Char) : directories cs = cs.splitOn ':' := by
  induction cs with
  | nil => rfl
  | cons c cs ih =>
    obtain ⟨p, ps, hs⟩ := List.exists_cons_of_ne_nil (List.splitOn_ne_nil ':' cs)
    simp only [directories, ih, hs, Path.splitOn_cons hs]

theorem lists_iff {searchPath : String} {ds : List String} :
    Lists searchPath ds ↔ (directories searchPath.toList).map String.ofList = ds := by
  have hcolon : ":".toList = [':'] := rfl
  rw [directories_eq_splitOn]
  constructor
  · rintro ⟨hne, hcolons, rfl⟩
    have hsplit : (":".intercalate ds).toList.splitOn ':' = ds.map String.toList := by
      rw [String.toList_intercalate, hcolon]
      apply List.splitOn_intercalate
      · intro l hl
        obtain ⟨d, hd, rfl⟩ := List.mem_map.mp hl
        exact hcolons d hd
      · simpa using hne
    rw [hsplit, List.map_map]
    simp
  · rintro rfl
    refine ⟨?_, ?_, ?_⟩
    · simp
    · intro d hd
      obtain ⟨l, hl, rfl⟩ := List.mem_map.mp hd
      rw [String.toList_ofList]
      exact Path.notMem_of_mem_splitOn hl
    · apply String.toList_injective
      rw [String.toList_intercalate, hcolon, List.map_map]
      have hid : String.toList ∘ String.ofList = id := by
        funext l
        exact String.toList_ofList
      rw [hid, List.map_id, List.intercalate_splitOn]

/-! ### The first file -/

section First
variable (isFile : Path → Bool)

/-- `p` stands for the first of the names below `d` that leads to a file. -/
def FirstBelow (names : List String) (d p : Path) : Prop :=
  ∃ before n after, names = before ++ n :: after ∧ p = d.join n ∧ isFile p = true ∧
    ∀ m ∈ before, isFile (d.join m) = false

/-- None of the names below `d` leads to a file. -/
def NoneBelow (names : List String) (d : Path) : Prop := ∀ n ∈ names, isFile (d.join n) = false

variable {isFile} {names : List String} {d p : Path}

theorem find?_join_eq_some_iff :
    (names.map d.join).find? isFile = some p ↔ FirstBelow isFile names d p := by
  rw [List.find?_map, Option.map_eq_some_iff]
  constructor
  · rintro ⟨n, hn, rfl⟩
    obtain ⟨hfile, before, after, hnames, hbefore⟩ := List.find?_eq_some_iff_append.mp hn
    exact ⟨before, n, after, hnames, rfl, hfile, fun m hm => by simpa using hbefore m hm⟩
  · rintro ⟨before, n, after, hnames, rfl, hfile, hbefore⟩
    refine ⟨n, List.find?_eq_some_iff_append.mpr ⟨hfile, before, after, hnames, ?_⟩, rfl⟩
    intro m hm
    simpa using hbefore m hm

theorem find?_join_eq_none_iff :
    (names.map d.join).find? isFile = none ↔ NoneBelow isFile names d := by
  simp [NoneBelow]

end First

/-! ### Choosing by predicates -/

section Predicates
variable (isFile isDirectory : Path → Bool)

/-- The toolchain to use, where `isFile` tells which paths lead to files. -/
def resolveBy? (configured : Option Path) (searchPath : Option String) : Option Path :=
  match configured with
  | some p => some p
  | none => searchPath.bind fun s => (candidates s).find? isFile

/-- The interpreter of a toolchain, where the predicates tell what paths lead to. -/
def executableBy? (toolchain : Path) : Option Path :=
  if isFile toolchain then some toolchain
  else if isDirectory toolchain then (installedNames.map toolchain.join).find? isFile
  else none

/-- What one choice of a toolchain, and one of its interpreter, owe to the predicates. -/
structure Chooses (resolve : Option Path → Option String → Option Path)
    (executable : Path → Option Path) : Prop where
  /-- A toolchain that is configured is taken as it is. -/
  configured : ∀ t searchPath, resolve (some t) searchPath = some t
  noSearchPath : resolve none none = none
  /-- The first directory that has an interpreter is the one, and `python3` goes before `python`
  within it. -/
  found : ∀ {searchPath ds}, Lists searchPath ds → ∀ p, resolve none (some searchPath) = some p ↔
    ∃ before d after, ds = before ++ d :: after ∧
      FirstBelow isFile ["python3", "python"] ⟨d⟩ p ∧
      ∀ e ∈ before, NoneBelow isFile ["python3", "python"] ⟨e⟩
  notFound : ∀ {searchPath ds}, Lists searchPath ds →
    (resolve none (some searchPath) = none ↔
      ∀ d ∈ ds, NoneBelow isFile ["python3", "python"] ⟨d⟩)
  /-- What has been found is an interpreter itself. -/
  runs : ∀ {searchPath p}, resolve none searchPath = some p → executable p = some p
  file : ∀ {t}, isFile t = true → executable t = some t
  installation : ∀ {t}, isFile t = false → isDirectory t = true → ∀ p, executable t = some p ↔
    FirstBelow isFile ["bin/python3", "bin/python", "python.exe", "Scripts/python.exe"] t p
  malformed : ∀ t, executable t = none ↔ isFile t = false ∧ (isDirectory t = false ∨
    NoneBelow isFile ["bin/python3", "bin/python", "python.exe", "Scripts/python.exe"] t)

variable {isFile}

/-- The candidates are searched one directory after the other. -/
theorem find?_candidates {searchPath : String} {ds : List String} (h : Lists searchPath ds) :
    (candidates searchPath).find? isFile =
      ds.findSome? fun d => (programNames.map (Path.mk d).join).find? isFile := by
  rw [candidates, List.find?_flatMap, ← lists_iff.mp h, List.findSome?_map]
  rfl

theorem isFile_of_find?_candidates {searchPath : Option String} {p : Path}
    (h : resolveBy? isFile none searchPath = some p) : isFile p = true := by
  obtain ⟨s, -, hs⟩ := Option.bind_eq_some_iff.mp h
  exact List.find?_some hs

variable (isFile)

theorem chooses_by : Chooses isFile isDirectory (resolveBy? isFile)
    (executableBy? isFile isDirectory) where
  configured t searchPath := rfl
  noSearchPath := rfl
  found := by
    intro searchPath ds hds p
    change (candidates searchPath).find? isFile = some p ↔ _
    rw [find?_candidates hds, List.findSome?_eq_some_iff]
    simp only [find?_join_eq_some_iff, find?_join_eq_none_iff]
    rfl
  notFound := by
    intro searchPath ds hds
    change (candidates searchPath).find? isFile = none ↔ _
    rw [find?_candidates hds, List.findSome?_eq_none_iff]
    simp only [find?_join_eq_none_iff]
    rfl
  runs := by
    intro searchPath p hp
    exact if_pos (isFile_of_find?_candidates hp)
  file := by
    intro t ht
    exact if_pos ht
  installation := by
    intro t hf hd p
    unfold executableBy?
    rw [hf, if_neg Bool.false_ne_true, if_pos hd]
    exact find?_join_eq_some_iff
  malformed := by
    intro t
    unfold executableBy?
    split_ifs with hf hd
    · simp [hf]
    · rw [find?_join_eq_none_iff]
      simp [hf, hd, installedNames]
    · simp [hf, hd]

end Predicates

/-- For any files that there may be, the interpreter that is chosen is the first in order: in order
of the directories of the search path, and of the names within a directory. A search path comes to
one list of directories. In a tree of files, paths lead where the tree says. -/
theorem chooses_first :
    (∀ searchPath, ∃! ds, Lists searchPath ds) ∧
    (∀ isFile isDirectory : Path → Bool,
      Chooses isFile isDirectory (resolveBy? isFile) (executableBy? isFile isDirectory)) ∧
    ∀ (t : FileTree) (here : Location),
      Chooses (t.isFile here) (t.isDirectory here) (resolve? t here) (executable? t here) := by
  refine ⟨fun searchPath => ?_, chooses_by, fun t here => ?_⟩
  · refine ⟨_, lists_iff.mpr rfl, fun ds hds => ?_⟩
    exact (lists_iff.mp hds).symm
  · exact chooses_by (t.isFile here) (t.isDirectory here)

/-- The second directory has just `python`, and the third, which has `python3`, comes too late. In
the first one `python3` is a directory. -/
theorem chooses_first_earlier :
    let isFile := fun p : Path => p = ⟨"/old/python"⟩ || p = ⟨"/new/python3"⟩
    let isDirectory := fun p : Path => p = ⟨"/odd/python3"⟩
    Lists "/odd:/old:/new" ["/odd", "/old", "/new"] ∧
      resolveBy? isFile none (some "/odd:/old:/new") = some ⟨"/old/python"⟩ ∧
      executableBy? isFile isDirectory ⟨"/old/python"⟩ = some ⟨"/old/python"⟩ := by
  intro isFile isDirectory
  have hlists : Lists "/odd:/old:/new" ["/odd", "/old", "/new"] :=
    ⟨by decide, by decide +kernel, by decide +kernel⟩
  have hchooses := chooses_first.2.1 isFile isDirectory
  have hfirst : FirstBelow isFile ["python3", "python"] ⟨"/old"⟩ ⟨"/old/python"⟩ :=
    ⟨["python3"], "python", [], rfl, by decide +kernel, by decide, by decide +kernel⟩
  have hnone : ∀ e ∈ ["/odd"], NoneBelow isFile ["python3", "python"] ⟨e⟩ := by
    unfold NoneBelow
    decide +kernel
  have hfound : resolveBy? isFile none (some "/odd:/old:/new") = some ⟨"/old/python"⟩ :=
    (hchooses.found hlists _).mpr ⟨["/odd"], "/old", ["/new"], rfl, hfirst, hnone⟩
  exact ⟨hlists, hfound, hchooses.runs hfound⟩

end ListingPanel.Toolchain
