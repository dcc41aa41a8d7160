import ApiTrial.Proofs.PathOrder
import ApiTrial.Proofs.RoutineOutcome
import ApiTrial.Proofs.StoreLookup

/-! Which files roots stand for. Every path leads to a place in the tree of all files, which is told
by the names on the way down. Each file that a root asks for is found, under a spelling that begins
as the root does, and nothing else is; spellings with the same parts are kept once. So a file is
found twice only if two roots lead to it by different parts. -/
namespace ApiTrial

namespace FileTree

inductive Sound : FileTree → Prop
  | file (content : List UInt8) : Sound (file content)
  | directory (entries : List (String × FileTree)) (nodup : (Table.keys entries).Nodup)
      (named : ∀ entry ∈ entries, Path.IsName entry.1) (sound : ∀ entry ∈ entries, Sound entry.2) :
      Sound (directory entries)

def below? (tree : FileTree) : List String → Option FileTree
  | [] => some tree
  | name :: rest => (Table.get? name tree.entries).bind (below? · rest)

def LeadsToFile (tree : FileTree) (names : List String) : Prop :=
  ∃ content, tree.below? names = some (file content)

def EndsInYaml (names : List String) : Prop := ∃ name ∈ names.getLast?, Path.IsYamlName name

section Below

theorem below?_append (tree : FileTree) (front back : List String) :
    tree.below? (front ++ back) = (tree.below? front).bind (below? · back) := by
  induction front generalizing tree with
  | nil => rfl
  | cons name rest ih =>
    rw [List.cons_append, below?, below?, Option.bind_assoc]
    simp only [ih]

/-- No names lead on from a file. -/
theorem leadsToFile_file_iff (content : List UInt8) (names : List String) :
    (file content).LeadsToFile names ↔ names = [] := by
  cases names with
  | nil => exact iff_of_true ⟨content, rfl⟩ rfl
  | cons name rest => exact iff_of_false (fun ⟨_, h⟩ => by cases h) (List.cons_ne_nil _ _)

/-- A directory is no file: names have to lead on from it. -/
theorem ne_nil_of_leadsToFile (entries : List (String × FileTree)) (names : List String)
    (h : (directory entries).LeadsToFile names) : names ≠ [] := by
  rintro rfl
  obtain ⟨content, hfile⟩ := h
  cases hfile

theorem sound_of_get? {tree below : FileTree} (h : tree.Sound) (name : String)
    (hget : Table.get? name tree.entries = some below) : Path.IsName name ∧ below.Sound := by
  cases h with
  | file content => cases hget
  | directory entries _ named sound =>
    have hm := Table.mem_of_get? entries name below hget
    exact ⟨named _ hm, sound _ hm⟩

theorem sound_of_below? {tree found : FileTree} (h : tree.Sound) (names : List String)
    (hfound : tree.below? names = some found) :
    (∀ name ∈ names, Path.IsName name) ∧ found.Sound := by
  induction names generalizing tree with
  | nil =>
    cases hfound
    exact ⟨nofun, h⟩
  | cons name rest ih =>
    obtain ⟨below, hget, hrest⟩ := Option.bind_eq_some_iff.mp hfound
    obtain ⟨hname, hbelow⟩ := sound_of_get? h name hget
    obtain ⟨hnames, hsound⟩ := ih hbelow hrest
    exact ⟨List.forall_mem_cons.mpr ⟨hname, hnames⟩, hsound⟩

theorem sound_cons (name : String) (tree : FileTree) (rest : List (String × FileTree))
    (h : (directory ((name, tree) :: rest)).Sound) :
    name ∉ Table.keys rest ∧ tree.Sound ∧ (directory rest).Sound := by
  cases h with
  | directory _ nodup named sound =>
    obtain ⟨hnew, hnodup⟩ := List.nodup_cons.mp nodup
    exact ⟨hnew, (List.forall_mem_cons.mp sound).1, .directory rest hnodup
      (List.forall_mem_cons.mp named).2 (List.forall_mem_cons.mp sound).2⟩

end Below

section Listing

/-- Below a directory that has one entry more there are the files below the others, and those that
the entry leads to. -/
theorem leadsToFile_cons_iff (name : String) (tree : FileTree) (rest : List (String × FileTree))
    (hnew : name ∉ Table.keys rest) (names : List String) :
    (directory ((name, tree) :: rest)).LeadsToFile names ↔
      (∃ more, names = name :: more ∧ tree.LeadsToFile more) ∨
        (directory rest).LeadsToFile names := by
  cases names with
  | nil =>
    refine iff_of_false (fun h => ne_nil_of_leadsToFile _ [] h rfl) ?_
    rintro (⟨more, he, -⟩ | h)
    · cases he
    · exact ne_nil_of_leadsToFile rest [] h rfl
  | cons first more =>
    simp only [LeadsToFile, below?, entries, Table.get?]
    by_cases hname : name = first
    · have hnone : Table.get? first rest = none := by
        rw [← Option.not_isSome_iff_eq_none, Table.get?_isSome_iff, ← hname]
        exact hnew
      simp [hname, hnone]
    · simp [hname, eq_comm]

theorem endsInYaml_singleton_iff (name : String) : EndsInYaml [name] ↔ Path.IsYamlName name := by
  simp [EndsInYaml]

theorem endsInYaml_cons_iff (name : String) (names : List String) (hne : names ≠ []) :
    EndsInYaml (name :: names) ↔ EndsInYaml names := by
  rw [EndsInYaml, EndsInYaml, List.getLast?_cons_of_ne_nil hne]

def Lists (tree : FileTree) (path found : String) : Prop :=
  ∃ names, tree.LeadsToFile names ∧ EndsInYaml names ∧ found = names.foldl Path.join path

theorem lists_cons_iff (name : String) (tree : FileTree) (rest : List (String × FileTree))
    (hnew : name ∉ Table.keys rest) (path found : String) :
    (directory ((name, tree) :: rest)).Lists path found ↔
      (∃ more, tree.LeadsToFile more ∧ EndsInYaml (name :: more) ∧
        found = more.foldl Path.join (Path.join path name)) ∨
      (directory rest).Lists path found := by
  simp only [Lists, leadsToFile_cons_iff name tree rest hnew]
  constructor
  · rintro ⟨names, ⟨more, rfl, hmore⟩ | hrest, hyaml, rfl⟩
    · exact Or.inl ⟨more, hmore, hyaml, rfl⟩
    · exact Or.inr ⟨names, hrest, hyaml, rfl⟩
  · rintro (⟨more, hmore, hyaml, rfl⟩ | ⟨names, hrest, hyaml, rfl⟩)
    · exact ⟨name :: more, Or.inl ⟨more, rfl, hmore⟩, hyaml, rfl⟩
    · exact ⟨names, Or.inr hrest, hyaml, rfl⟩

/-- The paths below a directory are those that begin with its own path and lead down to a YAML
file. -/
theorem mem_yamlIn_iff (path : String) (entries : List (String × FileTree))
    (h : (directory entries).Sound) (found : String) :
    found ∈ yamlIn path entries ↔ (directory entries).Lists path found := by
  fun_induction yamlIn path entries with
  | case1 path =>
    refine iff_of_false List.not_mem_nil ?_
    rintro ⟨names, ⟨content, hfile⟩, hyaml, -⟩
    cases names <;> cases hfile
  | case2 path name content rest ih =>
    obtain ⟨hnew, -, hrest⟩ := sound_cons name _ rest h
    rw [lists_cons_iff name _ rest hnew, List.mem_append, ih hrest]
    refine or_congr ?_ Iff.rfl
    simp only [leadsToFile_file_iff, exists_eq_left, endsInYaml_singleton_iff, ← Path.isYaml_iff,
      List.foldl_nil]
    cases Path.isYaml name <;> simp
  | case3 path name entries rest ih ih' =>
    obtain ⟨hnew, hbelow, hrest⟩ := sound_cons name _ rest h
    rw [lists_cons_iff name _ rest hnew, List.mem_append, ih hbelow, ih' hrest]
    refine or_congr (exists_congr fun more => ?_) Iff.rfl
    refine and_congr_right fun hmore => and_congr_left' ?_
    exact (endsInYaml_cons_iff name more (ne_nil_of_leadsToFile entries more hmore)).symm

end Listing

section Walking

inductive Trail (top : FileTree) : List String → List FileTree → FileTree → Prop
  | top : Trail top [] [] top
  | down (names : List String) (above : List FileTree) (entries : List (String × FileTree))
      (name : String) (below : FileTree) (trail : Trail top names above (directory entries))
      (hget : Table.get? name entries = some below) :
      Trail top (names ++ [name]) (directory entries :: above) below

variable {top tree found : FileTree} {names : List String} {above : List FileTree}

theorem below?_of_trail (h : Trail top names above tree) : top.below? names = some tree := by
  induction h with
  | top => rfl
  | down names above entries name below trail hget ih =>
    rw [below?_append, ih, Option.bind_some]
    show (Table.get? name entries).bind _ = _
    rw [hget]
    rfl

def turn (names : List String) : PathPart → List String
  | .name name => names ++ [name]
  | .up => names.dropLast
  | .top | .here => names

theorem names_eq (parts : List PathPart) : Path.names parts = parts.foldl turn [] := rfl

/-- A walk keeps to the names on its way, also where it goes up. -/
theorem exists_trail_of_walk (parts : List PathPart) (h : Trail top names above tree)
    (hwalk : walk above tree parts = .ok found) :
    ∃ above', Trail top (parts.foldl turn names) above' found := by
  induction parts generalizing names above tree with
  | nil =>
    cases hwalk
    exact ⟨above, h⟩
  | cons part rest ih =>
    cases tree with
    | file content => cases hwalk
    | directory entries =>
      rw [List.foldl_cons]
      cases part with
      | top => cases hwalk
      | here => exact ih h hwalk
      | up =>
        cases h with
        | top => exact ih .top hwalk
        | down names above entries name below trail hget =>
          rw [turn, List.dropLast_concat]
          exact ih trail hwalk
      | name name =>
        rw [walk] at hwalk
        cases hget : Table.get? name entries with
        | none =>
          rw [hget] at hwalk
          cases hwalk
        | some below =>
          rw [hget] at hwalk
          exact ih (.down names above entries name below h hget) hwalk

/-- One more name leads to an entry of the directory that has been reached. -/
theorem walk_append_name (parts : List PathPart) (name : String) :
    walk above tree (parts ++ [.name name]) = (walk above tree parts).bind fun found =>
      walk [] found [.name name] := by
  induction parts generalizing above tree with
  | nil =>
    cases tree with
    | file content => rfl
    | directory entries =>
      have hhere : walk above (directory entries) [] = .ok (directory entries) := by rw [walk]
      rw [List.nil_append, hhere]
      show _ = walk [] (directory entries) [.name name]
      rw [walk, walk]
      cases Table.get? name entries <;> rfl
  | cons part rest ih =>
    cases tree with
    | file content => rfl
    | directory entries =>
      cases part with
      | top => rfl
      | here => exact ih
      | up =>
        cases above with
        | nil => exact ih
        | cons parent above => exact ih
      | name name' =>
        rw [List.cons_append, walk, walk]
        cases Table.get? name' entries with
        | none => rfl
        | some below => exact ih

end Walking

end FileTree

namespace Files
open FileTree
variable (files : Files)

def place (path : String) : List String := Path.names (files.fromTop (Path.parts path))

theorem fromTop_append (parts : List PathPart) (names : List String) :
    files.fromTop (parts ++ names.map .name) = files.fromTop parts ++ names.map .name := by
  cases parts with
  | nil =>
    cases names with
    | nil => exact (List.append_nil _).symm
    | cons name rest => simp [fromTop]
  | cons part rest => cases part <;> simp [fromTop]

theorem foldl_turn_names (front names : List String) :
    (names.map PathPart.name).foldl turn front = front ++ names := by
  induction names generalizing front with
  | nil => exact (List.append_nil _).symm
  | cons name rest ih =>
    rw [List.map_cons, List.foldl_cons, turn, ih, List.append_assoc, List.singleton_append]

theorem names_fromTop_append (parts : List PathPart) (names : List String) :
    Path.names (files.fromTop (parts ++ names.map .name)) =
      Path.names (files.fromTop parts) ++ names := by
  rw [fromTop_append, names_eq, names_eq, List.foldl_append, foldl_turn_names]

section Spelling
variable (path : String) (hpath : path ≠ "") (names : List String)
  (hnames : ∀ name ∈ names, Path.IsName name)

include hpath hnames in
theorem place_foldl_join :
    files.place (names.foldl Path.join path) = files.place path ++ names := by
  rw [place, place, Path.parts_foldl_join path hpath names hnames, names_fromTop_append]

end Spelling

section Finding
variable (path : String) (tree : FileTree) (h : files.at? path = .ok tree)

include h in
theorem walk_of_at? :
    path ≠ "" ∧ walk [] files.top (files.fromTop (Path.parts path)) = .ok tree := by
  rw [at?] at h
  split at h
  · cases h
  · rename_i hpath
    refine ⟨by simpa using hpath, ?_⟩
    split at h
    · rename_i content hwalk
      split at h
      · cases h
      · rw [hwalk, h]
    · exact h

include h in
/-- What is at a path is what stands at its place. -/
theorem below?_place : files.top.below? (files.place path) = some tree := by
  obtain ⟨-, hwalk⟩ := files.walk_of_at? path tree h
  obtain ⟨above, htrail⟩ := exists_trail_of_walk _ .top hwalk
  rw [place, names_eq]
  exact below?_of_trail htrail

include h in
/-- What a directory holds under a name is at the path of that entry. -/
theorem at?_join (name : String) (below : FileTree) (hname : Path.IsName name)
    (hget : Table.get? name tree.entries = some below) :
    files.at? (Path.join path name) = .ok below := by
  obtain ⟨hpath, hwalk⟩ := files.walk_of_at? path tree h
  have hfrom : files.fromTop (Path.parts (Path.join path name)) =
      files.fromTop (Path.parts path) ++ [.name name] := by
    rw [Path.parts_join path name hpath hname]
    exact files.fromTop_append _ [name]
  have hjoined : walk [] files.top (files.fromTop (Path.parts (Path.join path name))) =
      .ok below := by
    rw [hfrom, walk_append_name, hwalk]
    cases tree with
    | file content => cases hget
    | directory entries =>
      show walk [] (directory entries) [.name name] = _
      rw [walk, show Table.get? name entries = some below from hget]
      rfl
  rw [at?, if_neg (by simpa using Path.join_ne_empty path name hpath), hjoined]
  cases below with
  | file content =>
    simp [Path.wantsDirectory_join path name hname]
  | directory entries => rfl

include h in
theorem at?_foldl_join (names : List String) (found : FileTree)
    (hnames : ∀ name ∈ names, Path.IsName name) (hfound : tree.below? names = some found) :
    files.at? (names.foldl Path.join path) = .ok found := by
  induction names generalizing path tree with
  | nil =>
    cases hfound
    exact h
  | cons name rest ih =>
    obtain ⟨hname, hrest⟩ := List.forall_mem_cons.mp hnames
    obtain ⟨below, hget, hfound⟩ := Option.bind_eq_some_iff.mp hfound
    exact ih _ below (files.at?_join path tree h name below hname hget) hrest hfound

end Finding

def AsksFor (root : String) (names : List String) : Prop :=
  files.top.LeadsToFile (files.place root ++ names) ∧ (names = [] ∨ EndsInYaml names)

/-- One of some roots asks for the file at a place. -/
def Wanted (roots : List String) (place : List String) : Prop :=
  ∃ root ∈ roots, ∃ names, files.AsksFor root names ∧ files.place root ++ names = place

/-- All ways in which some roots ask for the file at a place have the same parts. -/
def SpelledAlike (roots : List String) (place : List String) : Prop :=
  ∀ root ∈ roots, ∀ names, files.AsksFor root names → files.place root ++ names = place →
    ∀ root' ∈ roots, ∀ names', files.AsksFor root' names' → files.place root' ++ names' = place →
      Path.parts root ++ names.map .name = Path.parts root' ++ names'.map .name

/-- A path in order stands for all paths with its parts. -/
theorem place_of_key_eq (a b : String) (h : Path.key a = Path.key b) :
    files.place a = files.place b := by
  rw [place, place, (Path.key_eq_iff a b).mp h]

section Roots
variable (htop : files.top.Sound) (root : String) (tree : FileTree) (h : files.at? root = .ok tree)

include h in
theorem leadsToFile_place_iff (names : List String) :
    files.top.LeadsToFile (files.place root ++ names) ↔ tree.LeadsToFile names := by
  simp only [LeadsToFile, below?_append, files.below?_place root tree h, Option.bind_some]

include htop h in
/-- A root that exists lists the files that it asks for. -/
theorem exists_rootFiles : ∃ found, files.rootFiles root = .ok found ∧
    ∀ path, path ∈ found ↔
      ∃ names, files.AsksFor root names ∧ path = names.foldl Path.join root := by
  rw [rootFiles, h]
  simp only [AsksFor, files.leadsToFile_place_iff root tree h]
  cases tree with
  | file content =>
    refine ⟨[root], rfl, fun path => ?_⟩
    simp only [leadsToFile_file_iff, List.mem_singleton]
    constructor
    · rintro rfl
      exact ⟨[], ⟨rfl, Or.inl rfl⟩, rfl⟩
    · rintro ⟨_, ⟨rfl, -⟩, rfl⟩
      rfl
  | directory entries =>
    have hsound := (sound_of_below? htop _ (files.below?_place root _ h)).2
    refine ⟨yamlIn root entries, rfl, fun path => ?_⟩
    rw [mem_yamlIn_iff root entries hsound]
    refine exists_congr fun names => ?_
    rw [and_assoc]
    refine and_congr_right fun hfile => and_congr_left' ?_
    exact (or_iff_right (ne_nil_of_leadsToFile entries names hfile)).symm

include htop in
/-- The path of a file that a root asks for begins with the parts of the root, and leads there. -/
theorem spelling_of_asksFor (hroot : ∃ tree, files.at? root = .ok tree) (names : List String)
    (ha : files.AsksFor root names) :
    Path.parts (names.foldl Path.join root) = Path.parts root ++ names.map .name ∧
      files.place (names.foldl Path.join root) = files.place root ++ names ∧
      ∃ content, files.at? (names.foldl Path.join root) = .ok (.file content) := by
  obtain ⟨tree, h⟩ := hroot
  obtain ⟨hpath, -⟩ := files.walk_of_at? root tree h
  obtain ⟨content, hfile⟩ := (files.leadsToFile_place_iff root tree h names).mp ha.1
  have hsound := (sound_of_below? htop _ (files.below?_place root tree h)).2
  have hnames := (sound_of_below? hsound names hfile).1
  exact ⟨Path.parts_foldl_join root hpath names hnames,
    files.place_foldl_join root hpath names hnames,
    content, files.at?_foldl_join root tree h names _ hnames hfile⟩

end Roots

/-- Where paths rise, those that fulfil a test are one exactly if they all have the same parts. -/
theorem countP_eq_one_iff (paths : List String) (test : String → Bool)
    (hrise : paths.Pairwise fun a b => Path.key a < Path.key b) (hex : ∃ path ∈ paths, test path) :
    paths.countP test = 1 ↔
      ∀ a ∈ paths, test a → ∀ b ∈ paths, test b → Path.key a = Path.key b := by
  have hmem (path : String) : path ∈ paths.filter test ↔ path ∈ paths ∧ test path :=
    List.mem_filter
  have hkept := hrise.filter test
  rw [List.countP_eq_length_filter]
  cases hf : paths.filter test with
  | nil =>
    obtain ⟨path, hm, ht⟩ := hex
    rw [hf] at hmem
    exact absurd ((hmem path).mpr ⟨hm, ht⟩) List.not_mem_nil
  | cons first rest =>
    rw [hf] at hmem hkept
    cases rest with
    | nil =>
      refine iff_of_true rfl fun a ha hta b hb htb => ?_
      rw [List.mem_singleton.mp ((hmem a).mpr ⟨ha, hta⟩),
        List.mem_singleton.mp ((hmem b).mpr ⟨hb, htb⟩)]
    | cons second rest =>
      -- Of two paths that are left, the second is behind the first, so their parts differ.
      refine iff_of_false (by simp) fun hsame => ?_
      obtain ⟨hfirst, ht⟩ := (hmem first).mp List.mem_cons_self
      obtain ⟨hsecond, ht'⟩ := (hmem second).mp (List.mem_cons_of_mem _ List.mem_cons_self)
      have hlt := (List.pairwise_cons.mp hkept).1 second List.mem_cons_self
      exact absurd (hsame first hfirst ht second hsecond ht') (ne_of_lt hlt)

structure Finds (roots paths : List String) : Prop where
  rise : paths.Pairwise fun a b => Path.key a < Path.key b
  made : ∀ path ∈ paths, ∃ root ∈ roots, ∃ names, files.AsksFor root names ∧
    path = names.foldl Path.join root
  kept : ∀ root ∈ roots, ∀ names, files.AsksFor root names →
    ∃ path ∈ paths, Path.key path = Path.key (names.foldl Path.join root)

section Found
variable (roots paths : List String) (htop : files.top.Sound)
  (hroots : ∀ root ∈ roots, ∃ tree, files.at? root = .ok tree)

include htop hroots in
/-- For roots that exist, some paths are found. -/
theorem exists_finds : ∃ paths, files.yamlFiles roots = .ok paths ∧ files.Finds roots paths := by
  have hlists (root : String) (hm : root ∈ roots) : ∃ found, files.rootFiles root = .ok found ∧
      ∀ path, path ∈ found ↔
        ∃ names, files.AsksFor root names ∧ path = names.foldl Path.join root := by
    obtain ⟨tree, h⟩ := hroots root hm
    exact files.exists_rootFiles htop root tree h
  obtain ⟨listed, hlisted⟩ := exists_mapM_eq_ok files.rootFiles roots fun root hm => by
    obtain ⟨found, hfound, -⟩ := hlists root hm
    exact ⟨found, hfound⟩
  have hall (path : String) : path ∈ listed.flatten ↔ ∃ root ∈ roots, ∃ names,
      files.AsksFor root names ∧ path = names.foldl Path.join root := by
    rw [List.mem_flatten]
    simp only [mem_iff_of_mapM_eq_ok files.rootFiles roots listed hlisted]
    constructor
    · rintro ⟨found, ⟨root, hm, hfound⟩, hpath⟩
      obtain ⟨found', hfound', hiff⟩ := hlists root hm
      cases hfound.symm.trans hfound'
      exact ⟨root, hm, (hiff path).mp hpath⟩
    · rintro ⟨root, hm, hpath⟩
      obtain ⟨found, hfound, hiff⟩ := hlists root hm
      exact ⟨found, ⟨root, hm, hfound⟩, (hiff path).mpr hpath⟩
  refine ⟨Path.sorted listed.flatten, ?_, ?_, ?_, ?_⟩
  · rw [yamlFiles, hlisted]
    rfl
  · exact Path.pairwise_sorted _
  · intro path hm
    exact (hall path).mp (Path.mem_of_mem_sorted _ path hm)
  · intro root hm names ha
    exact Path.exists_mem_sorted _ _ ((hall _).mpr ⟨root, hm, names, ha, rfl⟩)

variable {roots paths} (hf : files.Finds roots paths)

include htop hroots hf in
/-- What is found comes from a root that asks for the file at its place. -/
theorem exists_asksFor_of_mem (path : String) (hm : path ∈ paths) :
    ∃ root ∈ roots, ∃ names, files.AsksFor root names ∧
      files.place root ++ names = files.place path ∧
      Path.parts path = Path.parts root ++ names.map .name ∧
      ∃ content, files.at? path = .ok (.file content) := by
  obtain ⟨root, hroot, names, ha, rfl⟩ := hf.made path hm
  obtain ⟨hparts, hplace, hfile⟩ :=
    files.spelling_of_asksFor htop root (hroots root hroot) names ha
  exact ⟨root, hroot, names, ha, hplace.symm, hparts, hfile⟩

include htop hroots hf in
/-- A file that a root asks for is found, with the parts that the root leads to it by. -/
theorem exists_mem_of_asksFor (root : String) (hroot : root ∈ roots) (names : List String)
    (ha : files.AsksFor root names) :
    ∃ path ∈ paths, files.place path = files.place root ++ names ∧
      Path.parts path = Path.parts root ++ names.map .name := by
  obtain ⟨hparts, hplace, -⟩ :=
    files.spelling_of_asksFor htop root (hroots root hroot) names ha
  obtain ⟨path, hm, hkey⟩ := hf.kept root hroot names ha
  exact ⟨path, hm, (files.place_of_key_eq _ _ hkey).trans hplace,
    ((Path.key_eq_iff _ _).mp hkey).trans hparts⟩

include htop hroots hf in
/-- The places of what is found are those that a root asks for. -/
theorem exists_found_iff_wanted (place : List String) :
    (∃ path ∈ paths, files.place path = place) ↔ files.Wanted roots place := by
  constructor
  · rintro ⟨path, hm, rfl⟩
    obtain ⟨root, hroot, names, ha, hplace, -⟩ :=
      files.exists_asksFor_of_mem htop hroots hf path hm
    exact ⟨root, hroot, names, ha, hplace⟩
  · rintro ⟨root, hroot, names, ha, rfl⟩
    obtain ⟨path, hm, hplace, -⟩ := files.exists_mem_of_asksFor htop hroots hf root hroot names ha
    exact ⟨path, hm, hplace⟩

include htop hroots hf in
/-- What is found leads to one place by the same parts exactly if the roots do. -/
theorem same_key_iff_spelledAlike (place : List String) :
    (∀ a ∈ paths, files.place a = place → ∀ b ∈ paths, files.place b = place →
      Path.key a = Path.key b) ↔ files.SpelledAlike roots place := by
  constructor
  · intro hsame root hroot names ha hp root' hroot' names' ha' hp'
    obtain ⟨a, hm, hplace, hparts⟩ :=
      files.exists_mem_of_asksFor htop hroots hf root hroot names ha
    obtain ⟨b, hm', hplace', hparts'⟩ :=
      files.exists_mem_of_asksFor htop hroots hf root' hroot' names' ha'
    have hab := hsame a hm (hplace.trans hp) b hm' (hplace'.trans hp')
    rw [← hparts, ← hparts', (Path.key_eq_iff a b).mp hab]
  · intro halike a hm hp b hm' hp'
    obtain ⟨root, hroot, names, ha, hplace, hparts, -⟩ :=
      files.exists_asksFor_of_mem htop hroots hf a hm
    obtain ⟨root', hroot', names', ha', hplace', hparts', -⟩ :=
      files.exists_asksFor_of_mem htop hroots hf b hm'
    rw [Path.key_eq_iff, hparts, hparts']
    exact halike root hroot names ha (hplace.trans hp) root' hroot' names' ha' (hplace'.trans hp')

end Found

/-- All roots begin with the same parts, and go on by names. -/
def GoDown (roots : List String) : Prop :=
  ∃ start, ∀ root ∈ roots, ∃ names : List String, Path.parts root = start ++ names.map .name

/-- Roots that go down from one start lead to each place by the same parts. -/
theorem spelledAlike_of_goDown (roots : List String) (h : GoDown roots) (place : List String) :
    files.SpelledAlike roots place := by
  obtain ⟨start, h⟩ := h
  have hplace (root : String) (names : List String)
      (hparts : Path.parts root = start ++ names.map .name) :
      files.place root = Path.names (files.fromTop start) ++ names := by
    rw [Files.place, hparts, names_fromTop_append]
  intro root hroot names _ hp root' hroot' names' _ hp'
  obtain ⟨below, hparts⟩ := h root hroot
  obtain ⟨below', hparts'⟩ := h root' hroot'
  rw [hplace root below hparts, List.append_assoc] at hp
  rw [hplace root' below' hparts', List.append_assoc] at hp'
  have hnames : below ++ names = below' ++ names' := List.append_cancel_left (hp.trans hp'.symm)
  rw [hparts, hparts', List.append_assoc, List.append_assoc, ← List.map_append, ← List.map_append,
    hnames]

/-- For roots that exist, files are found: their paths rise part by part, each leads to a file, and
the places that they lead to are those that a root asks for, in whatever order the roots stand. A
file is found exactly once if and only if all ways in which roots ask for it have the same parts.
That is so for roots that go down from one start, however they repeat, nest or overlap. -/
theorem yamlFiles_finds_each_iff (roots : List String) (htop : files.top.Sound)
    (hroots : ∀ root ∈ roots, ∃ tree, files.at? root = .ok tree) :
    ∃ paths, files.yamlFiles roots = .ok paths ∧
      paths.Pairwise (fun a b => Path.key a < Path.key b) ∧
      (∀ path ∈ paths, ∃ content, files.at? path = .ok (.file content)) ∧
      (∀ place, (∃ path ∈ paths, files.place path = place) ↔ files.Wanted roots place) ∧
      (∀ place, files.Wanted roots place →
        ((paths.countP fun path => files.place path = place) = 1 ↔
          files.SpelledAlike roots place)) ∧
      (GoDown roots → ∀ place, files.Wanted roots place →
        (paths.countP fun path => files.place path = place) = 1) ∧
      ∀ others, others.Perm roots → ∃ paths', files.yamlFiles others = .ok paths' ∧
        ∀ place, (∃ path ∈ paths', files.place path = place) ↔
          ∃ path ∈ paths, files.place path = place := by
  obtain ⟨paths, hfound, hf⟩ := files.exists_finds roots htop hroots
  have hwanted := files.exists_found_iff_wanted htop hroots hf
  have honce (place : List String) (hw : files.Wanted roots place) :
      (paths.countP fun path => files.place path = place) = 1 ↔
        files.SpelledAlike roots place := by
    have hex := (hwanted place).mpr hw
    rw [countP_eq_one_iff paths _ hf.rise (by simpa using hex)]
    simp only [decide_eq_true_eq]
    exact files.same_key_iff_spelledAlike htop hroots hf place
  refine ⟨paths, hfound, hf.rise, ?_, hwanted, honce, ?_, ?_⟩
  · intro path hm
    obtain ⟨-, -, -, -, -, -, hfile⟩ := files.exists_asksFor_of_mem htop hroots hf path hm
    exact hfile
  · intro hdown place hw
    exact (honce place hw).mpr (files.spelledAlike_of_goDown roots hdown place)
  · -- Whether a root asks for a file has nothing to do with where the root stands.
    intro others hperm
    have hothers : ∀ root ∈ others, ∃ tree, files.at? root = .ok tree :=
      fun root hm => hroots root (hperm.mem_iff.mp hm)
    obtain ⟨paths', hfound', hf'⟩ := files.exists_finds others htop hothers
    refine ⟨paths', hfound', fun place => ?_⟩
    rw [hwanted, files.exists_found_iff_wanted htop hothers hf']
    simp only [Wanted, hperm.mem_iff]

def loginTree : FileTree := directory [("login.yaml", file []), ("notes.txt", file [])]

def loginFiles : Files := ⟨directory [("work", directory [("suite", loginTree)])], ["work"]⟩

theorem sound_loginFiles : loginFiles.top.Sound := by
  have hname (name : String) (h : name ∈ ["work", "suite", "login.yaml", "notes.txt"]) :
      Path.IsName name := by
    simp only [List.mem_cons, List.not_mem_nil, or_false] at h
    rcases h with rfl | rfl | rfl | rfl <;> exact ⟨by decide, by decide, by decide, by decide⟩
  have hlogin : loginTree.Sound := by
    refine .directory _ (by decide) (fun entry hm => hname _ ?_) (fun entry hm => ?_)
    all_goals
      simp only [List.mem_cons, List.not_mem_nil, or_false] at hm
      rcases hm with rfl | rfl
    · decide
    · decide
    · exact .file []
    · exact .file []
  refine .directory _ (by decide) (fun entry hm => ?_) (fun entry hm => ?_)
  · exact List.mem_singleton.mp hm ▸ hname "work" (by decide)
  · rw [List.mem_singleton.mp hm]
    refine .directory _ (by decide) (fun entry hm => ?_) (fun entry hm => ?_)
    · exact List.mem_singleton.mp hm ▸ hname "suite" (by decide)
    · rw [List.mem_singleton.mp hm]
      exact hlogin

def loginRoots : List String := ["suite", "suite/login.yaml", "./suite"]

theorem exists_loginRoots : ∀ root ∈ loginRoots, ∃ tree, loginFiles.at? root = .ok tree := by
  intro root hm
  have hok : ∀ root ∈ loginRoots, (loginFiles.at? root).toBool = true := by decide +kernel
  exact ok_of_toBool _ (hok root hm)

theorem asksFor_login (root : String) (hroot : loginFiles.place root = ["work", "suite"]) :
    loginFiles.AsksFor root ["login.yaml"] := by
  refine ⟨⟨[], ?_⟩, Or.inr ⟨"login.yaml", rfl, "login", by decide, Or.inl rfl⟩⟩
  rw [hroot]
  rfl

/-- Under two spellings of its directory the file is found more than once; under one of them, and
under its own path, it is found once. -/
theorem yamlFiles_finds_each_iff_login :
    loginFiles.top.Sound ∧ (∀ root ∈ loginRoots, ∃ tree, loginFiles.at? root = .ok tree) ∧
    (∃ paths, loginFiles.yamlFiles loginRoots = .ok paths ∧
      (paths.countP fun path => loginFiles.place path = ["work", "suite", "login.yaml"]) ≠ 1) ∧
    ∃ paths, loginFiles.yamlFiles ["suite", "suite/login.yaml"] = .ok paths ∧
      (paths.countP fun path => loginFiles.place path = ["work", "suite", "login.yaml"]) = 1 := by
  have hplain : loginFiles.place "suite" = ["work", "suite"] := by decide +kernel
  have hdotted : loginFiles.place "./suite" = ["work", "suite"] := by decide +kernel
  have hasks := asksFor_login "suite" hplain
  have hasks' := asksFor_login "./suite" hdotted
  have hwanted (roots : List String) (hm : "suite" ∈ roots) :
      loginFiles.Wanted roots ["work", "suite", "login.yaml"] :=
    ⟨"suite", hm, _, hasks, by rw [hplain]; rfl⟩
  refine ⟨sound_loginFiles, exists_loginRoots, ?_, ?_⟩
  · obtain ⟨paths, hfound, -, -, -, honce, -⟩ :=
      loginFiles.yamlFiles_finds_each_iff loginRoots sound_loginFiles exists_loginRoots
    refine ⟨paths, hfound, fun h => ?_⟩
    have halike := (honce _ (hwanted loginRoots (by decide))).mp h
    have hparts := halike "suite" (by decide) _ hasks (by rw [hplain]; rfl)
      "./suite" (by decide) _ hasks' (by rw [hdotted]; rfl)
    have hdiffer : Path.parts "suite" ++ ["login.yaml"].map .name ≠
        Path.parts "./suite" ++ ["login.yaml"].map .name := by decide +kernel
    exact hdiffer hparts
  · have hroots : ∀ root ∈ ["suite", "suite/login.yaml"], ∃ tree, loginFiles.at? root = .ok tree :=
      fun root hm => exists_loginRoots root (List.mem_of_mem_take (i := 2) hm)
    obtain ⟨paths, hfound, -, -, -, -, hdown, -⟩ :=
      loginFiles.yamlFiles_finds_each_iff ["suite", "suite/login.yaml"] sound_loginFiles hroots
    refine ⟨paths, hfound, hdown ⟨[], fun root hm => ?_⟩ _ (hwanted _ (by decide))⟩
    simp only [List.mem_cons, List.not_mem_nil, or_false] at hm
    rcases hm with rfl | rfl
    · exact ⟨["suite"], by decide +kernel⟩
    · exact ⟨["suite", "login.yaml"], by decide +kernel⟩

end Files
end ApiTrial
