import ApiTrial.Files.Basic
import Mathlib.Data.List.Lex
import Mathlib.Data.List.Sort
import Mathlib.Data.Prod.Lex
import Mathlib.Data.String.Basic

/-! Paths by their parts. The path of an entry of a directory has one part more than that of the
directory. Paths are ordered as words over their parts are in a dictionary, and putting them in
order keeps one spelling of each list of parts. -/
namespace ApiTrial

namespace Path

structure IsName (name : String) : Prop where
  ne_empty : name ≠ ""
  no_slash : '/' ∉ name.toList
  ne_here : name ≠ "."
  ne_up : name ≠ ".."

def IsYamlName (name : String) : Prop :=
  ∃ stem, stem ≠ "" ∧ (name = stem ++ ".yaml" ∨ name = stem ++ ".yml")

section Suffix

def behindPoint (text : List Char) : List Char := (text.reverse.takeWhile (· != '.')).reverse

theorem behindPoint_append (stem text : List Char) (h : '.' ∉ text) :
    behindPoint (stem ++ '.' :: text) = text := by
  have hback : (stem ++ '.' :: text).reverse = text.reverse ++ '.' :: stem.reverse := by
    simp
  rw [behindPoint, hback, List.takeWhile_append_of_pos, List.takeWhile_cons_of_neg (by simp),
    List.append_nil, List.reverse_reverse]
  intro c hc
  simpa using fun he : c = '.' => h (he ▸ List.mem_reverse.mp hc)

/-- A text that goes on in front of what stands behind its last point has that point there. -/
theorem exists_stem (text : List Char) (h : (behindPoint text).length < text.length) :
    ∃ stem, text = stem ++ '.' :: behindPoint text := by
  have hsplit := List.takeWhile_append_dropWhile (p := (· != '.')) (l := text.reverse)
  cases hrest : text.reverse.dropWhile (· != '.') with
  | nil =>
    have hlength := congrArg List.length hsplit
    rw [hrest, List.append_nil, List.length_reverse] at hlength
    rw [behindPoint, List.length_reverse] at h
    omega
  | cons point stem =>
    have hpoint : point = '.' := by
      have hnot := List.head?_dropWhile_not (· != '.') text.reverse
      rw [hrest] at hnot
      simpa using hnot
    subst hpoint
    refine ⟨stem.reverse, ?_⟩
    calc text = (text.reverse.takeWhile (· != '.') ++ '.' :: stem).reverse := by
          rw [← hrest, hsplit, List.reverse_reverse]
      _ = stem.reverse ++ '.' :: behindPoint text := by
          rw [behindPoint, List.reverse_append, List.reverse_cons, List.append_assoc,
            List.singleton_append]

theorem suffix?_eq (name : String) : suffix? name =
    if (behindPoint name.toList).length + 1 < name.toList.length
      then some (String.ofList (behindPoint name.toList)) else none := by
  rw [suffix?, behindPoint, List.length_reverse]

/-- A name has a suffix exactly if a point and something in front of the point come before it. -/
theorem suffix?_eq_some_iff (name suffix : String) (hs : '.' ∉ suffix.toList) :
    suffix? name = some suffix ↔ ∃ stem, stem ≠ "" ∧ name = stem ++ "." ++ suffix := by
  rw [suffix?_eq]
  constructor
  · intro h
    split at h
    · rename_i hlong
      cases h
      obtain ⟨stem, hname⟩ := exists_stem name.toList (by omega)
      refine ⟨String.ofList stem, ?_, ?_⟩
      · -- A point at the beginning is not enough.
        intro he
        have hstem : stem = [] := by simpa using congrArg String.toList he
        have hlength := congrArg List.length hname
        rw [hstem, List.nil_append, List.length_cons] at hlength
        omega
      · apply String.toList_injective
        simpa using hname
    · cases h
  · rintro ⟨stem, hne, rfl⟩
    have hname : (stem ++ "." ++ suffix).toList = stem.toList ++ '.' :: suffix.toList := by
      simp
    have hstem : 0 < stem.toList.length := by
      apply List.length_pos_iff.mpr
      exact fun he => hne (String.toList_injective he)
    rw [hname, behindPoint_append _ _ hs, if_pos, String.ofList_toList]
    rw [List.length_append, List.length_cons]
    omega

theorem isYaml_iff (name : String) : isYaml name = true ↔ IsYamlName name := by
  have hjoin (stem : String) :
      stem ++ "." ++ "yaml" = stem ++ ".yaml" ∧ stem ++ "." ++ "yml" = stem ++ ".yml" := by
    rw [String.append_assoc, String.append_assoc]
    exact ⟨rfl, rfl⟩
  rw [isYaml, Bool.or_eq_true, beq_iff_eq, beq_iff_eq, suffix?_eq_some_iff _ _ (by decide),
    suffix?_eq_some_iff _ _ (by decide), ← exists_or]
  simp only [hjoin, ← and_or_left, IsYamlName]

end Suffix

section Join

def filled (text : List Char) : List (List Char) :=
  (text.splitOn '/').filter fun piece => !piece.isEmpty

theorem filled_slash (text : List Char) : filled (text ++ ['/']) = filled text := by
  rw [filled, List.splitOn_append_cons_self, List.splitOn_nil, List.filter_append]
  exact List.append_nil _

theorem filled_ne_nil (c : Char) (text : List Char) (hc : c ≠ '/') : filled (c :: text) ≠ [] := by
  rw [filled, List.splitOn_cons_eq_if_modifyHead, if_neg (by simpa using hc)]
  cases hrest : text.splitOn '/' with
  | nil => exact absurd hrest (List.splitOn_ne_nil _ _)
  | cons piece rest =>
    rw [List.modifyHead_cons, List.filter_cons_of_pos (by simp)]
    exact List.cons_ne_nil _ _

variable (directory name : String) (hd : directory ≠ "") (hn : IsName name)

theorem toList_join : (join directory name).toList = directory.toList ++ name.toList ∧
      (∃ front, directory.toList = front ++ ['/']) ∨
    (join directory name).toList = directory.toList ++ '/' :: name.toList := by
  rw [join]
  split
  · rename_i hlast
    obtain ⟨front, hfront⟩ := List.getLast?_eq_some_iff.mp (by simpa using hlast)
    exact Or.inl ⟨String.toList_append, front, hfront⟩
  · right
    rw [String.toList_append, String.toList_append, List.append_assoc]
    rfl

include hn in
theorem filled_join : filled (join directory name).toList =
    filled directory.toList ++ [name.toList] := by
  have hne : name.toList ≠ [] := fun he => hn.ne_empty (String.toList_injective he)
  have hback (front : List Char) :
      filled (front ++ '/' :: name.toList) = filled front ++ [name.toList] := by
    rw [filled, List.splitOn_append_cons_self, List.splitOn_eq_singleton hn.no_slash,
      List.filter_append, List.filter_cons_of_pos (by simpa using hne)]
    rfl
  rcases toList_join directory name with ⟨hjoin, front, hfront⟩ | hjoin
  · rw [hjoin, hfront, filled_slash, List.append_assoc]
    exact hback front
  · rw [hjoin, hback]

include hd in
theorem head?_join : (join directory name).toList.head? = directory.toList.head? := by
  have hne : directory.toList ≠ [] := fun he => hd (String.toList_injective he)
  rcases toList_join directory name with ⟨hjoin, -⟩ | hjoin <;>
    rw [hjoin, List.head?_append_of_ne_nil _ hne]

include hd in
theorem join_ne_empty : join directory name ≠ "" := by
  intro he
  have hne : directory.toList ≠ [] := fun he => hd (String.toList_injective he)
  have hempty : (join directory name).toList = [] := congrArg String.toList he
  rcases toList_join directory name with ⟨hjoin, -⟩ | hjoin <;>
    exact hne (List.append_eq_nil_iff.mp (hjoin.symm.trans hempty)).1

include hn in
theorem part?_name (atHead : Bool) : part? atHead name = some (.name name) := by
  rw [part?, if_neg hn.ne_here, if_neg hn.ne_up]

include hd hn in
/-- The path of an entry has the name as its last part. -/
theorem parts_join : parts (join directory name) = parts directory ++ [.name name] := by
  have hpieces : pieces (join directory name) = pieces directory ++ [name] := by
    rw [pieces, pieces]
    show (filled _).map String.ofList = (filled _).map String.ofList ++ _
    rw [filled_join directory name hn, List.map_append, List.map_singleton, String.ofList_toList]
  rw [parts, parts, hpieces, head?_join directory name hd]
  split
  · rw [List.filterMap_append, List.cons_append]
    simp [part?_name name hn]
  · rename_i hhead
    cases hp : pieces directory with
    | nil =>
      cases ht : directory.toList with
      | nil => exact absurd (String.toList_injective ht) hd
      | cons c text =>
        rw [ht] at hhead
        have hfilled : filled (c :: text) = [] := by
          rw [pieces, ht] at hp
          exact List.map_eq_nil_iff.mp hp
        exact absurd hfilled (filled_ne_nil c text (by simpa using hhead))
    | cons first rest =>
      simp [List.filterMap_append, part?_name name hn]

include hn in
theorem wantsDirectory_join : wantsDirectory (join directory name) = false := by
  have hne : name.toList ≠ [] := fun he => hn.ne_empty (String.toList_injective he)
  have hhere : name.toList ≠ ['.'] := fun he => hn.ne_here (String.toList_injective he)
  have hback (front : List Char) :
      ((front ++ '/' :: name.toList).splitOn '/').getLast? = some name.toList := by
    rw [List.splitOn_append_cons_self, List.splitOn_eq_singleton hn.no_slash, List.getLast?_concat]
  have hlast : ((join directory name).toList.splitOn '/').getLast? = some name.toList := by
    rcases toList_join directory name with ⟨hjoin, front, hfront⟩ | hjoin
    · rw [hjoin, hfront, List.append_assoc]
      exact hback front
    · rw [hjoin, hback]
  simp [wantsDirectory, hlast, hne, hhere]

include hd in
theorem parts_foldl_join (names : List String) (h : ∀ name ∈ names, IsName name) :
    parts (names.foldl join directory) = parts directory ++ names.map .name := by
  induction names generalizing directory with
  | nil => exact (List.append_nil _).symm
  | cons name rest ih =>
    obtain ⟨hname, hrest⟩ := List.forall_mem_cons.mp h
    rw [List.foldl_cons, ih _ (join_ne_empty directory name hd) hrest,
      parts_join directory name hd hname, List.append_assoc]
    rfl

end Join

section Order

def partKey : PathPart → Lex (Nat × String)
  | .name text => toLex (PathPart.rank (.name text), text)
  | part => toLex (part.rank, "")

def key (path : String) : List (Lex (Nat × String)) := (parts path).map partKey

theorem partKey_injective : Function.Injective partKey := by
  intro a b h
  have hrank := congrArg (fun k => (ofLex k).1) h
  have htext := congrArg (fun k => (ofLex k).2) h
  cases a <;> cases b <;> first | rfl | exact congrArg PathPart.name htext | cases hrank

theorem le_iff_partKey_le (a b : PathPart) : a.le b = true ↔ partKey a ≤ partKey b := by
  rw [Prod.Lex.le_iff]
  cases a <;> cases b <;> simp [PathPart.le, PathPart.rank, partKey]

/-- Lists of parts are compared as words of their keys. -/
theorem leParts_iff (as bs : List PathPart) :
    leParts as bs = true ↔ as.map partKey ≤ bs.map partKey := by
  induction as generalizing bs with
  | nil => exact iff_of_true (by rw [leParts]) (not_lt.mp (List.not_lt_nil _))
  | cons a as ih =>
    cases bs with
    | nil => simp [leParts]
    | cons b bs =>
      rw [leParts, List.map_cons, List.map_cons]
      by_cases hab : a = b
      · subst hab
        rw [if_pos rfl, ih, ← not_lt, ← not_lt, List.cons_lt_cons_iff]
        simp
      · have hkey : partKey a ≠ partKey b := fun h => hab (partKey_injective h)
        rw [if_neg hab, le_iff_partKey_le, ← not_lt, ← not_lt, List.cons_lt_cons_iff]
        simp [hkey.symm]

theorem le_iff_key_le (a b : String) : le a b = true ↔ key a ≤ key b := leParts_iff _ _

theorem key_eq_iff (a b : String) : key a = key b ↔ parts a = parts b :=
  (List.map_injective_iff.mpr partKey_injective).eq_iff

theorem same_iff (a b : String) : same a b = true ↔ key a = key b := by
  rw [same, beq_iff_eq, key_eq_iff]

end Order

section Sorted

/-- One more path in front is left out exactly if it has the parts of the one behind it, whose place
it takes. -/
theorem dedup_cons (path : String) (rest : List String) :
    (dedup (path :: rest) = path :: dedup rest ∧
        ∀ next ∈ (dedup rest).head?, key path ≠ key next) ∨
      ∃ next others, dedup rest = next :: others ∧ key path = key next ∧
        dedup (path :: rest) = path :: others := by
  rw [dedup]
  cases hrest : dedup rest with
  | nil => exact Or.inl ⟨rfl, nofun⟩
  | cons next others =>
    by_cases hsame : same path next = true
    · exact Or.inr ⟨next, others, rfl, (same_iff path next).mp hsame, if_pos hsame⟩
    · refine Or.inl ⟨if_neg hsame, ?_⟩
      rintro _ ⟨⟩
      exact fun he => hsame ((same_iff path next).mpr he)

theorem mem_of_mem_dedup (paths : List String) (path : String) (h : path ∈ dedup paths) :
    path ∈ paths := by
  induction paths with
  | nil => exact h
  | cons first rest ih =>
    rcases dedup_cons first rest with ⟨hd, -⟩ | ⟨next, others, hrest, -, hd⟩
    · rw [hd, List.mem_cons] at h
      exact List.mem_cons.mpr (h.imp_right ih)
    · rw [hd, List.mem_cons] at h
      refine List.mem_cons.mpr (h.imp_right fun hm => ih ?_)
      rw [hrest]
      exact List.mem_cons_of_mem _ hm

/-- For each path one with the same parts is kept. -/
theorem exists_mem_dedup (paths : List String) (path : String) (h : path ∈ paths) :
    ∃ kept ∈ dedup paths, key kept = key path := by
  induction paths with
  | nil => cases h
  | cons first rest ih =>
    rcases dedup_cons first rest with ⟨hd, -⟩ | ⟨next, others, hrest, hkey, hd⟩
    · rw [hd]
      rcases List.mem_cons.mp h with rfl | h
      · exact ⟨path, List.mem_cons_self, rfl⟩
      · obtain ⟨kept, hm, hk⟩ := ih h
        exact ⟨kept, List.mem_cons_of_mem _ hm, hk⟩
    · rw [hd]
      rcases List.mem_cons.mp h with rfl | h
      · exact ⟨path, List.mem_cons_self, rfl⟩
      · -- What stood for the path in the rest may be the one that has been replaced.
        obtain ⟨kept, hm, hk⟩ := ih h
        rw [hrest] at hm
        rcases List.mem_cons.mp hm with rfl | hm
        · exact ⟨first, List.mem_cons_self, hkey.trans hk⟩
        · exact ⟨kept, List.mem_cons_of_mem _ hm, hk⟩

/-- Of paths that do not fall, those that are kept rise. -/
theorem pairwise_dedup (paths : List String) (h : paths.Pairwise fun a b => key a ≤ key b) :
    (dedup paths).Pairwise fun a b => key a < key b := by
  induction paths with
  | nil => exact List.Pairwise.nil
  | cons first rest ih =>
    obtain ⟨hfirst, hrest⟩ := List.pairwise_cons.mp h
    have hle (path : String) (hm : path ∈ dedup rest) : key first ≤ key path :=
      hfirst path (mem_of_mem_dedup rest path hm)
    have hlater := ih hrest
    rcases dedup_cons first rest with ⟨hd, hne⟩ | ⟨next, others, hothers, hkey, hd⟩
    · rw [hd]
      refine List.pairwise_cons.mpr ⟨?_, hlater⟩
      cases hkept : dedup rest with
      | nil => exact nofun
      | cons next others =>
        rw [hkept] at hle hlater hne
        have hnext : key first < key next :=
          lt_of_le_of_ne (hle next List.mem_cons_self) (hne next rfl)
        intro path hm
        rcases List.mem_cons.mp hm with rfl | hm
        · exact hnext
        · exact hnext.trans ((List.pairwise_cons.mp hlater).1 path hm)
    · rw [hothers] at hlater
      rw [hd]
      refine List.pairwise_cons.mpr ⟨?_, (List.pairwise_cons.mp hlater).2⟩
      intro path hm
      rw [hkey]
      exact (List.pairwise_cons.mp hlater).1 path hm

variable (paths : List String)

theorem mem_of_mem_sorted (path : String) (h : path ∈ sorted paths) : path ∈ paths :=
  List.mem_mergeSort.mp (mem_of_mem_dedup _ path h)

theorem exists_mem_sorted (path : String) (h : path ∈ paths) :
    ∃ kept ∈ sorted paths, key kept = key path :=
  exists_mem_dedup _ path (List.mem_mergeSort.mpr h)

/-- Paths in order rise from each to the next. -/
theorem pairwise_sorted : (sorted paths).Pairwise fun a b => key a < key b := by
  apply pairwise_dedup
  have htrans (a b c : String) (hab : le a b) (hbc : le b c) : le a c :=
    (le_iff_key_le a c).mpr (((le_iff_key_le a b).mp hab).trans ((le_iff_key_le b c).mp hbc))
  have htotal (a b : String) : le a b || le b a := by
    rw [Bool.or_eq_true, le_iff_key_le, le_iff_key_le]
    exact le_total (key a) (key b)
  have hsorted := List.pairwise_mergeSort htrans htotal paths
  exact hsorted.imp fun hab => (le_iff_key_le _ _).mp hab

end Sorted

end Path
end ApiTrial
