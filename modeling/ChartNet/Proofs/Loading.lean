import ChartNet.Models
import ChartNet.Proofs.FileTrees
import ChartNet.Proofs.Stopping
import Mathlib.Data.List.Sort
import Mathlib.Data.List.TakeWhile

/-!
# Loading models

A path stands for a file, or for the documents in a directory. `StandsFor` says which documents
these are, place by place (`FileTree.kindAt?`) and not entry by entry: so it cannot depend on the
order in which the entries of a directory are listed (`Reordered`), and neither can what is loaded
(`load_determined`).

The documents of a directory are gathered in the order of its entries, and sorted afterwards. That
the order is gone then needs that no two of them have the same path, for which the entries of a
directory have to have different names (`FileTree.Regular`).
-/

namespace ChartNet

/-! ### The order of paths -/

namespace Path

/-- The order of places by the names that lead to them: the first name that is different decides,
and what stands in a directory follows the directory itself. -/
def Precedes (names names' : List String) : Prop := List.Lex (· < ·) names names'

theorem not_precedes_self (names : List String) : ¬ Precedes names names :=
  List.lex_irrefl String.lt_irrefl names

theorem Precedes.asymm {as bs : List String} (h : Precedes as bs) : ¬ Precedes bs as :=
  List.lex_asymm String.lt_asymm h

theorem Precedes.trans {as bs cs : List String} (h : Precedes as bs) (h' : Precedes bs cs) :
    Precedes as cs := List.lex_trans String.lt_trans h h'

theorem Precedes.append_left {as bs : List String} (h : Precedes as bs) (lead : List String) :
    Precedes (lead ++ as) (lead ++ bs) := by
  induction lead with
  | nil => exact h
  | cons name lead ih => exact .cons ih

theorem lt_or_gt {a b : String} (h : a ≠ b) : a < b ∨ b < a := by
  by_contra hneither
  obtain ⟨hab, hba⟩ := not_or.mp hneither
  exact h (String.le_antisymm (String.not_lt.mp hba) (String.not_lt.mp hab))

/-- Different places are ordered one way or the other. -/
theorem precedes_trichotomy (as bs : List String) : as = bs ∨ Precedes as bs ∨ Precedes bs as := by
  induction as generalizing bs with
  | nil =>
    cases bs with
    | nil => exact .inl rfl
    | cons b bs => exact .inr (.inl .nil)
  | cons a as ih =>
    cases bs with
    | nil => exact .inr (.inr .nil)
    | cons b bs =>
      by_cases hab : a = b
      · subst hab
        rcases ih bs with rfl | h | h
        · exact .inl rfl
        · exact .inr (.inl (.cons h))
        · exact .inr (.inr (.cons h))
      · rcases lt_or_gt hab with h | h
        · exact .inr (.inl (.rel h))
        · exact .inr (.inr (.rel h))

/-- The test that is used for sorting is that of the order of places. It goes through both lists of
names at once, and ends at the first name that is different or at the end of one of them. -/
theorem le_iff {as bs : List String} : le as bs = true ↔ as = bs ∨ Precedes as bs := by
  induction as generalizing bs with
  | nil =>
    cases bs with
    | nil => exact iff_of_true rfl (.inl rfl)
    | cons b bs => exact iff_of_true rfl (.inr .nil)
  | cons a as ih =>
    cases bs with
    | nil => exact iff_of_false Bool.false_ne_true (by rintro (h | h) <;> cases h)
    | cons b bs =>
      -- equal names are passed over, and the first that are different decide
      by_cases hab : a = b
      · subst hab
        rw [le, if_pos rfl, ih]
        refine ⟨?_, ?_⟩
        · rintro (rfl | h)
          · exact .inl rfl
          · exact .inr (.cons h)
        · rintro (h | h)
          · exact .inl (List.cons.inj h).2
          · cases h with
            | rel h => exact absurd h (String.lt_irrefl a)
            | cons h => exact .inr h
      · rw [le, if_neg hab, decide_eq_true_eq]
        refine ⟨fun h => .inr (.rel h), ?_⟩
        rintro (h | h)
        · exact absurd (List.cons.inj h).1 hab
        · cases h with
          | rel h => exact h
          | cons h => exact absurd rfl hab

/-- The test is transitive, as sorting needs it to be. -/
theorem le_trans (as bs cs : List String) (h : le as bs = true) (h' : le bs cs = true) :
    le as cs = true := by
  rcases le_iff.mp h with rfl | hlt
  · exact h'
  rcases le_iff.mp h' with rfl | hlt'
  · exact h
  · exact le_iff.mpr (.inr (hlt.trans hlt'))

theorem le_total (as bs : List String) : (le as bs || le bs as) = true := by
  rw [Bool.or_eq_true, le_iff, le_iff]
  rcases precedes_trichotomy as bs with h | h | h
  · exact .inl (.inl h)
  · exact .inl (.inr h)
  · exact .inr (.inr h)

/-! ### Names in paths -/

/-- The names of a path that was put together are those of its parts. What the first part
contributes is `lead`, whether or not it ends in a slash; the other parts are single names. -/
theorem names_joinAll {path : String} {lead : List String}
    (hlead : ∀ name : String, '/' ∉ name.toList → names (join path name) = lead ++ [name])
    {places : List String} (hne : places ≠ [])
    (hplaces : ∀ name ∈ places, Proper name ∧ '/' ∉ name.toList) :
    names (joinAll path places) = lead ++ places := by
  induction places generalizing path lead with
  | nil => exact absurd rfl hne
  | cons name places ih =>
    obtain ⟨⟨hproper, hslash⟩, hrest⟩ := List.forall_mem_cons.mp hplaces
    have hnames := hlead name hslash
    cases places with
    | nil => exact hnames
    | cons name' places =>
      obtain ⟨lead', hlead', hnames'⟩ := exists_lead (join path name)
      have hsame : lead' = lead ++ [name] := by
        rcases hlead' with hlead' | hlead'
        · exact hlead'.symm.trans hnames
        · have hlast := (List.append_inj' (hnames.symm.trans hlead') rfl).2
          exact absurd (List.singleton_inj.mp hlast) hproper.ne_empty
      rw [joinAll, List.foldl_cons, ← joinAll, ih hnames' (by simp) hrest, hsame]
      simp

/-- A name without a point has no extension. -/
theorem extension?_of_not_mem {name : String} (h : '.' ∉ name.toList) : extension? name = none := by
  have hdrop : name.toList.reverse.dropWhile (· != '.') = [] := by
    rw [List.dropWhile_eq_nil_iff]
    intro c hc
    rw [bne_iff_ne]
    rintro rfl
    exact h (List.mem_reverse.mp hc)
  simp [extension?, hdrop]

/-- What follows the last point is the extension, unless the point comes first: the name of a hidden
file is no extension. -/
theorem extension?_of_point {stem ext : String} (hext : '.' ∉ ext.toList) :
    extension? (stem ++ "." ++ ext) = if stem = "" then none else some ext := by
  have hreverse : (stem ++ "." ++ ext).toList.reverse =
      ext.toList.reverse ++ '.' :: stem.toList.reverse := by simp
  have hclear : ∀ c ∈ ext.toList.reverse, (c != '.') = true := by
    intro c hc
    rw [bne_iff_ne]
    rintro rfl
    exact hext (List.mem_reverse.mp hc)
  have htake : (ext.toList.reverse ++ '.' :: stem.toList.reverse).takeWhile (· != '.') =
      ext.toList.reverse := by
    rw [List.takeWhile_append_of_pos hclear, List.takeWhile_cons_of_neg (by simp), List.append_nil]
  have hdrop : (ext.toList.reverse ++ '.' :: stem.toList.reverse).dropWhile (· != '.') =
      '.' :: stem.toList.reverse := by
    rw [List.dropWhile_append_of_pos hclear, List.dropWhile_cons_of_neg (by simp)]
  rw [extension?, hreverse, htake, hdrop, List.reverse_reverse, String.ofList_toList]
  by_cases hstem : stem = ""
  · rw [if_pos hstem, hstem]
    rfl
  · obtain ⟨c, cs, hcs⟩ := List.exists_cons_of_ne_nil
      (mt List.reverse_eq_nil_iff.mp (mt String.toList_eq_nil_iff.mp hstem))
    rw [if_neg hstem, hcs]

/-- The extension of a name is what follows its last point, where something comes before it. So a
hidden file without another point has no extension. -/
theorem extension?_eq_some {name ext : String} (hext : '.' ∉ ext.toList) :
    extension? name = some ext ↔ ∃ stem : String, stem ≠ "" ∧ name = stem ++ "." ++ ext := by
  refine ⟨?_, ?_⟩
  · intro h
    have hpoint : '.' ∈ name.toList.reverse := by
      by_contra hmem
      rw [extension?_of_not_mem (mt List.mem_reverse.mpr hmem)] at h
      cases h
    obtain ⟨cs, before, hname, hcs⟩ := List.eq_append_cons_of_mem hpoint
    obtain rfl : name = String.ofList before.reverse ++ "." ++ String.ofList cs.reverse := by
      rw [← String.toList_inj, ← List.reverse_inj, hname]
      simp
    rw [extension?_of_point (by simpa using hcs)] at h
    split_ifs at h with hstem
    exact ⟨_, hstem, by rw [Option.some.inj h]⟩
  · rintro ⟨stem, hstem, rfl⟩
    rw [extension?_of_point hext, if_neg hstem]

end Path

/-! ### Regular trees -/

instance (name : String) : Decidable (Path.Proper name) :=
  decidable_of_iff (name ≠ "" ∧ name ≠ "." ∧ name ≠ "..")
    ⟨fun h => ⟨h.1, h.2.1, h.2.2⟩, fun h => ⟨h.ne_empty, h.ne_stay, h.ne_up⟩⟩

namespace FileTree

/-- In each directory the entries have different names, and each of these can be the name of a
file. -/
inductive Regular : FileTree → Prop
  /-- a file -/
  | file (text? : Option String) : Regular (.file text?)
  /-- a directory whose entries have different names, none of which stands for another place, with
  regular trees below -/
  | directory {entries : List (String × FileTree)} (hnodup : (entries.map (·.1)).Nodup)
      (hnames : ∀ e ∈ entries, Path.Proper e.1 ∧ '/' ∉ e.1.toList)
      (hbelow : ∀ e ∈ entries, Regular e.2) : Regular (.directory entries)

/-- With different names, the entries that are found are all entries. -/
theorem lookup_eq_some {entries : List (String × FileTree)} (hnodup : (entries.map (·.1)).Nodup)
    {name : String} {t : FileTree} : entries.lookup name = some t ↔ (name, t) ∈ entries := by
  induction entries with
  | nil => simp
  | cons e entries ih =>
    obtain ⟨key, below⟩ := e
    obtain ⟨hnew, hrest⟩ := List.nodup_cons.mp hnodup
    rw [lookup_cons, List.mem_cons, Prod.mk.injEq]
    by_cases hkey : name = key
    · subst hkey
      have hother : (name, t) ∉ entries := fun hmem =>
        hnew (List.mem_map.mpr ⟨_, hmem, rfl⟩)
      simp [hother, eq_comm]
    · simp [hkey, ih hrest]

theorem filesIn_eq_flatMap (entries : List (String × FileTree)) :
    filesIn entries = entries.flatMap entryFiles := by
  induction entries with
  | nil => rfl
  | cons e entries ih => rw [filesIn, ih, List.flatMap_cons]

theorem mem_entryFiles {name : String} {t : FileTree} {f : List String × Option String} :
    f ∈ entryFiles (name, t) ↔ ∃ names, (names, f.2) ∈ t.files ∧ f.1 = name :: names := by
  obtain ⟨place, text?⟩ := f
  simp [entryFiles, eq_comm, and_comm]

variable {t t' : FileTree}

/-- The files of a tree are those that are found in their places. Listing the files and looking
places up are two ways to go through a tree, and on regular trees they agree. -/
theorem Regular.mem_files (h : t.Regular) {names : List String} {text? : Option String} :
    (names, text?) ∈ t.files ↔ t.kindAt? names = some (.file text?) := by
  induction h generalizing names with
  | file text?' =>
    cases names with
    | nil => simp [files, kindAt?_nil, kind, eq_comm]
    | cons name names => simp [files, kindAt?_cons, entry?]
  | @directory entries hnodup _ _ ih =>
    rw [files, filesIn_eq_flatMap, List.mem_flatMap]
    cases names with
    | nil =>
      refine iff_of_false ?_ (by simp [kindAt?_nil, kind])
      rintro ⟨⟨name, below⟩, -, hf⟩
      obtain ⟨names, -, hnames⟩ := mem_entryFiles.mp hf
      cases hnames
    | cons name names =>
      -- the first name picks the entry, on the one side by lookup and on the other from the list
      rw [kindAt?_cons, entry?, Option.bind_eq_some_iff]
      refine ⟨?_, ?_⟩
      · rintro ⟨⟨key, below⟩, hentry, hf⟩
        obtain ⟨rest, hrest, hnames⟩ := mem_entryFiles.mp hf
        obtain ⟨rfl, rfl⟩ := List.cons.inj hnames
        exact ⟨below, (lookup_eq_some hnodup).mpr hentry, (ih _ hentry).mp hrest⟩
      · rintro ⟨below, hlookup, hkind⟩
        have hentry := (lookup_eq_some hnodup).mp hlookup
        exact ⟨_, hentry, mem_entryFiles.mpr ⟨names, (ih _ hentry).mpr hkind, rfl⟩⟩

/-- No file of a regular tree is listed twice. -/
theorem Regular.nodup_files (h : t.Regular) : t.files.Nodup := by
  induction h with
  | file text? => exact List.nodup_singleton _
  | @directory entries hnodup _ _ ih =>
    rw [files, filesIn_eq_flatMap, List.nodup_flatMap]
    refine ⟨?_, ?_⟩
    · rintro ⟨name, below⟩ hentry
      refine (ih _ hentry).map ?_
      rintro ⟨names, text?⟩ ⟨names', text?'⟩ hsame
      simpa using hsame
    · -- the files of different entries differ in their first names
      refine (List.pairwise_map.mp hnodup).imp ?_
      rintro ⟨name, below⟩ ⟨name', below'⟩ hne f hf hf'
      obtain ⟨names, -, hnames⟩ := mem_entryFiles.mp hf
      obtain ⟨names', -, hnames'⟩ := mem_entryFiles.mp hf'
      exact hne (List.cons.inj (hnames.symm.trans hnames')).1

/-- What stands below in a regular tree is regular. -/
theorem Regular.at? (h : t.Regular) {place : List String} (hplace : t.at? place = some t') :
    t'.Regular := by
  induction place generalizing t with
  | nil =>
    obtain rfl := Option.some.inj hplace
    exact h
  | cons name place ih =>
    obtain ⟨below, hentry, hbelow⟩ := Option.bind_eq_some_iff.mp hplace
    cases h with
    | file text? => cases hentry
    | directory hnodup _ hregular =>
      exact ih (hregular _ ((lookup_eq_some hnodup).mp hentry)) hbelow

/-- The names that lead to something are names of entries, and so they can be put into a path and
found in it again. -/
theorem Regular.proper_of_kindAt? (h : t.Regular) {place : List String}
    (hplace : t.kindAt? place ≠ none) :
    ∀ name ∈ place, Path.Proper name ∧ '/' ∉ name.toList := by
  induction place generalizing t with
  | nil => simp
  | cons name place ih =>
    rw [kindAt?_cons, Ne, Option.bind_eq_none_iff, not_forall] at hplace
    obtain ⟨below, hplace⟩ := hplace
    obtain ⟨hentry, hbelow⟩ := Classical.not_imp.mp hplace
    cases h with
    | file text? => cases hentry
    | directory hnodup hnames hregular =>
      have hmem := (lookup_eq_some hnodup).mp hentry
      exact List.forall_mem_cons.mpr ⟨hnames _ hmem, ih (hregular _ hmem) hbelow⟩

/-! ### Entries in another order -/

/-- The trees are the same but for the order of the entries of their directories. -/
inductive Reordered : FileTree → FileTree → Prop
  /-- a file with the same text -/
  | file (text? : Option String) : Reordered (.file text?) (.file text?)
  /-- a directory with the same names in another order, and below each of them the same up to
  order -/
  | directory {entries entries' : List (String × FileTree)}
      (hperm : (entries.map (·.1)).Perm (entries'.map (·.1)))
      (hbelow : ∀ e ∈ entries, ∀ e' ∈ entries', e.1 = e'.1 → Reordered e.2 e'.2) :
      Reordered (.directory entries) (.directory entries')

/-- An entry has a counterpart on the other side. -/
theorem exists_counterpart {entries entries' : List (String × FileTree)}
    (hperm : (entries.map (·.1)).Perm (entries'.map (·.1))) {e : String × FileTree}
    (he : e ∈ entries) : ∃ e' ∈ entries', e.1 = e'.1 := by
  obtain ⟨e', he', hname⟩ := List.mem_map.mp (hperm.mem_iff.mp (List.mem_map_of_mem he))
  exact ⟨e', he', hname.symm⟩

/-- Another order keeps a tree regular. -/
theorem Reordered.regular (h : Reordered t t') (ht : t.Regular) : t'.Regular := by
  induction h with
  | file text? => exact ht
  | @directory entries entries' hperm _ ih =>
    cases ht with
    | directory hnodup hnames hregular =>
      refine .directory (hperm.nodup_iff.mp hnodup) (fun e' he' => ?_) fun e' he' => ?_
      · obtain ⟨e, he, hname⟩ := exists_counterpart hperm.symm he'
        rw [hname]
        exact hnames e he
      · obtain ⟨e, he, hname⟩ := exists_counterpart hperm.symm he'
        exact ih e he e' he' hname.symm (hregular e he)

/-- The same stands in every place. So whatever depends only on what stands where does not depend on
the order in which entries are listed. -/
theorem Reordered.kindAt?_eq (h : Reordered t t') (ht : t.Regular) (place : List String) :
    t'.kindAt? place = t.kindAt? place := by
  have ht' := h.regular ht
  induction h generalizing place with
  | file text? => rfl
  | @directory entries entries' hperm _ ih =>
    cases place with
    | nil => rfl
    | cons name place =>
      cases ht with
      | directory hnodup _ hregular =>
        cases ht' with
        | directory hnodup' _ hregular' =>
          rw [kindAt?_cons, kindAt?_cons, entry?, entry?]
          -- an entry that one of the trees has, the other one has as well
          cases hlookup : entries.lookup name with
          | some below =>
            have hentry := (lookup_eq_some hnodup).mp hlookup
            obtain ⟨⟨name', below'⟩, hentry', rfl⟩ := exists_counterpart hperm hentry
            rw [(lookup_eq_some hnodup').mpr hentry', Option.bind_some, Option.bind_some]
            exact ih _ hentry _ hentry' rfl (hregular _ hentry) place (hregular' _ hentry')
          | none =>
            cases hlookup' : entries'.lookup name with
            | none => rfl
            | some below' =>
              have hentry' := (lookup_eq_some hnodup').mp hlookup'
              obtain ⟨⟨name', below⟩, hentry, rfl⟩ := exists_counterpart hperm.symm hentry'
              cases hlookup.symm.trans ((lookup_eq_some hnodup).mpr hentry)

/-- Nothing is lost by listing the entries in the order in which they are listed. -/
theorem Regular.reordered_self (h : t.Regular) : Reordered t t := by
  induction h with
  | file text? => exact .file text?
  | directory hnodup _ _ ih =>
    refine .directory (.refl _) fun e he e' he' hname => ?_
    rw [← List.inj_on_of_nodup_map hnodup he he' hname]
    exact ih e he

/-- The entries of a directory in another order, if nothing changes below them. -/
theorem Regular.reordered_of_perm {entries entries' : List (String × FileTree)}
    (h : Regular (.directory entries)) (hperm : entries.Perm entries') :
    Reordered (.directory entries) (.directory entries') := by
  cases h with
  | directory hnodup _ hbelow =>
    refine .directory (hperm.map _) fun e he e' he' hname => ?_
    rw [← List.inj_on_of_nodup_map hnodup he (hperm.mem_iff.mpr he') hname]
    exact (hbelow e he).reordered_self

/-! ### Places that are found -/

/-- A place below another one is found from there. -/
theorem at?_append (t : FileTree) (place names : List String) :
    t.at? (place ++ names) = (t.at? place).bind (FileTree.at? · names) := by
  induction place generalizing t with
  | nil => rfl
  | cons name place ih =>
    rw [List.cons_append, FileTree.at?, FileTree.at?]
    cases t.entry? name with
    | none => rfl
    | some below => exact ih below

/-- A way leads to something. -/
theorem kindAt?_of_walk {names place dest : List String} (hplace : t.kindAt? place ≠ none)
    (h : t.walk place names = some dest) : t.kindAt? dest ≠ none := by
  induction names generalizing place with
  | nil =>
    obtain rfl := Option.some.inj h
    exact hplace
  | cons name names ih =>
    obtain ⟨-, hthere, hwalk⟩ := walk_cons_eq_some.mp h
    exact ih hthere hwalk

/-- Names lead to the same places in trees that have the same everywhere. -/
theorem walk_congr (h : ∀ place, t'.kindAt? place = t.kindAt? place) (place names : List String) :
    t'.walk place names = t.walk place names := by
  have hforth : Persists t t' :=
    ⟨fun place hplace => (h place).symm ▸ hplace, fun place hplace => (h place).trans hplace⟩
  have hback : Persists t' t :=
    ⟨fun place hplace => h place ▸ hplace, fun place hplace => (h place).symm.trans hplace⟩
  exact Option.ext fun dest => ⟨hback.walk, hforth.walk⟩

end FileTree

namespace FileSystem

variable {fs fs' : FileSystem}

/-- A path leads to something: it has a name, and so leads at least from one place to a place that
is there. -/
theorem kindAt?_of_locate? {path : String} {place : List String}
    (h : fs.locate? path = some place) : fs.root.kindAt? place ≠ none := by
  rw [locate?] at h
  split_ifs at h
  rw [reach?] at h
  cases hnames : Path.names path with
  | nil => exact absurd hnames (by simp [Path.names, Text.pieces_ne_nil])
  | cons name names =>
    rw [hnames] at h
    obtain ⟨-, hthere, hwalk⟩ := FileTree.walk_cons_eq_some.mp h
    exact FileTree.kindAt?_of_walk hthere hwalk

/-- Paths lead to the same places in file systems that have the same everywhere. -/
theorem locate?_congr (hworking : fs'.working = fs.working)
    (h : ∀ place, fs'.root.kindAt? place = fs.root.kindAt? place) (path : String) :
    fs'.locate? path = fs.locate? path := by
  rw [locate?, locate?, reach?, reach?, origin, origin, hworking, FileTree.walk_congr h]

end FileSystem

/-! ### What a path stands for -/

namespace Models

/-- The order of documents is that of the names in their paths, and not that of their paths as
texts. -/
def Source.Precedes (s s' : Source) : Prop :=
  Path.Precedes (Path.names s.path) (Path.names s'.path)

instance : Std.Irrefl Source.Precedes := ⟨fun _ => Path.not_precedes_self _⟩

instance : Std.Antisymm Source.Precedes := ⟨fun _ _ h h' => absurd h' (Path.Precedes.asymm h)⟩

/-- A document has a name before its extension, and stands anywhere below. -/
theorem isDocument_iff {names : List String} :
    isDocument names = true ↔ ∃ before stem, stem ≠ "" ∧ names = before ++ [stem ++ ".scxml"] := by
  have hclear : '.' ∉ extension.toList := by decide
  have hsuffix : ∀ stem : String, stem ++ "." ++ extension = stem ++ ".scxml" := by
    intro stem
    rw [String.append_assoc]
    rfl
  rw [isDocument, decide_eq_true_eq, Option.bind_eq_some_iff]
  refine ⟨?_, ?_⟩
  · rintro ⟨name, hlast, hname⟩
    obtain ⟨before, rfl⟩ := List.getLast?_eq_some_iff.mp hlast
    obtain ⟨stem, hstem, rfl⟩ := (Path.extension?_eq_some hclear).mp hname
    exact ⟨before, stem, hstem, by rw [hsuffix]⟩
  · rintro ⟨before, stem, hstem, rfl⟩
    refine ⟨stem ++ ".scxml", List.getLast?_concat, ?_⟩
    exact (Path.extension?_eq_some hclear).mpr ⟨stem, hstem, (hsuffix stem).symm⟩

/-- **What a path stands for**: the file that it leads to; or, if it leads to a directory, all files
at any depth below it whose names end in `.scxml` after something else, in the order of their paths
and each of them once. A path that leads nowhere stands for a file that cannot be read. -/
inductive StandsFor (fs : FileSystem) (path : String) : List Source → Prop
  /-- a file stands for itself, whatever its extension is -/
  | file {place : List String} {text? : Option String} (hpath : fs.locate? path = some place)
      (hfile : fs.root.kindAt? place = some (.file text?)) : StandsFor fs path [⟨path, text?⟩]
  /-- a directory stands for the documents below it, in the order of their places -/
  | directory {place : List String} {found : List Source} (hpath : fs.locate? path = some place)
      (hdirectory : fs.root.kindAt? place = some .directory)
      (hfound : ∀ source, source ∈ found ↔ ∃ before stem text?, stem ≠ "" ∧
        fs.root.kindAt? (place ++ before ++ [stem ++ ".scxml"]) = some (.file text?) ∧
        source = ⟨Path.joinAll path (before ++ [stem ++ ".scxml"]), text?⟩)
      (horder : found.Pairwise Source.Precedes) : StandsFor fs path found
  /-- a path that leads nowhere stands for itself, as a document that cannot be read -/
  | nothing (hpath : fs.locate? path = none) : StandsFor fs path [⟨path, none⟩]

variable {fs fs' : FileSystem}

/-- What a path stands for depends on what stands where, and on the working directory, but not on
how the entries are listed. -/
theorem StandsFor.congr (hworking : fs'.working = fs.working)
    (h : ∀ place, fs'.root.kindAt? place = fs.root.kindAt? place) {path : String}
    {found : List Source} (hfound : StandsFor fs path found) : StandsFor fs' path found := by
  have hlocate := FileSystem.locate?_congr hworking h path
  cases hfound with
  | file hpath hfile => exact .file (hlocate.trans hpath) ((h _).trans hfile)
  | directory hpath hdirectory hfound horder =>
    refine .directory (hlocate.trans hpath) ((h _).trans hdirectory) ?_ horder
    simpa only [h] using hfound
  | nothing hpath => exact .nothing (hlocate.trans hpath)

/-- The documents and their order leave nothing open: two lists with the same documents, both in the
order of paths, are the same list. -/
theorem StandsFor.unique {path : String} {found found' : List Source} (h : StandsFor fs path found)
    (h' : StandsFor fs path found') : found = found' := by
  cases h with
  | file hpath hfile =>
    cases h' with
    | file hpath' hfile' =>
      cases hpath.symm.trans hpath'
      cases hfile.symm.trans hfile'
      rfl
    | directory hpath' hdirectory' _ _ =>
      cases hpath.symm.trans hpath'
      cases hfile.symm.trans hdirectory'
    | nothing hpath' => cases hpath.symm.trans hpath'
  | directory hpath hdirectory hfound horder =>
    cases h' with
    | file hpath' hfile' =>
      cases hpath.symm.trans hpath'
      cases hdirectory.symm.trans hfile'
    | directory hpath' _ hfound' horder' =>
      cases hpath.symm.trans hpath'
      -- lists with the same elements, both in a strict order, are the same
      exact horder.eq_of_mem_iff horder' fun source => (hfound source).trans (hfound' source).symm
    | nothing hpath' => cases hpath.symm.trans hpath'
  | nothing hpath =>
    cases h' with
    | file hpath' _ => cases hpath.symm.trans hpath'
    | directory hpath' _ _ _ => cases hpath.symm.trans hpath'
    | nothing _ => rfl

section Below

variable {entries : List (String × FileTree)}

/-- The documents below a directory are the files in their places whose names say that they are
documents. -/
theorem mem_below (h : FileTree.Regular (.directory entries)) {f : List String × Option String} :
    f ∈ below entries ↔
      isDocument f.1 = true ∧ (FileTree.directory entries).kindAt? f.1 = some (.file f.2) := by
  rw [below, List.mem_mergeSort, List.mem_filter, ← h.mem_files, FileTree.files]
  exact and_comm

/-- The documents below a directory come in order, and none of them comes twice. Sorting puts them
in order, and no two of them have the same place. -/
theorem pairwise_below (h : FileTree.Regular (.directory entries)) :
    (below entries).Pairwise fun f g => Path.Precedes f.1 g.1 := by
  have hsorted : (below entries).Pairwise fun f g => Path.le f.1 g.1 = true :=
    List.pairwise_mergeSort (fun f g h => Path.le_trans f.1 g.1 h.1)
      (fun f g => Path.le_total f.1 g.1) _
  have hnodup : (below entries).Nodup :=
    (List.mergeSort_perm _ _).nodup_iff.mpr (h.nodup_files.filter _)
  refine (hsorted.and hnodup).imp_of_mem fun {f g} hf hg hfg => ?_
  obtain ⟨hle, hne⟩ := hfg
  rcases Path.le_iff.mp hle with hsame | hlt
  · -- at one place there is only one file
    have hkind := ((mem_below h).mp hf).2
    rw [hsame, ((mem_below h).mp hg).2, Option.some_inj, FileTree.Kind.file.injEq] at hkind
    exact absurd (Prod.ext hsame hkind.symm) hne
  · exact hlt

end Below

theorem find?_of_locate? {path : String} {place : List String} (h : fs.locate? path = some place) :
    fs.find? path = fs.root.at? place := by
  rw [FileSystem.find?, h, Option.bind_some]

/-- The documents that are gathered below a directory are those that it stands for: all of them are
found, they come in the order of their places, and their paths are put together from the path of the
directory. -/
theorem standsFor_directory (hfs : fs.root.Regular) {path : String} {place : List String}
    {entries : List (String × FileTree)} (hpath : fs.locate? path = some place)
    (hplace : fs.root.at? place = some (.directory entries)) :
    StandsFor fs path ((below entries).map fun f => ⟨Path.joinAll path f.1, f.2⟩) := by
  have hregular := hfs.at? hplace
  have hbelow : ∀ names, fs.root.kindAt? (place ++ names) =
      (FileTree.directory entries).kindAt? names := by
    intro names
    rw [FileTree.kindAt?, FileTree.at?_append, hplace, Option.bind_some, FileTree.kindAt?]
  refine .directory hpath (by rw [FileTree.kindAt?, hplace]; rfl) (fun source => ?_) ?_
  · rw [List.mem_map]
    refine ⟨?_, ?_⟩
    · rintro ⟨⟨names, text?⟩, hf, rfl⟩
      obtain ⟨hdocument, hkind⟩ := (mem_below hregular).mp hf
      obtain ⟨before, stem, hstem, rfl⟩ := isDocument_iff.mp hdocument
      exact ⟨before, stem, text?, hstem, by rw [List.append_assoc, hbelow]; exact hkind, rfl⟩
    · rintro ⟨before, stem, text?, hstem, hkind, rfl⟩
      rw [List.append_assoc, hbelow] at hkind
      exact ⟨(before ++ [stem ++ ".scxml"], text?),
        (mem_below hregular).mpr ⟨isDocument_iff.mpr ⟨before, stem, hstem, rfl⟩, hkind⟩, rfl⟩
  · obtain ⟨lead, -, hlead⟩ := Path.exists_lead path
    -- the paths of the documents differ in what follows the path of the directory
    have hnames : ∀ f ∈ below entries, Path.names (Path.joinAll path f.1) = lead ++ f.1 := by
      intro f hf
      obtain ⟨hdocument, hkind⟩ := (mem_below hregular).mp hf
      refine Path.names_joinAll hlead ?_ (hregular.proper_of_kindAt? (by simp [hkind]))
      obtain ⟨before, stem, -, hsplit⟩ := isDocument_iff.mp hdocument
      simp [hsplit]
    refine List.pairwise_map.mpr ((pairwise_below hregular).imp_of_mem fun hf hg hlt => ?_)
    rw [Source.Precedes, hnames _ hf, hnames _ hg]
    exact hlt.append_left lead

/-- **The documents that are gathered for a path are those that it stands for.** With
`StandsFor.unique` the documents and their order are determined by this. -/
theorem standsFor_sources (hfs : fs.root.Regular) (path : String) :
    StandsFor fs path (sources fs.find? path) := by
  cases hpath : fs.locate? path with
  | none =>
    have hfind : fs.find? path = none := by rw [FileSystem.find?, hpath, Option.bind_none]
    rw [sources, hfind]
    exact .nothing hpath
  | some place =>
    have hfind := find?_of_locate? hpath
    have hthere := FileSystem.kindAt?_of_locate? hpath
    rw [sources, hfind]
    cases hplace : fs.root.at? place with
    | none => exact absurd (by rw [FileTree.kindAt?, hplace]; rfl) hthere
    | some d =>
      cases d with
      | file text? => exact .file hpath (by rw [FileTree.kindAt?, hplace]; rfl)
      | directory entries => exact standsFor_directory hfs hpath hplace

end Models

/-- **Loading is determined by what stands where.** Each path stands for one list of documents, and
these are read one after the other: the charts are those of all documents, in order; or the failure
is that of the first document that cannot be read. Nothing of this depends on the order in which
directories list their entries. -/
theorem load_determined {fs : FileSystem} (hfs : fs.root.Regular) (paths : List String) :
    ∃ scans, List.Forall₂ (Models.StandsFor fs) paths scans ∧
      (∀ scans', List.Forall₂ (Models.StandsFor fs) paths scans' → scans' = scans) ∧
      (∀ charts, Models.load fs.find? paths = .ok charts ↔
        List.Forall₂ (fun source chart => source.read = .ok chart) scans.flatten charts) ∧
      (∀ failure, Models.load fs.find? paths = .error failure ↔
        ∃ before source after, scans.flatten = before ++ source :: after ∧
          (∀ s ∈ before, ∃ chart, s.read = .ok chart) ∧ source.read = .error failure) ∧
      ∀ root', fs.root.Reordered root' →
        Models.load { fs with root := root' }.find? paths = Models.load fs.find? paths := by
  have hscans : List.Forall₂ (Models.StandsFor fs) paths (paths.map (Models.sources fs.find?)) :=
    List.forall₂_map_right_iff.mpr (List.forall₂_same.mpr fun path _ =>
      Models.standsFor_sources hfs path)
  refine ⟨paths.map (Models.sources fs.find?), hscans, ?_, ?_, ?_, ?_⟩
  · intro scans' hscans'
    exact List.right_unique_forall₂' (fun _ _ _ h h' => h.unique h') hscans' hscans
  · intro charts
    rw [Models.load, List.flatMap_def]
    exact mapM_eq_ok
  · intro failure
    rw [Models.load, List.flatMap_def]
    exact mapM_eq_error_iff
  · intro root' hreordered
    have hsame := fun place => (hreordered.kindAt?_eq hfs place).symm
    -- both are what the path stands for in the one file system, and there is only one such list
    have hsources : Models.sources { fs with root := root' }.find? = Models.sources fs.find? := by
      funext path
      have hstands := @Models.standsFor_sources { fs with root := root' }
        (hreordered.regular hfs) path
      have hstands' := @Models.StandsFor.congr { fs with root := root' } fs rfl hsame _ _ hstands
      exact hstands'.unique (Models.standsFor_sources hfs path)
    rw [Models.load, Models.load, hsources]

namespace Sample

/-- Two directories whose names start alike, the second of them named like a document, and a hidden
file. -/
def drawers : List (String × FileTree) :=
  [("a", .directory [("z.scxml", .file none)]), ("a-b.scxml", .directory [("z.scxml", .file none)]),
    (".scxml", .file none)]

/-- The drawers in a directory, beside the one in which the program runs. -/
def shelf : FileSystem :=
  ⟨.directory [("m", .directory drawers), ("w", .directory [])], ["w"]⟩

/-- The same, with the drawers the other way round. -/
def shelfBackwards : FileSystem :=
  ⟨.directory [("m", .directory drawers.reverse), ("w", .directory [])], ["w"]⟩

/-- The sample tree is regular. Its names are compared one with another. -/
theorem regular_drawers : (FileTree.directory drawers).Regular := by
  have hdrawer : (FileTree.directory [("z.scxml", .file none)]).Regular :=
    .directory (by decide) (by decide) (List.forall_mem_singleton.mpr (.file none))
  refine .directory (by decide) (by decide) ?_
  exact List.forall_mem_cons.mpr ⟨hdrawer, List.forall_mem_cons.mpr
    ⟨hdrawer, List.forall_mem_singleton.mpr (.file none)⟩⟩

theorem regular_shelf : shelf.root.Regular := by
  refine .directory (by decide) (by decide) (List.forall_mem_cons.mpr ⟨regular_drawers, ?_⟩)
  exact List.forall_mem_singleton.mpr (.directory (by decide) nofun nofun)

/-- The documents of the directory at an absolute path: `a` comes before `a-b.scxml`, although a
hyphen comes before a slash. -/
theorem sources_shelf : Models.sources shelf.find? "/m" =
    [⟨"/m/a/z.scxml", none⟩, ⟨"/m/a-b.scxml/z.scxml", none⟩] := by
  have hpath : shelf.locate? "/m" = some ["m"] := by decide +kernel
  have hfound : (FileTree.filesIn drawers).filter (fun f => Models.isDocument f.1) =
      [(["a", "z.scxml"], none), (["a-b.scxml", "z.scxml"], none)] := by
    decide +kernel
  have hbelow : Models.below drawers =
      [(["a", "z.scxml"], none), (["a-b.scxml", "z.scxml"], none)] := by
    rw [Models.below, hfound]
    exact List.mergeSort_of_pairwise (by decide +kernel)
  have hjoin : Path.joinAll "/m" ["a", "z.scxml"] = "/m/a/z.scxml" ∧
      Path.joinAll "/m" ["a-b.scxml", "z.scxml"] = "/m/a-b.scxml/z.scxml" := by
    decide +kernel
  have hfind : shelf.find? "/m" = some (.directory drawers) :=
    Models.find?_of_locate? hpath
  rw [Models.sources, hfind]
  simp only [hbelow, List.map_cons, List.map_nil, hjoin.1, hjoin.2]

end Sample

open Sample in
/-- A directory at an absolute path, and then a hidden file outside the directory in which the
program runs. However the entries of the first are listed, what cannot be read first is the first
document in it. -/
theorem load_determined_sample :
    shelf.root.Regular ∧ shelf.root.Reordered shelfBackwards.root ∧
      Models.StandsFor shelf "/m" [⟨"/m/a/z.scxml", none⟩, ⟨"/m/a-b.scxml/z.scxml", none⟩] ∧
      Models.StandsFor shelf "../m/.scxml" [⟨"../m/.scxml", none⟩] ∧
      Models.load shelfBackwards.find? ["/m", "../m/.scxml"] =
        .error (Cause.file.within "failed to read file '/m/a/z.scxml'") := by
  have hreordered : shelf.root.Reordered shelfBackwards.root := by
    refine .directory (.refl _) fun e he e' he' hname => ?_
    rcases List.mem_pair.mp he with rfl | rfl <;> rcases List.mem_pair.mp he' with rfl | rfl
    · exact regular_drawers.reordered_of_perm (List.reverse_perm drawers).symm
    · exact absurd hname (by decide)
    · exact absurd hname (by decide)
    · exact .directory (.refl _) nofun
  have hdirectory := Models.standsFor_sources regular_shelf "/m"
  rw [sources_shelf] at hdirectory
  have hhidden : Models.StandsFor shelf "../m/.scxml" [⟨"../m/.scxml", none⟩] :=
    @Models.StandsFor.file _ _ ["m", ".scxml"] _ (by decide +kernel) (by decide)
  obtain ⟨scans, -, hunique, -, herror, hload⟩ :=
    load_determined regular_shelf ["/m", "../m/.scxml"]
  refine ⟨regular_shelf, hreordered, hdirectory, hhidden, ?_⟩
  refine (hload _ hreordered).trans ((herror _).mpr ?_)
  rw [← hunique _ (.cons hdirectory (.cons hhidden .nil))]
  exact ⟨[], _, _, rfl, nofun, rfl⟩

end ChartNet
