import ChartNet.Files.System
import Mathlib.Data.List.Nodup
import Mathlib.Data.Option.Basic

/-!
# What creating changes in a file system

A tree is looked at place by place: at each of them there is a directory, a file with its text, or
nothing (`kindAt?`). Whatever is created is put into a directory, at a place that is not a directory
itself, and then nothing but this place looks different (`kindAt?_put`). All else follows by going
along the names of a path, name by name (`walk_cons_eq_some`, `makeFrom_cons_eq_some`), and along a
list of files:

* `Paved`: directories were made on the way to a place, and that is all (`makeFrom_paved`).
* `withFiles`: files stand in a directory, and that is all (`kindAt?_withFiles_of_mem`,
  `kindAt?_withFiles_of_ne`).

A file system adds where a path starts, at the root or at the working directory. A file in a
directory is reached by the names of the directory, from where these start (`origin_join`), and so
what holds of trees carries over to paths of all kinds (`makeDirectories_paved`, `create_join`).
-/

namespace ChartNet

/-! ### Paths -/

namespace Path

theorem isAbsolute_iff {path : String} : isAbsolute path = true ↔ path.toList.head? = some '/' := by
  rw [isAbsolute, String.startsWith_string_iff]
  change ['/'] <+: path.toList ↔ _
  cases path.toList with
  | nil => simp
  | cons c cs => simp [eq_comm]

/-- What stands in a directory is called from where the directory is called from. -/
theorem isAbsolute_join (directory : String) {name : String} (hname : '/' ∉ name.toList) :
    isAbsolute (join directory name) = isAbsolute directory := by
  rw [Bool.eq_iff_iff, isAbsolute_iff, isAbsolute_iff]
  by_cases hempty : directory = ""
  · -- the path is the name, which has no slash in it
    subst hempty
    have hjoin : join "" name = name := String.empty_append
    rw [hjoin]
    refine iff_of_false (fun hhead => hname (List.mem_of_head? hhead)) (by decide)
  · obtain ⟨c, cs, hlist⟩ := List.exists_cons_of_ne_nil (mt String.toList_eq_nil_iff.mp hempty)
    unfold join
    split <;> simp [hlist]

/-- What stands in a directory is called by the names of the directory, but for an empty name at
their end, and its own name. The empty path is no exception: it calls a directory by no name at all
and then an empty one. -/
theorem exists_lead (directory : String) :
    ∃ lead, (names directory = lead ∨ names directory = lead ++ [""]) ∧
      ∀ name : String, '/' ∉ name.toList → names (join directory name) = lead ++ [name] := by
  have hslash : "/".toList = ['/'] := rfl
  by_cases hempty : directory = ""
  · subst hempty
    refine ⟨[], .inr rfl, fun name hname => ?_⟩
    have hjoin : join "" name = name := String.empty_append
    rw [hjoin, names, Text.pieces_of_not_mem hname]
    simp
  have hempty : directory.isEmpty = false := by simpa using hempty
  -- a slash at the end makes an empty last name, which the joined path does not have
  by_cases hend : directory.endsWith "/" = true
  · have hsuffix : "/".toList <:+ directory.toList := by
      rw [String.endsWith_eq_endsWith_toSlice, String.Slice.endsWith_string_iff] at hend
      simpa using hend
    obtain ⟨cs, hcs⟩ := hsuffix
    refine ⟨(Text.pieces '/' cs).map String.ofList, .inr ?_, fun name hname => ?_⟩
    · rw [names, ← hcs, hslash, Text.pieces_append, Text.pieces]
      simp
    · rw [join, hempty, Bool.false_or, if_pos hend, names, String.toList_append, ← hcs, hslash,
        List.append_assoc, List.singleton_append, Text.pieces_append, Text.pieces_of_not_mem hname]
      simp
  · refine ⟨names directory, .inl rfl, fun name hname => ?_⟩
    rw [join, hempty, Bool.false_or, if_neg hend, names, String.toList_append, String.toList_append,
      hslash, List.append_assoc, List.singleton_append, Text.pieces_append,
      Text.pieces_of_not_mem hname]
    simp [names]

theorem join_injective {directory name name' : String}
    (h : join directory name = join directory name') : name = name' := by
  unfold join at h
  split at h
  · exact (String.append_right_inj _).mp h
  · exact (String.append_right_inj _).mp h

/-- The name is one of a file or directory, and not a way to stay or to go up. Only a proper name
can lead to a place that is not there yet. -/
structure Proper (name : String) : Prop where
  /-- it is not empty -/
  ne_empty : name ≠ ""
  /-- it does not stand for the directory itself -/
  ne_stay : name ≠ "."
  /-- it does not stand for the directory above -/
  ne_up : name ≠ ".."

/-- The names in a path are of four kinds, only one of which leads down. -/
theorem eq_or_proper (name : String) : name = "" ∨ name = "." ∨ name = ".." ∨ Proper name := by
  by_cases hempty : name = ""
  · exact .inl hempty
  by_cases hstay : name = "."
  · exact .inr (.inl hstay)
  by_cases hup : name = ".."
  · exact .inr (.inr (.inl hup))
  · exact .inr (.inr (.inr ⟨hempty, hstay, hup⟩))

end Path

namespace FileTree

/-! ### Places -/

/-- What can be told of a place. Trees that have the same kinds in all places are the same for the
program, in whatever order their entries are listed. -/
inductive Kind where
  /-- a file, with its text if it has one -/
  | file (text? : Option String)
  /-- a directory, whatever there is in it -/
  | directory
deriving DecidableEq, Repr

/-- What stands at the root of a tree. -/
def kind : FileTree → Kind
  | .file text? => .file text?
  | .directory _ => .directory

/-- What stands where the names lead, if anything. The names are those of entries one below the
other, from the root on; they are not taken as a path. -/
def kindAt? (t : FileTree) (place : List String) : Option Kind := (t.at? place).map kind

variable {t t' : FileTree} {place : List String} {name : String}

theorem isDirectoryAt_iff : t.isDirectoryAt place = true ↔ t.kindAt? place = some .directory := by
  rw [isDirectoryAt, kindAt?]
  rcases t.at? place with _ | below
  · simp
  · cases below <;> simp [isDirectory, kind]

theorem isSome_at?_iff : (t.at? place).isSome = true ↔ t.kindAt? place ≠ none := by
  rw [kindAt?, Ne, Option.map_eq_none_iff, Option.isSome_iff_ne_none]

theorem kindAt?_nil (t : FileTree) : t.kindAt? [] = some t.kind := rfl

theorem kindAt?_cons (t : FileTree) (name : String) (names : List String) :
    t.kindAt? (name :: names) = (t.entry? name).bind (kindAt? · names) := by
  rw [kindAt?, at?]
  cases t.entry? name <;> rfl

/-- The first entry with a name is the one that is found. -/
theorem lookup_cons (name : String) (t : FileTree) (entries : List (String × FileTree))
    (name' : String) : ((name, t) :: entries).lookup name' =
      if name' = name then some t else entries.lookup name' := by
  rw [List.lookup_cons]
  by_cases h : name' = name
  · simp [h]
  · rw [beq_false_of_ne h, if_neg h]

/-- An entry stands under its name, and all others stay where they are. If there was one of the name
before, it is replaced in its place in the list. -/
theorem lookup_setEntry (name : String) (t : FileTree) (entries : List (String × FileTree))
    (name' : String) :
    (setEntry name t entries).lookup name' =
      if name' = name then some t else entries.lookup name' := by
  induction entries with
  | nil => exact lookup_cons name t [] name'
  | cons e entries ih =>
    obtain ⟨key, below⟩ := e
    rw [setEntry]
    by_cases hkey : key = name
    · rw [if_pos hkey, lookup_cons, lookup_cons, hkey]
      split_ifs <;> rfl
    · rw [if_neg hkey, lookup_cons, lookup_cons, ih]
      by_cases h : name' = key
      · rw [if_pos h, if_pos h, if_neg fun h' => hkey (h.symm.trans h')]
      · rw [if_neg h, if_neg h]

/-- Nothing stands below what is no directory. -/
theorem kindAt?_below (h : t.kind ≠ .directory) (name : String) (names : List String) :
    t.kindAt? (name :: names) = none := by
  cases t with
  | file text? => rfl
  | directory entries => exact absurd rfl h

/-- **Putting** something without entries into a directory, where there is no directory yet, changes
one place. A file that stands there is replaced. -/
theorem kindAt?_put {new : FileTree} (hdirectory : t.kindAt? place = some .directory)
    (hfree : t.kindAt? (place ++ [name]) ≠ some .directory) (hnew : ∀ name, new.entry? name = none)
    (other : List String) :
    (t.put (place ++ [name]) new).kindAt? other =
      if other = place ++ [name] then some new.kind else t.kindAt? other := by
  induction place generalizing t other with
  | nil =>
    cases t with
    | file text? => cases hdirectory
    | directory entries =>
      rw [List.nil_append, put, put]
      cases other with
      | nil => rfl
      | cons name' names =>
        rw [kindAt?_cons, kindAt?_cons, entry?, entry?, lookup_setEntry]
        by_cases hname : name' = name
        · subst hname
          rw [if_pos rfl, Option.bind_some]
          cases names with
          | nil => simp [kindAt?_nil]
          | cons name'' names =>
            -- there was no directory before, and there is nothing in the new one
            rw [if_neg (by simp), kindAt?_cons, hnew, Option.bind_none]
            rcases hlookup : entries.lookup name' with _ | below
            · rfl
            · refine (kindAt?_below (fun hkind => hfree ?_) name'' names).symm
              rw [List.nil_append, kindAt?_cons, entry?, hlookup, Option.bind_some, kindAt?_nil,
                hkind]
        · rw [if_neg hname, if_neg (by simp [hname])]
  | cons first place ih =>
    cases t with
    | file text? => cases hdirectory
    | directory entries =>
      rw [kindAt?_cons, entry?] at hdirectory
      obtain ⟨below, hlookup, hbelow⟩ := Option.bind_eq_some_iff.mp hdirectory
      have hfree' : below.kindAt? (place ++ [name]) ≠ some .directory := by
        rwa [List.cons_append, kindAt?_cons, entry?, hlookup, Option.bind_some] at hfree
      rw [List.cons_append, put, hlookup, Option.getD_some]
      cases other with
      | nil => rfl
      | cons name' names =>
        rw [kindAt?_cons, kindAt?_cons, entry?, entry?, lookup_setEntry]
        by_cases hname : name' = first
        · rw [if_pos hname, Option.bind_some, ih hbelow hfree', hname, hlookup, Option.bind_some]
          simp
        · rw [if_neg hname, if_neg (by simp [hname])]

/-! ### Ways -/

/-- Where one name of a path leads from a place. -/
def next (place : List String) (name : String) : List String :=
  match name with
  | "" | "." => place
  | ".." => place.dropLast
  | name => place ++ [name]

theorem next_proper (hname : Path.Proper name) (place : List String) :
    next place name = place ++ [name] := by
  simp [next, hname.ne_empty, hname.ne_stay, hname.ne_up]

/-- Above a place that is there, there is something. -/
theorem kindAt?_dropLast (h : t.kindAt? place ≠ none) : t.kindAt? place.dropLast ≠ none := by
  induction place generalizing t with
  | nil => exact h
  | cons name place ih =>
    cases place with
    | nil => simp [kindAt?_nil]
    | cons name' place =>
      rw [List.dropLast_cons_cons, kindAt?_cons]
      rw [kindAt?_cons] at h
      cases hentry : t.entry? name with
      | none => simp [hentry] at h
      | some below =>
        rw [hentry, Option.bind_some] at h
        exact ih h

/-- Taking a way: every place on it is there, and every place but the last is a directory. One name
is taken at a time, whether it leads down, up or nowhere. -/
theorem walk_cons_eq_some {names dest : List String} :
    t.walk place (name :: names) = some dest ↔ t.kindAt? place = some .directory ∧
      t.kindAt? (next place name) ≠ none ∧ t.walk (next place name) names = some dest := by
  rw [← isDirectoryAt_iff, walk.eq_def]
  by_cases hplace : t.isDirectoryAt place = true
  · have hthere : t.kindAt? place ≠ none := by simp [isDirectoryAt_iff.mp hplace]
    rw [and_iff_right hplace]
    rcases Path.eq_or_proper name with rfl | rfl | rfl | hname
    · simp [next, hplace, hthere]
    · simp [next, hplace, hthere]
    · simp [next, hplace, kindAt?_dropLast hthere]
    · rw [next_proper hname]
      by_cases hdown : (t.at? (place ++ [name])).isSome = true
      · simp [hplace, hname.ne_empty, hname.ne_stay, hname.ne_up, hdown, isSome_at?_iff.mp hdown]
      · simp [hplace, hname.ne_empty, hname.ne_stay, hname.ne_up, hdown,
          not_not.mp (mt isSome_at?_iff.mpr hdown)]
  · simp [hplace]

/-- Making directories: what is not there is made, and then the way goes on from it. Only a proper
name can lead to what is not there. -/
theorem makeFrom_cons_eq_some {names : List String} :
    t.makeFrom place (name :: names) = some t' ↔ t.kindAt? place = some .directory ∧
      (t.kindAt? (next place name) ≠ none ∧ t.makeFrom (next place name) names = some t' ∨
        t.kindAt? (next place name) = none ∧ next place name = place ++ [name] ∧
          Path.isName name = true ∧
            (t.put (place ++ [name]) (.directory [])).makeFrom (place ++ [name]) names =
              some t') := by
  rw [← isDirectoryAt_iff, makeFrom.eq_def]
  by_cases hplace : t.isDirectoryAt place = true
  · have hthere : t.kindAt? place ≠ none := by simp [isDirectoryAt_iff.mp hplace]
    rw [and_iff_right hplace]
    rcases Path.eq_or_proper name with rfl | rfl | rfl | hname
    · simp [next, hplace, hthere]
    · simp [next, hplace, hthere]
    · simp [next, hplace, kindAt?_dropLast hthere]
    · rw [next_proper hname]
      by_cases hdown : (t.at? (place ++ [name])).isSome = true
      · simp [hplace, hname.ne_empty, hname.ne_stay, hname.ne_up, hdown, isSome_at?_iff.mp hdown]
      · simp [hplace, hname.ne_empty, hname.ne_stay, hname.ne_up, hdown,
          not_not.mp (mt isSome_at?_iff.mpr hdown)]
  · simp [hplace]

/-- A way of two parts leads through the place between them. -/
theorem walk_append_eq_some {names names' dest : List String} :
    t.walk place (names ++ names') = some dest ↔
      ∃ between, t.walk place names = some between ∧ t.walk between names' = some dest := by
  induction names generalizing place with
  | nil => simp [walk]
  | cons name names ih =>
    rw [List.cons_append]
    simp only [walk_cons_eq_some, ih]
    constructor
    · rintro ⟨hplace, hthere, between, hwalk, hrest⟩
      exact ⟨between, ⟨hplace, hthere, hwalk⟩, hrest⟩
    · rintro ⟨between, ⟨hplace, hthere, hwalk⟩, hrest⟩
      exact ⟨hplace, hthere, between, hwalk, hrest⟩

/-- An empty name at the end of a way leads nowhere else, if it leads to a directory. -/
theorem walk_lead_iff {names lead dest : List String} (hlead : names = lead ∨ names = lead ++ [""])
    (hdest : t.kindAt? dest = some .directory) :
    t.walk place names = some dest ↔ t.walk place lead = some dest := by
  rcases hlead with rfl | rfl
  · exact Iff.rfl
  · rw [walk_append_eq_some]
    refine ⟨?_, fun h => ⟨dest, h, walk_cons_eq_some.mpr ⟨hdest, by simp [next, hdest], rfl⟩⟩⟩
    rintro ⟨between, hbetween, hlast⟩
    obtain ⟨-, -, hend⟩ := walk_cons_eq_some.mp hlast
    obtain rfl : between = dest := Option.some.inj hend
    exact hbetween

/-- All that stands in the tree stands in the other one, and directories are still directories. What
a file says may have changed. Ways only depend on what is a directory, and so they can still be
taken. -/
structure Persists (t t' : FileTree) : Prop where
  /-- what is there stays there -/
  there : ∀ place, t.kindAt? place ≠ none → t'.kindAt? place ≠ none
  /-- what is a directory stays one -/
  directory : ∀ place, t.kindAt? place = some .directory → t'.kindAt? place = some .directory

/-- Ways that could be taken still can. -/
theorem Persists.walk (h : Persists t t') {names dest : List String}
    (hwalk : t.walk place names = some dest) : t'.walk place names = some dest := by
  induction names generalizing place with
  | nil => exact hwalk
  | cons name names ih =>
    obtain ⟨hplace, hthere, hrest⟩ := walk_cons_eq_some.mp hwalk
    exact walk_cons_eq_some.mpr ⟨h.directory _ hplace, h.there _ hthere, ih hrest⟩

/-! ### Making directories -/

/-- The trees are the same, but for directories that were not there and are now, all of them on the
way that the names lead from a place. -/
def Paved (t t' : FileTree) (place names : List String) : Prop :=
  ∀ other, t'.kindAt? other = t.kindAt? other ∨
    t.kindAt? other = none ∧ t'.kindAt? other = some .directory ∧
      ∃ k, t'.walk place (names.take k) = some other

/-- Where only directories were made, nothing is gone. -/
theorem Paved.persists {names : List String} (h : Paved t t' place names) : Persists t t' where
  there := by
    intro other hother
    rcases h other with hsame | ⟨hnone, -⟩
    · rwa [hsame]
    · exact absurd hnone hother
  directory := by
    intro other hother
    rcases h other with hsame | ⟨-, hdirectory, -⟩
    · rwa [hsame]
    · exact hdirectory

/-- A way that goes on from the next place also goes on from the place before it. -/
theorem Paved.cons {names : List String} (h : Paved t t' (next place name) names)
    (hplace : t'.kindAt? place = some .directory) (hthere : t'.kindAt? (next place name) ≠ none) :
    Paved t t' place (name :: names) := by
  intro other
  rcases h other with hsame | ⟨hnone, hdirectory, k, hwalk⟩
  · exact .inl hsame
  · exact .inr ⟨hnone, hdirectory, k + 1, walk_cons_eq_some.mpr ⟨hplace, hthere, hwalk⟩⟩

/-- Something put into a directory, in the place of nothing or of a file, leaves all else where it
is. -/
theorem persists_put {new : FileTree} (hplace : t.kindAt? place = some .directory)
    (hfree : t.kindAt? (place ++ [name]) ≠ some .directory)
    (hnew : ∀ name, new.entry? name = none) : Persists t (t.put (place ++ [name]) new) where
  there := by
    intro other hother
    rw [kindAt?_put hplace hfree hnew]
    split_ifs
    · simp
    · exact hother
  directory := by
    intro other hother
    have hne : other ≠ place ++ [name] := by
      rintro rfl
      exact hfree hother
    rw [kindAt?_put hplace hfree hnew, if_neg hne]
    exact hother

/-- Directories are made on the way. The induction is on the names; what is made for the first of
them is on the way of all. -/
theorem makeFrom_paved {names : List String} (h : t.makeFrom place names = some t') :
    Paved t t' place names := by
  induction names generalizing t place with
  | nil =>
    rw [makeFrom] at h
    split_ifs at h
    obtain rfl := Option.some.inj h
    exact fun other => .inl rfl
  | cons name names ih =>
    obtain ⟨hplace, hmade⟩ := makeFrom_cons_eq_some.mp h
    rcases hmade with ⟨hthere, hrest⟩ | ⟨hnone, hnext, -, hrest⟩
    · have hpaved := ih hrest
      exact hpaved.cons (hpaved.persists.directory _ hplace) (hpaved.persists.there _ hthere)
    · have hpaved := ih hrest
      rw [hnext] at hnone
      have hfree : t.kindAt? (place ++ [name]) ≠ some .directory := by simp [hnone]
      have hput := @kindAt?_put t place name (.directory []) hplace hfree fun _ => rfl
      -- what stood before the new directory was made still stands at the end of the way
      have hplace' := hpaved.persists.directory _
        ((persists_put hplace hfree fun _ => rfl).directory _ hplace)
      have hmade : t'.kindAt? (next place name) = some .directory := by
        rw [hnext]
        exact hpaved.persists.directory _ (by rw [hput, if_pos rfl]; rfl)
      have hthere : t'.kindAt? (next place name) ≠ none := by simp [hmade]
      rw [← hnext] at hpaved
      intro other
      by_cases hother : other = place ++ [name]
      · -- the directory that was made is the first place on the way
        rw [← hnext] at hother
        refine .inr ⟨?_, hother ▸ hmade, 1, walk_cons_eq_some.mpr ⟨hplace', hthere, ?_⟩⟩
        · rw [hother, hnext]
          exact hnone
        · rw [hother]
          rfl
      · have hcons := hpaved.cons hplace' hthere other
        rwa [hnext, hput, if_neg hother] at hcons

/-! ### Files in a directory -/

/-- The tree with files in a directory, put there one after the other. A later file replaces an
earlier one of the same name. -/
def withFiles (t : FileTree) (dest : List String) (files : List (String × String)) : FileTree :=
  files.foldl (fun t f => t.put (dest ++ [f.1]) (.file (some f.2))) t

section Files

variable {dest : List String} {files : List (String × String)}

/-- One file: its place has the text, and no other place has changed. -/
theorem kindAt?_putFile (hdest : t.kindAt? dest = some .directory)
    (hfree : t.kindAt? (dest ++ [name]) ≠ some .directory) (text : String) (other : List String) :
    (t.put (dest ++ [name]) (.file (some text))).kindAt? other =
      if other = dest ++ [name] then some (.file (some text)) else t.kindAt? other :=
  kindAt?_put hdest hfree (fun _ => rfl) other

/-- What is asked of the tree before the first file is also there before the next one. -/
theorem ready_putFile (hdest : t.kindAt? dest = some .directory)
    (hfree : t.kindAt? (dest ++ [name]) ≠ some .directory) (text : String) :
    (t.put (dest ++ [name]) (.file (some text))).kindAt? dest = some .directory ∧
      ∀ name', t.kindAt? (dest ++ [name']) ≠ some .directory →
        (t.put (dest ++ [name]) (.file (some text))).kindAt? (dest ++ [name']) ≠
          some .directory := by
  refine ⟨(persists_put hdest hfree fun _ => rfl).directory _ hdest, fun name' hname' => ?_⟩
  rw [kindAt?_putFile hdest hfree]
  split_ifs
  · simp
  · exact hname'

/-- All files: no place but theirs has changed. The induction is on the files, and `ready_putFile`
keeps what each step needs. -/
theorem kindAt?_withFiles_of_ne (hdest : t.kindAt? dest = some .directory)
    (hfree : ∀ f ∈ files, t.kindAt? (dest ++ [f.1]) ≠ some .directory) {other : List String}
    (hother : ∀ f ∈ files, other ≠ dest ++ [f.1]) :
    (t.withFiles dest files).kindAt? other = t.kindAt? other := by
  induction files generalizing t with
  | nil => rfl
  | cons f files ih =>
    obtain ⟨hfirst, hrest⟩ := List.forall_mem_cons.mp hfree
    obtain ⟨hne, hothers⟩ := List.forall_mem_cons.mp hother
    obtain ⟨hdest', hfree'⟩ := ready_putFile hdest hfirst f.2
    calc (t.withFiles dest (f :: files)).kindAt? other
        = (t.put (dest ++ [f.1]) (.file (some f.2))).kindAt? other :=
          ih hdest' (fun g hg => hfree' g.1 (hrest g hg)) hothers
      _ = t.kindAt? other := by rw [kindAt?_putFile hdest hfirst, if_neg hne]

/-- All files: each place has the text of its file, if no two of them have the same name. Otherwise
the last of them would be there. -/
theorem kindAt?_withFiles_of_mem (hdest : t.kindAt? dest = some .directory)
    (hfree : ∀ f ∈ files, t.kindAt? (dest ++ [f.1]) ≠ some .directory)
    (hnames : (files.map (·.1)).Nodup) {f : String × String} (hf : f ∈ files) :
    (t.withFiles dest files).kindAt? (dest ++ [f.1]) = some (.file (some f.2)) := by
  induction files generalizing t with
  | nil => cases hf
  | cons g files ih =>
    obtain ⟨hfirst, hrest⟩ := List.forall_mem_cons.mp hfree
    obtain ⟨hnew, hnames'⟩ := List.nodup_cons.mp hnames
    obtain ⟨hdest', hfree'⟩ := ready_putFile hdest hfirst g.2
    have hready : ∀ h ∈ files, (t.put (dest ++ [g.1]) (.file (some g.2))).kindAt? (dest ++ [h.1]) ≠
        some .directory := fun h hh => hfree' h.1 (hrest h hh)
    rcases List.mem_cons.mp hf with rfl | hf
    · -- the files after it are others, and so leave it alone
      have hothers : ∀ h ∈ files, dest ++ [f.1] ≠ dest ++ [h.1] := by
        intro h hh heq
        have hname : f.1 = h.1 := by simpa using heq
        exact hnew (List.mem_map.mpr ⟨h, hh, hname.symm⟩)
      calc (t.withFiles dest (f :: files)).kindAt? (dest ++ [f.1])
          = (t.put (dest ++ [f.1]) (.file (some f.2))).kindAt? (dest ++ [f.1]) :=
            kindAt?_withFiles_of_ne hdest' hready hothers
        _ = some (.file (some f.2)) := by rw [kindAt?_putFile hdest hfirst, if_pos rfl]
    · exact ih hdest' hready hnames' hf

/-- Files in a directory are in the way of nothing. -/
theorem persists_withFiles (hdest : t.kindAt? dest = some .directory)
    (hfree : ∀ f ∈ files, t.kindAt? (dest ++ [f.1]) ≠ some .directory) :
    Persists t (t.withFiles dest files) := by
  induction files generalizing t with
  | nil => exact ⟨fun _ h => h, fun _ h => h⟩
  | cons f files ih =>
    obtain ⟨hfirst, hrest⟩ := List.forall_mem_cons.mp hfree
    obtain ⟨hdest', hfree'⟩ := ready_putFile hdest hfirst f.2
    have hput : Persists t (t.put (dest ++ [f.1]) (.file (some f.2))) :=
      persists_put hdest hfirst fun _ => rfl
    have hthen := ih hdest' fun g hg => hfree' g.1 (hrest g hg)
    exact ⟨fun place h => hthen.there place (hput.there place h),
      fun place h => hthen.directory place (hput.directory place h)⟩

end Files

end FileTree

/-! ### File systems -/

namespace FileSystem

open FileTree

variable {fs fs' : FileSystem} {path name : String}

theorem origin_join (fs : FileSystem) (directory : String) (hname : '/' ∉ name.toList) :
    fs.origin (Path.join directory name) = fs.origin directory := by
  rw [origin, origin, Path.isAbsolute_join directory hname]

/-- **Creating a directory** makes directories on the way to it, and nothing else; the working
directory stays the same. The empty path names no directory, and nothing is made for it. -/
theorem makeDirectories_paved (h : fs.makeDirectories path = some fs') :
    fs'.working = fs.working ∧
      Paved fs.root fs'.root (fs.origin path) (Path.names path) := by
  unfold makeDirectories at h
  dsimp only at h
  split_ifs at h with hempty husable hstay hfound
  · obtain rfl := Option.some.inj h
    exact ⟨rfl, fun other => .inl rfl⟩
  · obtain rfl := Option.some.inj h
    exact ⟨rfl, fun other => .inl rfl⟩
  · obtain ⟨root, hroot, rfl⟩ := Option.map_eq_some_iff.mp h
    exact ⟨rfl, makeFrom_paved hroot⟩

/-- **Creating a file in a directory** puts it there. That is possible exactly if its path and name
can be used, the path of the directory leads to one, and there is none in the place of the file. -/
theorem create_join {directory text : String} (hname : '/' ∉ name.toList) :
    fs.create (Path.join directory name) text = some fs' ↔
      (Path.isUsable (Path.join directory name) = true ∧ Path.isName name = true) ∧
      ∃ dest, fs.reach? directory = some dest ∧ fs.root.kindAt? dest = some .directory ∧
        fs.root.kindAt? (dest ++ [name]) ≠ some .directory ∧
        { fs with root := fs.root.put (dest ++ [name]) (.file (some text)) } = fs' := by
  obtain ⟨lead, hlead, hnames⟩ := Path.exists_lead directory
  have hfree : ∀ place, fs.root.isDirectoryAt place = false ↔
      fs.root.kindAt? place ≠ some .directory := by
    intro place
    rw [← Bool.not_eq_true, isDirectoryAt_iff]
  have hreach : ∀ dest, fs.root.kindAt? dest = some .directory →
      (fs.reach? directory = some dest ↔ fs.root.walk (fs.origin directory) lead = some dest) :=
    fun dest hdest => walk_lead_iff hlead hdest
  rw [create, hnames name hname, List.getLast?_concat, List.dropLast_concat, origin_join fs _ hname]
  simp only [Option.bind_eq_bind, Option.bind_some, Option.bind_eq_some_iff, Option.guard_eq_some',
    Bool.and_eq_true, Bool.not_eq_true', isDirectoryAt_iff, hfree]
  constructor
  · rintro ⟨-, hpath, dest, hwalk, -, ⟨hdest, hfree⟩, hput⟩
    exact ⟨hpath, dest, (hreach dest hdest).mpr hwalk, hdest, hfree, Option.some.inj hput⟩
  · rintro ⟨hpath, dest, hwalk, hdest, hfree, hput⟩
    exact ⟨(), hpath, dest, (hreach dest hdest).mp hwalk, (), ⟨hdest, hfree⟩, congrArg some hput⟩

/-- The same, once it is known where the directory is. -/
theorem create_join_at {directory text : String} {dest : List String} (hname : '/' ∉ name.toList)
    (hreach : fs.reach? directory = some dest) (hdest : fs.root.kindAt? dest = some .directory) :
    fs.create (Path.join directory name) text = some fs' ↔
      (Path.isUsable (Path.join directory name) = true ∧ Path.isName name = true) ∧
      fs.root.kindAt? (dest ++ [name]) ≠ some .directory ∧
      { fs with root := fs.root.put (dest ++ [name]) (.file (some text)) } = fs' := by
  rw [create_join hname]
  refine and_congr_right fun _ => ⟨?_, fun h => ⟨dest, hreach, hdest, h⟩⟩
  rintro ⟨dest', hreach', -, h⟩
  obtain rfl : dest = dest' := Option.some.inj (hreach.symm.trans hreach')
  exact h

/-- The file system with files in a directory. -/
def withFiles (fs : FileSystem) (dest : List String) (files : List (String × String)) :
    FileSystem :=
  { fs with root := fs.root.withFiles dest files }

/-- A path that leads somewhere still leads there when more has come to the tree. -/
theorem reach?_of_persists {root : FileTree} (h : Persists fs.root root) {place : List String}
    (hreach : fs.reach? path = some place) : reach? { fs with root } path = some place :=
  h.walk hreach

end FileSystem

end ChartNet
