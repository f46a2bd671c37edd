import ChartNet.CommandLine
import ChartNet.Proofs.Circulation
import ChartNet.Proofs.FileTrees

/-!
# What a conversion writes

A conversion compiles its models, and only then begins to write: one file for each chart, called
after it, and the manifest. The names of charts are checked when charts are built, and kept apart
when they are compiled, which is why no file takes the place of another and none ends up elsewhere.

* `Delivery.Covers` relates what is to be written to what was compiled, and
  `Compiled.covers_delivery` says that it is so for every compilation.
* `Delivery.Delivered` relates the tree after writing to the one before, and
  `Delivery.delivered_of_create` says that it is so if every file can be created.
-/

namespace ChartNet

/-! ### What is to be written -/

/-- The files are one for each chart, with its text, and the manifest. They are all different, and
stand in the directory itself. So none of them is written over by another one. -/
structure Delivery.Covers (d : Delivery) (out : Compiled) : Prop where
  /-- a file for each chart, in the order of the charts, and then the manifest -/
  names : d.files.map (·.1) = out.charts.map (fun c => c.name ++ ".scxml") ++ ["timers.json"]
  /-- no two files have the same path -/
  apart : (d.files.map fun f => Path.join d.directory f.1).Nodup
  /-- every file stands in the directory itself -/
  direct : ∀ f ∈ d.files, Path.Proper f.1 ∧ '/' ∉ f.1.toList
  /-- the file of a chart has the text of the chart -/
  text : ∀ c ∈ out.charts, ∀ text, (c.name ++ ".scxml", text) ∈ d.files ↔ text = Document.write c

theorem Models.Source.read_eq_ok {s : Source} {c : Chart} :
    s.read = .ok c ↔ ∃ text, s.text? = some text ∧ Document.read text = .ok c := by
  rw [Source.read]
  cases s.text? with
  | none => simp
  | some text => cases hread : Document.read text <;> simp [inCircumstance, hread]

/-- Everything that comes out is well formed, because all that is loaded was checked as it was read,
and has a name of its own. -/
theorem Models.check_of_compile {look : String → Option FileTree} {paths : List String}
    {out : Compiled} (h : Models.compile look paths = .ok out) :
    (∀ c ∈ out.charts, c.check = .ok ()) ∧ (out.charts.map (·.name)).Nodup := by
  rw [Models.compile, bind_eq_ok] at h
  obtain ⟨charts, hload, h⟩ := h
  have hcharts : ∀ c ∈ charts, c.check = .ok () := by
    refine forall_mem_of_forall₂ (fun s c hread => ?_) (mapM_eq_ok.mp hload)
    obtain ⟨text, -, hdocument⟩ := Source.read_eq_ok.mp hread
    exact (Document.of_read hdocument).1
  split at h
  · rename_i out' hcompile
    obtain rfl : out' = out := pure_eq_ok.mp h
    exact ⟨Network.check_of_compile hcompile hcharts, (Network.settled_of_compile hcompile).2⟩
  · cases h

theorem Chart.fileName_injective {c d : Chart} (h : c.fileName = d.fileName) : c.name = d.name :=
  (String.append_left_inj _).mp h

/-- No chart is written where the manifest is: the extensions differ. -/
theorem Chart.fileName_ne_manifest (c : Chart) : c.fileName ≠ Manifest.fileName := by
  intro h
  have hlast := congrArg (fun name : String => name.toList.getLast?) h
  simp [fileName, Manifest.fileName] at hlast

/-- The name of a file with a chart is too long to mean anything else. -/
theorem Chart.proper_fileName (c : Chart) : Path.Proper c.fileName := by
  have hlength : 6 ≤ c.fileName.length := by
    rw [fileName, String.length_append]
    exact Nat.le_add_left 6 _
  refine ⟨?_, ?_, ?_⟩ <;> intro h <;> rw [h] at hlength <;> exact absurd hlength (by decide)

/-- The name of a checked chart has no slash in it, so that its file stands in the directory
itself. -/
theorem Chart.no_slash_fileName {c : Chart} (h : c.check = .ok ()) : '/' ∉ c.fileName.toList := by
  obtain ⟨⟨-, hname⟩, -⟩ := Chart.check_eq_ok.mp h
  rw [fileName, String.toList_append, List.mem_append]
  rintro (hmem | hmem)
  · exact absurd (hname '/' hmem) (by decide)
  · revert hmem
    decide

/-- Checked charts with names of their own have files of their own. A name without a slash stays in
the directory, different names make different paths, and none of them is that of the manifest. -/
theorem Compiled.covers_delivery {out : Compiled} (hcheck : ∀ c ∈ out.charts, c.check = .ok ())
    (hnames : (out.charts.map (·.name)).Nodup) (directory : String) (maxTime? : Option UInt64) :
    (out.delivery directory maxTime?).Covers out := by
  have hfiles : (out.delivery directory maxTime?).files.map (·.1) =
      out.charts.map Chart.fileName ++ [Manifest.fileName] := by
    simp [delivery, Function.comp_def]
  -- charts have different names, and the manifest has another extension
  have hnodup : ((out.delivery directory maxTime?).files.map (·.1)).Nodup := by
    rw [hfiles]
    refine List.nodup_append.mpr ⟨?_, List.nodup_singleton _, ?_⟩
    · rw [List.Nodup, List.pairwise_map] at hnames ⊢
      exact hnames.imp fun hne heq => hne (Chart.fileName_injective heq)
    · intro a ha b hb
      obtain ⟨c, -, rfl⟩ := List.mem_map.mp ha
      rw [List.mem_singleton.mp hb]
      exact c.fileName_ne_manifest
  refine ⟨hfiles, ?_, ?_, ?_⟩
  · rw [List.Nodup, List.pairwise_map] at hnodup ⊢
    exact hnodup.imp fun hne heq => hne (Path.join_injective heq)
  · intro f hf
    have hname : f.1 ∈ out.charts.map Chart.fileName ++ [Manifest.fileName] :=
      hfiles ▸ List.mem_map_of_mem hf
    rcases List.mem_append.mp hname with hchart | hmanifest
    · obtain ⟨c, hc, heq⟩ := List.mem_map.mp hchart
      rw [← heq]
      exact ⟨c.proper_fileName, Chart.no_slash_fileName (hcheck c hc)⟩
    · rw [List.mem_singleton.mp hmanifest]
      exact ⟨⟨by decide, by decide, by decide⟩, by decide⟩
  · intro c hc text
    have hown : (c.fileName, Document.write c) ∈ (out.delivery directory maxTime?).files :=
      List.mem_append_left _ (List.mem_map.mpr ⟨c, hc, rfl⟩)
    constructor
    · -- no other file has the name
      intro hmem
      exact congrArg Prod.snd (List.inj_on_of_nodup_map hnodup hmem hown rfl)
    · rintro rfl
      exact hown

/-! ### Writing it -/

namespace Delivery

open FileTree

/-- The directory and all files are where they should be, and of the rest nothing has changed but
that directories were made on the way. The place `dest` is where the path of the directory leads in
the end; on the way there, the path may go up and down and through places that are made only now. -/
structure Delivered (d : Delivery) (fs fs' : FileSystem) (dest : List String) : Prop where
  /-- the program still runs in the same place -/
  working : fs'.working = fs.working
  /-- the path of the directory leads to a directory -/
  directory : fs'.reach? d.directory = some dest ∧ fs'.root.kindAt? dest = some .directory
  /-- the path of each file leads into it, and there is the text -/
  files : ∀ f ∈ d.files, fs'.locate? (Path.join d.directory f.1) = some (dest ++ [f.1]) ∧
    fs'.root.kindAt? (dest ++ [f.1]) = some (.file (some f.2))
  /-- any other place is as it was, or is a directory now on the way to the first -/
  others : ∀ place, (∀ f ∈ d.files, place ≠ dest ++ [f.1]) →
    fs'.root.kindAt? place = fs.root.kindAt? place ∨
      fs.root.kindAt? place = none ∧ fs'.root.kindAt? place = some .directory ∧
        ∃ k, fs'.root.walk (fs.origin d.directory) ((Path.names d.directory).take k) = some place

variable {directory : String} {files : List (String × String)} {fs : FileSystem}
  {dest : List String}

/-- Files that can all be created are created one after the other: none of them is in the way of
those after it. The induction is on the files, with the tree as it is after those before. -/
theorem writeFiles_eq (hslash : ∀ f ∈ files, '/' ∉ f.1.toList)
    (hreach : fs.reach? directory = some dest) (hdest : fs.root.kindAt? dest = some .directory)
    (hcreate : ∀ f ∈ files, (fs.create (Path.join directory f.1) f.2).isSome = true) :
    writeFiles directory files fs = (.ok (), fs.withFiles dest files) := by
  induction files generalizing fs with
  | nil => rfl
  | cons f files ih =>
    obtain ⟨hslash₁, hslash'⟩ := List.forall_mem_cons.mp hslash
    obtain ⟨hcreate₁, hcreate'⟩ := List.forall_mem_cons.mp hcreate
    obtain ⟨fs₁, hfs₁⟩ := Option.isSome_iff_exists.mp hcreate₁
    obtain ⟨-, hfree, rfl⟩ := (FileSystem.create_join_at hslash₁ hreach hdest).mp hfs₁
    obtain ⟨hdest', hready⟩ := ready_putFile hdest hfree f.2
    have hput := @persists_put _ _ _ (.file (some f.2)) hdest hfree fun _ => rfl
    have hreach' := FileSystem.reach?_of_persists hput hreach
    rw [writeFiles, hfs₁]
    refine ih hslash' hreach' hdest' fun g hg => Option.isSome_iff_exists.mpr ?_
    -- whether a file can be created is decided by its path, and by what stands in its place
    obtain ⟨fs₂, hfs₂⟩ := Option.isSome_iff_exists.mp (hcreate' g hg)
    obtain ⟨hpath, hfree', -⟩ :=
      (FileSystem.create_join_at (hslash' g hg) hreach hdest).mp hfs₂
    exact ⟨_, (FileSystem.create_join_at (hslash' g hg) hreach' hdest').mpr
      ⟨hpath, hready g.1 hfree', rfl⟩⟩

/-- A file in a directory is where its path leads. The path of the directory may end in a slash or
be empty. -/
theorem locate?_join {name : String} (hname : Path.Proper name) (hslash : '/' ∉ name.toList)
    (husable : Path.isUsable (Path.join directory name) = true)
    (hreach : fs.reach? directory = some dest) (hdest : fs.root.kindAt? dest = some .directory)
    (hfile : fs.root.kindAt? (dest ++ [name]) ≠ none) :
    fs.locate? (Path.join directory name) = some (dest ++ [name]) := by
  obtain ⟨lead, hlead, hnames⟩ := Path.exists_lead directory
  rw [FileSystem.locate?, if_pos husable, FileSystem.reach?, FileSystem.origin_join fs _ hslash,
    hnames name hslash]
  refine walk_append_eq_some.mpr ⟨dest, (walk_lead_iff hlead hdest).mp hreach, ?_⟩
  rw [← next_proper hname] at hfile ⊢
  exact walk_cons_eq_some.mpr ⟨hdest, hfile, rfl⟩

/-- **A delivery that can be carried out** is carried out, and all that it changes is what it is to
change. Whether it can be carried out is asked of the file system with the directory in it but
without the files, and that is enough: the files do not get into each other's way. -/
theorem delivered_of_create {d : Delivery} {out : Compiled} (hd : d.Covers out) {fs₀ : FileSystem}
    (hmake : fs.makeDirectories d.directory = some fs₀)
    (hcreate : ∀ f ∈ d.files, (fs₀.create (Path.join d.directory f.1) f.2).isSome = true) :
    ∃ dest, d.perform fs = (.ok (), fs₀.withFiles dest d.files) ∧
      d.Delivered fs (fs₀.withFiles dest d.files) dest := by
  obtain ⟨hworking, hpaved⟩ := FileSystem.makeDirectories_paved hmake
  have hslash : ∀ f ∈ d.files, '/' ∉ f.1.toList := fun f hf => (hd.direct f hf).2
  have hnames : (d.files.map (·.1)).Nodup := by
    have hapart := hd.apart
    rw [List.Nodup, List.pairwise_map] at hapart ⊢
    exact hapart.imp fun hne heq => hne (congrArg _ heq)
  -- there is at least one file, and its creation tells where the directory is
  obtain ⟨manifest, hmanifest, -⟩ : ∃ f ∈ d.files, f.1 = "timers.json" :=
    List.mem_map.mp (hd.names ▸ List.mem_append_right _ (List.mem_singleton.mpr rfl))
  obtain ⟨fs₁, hfs₁⟩ := Option.isSome_iff_exists.mp (hcreate manifest hmanifest)
  obtain ⟨-, dest, hreach, hdest, -⟩ :=
    (FileSystem.create_join (hslash manifest hmanifest)).mp hfs₁
  have hpath : ∀ f ∈ d.files, Path.isUsable (Path.join d.directory f.1) = true ∧
      fs₀.root.kindAt? (dest ++ [f.1]) ≠ some .directory := by
    intro f hf
    obtain ⟨fs₁, hfs₁⟩ := Option.isSome_iff_exists.mp (hcreate f hf)
    obtain ⟨⟨husable, -⟩, hfree, -⟩ :=
      (FileSystem.create_join_at (hslash f hf) hreach hdest).mp hfs₁
    exact ⟨husable, hfree⟩
  have hfree := fun f hf => (hpath f hf).2
  have hpersists := persists_withFiles hdest hfree
  have hdest' := hpersists.directory _ hdest
  have hreach' := FileSystem.reach?_of_persists hpersists hreach
  refine ⟨dest, ?_, hworking, ⟨hreach', hdest'⟩, fun f hf => ?_, fun place hplace => ?_⟩
  · rw [perform, hmake]
    exact writeFiles_eq hslash hreach hdest hcreate
  · have hfile := kindAt?_withFiles_of_mem hdest hfree hnames hf
    exact ⟨locate?_join (hd.direct f hf).1 (hslash f hf) (hpath f hf).1 hreach' hdest'
      (hfile.symm ▸ Option.some_ne_none _), hfile⟩
  · have hother : (fs₀.withFiles dest d.files).root.kindAt? place = fs₀.root.kindAt? place :=
      kindAt?_withFiles_of_ne hdest hfree hplace
    rw [hother]
    rcases hpaved place with hsame | ⟨hnone, hmade, k, hway⟩
    · exact .inl hsame
    · exact .inr ⟨hnone, hmade, k, hpersists.walk hway⟩

end Delivery

/-! ### Conversions -/

/-- Once the models are compiled, it is settled what is written. -/
theorem Command.prepare_convert {look : String → Option FileTree} {models : List String}
    (output : String) (maxTime? : Option UInt64) {out : Compiled}
    (h : Models.compile look models = .ok out) :
    ∃ line, (Command.convert models output maxTime?).prepare look =
      .ok (some (out.delivery output maxTime?), line) := by
  rw [prepare, h]
  exact ⟨_, rfl⟩

/-- **A conversion writes one file for each chart, and the manifest, and touches nothing else.** If
the models cannot be compiled, nothing is touched. If they can, there is one file for each chart
that comes out, with the text of that chart, and the manifest; their paths are all different, and
all lead into the directory itself. Given that the directory and each of the files can be created,
the files are put there, each of them once, and no other file has changed: all that may be there
besides are directories on the way. -/
theorem convert_writes (models : List String) (output : String) (maxTime? : Option UInt64)
    (fs : FileSystem) :
    (∀ f, Models.compile fs.find? models = .error f →
      (Command.convert models output maxTime?).run fs = (.error f, fs)) ∧
    ∀ out, Models.compile fs.find? models = .ok out →
      (out.delivery output maxTime?).Covers out ∧
      ∀ fs₀, fs.makeDirectories output = some fs₀ →
        (∀ f ∈ (out.delivery output maxTime?).files,
          (fs₀.create (Path.join output f.1) f.2).isSome = true) →
        ∃ line dest, (Command.convert models output maxTime?).run fs =
            (.ok line, fs₀.withFiles dest (out.delivery output maxTime?).files) ∧
          (out.delivery output maxTime?).Delivered fs
            (fs₀.withFiles dest (out.delivery output maxTime?).files) dest := by
  refine ⟨fun f hf => ?_, fun out hout => ?_⟩
  · rw [Command.run, Command.prepare, hf, error_bind]
  · obtain ⟨hcheck, hnames⟩ := Models.check_of_compile hout
    have hcovers := out.covers_delivery hcheck hnames output maxTime?
    refine ⟨hcovers, fun fs₀ hmake hcreate => ?_⟩
    obtain ⟨dest, hperform, hdelivered⟩ := Delivery.delivered_of_create hcovers hmake hcreate
    obtain ⟨line, hprepare⟩ := Command.prepare_convert output maxTime? hout
    refine ⟨line, dest, ?_, hdelivered⟩
    rw [Command.run, hprepare]
    simp only [hperform]

namespace Sample

/-- Two documents in a directory. -/
def documents : FileTree :=
  .directory [("a.scxml", .file (some (Document.write (serving "a")))),
    ("b.scxml", .file (some (Document.write (asking "b"))))]

/-- The documents beside a file that is no text, and not where the program runs. -/
def workplace : FileSystem :=
  ⟨.directory [("m", documents), ("notes", .file none), ("w", .directory [])], ["w"]⟩

/-- The same with one more directory. -/
def workplaceWithRoom : FileSystem :=
  ⟨.directory [("m", documents), ("notes", .file none), ("w", .directory []),
    ("out", .directory [])], ["w"]⟩

/-- The documents of the sample can be compiled, one by an absolute path and one by a path that goes
up from the working directory. -/
theorem compile_workplace : ∃ out,
    Models.compile workplace.find? ["/m/a.scxml", "../m/b.scxml"] = .ok out ∧
      out.charts.map (·.name) = ["a", "b", "srv_handler_set_bool"] := by
  have hcompiled : (Network.compile scriptInterpreter [serving "a", asking "b"]).toOption.any
      (fun out => out.charts.map (·.name) == ["a", "b", "srv_handler_set_bool"]) = true := by
    decide +kernel
  obtain ⟨out, hout, hnames⟩ := exists_of_any hcompiled
  have hfirst : workplace.locate? "/m/a.scxml" = some ["m", "a.scxml"] := by decide +kernel
  have hsecond : workplace.locate? "../m/b.scxml" = some ["m", "b.scxml"] := by decide +kernel
  have hserving : Document.read (Document.write (serving "a")) = .ok (serving "a") :=
    Document.read_write (by decide +kernel) (by decide +kernel) (by decide +kernel)
  have hasking : Document.read (Document.write (asking "b")) = .ok (asking "b") :=
    Document.read_write (by decide +kernel) (by decide +kernel) (by decide +kernel)
  have hload : Models.load workplace.find? ["/m/a.scxml", "../m/b.scxml"] =
      .ok [serving "a", asking "b"] := by
    have hsources : ["/m/a.scxml", "../m/b.scxml"].flatMap (Models.sources workplace.find?) =
        [⟨"/m/a.scxml", some (Document.write (serving "a"))⟩,
          ⟨"../m/b.scxml", some (Document.write (asking "b"))⟩] := by
      simp only [List.flatMap_cons, List.flatMap_nil, Models.sources, FileSystem.find?, hfirst,
        hsecond]
      rfl
    rw [Models.load, hsources]
    refine mapM_eq_ok.mpr (.cons ?_ (.cons ?_ .nil))
    · exact Models.Source.read_eq_ok.mpr ⟨_, rfl, hserving⟩
    · exact Models.Source.read_eq_ok.mpr ⟨_, rfl, hasking⟩
  refine ⟨out, ?_, eq_of_beq hnames⟩
  rw [Models.compile, hload, ok_bind, hout]
  rfl

end Sample

open Sample in
/-- An absolute path to a directory that is not there yet; it goes up on the way and ends in a
slash. The models are called by an absolute path, and by one that leaves the directory in which the
program runs. -/
theorem convert_writes_sample :
    ∃ out line dest, Models.compile workplace.find? ["/m/a.scxml", "../m/b.scxml"] = .ok out ∧
      out.charts.map (·.name) = ["a", "b", "srv_handler_set_bool"] ∧
      (Command.convert ["/m/a.scxml", "../m/b.scxml"] "/m/../out/" none).run workplace =
        (.ok line, workplaceWithRoom.withFiles dest (out.delivery "/m/../out/" none).files) ∧
      (out.delivery "/m/../out/" none).Delivered workplace
        (workplaceWithRoom.withFiles dest (out.delivery "/m/../out/" none).files) dest := by
  obtain ⟨out, hout, hnames⟩ := compile_workplace
  obtain ⟨hcovers, hrun⟩ := (convert_writes ["/m/a.scxml", "../m/b.scxml"] "/m/../out/" none
    workplace).2 out hout
  have hpieces : Path.names "/m/../out/" = ["", "m", "..", "out", ""] := by decide +kernel
  have habsolute : Path.isAbsolute "/m/../out/" = true := by decide +kernel
  have hmake : workplace.makeDirectories "/m/../out/" = some workplaceWithRoom := by
    have husable : Path.isUsable "/m/../out/" = true := by decide +kernel
    simp only [FileSystem.makeDirectories, FileSystem.origin, hpieces, husable, habsolute]
    rfl
  have hreach : workplaceWithRoom.reach? "/m/../out/" = some ["out"] := by
    rw [FileSystem.reach?, FileSystem.origin, habsolute, hpieces]
    rfl
  have hready : ∀ name ∈ ["a.scxml", "b.scxml", "srv_handler_set_bool.scxml", "timers.json"],
      '/' ∉ name.toList ∧ (Path.isUsable (Path.join "/m/../out/" name) = true ∧
        Path.isName name = true) ∧
        workplaceWithRoom.root.kindAt? (["out"] ++ [name]) ≠ some .directory := by
    decide +kernel
  have hcreate : ∀ f ∈ (out.delivery "/m/../out/" none).files,
      (workplaceWithRoom.create (Path.join "/m/../out/" f.1) f.2).isSome = true := by
    intro f hf
    have hfile : f.1 ∈ (out.charts.map (·.name)).map (· ++ ".scxml") ++ ["timers.json"] := by
      rw [List.map_map]
      exact hcovers.names ▸ List.mem_map_of_mem hf
    rw [hnames] at hfile
    obtain ⟨hslash, hpath, hfree⟩ := hready f.1 hfile
    exact Option.isSome_iff_exists.mpr
      ⟨_, (FileSystem.create_join_at hslash hreach rfl).mpr ⟨hpath, hfree, rfl⟩⟩
  obtain ⟨line, dest, hline, hdelivered⟩ := hrun workplaceWithRoom hmake hcreate
  exact ⟨out, line, dest, hout, hnames, hline, hdelivered⟩

end ChartNet
