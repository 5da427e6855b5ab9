import Mathlib.Data.List.TakeWhile
import NodeWorkflow.Proofs.Confinement

/-!
# Templates under their short names

The short name of a template is its file's name without the ending. Both ways to ask for a template
take a short name and more: a graph is given out under the name of its file too, so that an ending
is left out once more before it is put back, and a search takes ids, of which the first that fits
wins. A template can so be listed under a short name that means another one.

## Main definitions

* `Directory.IsPlain` — a folder in which all files of templates hold objects.
* `Directory.fileFor` — the file that a name without slashes stands for.
* `Directory.Fits` — a name is short enough to be followed.
* `Template.sought` — the template to which a search for a short name comes.

## Main statements

* `Directory.pathOf_eq` — a name without slashes leads to its file.
* `Directory.outcome_get_of_bytes`, `Directory.get_of_no_bytes` — what is given out for a file.
* `Template.find_slug` — the first template with the id wins, and then the one with the name.
* `Directory.get_and_find_slug` — what each listed template's short name gives.
-/

namespace NodeWorkflow

/-! ## Names as paths -/

/-- A name is a path of its own. -/
theorem Path.ofText_eq_of_isName {name : String} (h : ∀ c ∈ name.toList, c ≠ '/' ∧ c.toNat ≠ 0)
    (hname : isName name.toList = true) : ofText name = .ok ⟨0, [name]⟩ := by
  have hslash : '/' ∉ name.toList := fun hmem => (h '/' hmem).1 rfl
  have hzero : (name.toList.any fun c => c.toNat = 0) = false := by
    rw [List.any_eq_false]
    intro c hc
    simpa using (h c hc).2
  have hroot : name.toList.takeWhile (· = '/') = [] := by
    rw [List.takeWhile_eq_nil_iff]
    intro hlength
    simpa using (h _ (List.getElem_mem hlength)).1
  rw [ofText, hzero, if_neg Bool.false_ne_true, ofChars, hroot, pieces_of_not_mem hslash,
    List.filter_cons_of_pos hname]
  simp [rootSlashes, String.ofList_toList]

/-! ## Short names -/

namespace Template

variable {stem s : String}

theorem withoutEnd_append (ending text : List Char) :
    withoutEnd ending (text ++ ending) = text := by
  rw [withoutEnd, if_pos (List.isSuffixOf_iff_suffix.mpr (List.suffix_append text ending)),
    List.length_append, Nat.add_sub_cancel, List.take_left]

theorem withoutBeginning_append (beginning text : List Char) :
    withoutBeginning beginning (beginning ++ text) = text := by
  rw [withoutBeginning, if_pos (List.isPrefixOf_iff_prefix.mpr (List.prefix_append beginning text)),
    List.drop_left]

/-- The short name of a listed template is that of its file. -/
theorem slug_listed (stem : String) : slug (nameBeginning ++ (stem ++ nameEnding)) = stem := by
  rw [slug, String.toList_append, String.toList_append, withoutBeginning_append, withoutEnd_append,
    String.ofList_toList]

/-- A name without slashes has no beginning to leave out. -/
theorem slug_of_not_mem (h : '/' ∉ s.toList) :
    slug s = String.ofList (withoutEnd nameEnding.toList s.toList) := by
  have hbeginning : nameBeginning.toList.isPrefixOf s.toList = false := by
    rw [Bool.eq_false_iff, Ne, List.isPrefixOf_iff_prefix]
    intro hbegins
    exact h (hbegins.subset (by decide))
  rw [slug, withoutBeginning, hbeginning]
  rfl

end Template

/-! ## Searches -/

namespace Template

/-- The template to which a search for the short name of `t` comes, with `earlier` listed before
it. -/
def sought (earlier : List Template) (t : Template) : Template :=
  (earlier.find? fun u => u.id? == some (slug t.name)).getD t

/-- **The first template with the id wins, and then the one with the name**, if no template before
it has this name. -/
theorem find_slug {earlier later : List Template} {t : Template}
    (hslugs : ∀ u ∈ earlier, slug u.name ≠ slug t.name)
    (hgraphs : ∀ u ∈ earlier ++ t :: later, u.workflow.isSome) :
    ∃ given, (sought earlier t).workflow = some given ∧
      find (earlier ++ t :: later) (.str (slug t.name)) = .ok (sought earlier t, given) := by
  suffices hfound : ∃ given, (sought earlier t).workflow = some given ∧
      ((earlier ++ t :: later).findSome? fun u =>
        if u.answersTo (.str (slug t.name)) then u.workflow.map fun workflow => (u, workflow)
        else none) = some (sought earlier t, given) by
    obtain ⟨given, hgiven, hfound⟩ := hfound
    refine ⟨given, hgiven, ?_⟩
    rw [find, hfound]
  induction earlier with
  | nil =>
      obtain ⟨given, hgiven⟩ := Option.isSome_iff_exists.mp (hgraphs t List.mem_cons_self)
      refine ⟨given, hgiven, ?_⟩
      rw [List.nil_append, List.findSome?_cons, if_pos (answersTo_slug t), hgiven]
      rfl
  | cons u earlier ih =>
      rw [List.forall_mem_cons] at hslugs
      rw [List.cons_append, List.forall_mem_cons] at hgraphs
      have hanswers : u.answersTo (.str (slug t.name)) = (u.id? == some (slug t.name)) := by
        rw [answersTo, beq_false_of_ne hslugs.1, Bool.or_false]
      rw [List.cons_append, List.findSome?_cons, hanswers, sought, List.find?_cons]
      cases hid : u.id? == some (slug t.name) with
      | true =>
          obtain ⟨given, hgiven⟩ := Option.isSome_iff_exists.mp hgraphs.1
          exact ⟨given, hgiven, by rw [if_pos rfl, hgiven]; rfl⟩
      | false => exact ih hslugs.2 hgraphs.2

end Template

namespace Directory

variable {d : Directory} {folder : Place} {file name : String}

/-! ## Files and their names -/

/-- The file that a name without slashes stands for. -/
def fileFor (name : String) : String :=
  if isTemplateName name then name else name ++ Template.nameEnding

theorem isTemplateName_append (stem : String) :
    isTemplateName (stem ++ Template.nameEnding) = true := by
  rw [isTemplateName, String.toList_append, List.isSuffixOf_iff_suffix]
  exact List.suffix_append _ _

theorem exists_stem (h : isTemplateName file = true) :
    ∃ stem, file = stem ++ Template.nameEnding := by
  obtain ⟨stem, hstem⟩ := List.isSuffixOf_iff_suffix.mp h
  refine ⟨String.ofList stem, String.toList_inj.mp ?_⟩
  rw [String.toList_append, String.toList_ofList, hstem]

theorem isTemplateName_fileFor (name : String) : isTemplateName (fileFor name) = true := by
  rw [fileFor]
  split
  · assumption
  · exact isTemplateName_append name

/-- The ending of a short name is left out once, and put back. -/
theorem slug_append_nameEnding (h : '/' ∉ name.toList) :
    Template.slug name ++ Template.nameEnding = fileFor name := by
  rw [Template.slug_of_not_mem h, fileFor]
  cases hname : isTemplateName name with
  | true =>
      obtain ⟨stem, rfl⟩ := exists_stem hname
      rw [if_pos rfl, String.toList_append, Template.withoutEnd_append, String.ofList_toList]
  | false =>
      rw [isTemplateName] at hname
      rw [withoutEnd, hname, if_neg Bool.false_ne_true, if_neg Bool.false_ne_true,
        String.ofList_toList]

/-- **A name without slashes leads to its file.** -/
theorem pathOf_eq (d : Directory) (hname : ∀ c ∈ name.toList, c ≠ '/' ∧ c.toNat ≠ 0) :
    d.pathOf name = .ok (d.filePath (fileFor name)) := by
  have hfile : ∀ c ∈ (fileFor name).toList, c ≠ '/' ∧ c.toNat ≠ 0 := by
    intro c hc
    rw [fileFor] at hc
    split at hc
    · exact hname c hc
    · rw [String.toList_append, List.mem_append] at hc
      rcases hc with hc | hc
      · exact hname c hc
      · revert c
        simp [Template.nameEnding]
  have hisName : Path.isName (fileFor name).toList = true := by
    obtain ⟨stem, hstem⟩ := exists_stem (isTemplateName_fileFor name)
    rw [hstem, String.toList_append]
    exact Path.isName_append_ending stem.toList
  rw [pathOf, slug_append_nameEnding fun hmem => (hname '/' hmem).1 rfl,
    Path.ofText_eq_of_isName hfile hisName]
  rfl

/-! ## Names that can be followed -/

/-- A name is short enough to be followed. -/
structure Fits (d : Directory) (name : String) : Prop where
  short : name.utf8ByteSize ≤ FileTree.nameLimit
  shortPath : (d.filePath name).text.utf8ByteSize ≤ FileTree.pathLimit

/-- All paths of files are written alike up to the name. -/
theorem exists_text_filePath (d : Directory) :
    ∃ beginning : String, ∀ name ≠ "", (d.filePath name).text = beginning ++ name := by
  refine ⟨String.ofList (List.replicate d.path.slashes '/') ++
    if d.path.names = [] then "" else "/".intercalate d.path.names ++ "/", fun name hname => ?_⟩
  have hwritten : "/".intercalate (d.path.names ++ [name]) =
      (if d.path.names = [] then "" else "/".intercalate d.path.names ++ "/") ++ name := by
    split
    · rename_i hnil
      simp [hnil]
    · rename_i hne
      rw [String.intercalate_append_of_ne_nil hne (List.cons_ne_nil name []),
        String.intercalate_singleton]
  rw [Path.text, filePath, hwritten, ← String.append_assoc, if_neg]
  intro hempty
  have hlength := congrArg String.utf8ByteSize hempty
  rw [String.utf8ByteSize_append] at hlength
  have hpos : name.utf8ByteSize ≠ 0 := fun hzero => hname (String.utf8ByteSize_eq_zero_iff.mp hzero)
  have hnone : "".utf8ByteSize = 0 := rfl
  omega

/-- A beginning of a name that can be followed can be followed. -/
theorem Fits.of_append {ending : String} (h : d.Fits (name ++ ending)) (hname : name ≠ "") :
    d.Fits name := by
  obtain ⟨beginning, htext⟩ := d.exists_text_filePath
  have hboth : name ++ ending ≠ "" := fun hempty => hname (String.append_eq_empty_iff.mp hempty).1
  obtain ⟨hsize, hpath⟩ := h
  rw [htext _ hboth, String.utf8ByteSize_append, String.utf8ByteSize_append] at hpath
  rw [String.utf8ByteSize_append] at hsize
  refine ⟨by omega, ?_⟩
  rw [htext _ hname, String.utf8ByteSize_append]
  omega

/-- What is read can be followed. -/
theorem Fits.of_bytesOf? (hd : d.IsAt folder) (hname : name ≠ Path.up) {bytes : List UInt8}
    (h : d.bytesOf? name = some bytes) : d.Fits name := by
  obtain ⟨place, hfind, -⟩ := FileTree.mem_of_read (eq_ok_of_toOption h)
  rw [FileTree.find] at hfind
  split at hfind
  · cases hfind
  · rename_i hpath
    refine ⟨?_, Nat.not_lt.mp hpath⟩
    change d.files.walk (d.path.start d.files.home) (d.path.names ++ [name]) = _ at hfind
    rw [FileTree.walk_concat hd.walk name, FileTree.walk, hd.noFile, if_neg (by simp),
      if_neg hname] at hfind
    split at hfind
    · cases hfind
    · rename_i hlong
      exact Nat.not_lt.mp hlong

/-! ## What is given out -/

/-- A name leads to a file just if there are bytes in the folder under the name of the file. -/
theorem holds_filePath (hd : d.IsAt folder) (hfile : isTemplateName file = true)
    (hfits : d.Fits file) :
    d.holds (d.filePath file) = .ok (d.files.bytesAt? (folder ++ [file])).isSome := by
  have hplace : ((d.filePath file).place d.files.home).dropLast = d.path.place d.files.home := by
    rw [Path.place_concat (d.filePath file) d.files.home rfl (ne_up_of_isTemplateName hfile),
      List.dropLast_concat]
    rfl
  rw [holds, if_pos hplace, FileTree.isFile, find_filePath hd hfile hfits.short hfits.shortPath,
    FileTree.isThere]
  cases hbytes : d.files.bytesAt? (folder ++ [file]) with
  | some bytes => simp [hbytes]
  | none =>
      cases d.files.isFolderAt (folder ++ [file]) with
      | true => simp [hbytes]
      | false => simp

/-- Bytes that hold an object are no failure. -/
theorem failureIn?_of_objectIn? {bytes : List UInt8} {workflow : Fields}
    (h : objectIn? bytes = some workflow) : failureIn? bytes = none := by
  obtain ⟨text, htext, hobject⟩ := Option.bind_eq_some_iff.mp h
  simp only [failureIn?, htext]
  cases hread : Json.read text with
  | ok v => rfl
  | error e =>
      rw [hread] at hobject
      cases hobject

/-- The object in a file is given out under each name that stands for the file. -/
theorem outcome_get_of_bytes (hd : d.IsAt folder)
    (hname : ∀ c ∈ name.toList, c ≠ '/' ∧ c.toNat ≠ 0) (hfits : d.Fits (fileFor name))
    {bytes : List UInt8} (hbytes : d.files.bytesAt? (folder ++ [fileFor name]) = some bytes)
    {workflow : Fields} (hobject : objectIn? bytes = some workflow) :
    (d.get name).outcome = .ok workflow := by
  have hfile := isTemplateName_fileFor name
  have hholds : d.holds (d.filePath (fileFor name)) = .ok true := by
    rw [holds_filePath hd hfile hfits, hbytes]
    rfl
  have hread : (d.files.read (d.filePath (fileFor name))).toOption = some bytes :=
    (bytesOf?_eq hd hfile hfits.short hfits.shortPath).trans hbytes
  rw [outcome_get_of_holds (d.pathOf_eq hname) hholds, hread, Option.bind_some, Option.bind_some,
    failureIn?_of_objectIn? hobject, hobject]
  rfl

/-- A name that stands for no file is unknown. -/
theorem get_of_no_bytes (hd : d.IsAt folder)
    (hname : ∀ c ∈ name.toList, c ≠ '/' ∧ c.toNat ≠ 0) (hfits : d.Fits (fileFor name))
    (hbytes : d.files.bytesAt? (folder ++ [fileFor name]) = none) :
    d.get name = Logged.fail (.unknownTemplate name) := by
  refine get_of_holds_eq_false (d.pathOf_eq hname) ?_
  rw [holds_filePath hd (isTemplateName_fileFor name) hfits, hbytes]
  rfl

/-! ## Listed templates -/

/-- A folder in which the names of templates are names of files, and each of these files holds an
object. -/
structure IsPlain (d : Directory) (folder : Place) : Prop extends d.IsAt folder where
  isFileName : ∀ name ∈ d.fileNames, ∀ c ∈ name.toList, c ≠ '/' ∧ c.toNat ≠ 0
  holdsObject : ∀ name ∈ d.fileNames, ∃ bytes workflow,
    d.files.bytesAt? (folder ++ [name]) = some bytes ∧ objectIn? bytes = some workflow

/-- A template as it is listed: its file, its name and its graph. -/
structure IsListed (d : Directory) (folder : Place) (t : Template) (stem : String) : Prop where
  file : stem ++ Template.nameEnding ∈ d.fileNames
  name : t.name = Template.nameBeginning ++ (stem ++ Template.nameEnding)
  fits : d.Fits (stem ++ Template.nameEnding)
  graph : ∃ bytes workflow,
    d.files.bytesAt? (folder ++ [stem ++ Template.nameEnding]) = some bytes ∧
      objectIn? bytes = some workflow ∧ t.workflow = some workflow

variable {t : Template} {stem : String}

theorem IsListed.slug_eq (h : d.IsListed folder t stem) : Template.slug t.name = stem := by
  rw [h.name, Template.slug_listed]

theorem exists_isListed (hd : d.IsAt folder) (hname : name ∈ d.fileNames)
    (ht : d.template? name = some t) :
    ∃ stem, name = stem ++ Template.nameEnding ∧ d.IsListed folder t stem := by
  have htemplate := ((mem_fileNames_iff hd).mp hname).1
  obtain ⟨workflow, hworkflow, rfl⟩ := Option.map_eq_some_iff.mp ht
  obtain ⟨bytes, hbytes, hobject⟩ := Option.bind_eq_some_iff.mp hworkflow
  have hfits := Fits.of_bytesOf? hd (ne_up_of_isTemplateName htemplate) hbytes
  rw [bytesOf?_eq hd htemplate hfits.short hfits.shortPath] at hbytes
  obtain ⟨stem, rfl⟩ := exists_stem htemplate
  exact ⟨stem, rfl, hname, rfl, hfits, bytes, workflow, hbytes, hobject, rfl⟩

/-- A file that can be followed is listed. -/
theorem exists_template? (h : d.IsPlain folder) (hfits : d.Fits file) (hfile : file ∈ d.fileNames) :
    ∃ t, d.template? file = some t ∧ t.name = Template.nameBeginning ++ file := by
  obtain ⟨bytes, workflow, hbytes, hobject⟩ := h.holdsObject file hfile
  have htemplate := ((mem_fileNames_iff h.toIsAt).mp hfile).1
  refine ⟨⟨Template.nameBeginning ++ file, some workflow⟩, ?_, rfl⟩
  rw [template?, bytesOf?_eq h.toIsAt htemplate hfits.short hfits.shortPath, hbytes,
    Option.bind_some, hobject]
  rfl

theorem failure?_eq_none (h : d.IsPlain folder) (hname : name ∈ d.fileNames) :
    d.failure? name = none := by
  have htemplate := ((mem_fileNames_iff h.toIsAt).mp hname).1
  rw [failure?]
  cases hread : d.bytesOf? name with
  | none => rfl
  | some read =>
      obtain ⟨bytes, workflow, hbytes, hobject⟩ := h.holdsObject name hname
      have hfits := Fits.of_bytesOf? h.toIsAt (ne_up_of_isTemplateName htemplate) hread
      rw [bytesOf?_eq h.toIsAt htemplate hfits.short hfits.shortPath, hbytes] at hread
      obtain rfl := Option.some.inj hread
      exact failureIn?_of_objectIn? hobject

/-- No two templates are listed under one short name. -/
theorem pairwise_slug (hd : d.IsAt folder) :
    (d.fileNames.filterMap d.template?).Pairwise fun u t =>
      Template.slug u.name ≠ Template.slug t.name := by
  rw [List.pairwise_filterMap]
  refine d.pairwise_fileNames.imp_of_mem fun hfirst hsecond hlt u hu t ht heq => ?_
  obtain ⟨first, rfl, hlistedFirst⟩ := exists_isListed hd hfirst hu
  obtain ⟨second, rfl, hlistedSecond⟩ := exists_isListed hd hsecond ht
  rw [hlistedFirst.slug_eq, hlistedSecond.slug_eq] at heq
  rw [heq] at hlt
  exact absurd hlt (lt_irrefl _)

/-- A plain folder is listed. -/
theorem outcome_list_of_isPlain (h : d.IsPlain folder) :
    d.list.outcome = .ok (d.fileNames.filterMap d.template?) := by
  have hnone : d.fileNames.findSome? d.failure? = none :=
    List.findSome?_eq_none_iff.mpr fun name hname => failure?_eq_none h hname
  rw [outcome_list h.toIsAt, hnone]
  rfl

theorem mem_fileNames_of_bytes (hd : d.IsAt folder) (hfile : isTemplateName file = true)
    {bytes : List UInt8} (hbytes : d.files.bytesAt? (folder ++ [file]) = some bytes) :
    file ∈ d.fileNames := by
  refine (mem_fileNames_iff hd).mpr ⟨hfile, folder ++ [file], ?_, List.prefix_refl _⟩
  refine List.mem_append_left d.files.folders (Entries.mem_keys_iff.mpr ?_)
  rw [Entries.has, ← FileTree.bytesAt?, hbytes]
  rfl

/-- A name gives the graph of a template, as far as it can be copied. -/
def Gives (d : Directory) (name : String) (t : Template) : Prop :=
  ∃ workflow, t.workflow = some workflow ∧
    ((TemplateSource.directory d).get (.str name)).outcome =
      (Json.obj workflow).ensureCopyable.map fun _ => workflow

/-- A search comes to a template. -/
def Finds (d : Directory) (name : String) (t : Template) : Prop :=
  ∃ workflow, t.workflow = some workflow ∧
    ((TemplateSource.directory d).find (.str name)).outcome = .ok (t, workflow)

/-- A listed template is given under each name that stands for its file. -/
theorem IsListed.gives (ht : d.IsListed folder t stem) (hd : d.IsAt folder)
    (hname : ∀ c ∈ name.toList, c ≠ '/' ∧ c.toNat ≠ 0)
    (hfile : fileFor name = stem ++ Template.nameEnding) : d.Gives name t := by
  obtain ⟨bytes, workflow, hbytes, hobject, hworkflow⟩ := ht.graph
  refine ⟨workflow, hworkflow, ?_⟩
  rw [← hfile] at hbytes
  rw [outcome_get_source, outcome_get_of_bytes hd hname (hfile ▸ ht.fits) hbytes hobject]
  rfl

/-- **What the short name of a listed template gives.** A folder in which every file of a template
holds an object is listed, with a template for each file that is read. The short name of a listed
template gives its graph, unless it has an ending itself: then it gives the graph of the template
whose file has this very name, and is unknown if there is none. A search for the short name comes to
the template, unless one before it has the short name as its id: then it comes to the first of
these. -/
theorem get_and_find_slug (h : d.IsPlain folder) :
    ∃ templates, d.list.outcome = .ok templates ∧ templates = d.fileNames.filterMap d.template? ∧
      ∀ earlier t later, templates = earlier ++ t :: later →
        (isTemplateName (Template.slug t.name) = false → d.Gives (Template.slug t.name) t) ∧
        (isTemplateName (Template.slug t.name) = true →
          (∀ u ∈ templates, u.name = Template.nameBeginning ++ Template.slug t.name →
            d.Gives (Template.slug t.name) u) ∧
          ((∀ u ∈ templates, u.name ≠ Template.nameBeginning ++ Template.slug t.name) →
            ((TemplateSource.directory d).get (.str (Template.slug t.name))).outcome =
              .error (.unknownTemplate (Template.slug t.name)))) ∧
        d.Finds (Template.slug t.name) (Template.sought earlier t) := by
  have hd := h.toIsAt
  have hlist := outcome_list_of_isPlain h
  have hlisted : ∀ u ∈ d.fileNames.filterMap d.template?, ∃ stem, d.IsListed folder u stem := by
    intro u hu
    obtain ⟨name, hname, hu⟩ := List.mem_filterMap.mp hu
    obtain ⟨stem, -, hu⟩ := exists_isListed hd hname hu
    exact ⟨stem, hu⟩
  refine ⟨_, hlist, rfl, fun earlier t later hsplit => ?_⟩
  obtain ⟨stem, ht⟩ := hlisted t (hsplit ▸ List.mem_append_right earlier List.mem_cons_self)
  have hstem : ∀ c ∈ stem.toList, c ≠ '/' ∧ c.toNat ≠ 0 := by
    intro c hc
    refine h.isFileName _ ht.file c ?_
    rw [String.toList_append]
    exact List.mem_append_left _ hc
  rw [ht.slug_eq]
  refine ⟨?plain, ?ending, ?search⟩
  case plain =>
    intro hplain
    refine ht.gives hd hstem ?_
    rw [fileFor, hplain, if_neg Bool.false_ne_true]
  case ending =>
    intro hending
    have hfile : fileFor stem = stem := if_pos hending
    constructor
    · intro u hu hname
      obtain ⟨shorter, hu⟩ := hlisted u hu
      refine hu.gives hd hstem (hfile.trans ?_)
      rw [hu.name] at hname
      exact (String.append_right_inj _).mp hname.symm
    · intro hnone
      have hne : stem ≠ "" := by
        rintro rfl
        exact absurd hending (by decide)
      -- the name of this file is shorter than that of the one that was read
      have hfits : d.Fits stem := ht.fits.of_append hne
      have hbytes : d.files.bytesAt? (folder ++ [stem]) = none := by
        refine Option.eq_none_iff_forall_ne_some.mpr fun bytes hbytes => ?_
        have hmem := mem_fileNames_of_bytes hd hending hbytes
        obtain ⟨u, hu, hname⟩ := exists_template? h hfits hmem
        exact hnone u (List.mem_filterMap.mpr ⟨stem, hmem, hu⟩) hname
      rw [outcome_get_source, get_of_no_bytes hd hstem (hfile.symm ▸ hfits) (hfile.symm ▸ hbytes)]
      rfl
  case search =>
    have hslugs := pairwise_slug hd
    rw [hsplit, List.pairwise_append] at hslugs
    have hgraphs : ∀ u ∈ earlier ++ t :: later, u.workflow.isSome := by
      intro u hu
      obtain ⟨_, hlistedThere⟩ := hlisted u (hsplit ▸ hu)
      obtain ⟨_, workflow, -, -, hworkflow⟩ := hlistedThere.graph
      rw [hworkflow]
      rfl
    obtain ⟨given, hgiven, hfind⟩ :=
      Template.find_slug (fun u hu => hslugs.2.2 u hu t List.mem_cons_self) hgraphs
    rw [ht.slug_eq] at hfind
    refine ⟨given, hgiven, ?_⟩
    change (d.find _).outcome = _
    rw [outcome_find, hlist, hsplit]
    exact hfind

/-- A folder with a template whose short name has an ending, and one whose id is the short name of
the next. -/
def overlappingNames : Directory where
  files :=
    { home := ["root"]
      files := [(["root", "workflows", "a.json.json"], [0x7B, 0x7D]),
        (["root", "workflows", "b.json"],
          [0x7B, 0x22, 0x69, 0x64, 0x22, 0x3A, 0x22, 0x63, 0x22, 0x7D]),
        (["root", "workflows", "c.json"], [0x7B, 0x7D])]
      folders := [] }
  path := ⟨0, ["workflows"]⟩

/-- The middle one of these files. -/
theorem objectIn?_overlappingNames :
    objectIn? [0x7B, 0x22, 0x69, 0x64, 0x22, 0x3A, 0x22, 0x63, 0x22, 0x7D] =
      some [("id", .str "c")] := by
  -- values are not compared, texts are
  have htexts : (objectIn? [0x7B, 0x22, 0x69, 0x64, 0x22, 0x3A, 0x22, 0x63, 0x22, 0x7D]).map
      (List.map fun entry => (entry.1, entry.2.string?)) = some [("id", some "c")] := by
    decide +kernel
  obtain ⟨fields, hfields, htexts⟩ := Option.map_eq_some_iff.mp htexts
  obtain ⟨⟨name, v⟩, rfl, hentry⟩ := List.map_eq_singleton_iff.mp htexts
  obtain ⟨rfl, htext⟩ := Prod.mk.inj hentry
  have hv : v = .str "c" := Json.string?_eq_some_iff.mp htext
  rw [hfields, hv]

theorem isAt_overlappingNames : overlappingNames.IsAt ["root", "workflows"] where
  find := by rfl
  isFolder := by rfl
  noFile := by rfl

theorem fileNames_overlappingNames :
    overlappingNames.fileNames = ["a.json.json", "b.json", "c.json"] :=
  fileNames_of_pairwise isAt_overlappingNames (by decide +kernel) (by decide +kernel)

theorem isPlain_overlappingNames : overlappingNames.IsPlain ["root", "workflows"] where
  toIsAt := isAt_overlappingNames
  isFileName := by
    rw [fileNames_overlappingNames]
    simp
  holdsObject := by
    rw [fileNames_overlappingNames, List.forall_mem_cons, List.forall_mem_cons,
      List.forall_mem_singleton]
    exact ⟨⟨_, [], rfl, by rfl⟩, ⟨_, _, rfl, objectIn?_overlappingNames⟩, ⟨_, [], rfl, by rfl⟩⟩

theorem outcome_list_overlappingNames :
    overlappingNames.list.outcome = .ok [⟨"workflows/a.json.json", some []⟩,
      ⟨"workflows/b.json", some [("id", .str "c")]⟩, ⟨"workflows/c.json", some []⟩] := by
  have hfirst : overlappingNames.template? "a.json.json" =
      some ⟨"workflows/a.json.json", some []⟩ := by rfl
  have hsecond : overlappingNames.template? "b.json" =
      some ⟨"workflows/b.json", some [("id", .str "c")]⟩ := by
    have hbytes : overlappingNames.bytesOf? "b.json" =
        some [0x7B, 0x22, 0x69, 0x64, 0x22, 0x3A, 0x22, 0x63, 0x22, 0x7D] := by rfl
    rw [template?, hbytes, Option.bind_some, objectIn?_overlappingNames]
    rfl
  have hthird : overlappingNames.template? "c.json" = some ⟨"workflows/c.json", some []⟩ := by rfl
  rw [outcome_list_of_isPlain isPlain_overlappingNames, fileNames_overlappingNames,
    List.filterMap_cons_some hfirst, List.filterMap_cons_some hsecond,
    List.filterMap_cons_some hthird, List.filterMap_nil]

/-- The second template is given under its short name, and the first is not; a search for the short
name of the third comes to the second. -/
theorem get_and_find_slug_overlappingNames :
    overlappingNames.IsPlain ["root", "workflows"] ∧
      overlappingNames.Gives "b" ⟨"workflows/b.json", some [("id", .str "c")]⟩ ∧
      overlappingNames.Finds "c" ⟨"workflows/b.json", some [("id", .str "c")]⟩ ∧
      ((TemplateSource.directory overlappingNames).get (.str "a.json")).outcome =
        .error (.unknownTemplate "a.json") := by
  obtain ⟨templates, hlist, -, heach⟩ := get_and_find_slug isPlain_overlappingNames
  obtain rfl := Except.ok.inj (outcome_list_overlappingNames.symm.trans hlist)
  obtain ⟨-, hending, -⟩ := heach [] _ _ rfl
  obtain ⟨hgives, -, -⟩ := heach [_] _ _ rfl
  obtain ⟨-, -, hfinds⟩ := heach [_, _] _ _ rfl
  refine ⟨isPlain_overlappingNames, hgives (by rfl), hfinds, (hending (by rfl)).2 ?_⟩
  simp only [List.forall_mem_cons]
  decide

/-- The first template is listed and not to be had under its short name, and the last is listed and
not found under its own. -/
theorem unreachable_overlappingNames :
    overlappingNames.IsPlain ["root", "workflows"] ∧
      overlappingNames.list.outcome = .ok [⟨"workflows/a.json.json", some []⟩,
        ⟨"workflows/b.json", some [("id", .str "c")]⟩, ⟨"workflows/c.json", some []⟩] ∧
      Template.slug "workflows/a.json.json" = "a.json" ∧ Template.slug "workflows/c.json" = "c" ∧
      ((TemplateSource.directory overlappingNames).get (.str "a.json")).outcome =
        .error (.unknownTemplate "a.json") ∧
      ((TemplateSource.directory overlappingNames).find (.str "c")).outcome =
        .ok (⟨"workflows/b.json", some [("id", .str "c")]⟩, [("id", .str "c")]) := by
  refine ⟨isPlain_overlappingNames, outcome_list_overlappingNames, by rfl, by rfl, ?_, ?_⟩
  · have hpath : overlappingNames.pathOf "a.json" = .ok ⟨0, ["workflows", "a.json"]⟩ := by rfl
    rw [outcome_get_source, get_of_holds_eq_false hpath (by rfl)]
    rfl
  · change (overlappingNames.find (.str "c")).outcome = _
    rw [outcome_find, outcome_list_overlappingNames]
    rfl

end Directory

end NodeWorkflow
