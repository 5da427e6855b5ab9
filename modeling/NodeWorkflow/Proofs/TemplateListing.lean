import Mathlib.Data.String.Basic
import NodeWorkflow.Proofs.Entries
import NodeWorkflow.Template.Directory

/-!
# Listing a directory of templates

A listing goes through the template files of a directory in the order of their names. Whatever
cannot be opened, is no JSON text or holds no object is passed over with a warning. Three kinds
of bytes are not: those that are no text in UTF-8, and texts whose whole numbers are too long or
whose lists and objects lie too deep in one another are failures of the whole listing, and of
every search, which begins with a listing.

## Main definitions

* `Directory.IsAt` — the path of a directory leads to a folder.
* `Directory.bytesOf?` — what is read from a file of a directory.
* `objectIn?`, `failureIn?` — the object in bytes, and the failure that they are.

## Main statements

* `Directory.mem_fileNames_iff`, `Directory.pairwise_fileNames` — which files are listed, and in
  which order.
* `Directory.bytesOf?_eq` — a file that is there is read.
* `Directory.outcome_list` — what a listing gives.
* `Directory.list_and_find` — a listing is complete, and a search fails only for want of a
  template, just if none of the files stops it.
-/

namespace NodeWorkflow

/-! ## Following a path -/

namespace FileTree

variable {t : FileTree}

/-- The last name of a path is looked up where the others lead. -/
theorem walk_concat {here place : Place} {names : List String} (h : t.walk here names = .ok place)
    (name : String) : t.walk here (names ++ [name]) = t.walk place [name] := by
  induction names generalizing here with
  | nil =>
      obtain rfl := Except.ok.inj h
      rfl
  | cons first names ih =>
      rw [walk] at h
      rw [List.cons_append, walk]
      split at h
      · cases h
      · rename_i hbytes
        rw [if_neg hbytes]
        split at h
        · rename_i hup
          rw [if_pos hup]
          exact ih h
        · rename_i hup
          rw [if_neg hup]
          split at h
          · cases h
          · rename_i hlong
            rw [if_neg hlong]
            split at h
            · rename_i hthere
              rw [if_pos hthere]
              exact ih h
            · cases h

/-- The names in a folder are those that come next on the way to a place. -/
theorem mem_namesIn_iff {folder : Place} {name : String} :
    name ∈ t.namesIn folder ↔
      ∃ place ∈ Entries.keys t.files ++ t.folders, (folder ++ [name]) <+: place := by
  rw [namesIn, List.mem_eraseDups, List.mem_filterMap]
  refine exists_congr fun place => and_congr_right fun _ => ?_
  constructor
  · intro h
    split at h
    · rename_i hprefix
      obtain ⟨rest, rfl⟩ := List.isPrefixOf_iff_prefix.mp hprefix
      rw [List.getElem?_append_right (Nat.le_refl _), Nat.sub_self] at h
      obtain ⟨more, rfl⟩ : ∃ more, rest = name :: more := by
        cases rest with
        | nil => cases h
        | cons first more => exact ⟨more, by rw [Option.some.inj h]⟩
      exact ⟨more, by rw [List.append_assoc]; rfl⟩
    · cases h
  · rintro ⟨more, rfl⟩
    rw [List.append_assoc, if_pos (List.isPrefixOf_iff_prefix.mpr ⟨_, rfl⟩),
      List.getElem?_append_right (Nat.le_refl _), Nat.sub_self]
    rfl

end FileTree

/-! ## What bytes hold -/

/-- The text in bytes, with plain line ends. -/
def textIn? (bytes : List UInt8) : Option String :=
  (Encoding.utf8Text? bytes).map fun text => String.ofList (unixLines text.toList)

/-- The object in bytes, if they are the text of one. -/
def objectIn? (bytes : List UInt8) : Option Fields :=
  (textIn? bytes).bind fun text => (Json.read text).toOption.bind Json.fields?

/-- The failure that bytes are: they are no text, or a text that is not read although it has no
fault. -/
def failureIn? (bytes : List UInt8) : Option Failure :=
  match textIn? bytes with
  | none => some .undecodable
  | some text =>
    match Json.read text with
    | .ok _ | .error (.fault _) => none
    | .error e => some e.failure

/-- No failure of this kind is foreseen. -/
theorem isForeseen_of_failureIn? {bytes : List UInt8} {failure : Failure}
    (h : failureIn? bytes = some failure) : failure.isForeseen = false := by
  rw [failureIn?] at h
  split at h
  · obtain rfl := Option.some.inj h
    rfl
  · split at h
    · cases h
    · cases h
    · rename_i e hfault _
      obtain rfl := Option.some.inj h
      cases e with
      | fault fault => exact absurd rfl (hfault fault)
      | longNumber | tooDeep | undecodable => rfl

/-- A run that drops items, in closed form: the first failure ends it. -/
theorem outcome_filterMapM {α β : Type} {f : α → Logged (Option β)} {stop : α → Option Failure}
    {g : α → Option β}
    (h : ∀ x, (f x).outcome = (stop x).elim (.ok (g x)) .error) (xs : List α) :
    (xs.filterMapM f).outcome = (xs.findSome? stop).elim (.ok (xs.filterMap g)) .error := by
  suffices hloop : ∀ acc, (List.filterMapM.loop f xs acc).outcome =
      (xs.findSome? stop).elim (.ok (acc.reverse ++ xs.filterMap g)) .error from hloop []
  induction xs with
  | nil =>
      intro acc
      simp [List.filterMapM.loop]
  | cons x xs ih =>
      intro acc
      rw [List.filterMapM.loop, Logged.outcome_bind, h x, List.findSome?_cons]
      cases stop x with
      | some failure => rfl
      | none =>
          rw [List.filterMap_cons]
          cases hg : g x with
          | none => exact ih acc
          | some y => exact (ih (y :: acc)).trans (by simp)

namespace Directory

/-- The path of a directory leads to a folder. -/
structure IsAt (d : Directory) (folder : Place) : Prop where
  find : d.files.find d.path = .ok folder
  isFolder : d.files.isFolderAt folder = true
  noFile : d.files.bytesAt? folder = none

/-- What is read under a name. -/
def bytesOf? (d : Directory) (name : String) : Option (List UInt8) :=
  (d.files.read (d.filePath name)).toOption

/-- The template in a file of a directory. -/
def template? (d : Directory) (name : String) : Option Template :=
  ((d.bytesOf? name).bind objectIn?).map fun workflow =>
    ⟨Template.nameBeginning ++ name, some workflow⟩

/-- The failure that a file of a directory is. -/
def failure? (d : Directory) (name : String) : Option Failure :=
  (d.bytesOf? name).bind failureIn?

variable {d : Directory} {folder : Place}

/-! ## Files in order -/

/-- **Which files are listed**: those that lie in the folder under the name of a template. -/
theorem mem_fileNames_iff (hd : d.IsAt folder) {name : String} :
    name ∈ d.fileNames ↔ isTemplateName name = true ∧
      ∃ place ∈ Entries.keys d.files.files ++ d.files.folders, (folder ++ [name]) <+: place := by
  simp only [fileNames, hd.find]
  rw [List.mem_mergeSort, List.mem_filter, FileTree.mem_namesIn_iff, and_comm]

/-- **Files are listed in the order of their names**, each once. -/
theorem pairwise_fileNames (d : Directory) : d.fileNames.Pairwise (· < ·) := by
  rw [fileNames]
  split
  · exact Entries.pairwise_lt_mergeSort (fun _ _ => decide_eq_true_iff)
      ((Entries.nodup_eraseDups _).sublist List.filter_sublist)
  · exact List.Pairwise.nil

/-- Names that stand in their order already are listed as they stand. -/
theorem fileNames_of_pairwise (hd : d.IsAt folder) {names : List String}
    (h : (d.files.namesIn folder).filter isTemplateName = names)
    (hsorted : names.Pairwise fun a b => decide (a ≤ b) = true) : d.fileNames = names := by
  simp only [fileNames, hd.find, h]
  exact List.mergeSort_of_pairwise hsorted

theorem IsAt.walk (hd : d.IsAt folder) :
    d.files.walk (d.path.start d.files.home) d.path.names = .ok folder := by
  have hfind := hd.find
  rw [FileTree.find] at hfind
  split at hfind
  · cases hfind
  · exact hfind

/-- The path of a file leads into the folder, if neither its name nor its path is too long. -/
theorem find_filePath (hd : d.IsAt folder) {name : String} (hn : isTemplateName name = true)
    (hname : name.utf8ByteSize ≤ FileTree.nameLimit)
    (hpath : (d.filePath name).text.utf8ByteSize ≤ FileTree.pathLimit) :
    d.files.find (d.filePath name) =
      if d.files.isThere (folder ++ [name]) then .ok (folder ++ [name]) else .error .missing := by
  have hup : name ≠ Path.up := by
    rintro rfl
    exact absurd hn (by decide)
  rw [FileTree.find, if_neg (Nat.not_lt.mpr hpath)]
  refine (FileTree.walk_concat hd.walk name).trans ?_
  rw [FileTree.walk, hd.noFile, if_neg (by simp), if_neg hup, if_neg (Nat.not_lt.mpr hname)]
  rfl

/-- **A file that is there is read**, if neither its name nor its path is too long. -/
theorem bytesOf?_eq (hd : d.IsAt folder) {name : String} (hn : isTemplateName name = true)
    (hname : name.utf8ByteSize ≤ FileTree.nameLimit)
    (hpath : (d.filePath name).text.utf8ByteSize ≤ FileTree.pathLimit) :
    d.bytesOf? name = d.files.bytesAt? (folder ++ [name]) := by
  rw [bytesOf?, FileTree.read, find_filePath hd hn hname hpath, FileTree.isThere]
  cases hbytes : d.files.bytesAt? (folder ++ [name]) with
  | some bytes => simp [hbytes, bind, Except.bind, pure, Except.pure, Except.toOption]
  | none =>
      cases d.files.isFolderAt (folder ++ [name]) with
      | true => simp [hbytes, bind, Except.bind, throw, throwThe, MonadExceptOf.throw,
          Except.toOption]
      | false => simp [bind, Except.bind, Except.toOption]

/-! ## Listings and searches -/

/-- What becomes of the file that a path leads to. -/
theorem outcome_load_path (d : Directory) (p : Path) :
    (d.load p).outcome =
      ((d.files.read p).toOption.bind failureIn?).elim
        (.ok (((d.files.read p).toOption.bind objectIn?).map fun workflow =>
          ⟨Template.nameBeginning ++ p.fileName, some workflow⟩)) .error := by
  rw [load, FileTree.readJson, FileTree.readText]
  cases d.files.read p with
  | error fault => rfl
  | ok bytes =>
      simp only [Except.map, Except.toOption, Option.bind_some, objectIn?, failureIn?]
      rw [← textIn?]
      cases textIn? bytes with
      | none => rfl
      | some text =>
          cases hread : Json.read text with
          | ok v => cases v <;> simp [hread, Json.fields?, Logged.outcome_bind] <;> rfl
          | error e => cases e <;> simp [hread] <;> rfl

/-- What becomes of one file. -/
theorem outcome_load (d : Directory) (name : String) :
    (d.load (d.filePath name)).outcome =
      (d.failure? name).elim (.ok (d.template? name)) .error := by
  have hname : (d.filePath name).fileName = name := by
    rw [filePath, Path.fileName, List.getLastD_concat]
  rw [outcome_load_path, hname, failure?, template?, bytesOf?]

/-- **What a listing gives.** -/
theorem outcome_list (hd : d.IsAt folder) :
    d.list.outcome =
      (d.fileNames.findSome? d.failure?).elim (.ok (d.fileNames.filterMap d.template?)) .error := by
  have hfolder : d.files.isFolder d.path = true := by
    rw [FileTree.isFolder, hd.find]
    exact hd.isFolder
  rw [list, if_pos hfolder]
  exact outcome_filterMapM d.outcome_load d.fileNames

theorem outcome_find (d : Directory) (wanted : Json) :
    (d.find wanted).outcome = d.list.outcome >>= fun found => Template.find found wanted := by
  rw [find, Logged.outcome_bind]
  rfl

/-- **What stops a listing, and what does not.** The files of a folder are listed in the order
of their names, those that are there with their bytes. If none of them is a failure, the listing
has one template for each that holds an object and none for the others, and a search fails only
if none of these is meant. If one of them is a failure, this failure, which nobody foresees, ends
the listing and every search. -/
theorem list_and_find (hd : d.IsAt folder) :
    d.fileNames.Pairwise (· < ·) ∧
      (∀ name, name ∈ d.fileNames ↔ isTemplateName name = true ∧
        ∃ place ∈ Entries.keys d.files.files ++ d.files.folders, (folder ++ [name]) <+: place) ∧
      (∀ name ∈ d.fileNames, name.utf8ByteSize ≤ FileTree.nameLimit →
        (d.filePath name).text.utf8ByteSize ≤ FileTree.pathLimit →
        d.bytesOf? name = d.files.bytesAt? (folder ++ [name])) ∧
      ((∀ name ∈ d.fileNames, d.failure? name = none) →
        d.list.outcome = .ok (d.fileNames.filterMap d.template?) ∧
          ∀ wanted failure, (d.find wanted).outcome = .error failure →
            failure = .unknownTemplate wanted.inWords) ∧
      (∀ failure, d.fileNames.findSome? d.failure? = some failure →
        failure.isForeseen = false ∧ d.list.outcome = .error failure ∧
          ∀ wanted, (d.find wanted).outcome = .error failure) := by
  refine ⟨d.pairwise_fileNames, fun name => mem_fileNames_iff hd, ?bytes, ?complete, ?stopped⟩
  case bytes =>
    intro name hname
    exact bytesOf?_eq hd ((mem_fileNames_iff hd).mp hname).1
  case complete =>
    intro hnone
    have hlist : d.list.outcome = .ok (d.fileNames.filterMap d.template?) := by
      rw [outcome_list hd, List.findSome?_eq_none_iff.mpr hnone]
      rfl
    refine ⟨hlist, fun wanted failure hfailure => ?_⟩
    rw [outcome_find, hlist] at hfailure
    change Template.find _ wanted = _ at hfailure
    rw [Template.find] at hfailure
    split at hfailure
    · cases hfailure
    · exact (Except.error.inj hfailure).symm
  case stopped =>
    intro failure hfailure
    have hlist : d.list.outcome = .error failure := by
      rw [outcome_list hd, hfailure]
      rfl
    refine ⟨?_, hlist, fun wanted => ?_⟩
    · obtain ⟨name, -, hname⟩ := List.exists_of_findSome?_eq_some hfailure
      obtain ⟨bytes, -, hbytes⟩ := Option.bind_eq_some_iff.mp hname
      exact isForeseen_of_failureIn? hbytes
    · rw [outcome_find, hlist]
      rfl

/-- A folder with a broken text, an object and a folder, all of them under names of
templates. -/
def mixedFiles : Directory where
  files :=
    { home := ["root"]
      files := [(["root", "workflows", "a.json"], [0x7B]),
        (["root", "workflows", "b.json"], [0x7B, 0x7D])]
      folders := [["root", "workflows", "c.json"]] }
  path := ⟨0, ["workflows"]⟩

theorem list_and_find_mixedFiles :
    mixedFiles.IsAt ["root", "workflows"] ∧
      mixedFiles.list.outcome = .ok [⟨"workflows/b.json", some []⟩] ∧
      ∀ wanted failure, (mixedFiles.find wanted).outcome = .error failure →
        failure = .unknownTemplate wanted.inWords := by
  have hd : mixedFiles.IsAt ["root", "workflows"] := ⟨by rfl, by rfl, by rfl⟩
  have hnames : mixedFiles.fileNames = ["a.json", "b.json", "c.json"] :=
    fileNames_of_pairwise hd (by decide +kernel) (by decide +kernel)
  have hnone : ∀ name ∈ mixedFiles.fileNames, mixedFiles.failure? name = none := by
    rw [hnames, List.forall_mem_cons, List.forall_mem_cons, List.forall_mem_singleton]
    exact ⟨by rfl, by rfl, by rfl⟩
  obtain ⟨-, -, -, hcomplete, -⟩ := list_and_find hd
  obtain ⟨hlist, hfind⟩ := hcomplete hnone
  refine ⟨hd, hlist.trans ?_, hfind⟩
  rw [hnames]
  rfl

/-- A folder with a file that is no text in front of one that holds an object. -/
def strayBytes : Directory where
  files :=
    { home := ["root"]
      files := [(["root", "workflows", "a.json"], [0xFF]),
        (["root", "workflows", "b.json"], [0x7B, 0x7D])]
      folders := [["root", "workflows"]] }
  path := ⟨0, ["workflows"]⟩

/-- The second file holds an object, and no listing and no search comes to it. -/
theorem lost_strayBytes :
    strayBytes.IsAt ["root", "workflows"] ∧ "b.json" ∈ strayBytes.fileNames ∧
      strayBytes.template? "b.json" = some ⟨"workflows/b.json", some []⟩ ∧
      strayBytes.list.outcome = .error .undecodable ∧
      (strayBytes.find (.str "b")).outcome = .error .undecodable := by
  have hd : strayBytes.IsAt ["root", "workflows"] := ⟨by rfl, by rfl, by rfl⟩
  have hnames : strayBytes.fileNames = ["a.json", "b.json"] :=
    fileNames_of_pairwise hd (by decide +kernel) (by decide +kernel)
  have hlist : strayBytes.list.outcome = .error .undecodable := by
    rw [outcome_list hd, hnames]
    rfl
  refine ⟨hd, ?_, by rfl, hlist, ?_⟩
  · rw [hnames]
    decide
  · rw [outcome_find, hlist]
    rfl

end Directory

end NodeWorkflow
