import NodeWorkflow.Proofs.TemplateListing
import NodeWorkflow.Proofs.Traversal
import NodeWorkflow.Template.Source

/-!
# Where the names of templates lead

The name of a template comes from outside and may hold slashes and dots. Its short form with the
ending of templates behind it is read as a path from the directory, and such a path always ends in
the name of a file. The path is judged by where it leads if every name on it is a folder; the file
is then looked for along the path as it stands. Without links between files both come to the same
place, so what is given out lies directly in the directory.

## Main definitions

* `Directory.place` — the place of a directory.

## Main statements

* `exists_pieces_append` — an ending without a separator goes to the last piece.
* `FileTree.eq_place_of_find` — a path that can be followed leads to its place.
* `Directory.exists_pathOf` — the path of a name ends in the name of a file.
* `Directory.get_confined` — what is given out lies directly in the directory, and a name that leads
  elsewhere is refused whatever files there are.
-/

namespace NodeWorkflow

/-! ## Pieces of a text -/

theorem pieces_of_not_mem {separator : Char} {cs : List Char} (h : separator ∉ cs) :
    pieces separator cs = [cs] := by
  induction cs with
  | nil => rfl
  | cons c cs ih =>
      have hne : c ≠ separator := fun heq => h (heq ▸ List.mem_cons_self)
      rw [pieces, if_neg hne, ih fun hmem => h (List.mem_cons_of_mem c hmem)]

/-- An ending without a separator goes to the last piece. -/
theorem exists_pieces_append {separator : Char} {ending : List Char} (h : separator ∉ ending)
    (cs : List Char) :
    ∃ before last, pieces separator cs = before ++ [last] ∧
      pieces separator (cs ++ ending) = before ++ [last ++ ending] := by
  induction cs with
  | nil => exact ⟨[], [], rfl, pieces_of_not_mem h⟩
  | cons c cs ih =>
      obtain ⟨before, last, hpieces, happend⟩ := ih
      rw [List.cons_append, pieces, pieces, hpieces, happend]
      by_cases hc : c = separator
      · rw [if_pos hc, if_pos hc]
        exact ⟨[] :: before, last, rfl, rfl⟩
      · rw [if_neg hc, if_neg hc]
        cases before with
        | nil => exact ⟨[], c :: last, rfl, rfl⟩
        | cons first before => exact ⟨(c :: first) :: before, last, rfl, rfl⟩

/-! ## Places -/

namespace Path

/-- What ends like the name of a template is a name, and not that of the folder above. -/
theorem isName_append_ending (file : List Char) :
    isName (file ++ Template.nameEnding.toList) = true := by
  have hdot : file ++ Template.nameEnding.toList ≠ ['.'] := by
    intro h
    have hlength := congrArg List.length h
    simp [Template.nameEnding] at hlength
  have hempty : file ++ Template.nameEnding.toList ≠ [] := by
    simp [Template.nameEnding]
  rw [isName, bne_iff_ne.mpr hempty, bne_iff_ne.mpr hdot, Bool.and_self]

/-- A path that ends in a name of its own leads to a place under this name. -/
theorem place_concat (p : Path) (home : Place) {before : List String} {file : String}
    (hnames : p.names = before ++ [file]) (hfile : file ≠ up) :
    p.place home = before.foldl step (p.start home) ++ [file] := by
  rw [place, hnames, List.foldl_append, List.foldl_cons, List.foldl_nil, step, if_neg hfile]

end Path

namespace FileTree

variable {t : FileTree}

/-- Names that can be followed lead where they lead if all of them are folders. -/
theorem eq_foldl_of_walk {here place : Place} {names : List String}
    (h : t.walk here names = .ok place) : place = names.foldl Path.step here := by
  induction names generalizing here with
  | nil => exact (Except.ok.inj h).symm
  | cons name names ih =>
      rw [walk] at h
      rw [List.foldl_cons, Path.step]
      split at h
      · cases h
      split at h
      · rename_i hup
        rw [if_pos hup]
        exact ih h
      · rename_i hup
        rw [if_neg hup]
        split at h
        · cases h
        split at h
        · exact ih h
        · cases h

/-- **A path that can be followed leads to its place.** -/
theorem eq_place_of_find {p : Path} {place : Place} (h : t.find p = .ok place) :
    place = p.place t.home := by
  rw [find] at h
  split at h
  · cases h
  · exact eq_foldl_of_walk h

end FileTree

/-! ## Names -/

theorem Template.mem_of_mem_slug {name : String} {c : Char} (h : c ∈ (slug name).toList) :
    c ∈ name.toList := by
  have hbeginning : ∀ beginning text : List Char,
      c ∈ withoutBeginning beginning text → c ∈ text := by
    intro beginning text hmem
    rw [withoutBeginning] at hmem
    split at hmem
    · exact List.mem_of_mem_drop hmem
    · exact hmem
  have hend : ∀ ending text : List Char, c ∈ withoutEnd ending text → c ∈ text := by
    intro ending text hmem
    rw [withoutEnd] at hmem
    split at hmem
    · exact List.mem_of_mem_take hmem
    · exact hmem
  rw [slug, String.toList_ofList] at h
  exact hbeginning _ _ (hend _ _ h)

namespace Directory

/-- The place of a directory. -/
def place (d : Directory) : Place :=
  d.path.place d.files.home

variable {d : Directory} {name : String}

theorem ne_up_of_isTemplateName {file : String} (h : isTemplateName file = true) :
    file ≠ Path.up := by
  rintro rfl
  exact absurd h (by decide)

/-- **The path of a name ends in the name of a file**, which is that of a template. -/
theorem exists_pathOf (d : Directory) (hzero : ∀ c ∈ name.toList, c.toNat ≠ 0) :
    ∃ p before file, d.pathOf name = .ok p ∧ p.names = before ++ [file] ∧
      isTemplateName file = true ∧ '/' ∉ file.toList := by
  have hslash : '/' ∉ Template.nameEnding.toList := by decide
  have hending : ∀ c ∈ Template.nameEnding.toList, c.toNat ≠ 0 := by simp [Template.nameEnding]
  have htext : ((Template.slug name ++ Template.nameEnding).toList.any fun c => c.toNat = 0) =
      false := by
    rw [List.any_eq_false]
    intro c hc
    rw [String.toList_append, List.mem_append] at hc
    rcases hc with hc | hc
    · simpa using hzero c (Template.mem_of_mem_slug hc)
    · simpa using hending c hc
  obtain ⟨before, last, hpieces, happend⟩ :=
    exists_pieces_append hslash (Template.slug name).toList
  have hlast : '/' ∉ last := by
    have hmem : last ∈ pieces '/' (Template.slug name).toList := by
      rw [hpieces]
      exact List.mem_append_right before (List.mem_singleton_self last)
    exact Path.not_mem_of_mem_pieces hmem
  let q := Path.ofChars (Template.slug name ++ Template.nameEnding).toList
  have hq : q.names = (before.filter Path.isName).map String.ofList ++
      [String.ofList (last ++ Template.nameEnding.toList)] := by
    simp only [q, Path.ofChars, String.toList_append, happend, List.filter_append, List.map_append]
    rw [List.filter_cons_of_pos (Path.isName_append_ending last)]
    rfl
  have hfile : isTemplateName (String.ofList (last ++ Template.nameEnding.toList)) = true := by
    rw [isTemplateName, String.toList_ofList, List.isSuffixOf_iff_suffix]
    exact List.suffix_append _ _
  have hpath : d.pathOf name = .ok (d.path.join q) := by
    rw [pathOf, Path.ofText, htext]
    rfl
  refine ⟨d.path.join q,
    (if q.slashes = 0 then d.path.names else []) ++ (before.filter Path.isName).map String.ofList,
    String.ofList (last ++ Template.nameEnding.toList), hpath, ?_, hfile, ?_⟩
  · rw [Path.join]
    split <;> simp [hq]
  · rw [String.toList_ofList, List.mem_append]
    rintro (h | h)
    · exact hlast h
    · exact hslash h

/-- A name whose path leads to no file of the directory is refused, and nothing is read. -/
theorem get_of_holds_eq_false {p : Path} (hp : d.pathOf name = .ok p) (h : d.holds p = .ok false) :
    d.get name = Logged.fail (.unknownTemplate name) := by
  rw [get, hp]
  change (Logged.ofExcept ((d.holds p).mapError Failure.refused) >>= _) = _
  rw [h]
  rfl

/-- What comes out under a name whose path leads to a file of the directory is in this file. -/
theorem outcome_get_of_holds {p : Path} (hp : d.pathOf name = .ok p) (h : d.holds p = .ok true) :
    (d.get name).outcome =
      ((d.files.read p).toOption.bind failureIn?).elim
        (((d.files.read p).toOption.bind objectIn?).elim (.error (.fetch (.badFile name))) .ok)
        .error := by
  rw [get, hp]
  change (Logged.ofExcept ((d.holds p).mapError Failure.refused) >>= _).outcome = _
  rw [h]
  change (d.load p >>= _).outcome = _
  rw [Logged.outcome_bind, outcome_load_path]
  cases (d.files.read p).toOption.bind failureIn? with
  | some failure => rfl
  | none => cases (d.files.read p).toOption.bind objectIn? <;> rfl

/-- An object comes out if there is one and nothing fails. -/
theorem elim_eq_ok_iff {failure : Option Failure} {object : Option Fields} {fallback : Failure}
    {workflow : Fields} :
    failure.elim (object.elim (.error fallback) .ok) .error =
        (.ok workflow : Except Failure Fields) ↔
      failure = none ∧ object = some workflow := by
  cases failure <;> cases object <;> simp

/-- What is given out is the object in the file to which the path leads. -/
theorem exists_of_get {p : Path} (hp : d.pathOf name = .ok p) {workflow : Fields}
    (h : (d.get name).outcome = .ok workflow) :
    (p.place d.files.home).dropLast = d.place ∧
      ∃ bytes, d.files.bytesAt? (p.place d.files.home) = some bytes ∧
        objectIn? bytes = some workflow := by
  have hholds : d.holds p = .ok true := by
    cases hholds : d.holds p with
    | error fault =>
        rw [get, hp] at h
        change (Logged.ofExcept ((d.holds p).mapError Failure.refused) >>= _).outcome = _ at h
        rw [hholds] at h
        cases h
    | ok held =>
        cases held with
        | true => rfl
        | false =>
            rw [get_of_holds_eq_false hp hholds] at h
            cases h
  have hplace : (p.place d.files.home).dropLast = d.place := by
    rw [holds] at hholds
    split at hholds
    · assumption
    · cases hholds
  rw [outcome_get_of_holds hp hholds, elim_eq_ok_iff] at h
  obtain ⟨bytes, hbytes, hobject⟩ := Option.bind_eq_some_iff.mp h.2
  obtain ⟨place, hfind, hthere⟩ := FileTree.mem_of_read (eq_ok_of_toOption hbytes)
  obtain rfl := FileTree.eq_place_of_find hfind
  exact ⟨hplace, bytes, hthere, hobject⟩

/-- A source hands out what a directory gives, if it can be copied. -/
theorem outcome_get_source (d : Directory) (name : String) :
    ((TemplateSource.directory d).get (.str name)).outcome =
      (d.get name).outcome.bind fun workflow =>
        (Json.obj workflow).ensureCopyable.map fun _ => workflow := by
  change (d.get name >>= fun workflow =>
    Logged.ofExcept (Json.obj workflow).ensureCopyable >>= fun _ => pure workflow).outcome = _
  rw [Logged.outcome_bind]
  cases (d.get name).outcome with
  | error failure => rfl
  | ok workflow =>
      change (Logged.ofExcept (Json.obj workflow).ensureCopyable >>= fun _ =>
        pure workflow).outcome = _
      rw [Logged.outcome_bind]
      rfl

/-- **What is given out lies directly in the directory.** Every name without a zero character has a
path. If there is an answer, the path leads to a place right under that of the directory, the last
name on it ends like the name of a template, and the answer is the object in the file there. A name
whose path leads to any other place is refused as unknown, whatever files there are and whatever is
in them. -/
theorem get_confined (d : Directory) {name : String} (hzero : ∀ c ∈ name.toList, c.toNat ≠ 0) :
    ∃ p, d.pathOf name = .ok p ∧
      (∀ workflow, ((TemplateSource.directory d).get (.str name)).outcome = .ok workflow →
        ∃ file bytes, isTemplateName file = true ∧ '/' ∉ file.toList ∧
          p.place d.files.home = d.place ++ [file] ∧
          d.files.bytesAt? (d.place ++ [file]) = some bytes ∧ objectIn? bytes = some workflow) ∧
      ((∀ file, p.place d.files.home ≠ d.place ++ [file]) →
        ∀ files : FileTree, files.home = d.files.home →
          (TemplateSource.directory { d with files := files }).get (.str name) =
            Logged.fail (.unknownTemplate name)) := by
  obtain ⟨p, before, file, hp, hnames, hfile, hslash⟩ := exists_pathOf d hzero
  have hlast := fun home => p.place_concat home hnames (ne_up_of_isTemplateName hfile)
  refine ⟨p, hp, ?inside, ?elsewhere⟩
  case inside =>
    intro workflow h
    have hget : (d.get name).outcome = .ok workflow := by
      rw [outcome_get_source] at h
      obtain ⟨found, hfound, hcopy⟩ := bind_eq_ok_iff.mp h
      obtain ⟨-, -, rfl⟩ := map_eq_ok_iff.mp hcopy
      exact hfound
    obtain ⟨hplace, bytes, hbytes, hobject⟩ := exists_of_get hp hget
    rw [hlast, List.dropLast_concat] at hplace
    have heq := hlast d.files.home
    rw [hplace] at heq
    exact ⟨file, bytes, hfile, hslash, heq, heq ▸ hbytes, hobject⟩
  case elsewhere =>
    intro helsewhere files hhome
    have hpath : pathOf { d with files := files } name = .ok p := hp
    have hholds : holds { d with files := files } p = .ok false := by
      rw [holds]
      refine if_neg fun hplace => helsewhere file ?_
      simp only [hhome] at hplace
      rw [hlast, List.dropLast_concat] at hplace
      rw [hlast, hplace, place]
    change (get { d with files := files } name >>= _) = _
    rw [get_of_holds_eq_false hpath hholds]
    rfl

/-- A folder with a template, and beside the folder a file that is none of its templates. -/
def guardedFolder : Directory where
  files :=
    { home := ["root"]
      files := [(["root", "secret.json"], [0x7B, 0x7D]),
        (["root", "workflows", "a.json"], [0x7B, 0x7D])]
      folders := [] }
  path := ⟨0, ["workflows"]⟩

/-- A detour through the folder above leads back to the template, and the file beside the folder is
refused although it is there. -/
theorem get_confined_guardedFolder :
    ((TemplateSource.directory guardedFolder).get (.str "../workflows/a.json")).outcome = .ok [] ∧
      (∃ file bytes, isTemplateName file = true ∧
        guardedFolder.files.bytesAt? (["root", "workflows"] ++ [file]) = some bytes ∧
        objectIn? bytes = some []) ∧
      guardedFolder.files.bytesAt? ["root", "secret.json"] = some [0x7B, 0x7D] ∧
      ∀ files : FileTree, files.home = ["root"] →
        (TemplateSource.directory { guardedFolder with files := files }).get (.str "../secret") =
          Logged.fail (.unknownTemplate "../secret") := by
  have hinside : ∀ c ∈ "../workflows/a.json".toList, c.toNat ≠ 0 := by simp
  have hbeside : ∀ c ∈ "../secret".toList, c.toNat ≠ 0 := by simp
  have hget :
      ((TemplateSource.directory guardedFolder).get (.str "../workflows/a.json")).outcome =
        .ok [] := by
    have hpath : guardedFolder.pathOf "../workflows/a.json" =
        .ok ⟨0, ["workflows", "..", "workflows", "a.json"]⟩ := by rfl
    have hholds : guardedFolder.holds ⟨0, ["workflows", "..", "workflows", "a.json"]⟩ =
        .ok true := by rfl
    have hread : guardedFolder.files.read ⟨0, ["workflows", "..", "workflows", "a.json"]⟩ =
        .ok [0x7B, 0x7D] := by rfl
    rw [outcome_get_source, outcome_get_of_holds hpath hholds, hread]
    rfl
  obtain ⟨_, -, hgiven, -⟩ := get_confined guardedFolder hinside
  obtain ⟨p, hp, -, hrefused⟩ := get_confined guardedFolder hbeside
  obtain ⟨file, bytes, hfile, -, -, hbytes, hobject⟩ := hgiven [] hget
  refine ⟨hget, ⟨file, bytes, hfile, hbytes, hobject⟩, rfl, hrefused ?_⟩
  obtain rfl : (⟨0, ["workflows", "..", "secret.json"]⟩ : Path) = p := by
    refine Except.ok.inj (Eq.trans ?_ hp)
    rfl
  rintro other hother
  -- the path leads to a place with fewer names
  have hlength := congrArg List.length hother
  cases hlength

end Directory

end NodeWorkflow
