import NodeWorkflow.Proofs.LinkSearch

/-!
# Gathering links of any shape

The list of links is gone through once, whatever stands in it. An entry that cannot be read is
told as an issue and left out, and a link with the id of an earlier one takes its place in the
table, which is told as a note. What is found about an entry depends on the entries before it
only through the table that they make.

## Main definitions

* `linksRead` — the entries that can be read, as links.
* `rejected` — the entries that cannot, by their places, with what is wrong with them.
* `repeated` — the links whose ids stand before them already.

## Main statements

* `snd_linkTable` — what is found, entry by entry.
* `keys_linkTable` — the keys of the table.
* `gathers_linkTable` — the table, the issues and the notes of any list of entries.
-/

namespace NodeWorkflow.Editor

/-! ## Entries -/

/-- The entries that can be read, as links. -/
def linksRead (entries : List Json) : List Link :=
  entries.filterMap fun entry => (Link.ofJson entry).toOption

/-- What is wrong with an entry, if it cannot be read. -/
def fault? (entry : Json) : Option BadValue :=
  match Link.ofJson entry with
  | .ok _ => none
  | .error fault => some fault

/-- The places of the entries that cannot be read, with what is wrong with them. -/
def rejected (entries : List Json) : List (Nat × BadValue) :=
  entries.zipIdx.filterMap fun (entry, index) => (fault? entry).map fun fault => (index, fault)

/-- The link at a place, if it has the id of a link before it. -/
def repeatedAt? (entries : List Json) (entry : Json) (index : Nat) : Option Link :=
  (Link.ofJson entry).toOption.filter fun link => linksWithId (entries.take index) link.id ≠ []

/-- The links whose ids stand before them already. -/
def repeated (entries : List Json) : List Link :=
  entries.zipIdx.filterMap fun (entry, index) => repeatedAt? entries entry index

/-- The issue about an entry that cannot be read. -/
def skippedText (index : Nat) (fault : BadValue) : String :=
  s!"Skipping link #{index}: {fault.message}"

/-- The note on a link whose id stands before it already. -/
def repeatedText (link : Link) : String :=
  s!"Duplicate link id {link.id}, keeping the last entry"

/-! ## The table -/

/-- **The table has the ids that were read as its keys**, each where it came first. -/
theorem keys_linkTable (entries : List Json) :
    Entries.keys (linkTable entries).1 = ((linksRead entries).map Link.id).eraseDups := by
  rw [linkTable, fst_extendTable]
  change Entries.keys (Entries.ofList _) = _
  rw [Entries.keys_ofList, List.map_map]
  rfl

/-- What the table holds under an id is a link with this id. -/
theorem id_of_get?_linkTable {entries : List Json} {id : Int} {link : Link}
    (h : Entries.get? (linkTable entries).1 id = some link) : link.id = id := by
  rw [get?_linkTable] at h
  have hmem : link ∈ linksWithId entries id := List.mem_of_getLast? h
  rw [linksWithId, List.mem_filter] at hmem
  exact of_decide_eq_true hmem.2

theorem has_linkTable (entries : List Json) (id : Int) :
    Entries.has (linkTable entries).1 id = true ↔ linksWithId entries id ≠ [] := by
  rw [Entries.has, get?_linkTable, List.getLast?_isSome]

theorem addLink_linkTable (entries : List Json) (entry : Json) :
    addLink (linkTable entries).1 (Link.ofJson entry) = (linkTable (entries ++ [entry])).1 := by
  rw [linkTable, linkTable, fst_extendTable, fst_extendTable, List.filterMap_append,
    List.map_append]
  cases h : Link.ofJson entry with
  | error fault => simp [addLink, h, Except.toOption]
  | ok link => simp [addLink, h, Except.toOption, Entries.merge]

/-! ## Findings -/

/-- What is found in going on behind some entries. -/
theorem snd_extendTable (before entries : List Json) :
    (extendTable before.length (linkTable before).1 entries).2 =
      (entries.zipIdx before.length).flatMap fun (entry, index) =>
        linkFindings (linkTable ((before ++ entries).take index)).1 index (Link.ofJson entry) := by
  induction entries generalizing before with
  | nil => rfl
  | cons entry entries ih =>
      have hrest := ih (before ++ [entry])
      rw [List.length_append, List.length_singleton, List.append_assoc, List.singleton_append,
        ← addLink_linkTable] at hrest
      have hbefore : (before ++ entry :: entries).take before.length = before :=
        List.take_left
      simp only [extendTable, List.zipIdx_cons, List.flatMap_cons, hrest, hbefore]

/-- **What is found about an entry** depends on the entries before it through their table. -/
theorem snd_linkTable (entries : List Json) :
    (linkTable entries).2 = entries.zipIdx.flatMap fun (entry, index) =>
      linkFindings (linkTable (entries.take index)).1 index (Link.ofJson entry) :=
  snd_extendTable [] entries

/-- An entry gives an issue if it cannot be read. -/
theorem filterMap_issueText?_linkFindings (table : LinkTable) (entry : Json) (index : Nat) :
    (linkFindings table index (Link.ofJson entry)).filterMap Finding.issueText? =
      ((fault? entry).map (skippedText index)).toList := by
  rw [fault?]
  cases Link.ofJson entry with
  | error fault => rfl
  | ok link =>
      simp only [linkFindings]
      split <;> rfl

/-- An entry gives a note if its id is in the table. -/
theorem filterMap_noteText?_linkFindings (table : LinkTable) (entry : Json) (index : Nat) :
    (linkFindings table index (Link.ofJson entry)).filterMap Finding.noteText? =
      (((Link.ofJson entry).toOption.filter fun link => Entries.has table link.id).map
        repeatedText).toList := by
  cases Link.ofJson entry with
  | error fault => rfl
  | ok link =>
      simp only [linkFindings, Except.toOption, Option.filter]
      split <;> rfl

/-- No entry gives advice. -/
theorem filterMap_advice?_linkFindings (table : LinkTable) (index : Nat)
    (read : Except BadValue Link) :
    (linkFindings table index read).filterMap Finding.advice? = [] := by
  cases read with
  | error fault => rfl
  | ok link =>
      simp only [linkFindings]
      split <;> rfl

theorem issues_linkTable (entries : List Json) :
    (linkTable entries).2.filterMap Finding.issueText? =
      (rejected entries).map fun (index, fault) => skippedText index fault := by
  rw [snd_linkTable, List.filterMap_flatMap, rejected, List.map_filterMap,
    List.filterMap_eq_flatMap_toList]
  refine congrArg (List.flatMap · _) (funext fun (entry, index) => ?_)
  rw [filterMap_issueText?_linkFindings, Option.map_map]
  rfl

theorem notes_linkTable (entries : List Json) :
    (linkTable entries).2.filterMap Finding.noteText? = (repeated entries).map repeatedText := by
  rw [snd_linkTable, List.filterMap_flatMap, repeated, List.map_filterMap,
    List.filterMap_eq_flatMap_toList]
  refine congrArg (List.flatMap · _) (funext fun (entry, index) => ?_)
  rw [filterMap_noteText?_linkFindings]
  change _ = ((repeatedAt? entries entry index).map repeatedText).toList
  simp only [repeatedAt?, ← has_linkTable, Bool.decide_eq_true]

theorem advice_linkTable (entries : List Json) :
    (linkTable entries).2.filterMap Finding.advice? = [] := by
  rw [snd_linkTable, List.filterMap_flatMap, List.flatMap_eq_nil_iff]
  intro pair _
  exact filterMap_advice?_linkFindings _ _ _

/-- **Entries of any shape are gathered**, and every one is accounted for: those that can be read
are in the table, under their ids, each id where it came first and with the link that came last;
those that cannot are told as issues, by their places, and no others; and a note is made of every
link whose id stood before it already. -/
theorem gathers_linkTable (entries : List Json) :
    ∃ table findings, linkTableOf (.arr entries) = .ok (table, findings) ∧
      Entries.keys table = ((linksRead entries).map Link.id).eraseDups ∧
      (∀ id, Entries.get? table id = (linksWithId entries id).getLast?) ∧
      (∀ id link, Entries.get? table id = some link → link.id = id) ∧
      ∀ d : Diagnostics, d.recordAll findings =
        { d with
          issues := d.issues ++ (rejected entries).map fun (index, fault) =>
            skippedText index fault
          notes := d.notes ++ (repeated entries).map repeatedText } := by
  refine ⟨(linkTable entries).1, (linkTable entries).2, ?_, keys_linkTable entries,
    get?_linkTable entries, fun id link => id_of_get?_linkTable, ?_⟩
  · rw [linkTableOf, Json.elementsOrNone_arr]
    rfl
  · intro d
    rw [Diagnostics.recordAll, issues_linkTable, notes_linkTable, advice_linkTable,
      List.append_nil]

end NodeWorkflow.Editor
