import NodeWorkflow.Proofs.DirectConversion

/-!
# Links with one id

Of several links with one id the table of links holds the last. The direct conversion has no
table: it goes through the list for every socket and stops at the first link with the id, so
it follows a link that the table has dropped. Both find nothing where no link has the id.

## Main definitions

* `linksWithId` — the links with an id, in the order in which they are saved.
* `HaveDistinctIds` — the nodes have whole numbers as ids, no two of them the same.
* `BeginsAtOutput` — a link begins at an output that its source has.

## Main statements

* `get?_linkTable` — the table holds the last link with an id.
* `findSource_eq` — the walk follows the first.
* `findSource_of_linkTable` — when the two come to the same end of a link.
-/

namespace NodeWorkflow

namespace Editor

/-- The links with an id, in the order in which they are saved. -/
def linksWithId (entries : List Json) (id : Int) : List Link :=
  (entries.filterMap fun entry => (Link.ofJson entry).toOption).filter fun l => l.id = id

/-- **The table holds the last link with an id.** -/
theorem get?_linkTable (entries : List Json) (id : Int) :
    Entries.get? (linkTable entries).1 id = (linksWithId entries id).getLast? := by
  rw [linkTable, fst_extendTable, Entries.get?_merge, List.filter_map, List.getLast?_map,
    Option.map_map, Entries.get?_nil, Option.or_none]
  exact Option.map_id'

end Editor

namespace Prompt

open Editor (Link linksWithId linkTable)

/-! ## Ends of a link -/

/-- The nodes have whole numbers as ids, no two of them the same. -/
def HaveDistinctIds (nodes : List Json) : Prop :=
  ∃ ids : List Int, ids.Nodup ∧
    (nodes.filterMap Json.fields?).map (fun node => Fields.value node "id") = ids.map Json.int

/-- A link begins at an output of one of the nodes. -/
def BeginsAtOutput (nodes : List Json) (link : Link) : Prop :=
  ∃ node count, Json.obj node ∈ nodes ∧ Fields.value node "id" = .int link.source ∧
    outputCount node = .ok count ∧ 0 ≤ link.sourceSlot ∧ link.sourceSlot < count

/-- The end at which a link begins, if the first node with the id of its source has an output
there. -/
def sourceOf (nodes : List Json) (link : Link) : Except Failure (Option (Int × Int)) :=
  match (nodes.find? (hasId link.source)).bind Json.fields? with
  | none => .ok none
  | some node => (outputCount node).map fun (count : Nat) =>
      if link.sourceSlot < count then some (link.source, link.sourceSlot) else none

/-- An end that is found is the beginning of the link, at an output of the first node with the id
of its source. -/
theorem exists_of_sourceOf {nodes : List Json} {link : Link} {found : Int × Int}
    (h : sourceOf nodes link = .ok (some found)) :
    found = (link.source, link.sourceSlot) ∧
      ∃ node count, nodes.find? (hasId link.source) = some (.obj node) ∧
        outputCount node = .ok count ∧ link.sourceSlot < count := by
  rw [sourceOf] at h
  split at h
  · cases h
  · rename_i node hnode
    obtain ⟨entry, hentry, hfields⟩ := Option.bind_eq_some_iff.mp hnode
    obtain ⟨count, hcount, hfound⟩ := map_eq_ok_iff.mp h
    split at hfound
    · rename_i hlt
      cases entry with
      | obj fields =>
          obtain rfl := Option.some.inj hfields
          exact ⟨(Option.some.inj hfound).symm, fields, count, hentry, hcount, hlt⟩
      | null | bool | int | float | str | arr => cases hfields
    · cases hfound

/-- Where ids are distinct, a node is the first with its id. -/
theorem find?_hasId_of_mem {nodes : List Json} (hn : HaveDistinctIds nodes) {node : Fields}
    {id : Int} (hnode : Json.obj node ∈ nodes) (hid : Fields.value node "id" = .int id) :
    nodes.find? (hasId id) = some (.obj node) := by
  obtain ⟨ids, hnodup, hids⟩ := hn
  have hvalues : ((nodes.filterMap Json.fields?).map fun node => Fields.value node "id").Nodup := by
    rw [hids]
    exact hnodup.map fun _ _ h => Json.int.inj h
  have hmem : ∀ {other : Fields}, Json.obj other ∈ nodes → other ∈ nodes.filterMap Json.fields? :=
    fun h => List.mem_filterMap.mpr ⟨_, h, rfl⟩
  refine find?_eq_some_of_unique hnode ?_ ?_
  · rw [hasId, hid, Json.equalsInt_int_iff]
  · intro entry hentry hfits
    cases entry with
    | obj other =>
        have hother : Fields.value other "id" ∈ ids.map Json.int :=
          hids ▸ List.mem_map_of_mem (hmem hentry)
        obtain ⟨otherId, -, hotherId⟩ := List.mem_map.mp hother
        rw [hasId, ← hotherId, Json.equalsInt_int_iff] at hfits
        refine congrArg Json.obj ?_
        refine List.inj_on_of_nodup_map hvalues (hmem hentry) (hmem hnode) ?_
        rw [← hotherId, hid, hfits]
    | null | bool | int | float | str | arr => cases hfits

/-- A link that begins at an output is followed to it. -/
theorem sourceOf_of_beginsAtOutput {nodes : List Json} (hn : HaveDistinctIds nodes) {link : Link}
    (h : BeginsAtOutput nodes link) :
    sourceOf nodes link = .ok (some (link.source, link.sourceSlot)) := by
  obtain ⟨node, count, hnode, hid, hcount, -, hslot⟩ := h
  rw [sourceOf, find?_hasId_of_mem hn hnode hid]
  simp only [Option.bind_some, Json.fields?, hcount, Except.map, if_pos hslot]

/-! ## First and last -/

/-- The walk follows the first link whose id is the given value. -/
theorem findSource_eq_elim (links nodes : List Json) (id : Json) :
    findSource links nodes id =
      ((links.filterMap fun entry => (Link.ofJson entry).toOption).find? fun (l : Link) =>
        id.equalsInt l.id).elim (.ok none) (sourceOf nodes) := by
  simp only [findSource]
  cases (links.filterMap fun entry => (Link.ofJson entry).toOption).find? fun (l : Link) =>
      id.equalsInt l.id with
  | none => rfl
  | some link =>
      simp only [Option.bind_eq_bind, Option.bind_some, Option.elim_some, sourceOf]
      cases (nodes.find? (hasId link.source)).bind Json.fields? with
      | none => rfl
      | some node =>
          cases hcount : outputCount node <;>
            simp [hcount, Except.map, bind, Except.bind, pure, Except.pure]

/-- What the walk finds is the source of a link. -/
theorem exists_of_findSource {links nodes : List Json} {id : Json} {found : Int × Int}
    (h : findSource links nodes id = .ok (some found)) :
    ∃ link,
      ((links.filterMap fun entry => (Link.ofJson entry).toOption).find? fun (l : Link) =>
        id.equalsInt l.id) = some link ∧
      sourceOf nodes link = .ok (some found) := by
  rw [findSource_eq_elim] at h
  revert h
  cases (links.filterMap fun entry => (Link.ofJson entry).toOption).find? fun (l : Link) =>
      id.equalsInt l.id with
  | none => exact nofun
  | some link => exact fun h => ⟨link, rfl, h⟩

/-- **The walk follows the first link with an id.** -/
theorem findSource_eq (links nodes : List Json) (id : Int) :
    findSource links nodes (.int id) =
      (linksWithId links id).head?.elim (.ok none) (sourceOf nodes) := by
  rw [findSource_eq_elim, linksWithId, List.head?_filter]
  refine congrArg (Option.elim · _ _) (congrArg (List.find? · _) (funext fun l => ?_))
  rw [Bool.eq_iff_iff, Json.equalsInt_int_iff, decide_eq_true_iff, eq_comm]

/-- **When a walk over the links agrees with the table.** Both find nothing if no link has the
id. If the table holds a link that begins at an output, the walk has a link with this id too,
the first one, and follows it in the place of the link in the table: the ends agree just if
the first link begins where the last one does. -/
theorem findSource_of_linkTable {links nodes : List Json} (hn : HaveDistinctIds nodes) (id : Int) :
    (Entries.get? (linkTable links).1 id = none → findSource links nodes (.int id) = .ok none) ∧
      ∀ link, Entries.get? (linkTable links).1 id = some link → BeginsAtOutput nodes link →
        ∃ first, (linksWithId links id).head? = some first ∧
          (BeginsAtOutput nodes first →
            findSource links nodes (.int id) = .ok (some (first.source, first.sourceSlot))) ∧
          (findSource links nodes (.int id) = .ok (some (link.source, link.sourceSlot)) ↔
            first.source = link.source ∧ first.sourceSlot = link.sourceSlot) := by
  refine ⟨?nothing, ?found⟩
  case nothing =>
    intro hnone
    rw [Editor.get?_linkTable, List.getLast?_eq_none_iff] at hnone
    rw [findSource_eq, hnone]
    rfl
  case found =>
    intro link hlink hbegins
    rw [Editor.get?_linkTable] at hlink
    have hne : linksWithId links id ≠ [] := by
      intro hnil
      rw [hnil] at hlink
      cases hlink
    have hfirst := List.head?_eq_some_head hne
    refine ⟨_, hfirst, ?_, ?_⟩
    · intro hfirstBegins
      rw [findSource_eq, hfirst]
      exact sourceOf_of_beginsAtOutput hn hfirstBegins
    · rw [findSource_eq, hfirst, Option.elim_some]
      constructor
      · intro h
        obtain ⟨hsource, hslot⟩ := Prod.mk.inj (exists_of_sourceOf h).1
        exact ⟨hsource.symm, hslot.symm⟩
      · rintro ⟨hsource, hslot⟩
        have hfirstBegins : BeginsAtOutput nodes ((linksWithId links id).head hne) := by
          rw [BeginsAtOutput, hsource, hslot]
          exact hbegins
        rw [sourceOf_of_beginsAtOutput hn hfirstBegins, hsource, hslot]

/-- Two loaders and a decoder. -/
def twoLoaders : List Json :=
  [.obj [("id", .int 2), ("outputs", .arr [.obj [("name", .str "VAE")]])],
    .obj [("id", .int 3), ("outputs", .arr [.obj [("name", .str "VAE")]])],
    .obj [("id", .int 4), ("inputs", .arr [.obj [("name", .str "vae"), ("link", .int 1)]])]]

/-- Two links with one id from the loaders to the decoder. -/
def overwrittenLink : List Json :=
  [.arr [.int 1, .int 2, .int 0, .int 4, .int 0], .arr [.int 1, .int 3, .int 0, .int 4, .int 0]]

theorem beginsAtOutput_twoLoaders {link : Link} (hsource : link.source = 2 ∨ link.source = 3)
    (hslot : link.sourceSlot = 0) : BeginsAtOutput twoLoaders link := by
  rcases hsource with hsource | hsource
  · exact ⟨_, 1, List.mem_cons_self, by rw [hsource]; rfl, rfl, by omega, by omega⟩
  · exact ⟨_, 1, List.mem_cons_of_mem _ List.mem_cons_self, by rw [hsource]; rfl, rfl, by omega,
      by omega⟩

theorem findSource_overwrittenLink :
    HaveDistinctIds twoLoaders ∧
      findSource overwrittenLink twoLoaders (.int 7) = .ok none ∧
      findSource overwrittenLink twoLoaders (.int 1) = .ok (some (2, 0)) ∧
      findSource overwrittenLink twoLoaders (.int 1) ≠ .ok (some (3, 0)) := by
  have hn : HaveDistinctIds twoLoaders := ⟨[2, 3, 4], by decide, rfl⟩
  have htable : Entries.get? (linkTable overwrittenLink).1 1 =
      some ⟨1, 3, 0, 4, 0, "unknown"⟩ := by
    rfl
  obtain ⟨first, hfirst, hfollowed, hagree⟩ :=
    (findSource_of_linkTable hn 1).2 _ htable (beginsAtOutput_twoLoaders (.inr rfl) rfl)
  obtain rfl : ⟨1, 2, 0, 4, 0, "unknown"⟩ = first := Option.some.inj hfirst
  refine ⟨hn, (findSource_of_linkTable hn 7).1 rfl,
    hfollowed (beginsAtOutput_twoLoaders (.inl rfl) rfl), ?_⟩
  intro h
  exact absurd (hagree.mp h).1 (by decide)

/-- The table holds the link from the second loader, and the walk comes to the first. -/
theorem followed_overwrittenLink :
    HaveDistinctIds twoLoaders ∧
      ∃ link, Entries.get? (linkTable overwrittenLink).1 1 = some link ∧
        BeginsAtOutput twoLoaders link ∧ (link.source, link.sourceSlot) = (3, 0) ∧
        findSource overwrittenLink twoLoaders (.int 1) = .ok (some (2, 0)) := by
  exact ⟨⟨[2, 3, 4], by decide, rfl⟩, _, rfl, beginsAtOutput_twoLoaders (.inr rfl) rfl, rfl, rfl⟩

end Prompt

end NodeWorkflow
