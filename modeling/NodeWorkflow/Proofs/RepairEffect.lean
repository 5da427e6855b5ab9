import NodeWorkflow.Proofs.Malformed

/-!
# What a repair changes

A repair does one thing to a node or nothing. It bypasses a node of a type that often fails if no
mode is set, or it writes the defaults of the resolution calculator if the node is one and has no
list of as many values. A node that was repaired asks for neither any more, so a second repair
finds nothing to do.

## Main definitions

* `AsksForBypass`, `LacksResolution` — what a repair looks for in a node.
* `IsRepairOf` — what becomes of a node and what is said about it.
* `IsEntryRepairOf` — the same for an entry of the list of nodes.

## Main statements

* `fixNode_of_isRepairOf`, `exists_isRepairOf` — every node has a repair, and a repair of nodes
  makes it.
* `IsRepairOf.again` — a repaired node is left alone.
* `autoFix_of_isKey` — a graph before and after a repair, and after a second one.
* `depth_autoFix_le` — a graph that can be copied still can after a repair.
-/

namespace NodeWorkflow.Repair

/-- Looking a type up gives a result for every value but a list or an object, and finds texts
only. -/
theorem typeAmong_eq_ok_iff {types : List String} {type : Json} {among : Bool} :
    typeAmong types type = .ok among ↔
      type.isKey = true ∧ (among = true ↔ ∃ t ∈ types, type = .str t) := by
  cases type with
  | str s => cases among <;> simp [typeAmong, Json.isKey]
  | arr | obj => simp [typeAmong, Json.isKey]
  | null | bool | int | float => cases among <;> simp [typeAmong, Json.isKey]

/-! ## Nodes -/

/-- A type that a repair looks for is the type of the node. -/
theorem declaredType_of_type {n : Editor.Node} {type : String} (htype : n.type = .str type)
    (h : type = resolutionType ∨ type ∈ autoBypassTypes ∨ type ∈ quickBypassTypes) :
    n.declaredType = .ok (some type) := by
  have hall : ∀ t ∈ resolutionType :: (autoBypassTypes ++ quickBypassTypes),
      Editor.nonBlank? (.str t) = some t := by
    decide
  refine Editor.Node.declaredType_of_type htype (hall type ?_)
  rwa [List.mem_cons, List.mem_append]

/-- A node of a type that often fails, with no mode set. -/
structure AsksForBypass (node : Fields) (type : String) : Prop where
  mem : type ∈ autoBypassTypes
  type : Fields.value node "type" = .str type
  mode : (Fields.value node "mode").isFilled = false

/-- A resolution calculator without a list of all its values. -/
structure LacksResolution (node : Fields) : Prop where
  type : Fields.value node "type" = .str resolutionType
  values : ∀ values, Fields.value node "widgets_values" = .arr values →
    values.length < resolutionValues.length

/-- What becomes of a node, and what is said about it: it is bypassed, or gets the values of the
resolution calculator, or stays as it is. -/
inductive IsRepairOf (node : Fields) : Fields → List String → Prop where
  | bypassed {type : String} (h : AsksForBypass node type) :
      IsRepairOf node (Entries.put node "mode" (.int Editor.Mode.bypassed))
        [s!"Set node {Fields.idInWords node} ({type}) to bypass mode"]
  | restored (h : LacksResolution node) :
      IsRepairOf node (Entries.put node "widgets_values" (.arr resolutionValues))
        [s!"Fixed missing widget values for FluxResolutionNode ({Fields.idInWords node})"]
  | untouched (hmode : ∀ type, ¬ AsksForBypass node type) (hvalues : ¬ LacksResolution node) :
      IsRepairOf node node []

section Node

variable {node node' : Fields} {changes : List String}

/-- The resolution calculator is not bypassed. -/
theorem AsksForBypass.ne_resolutionType {type : String} (h : AsksForBypass node type) :
    type ≠ resolutionType := by
  rintro rfl
  exact absurd h.mem (by decide)

theorem hasResolution_eq_false_iff {values : Json} :
    hasResolution values = false ↔
      ∀ items, values = .arr items → items.length < resolutionValues.length := by
  cases values with
  | arr items => simp [hasResolution]
  | null | bool | int | float | str | obj => simp [hasResolution]

theorem fixMode_of_asksForBypass {type : String} (h : AsksForBypass node type) :
    fixMode node = .ok (Entries.put node "mode" (.int Editor.Mode.bypassed),
      [s!"Set node {Fields.idInWords node} ({type}) to bypass mode"]) := by
  have hamong : typeAmong autoBypassTypes (Fields.value node "type") = .ok true :=
    typeAmong_eq_ok_iff.mpr ⟨by rw [h.type]; rfl, iff_of_true rfl ⟨type, h.mem, h.type⟩⟩
  simp only [fixMode, hamong, bind, Except.bind, h.mode]
  simp only [h.type]
  rfl

theorem fixMode_of_not_asksForBypass (hkey : (Fields.value node "type").isKey = true)
    (h : ∀ type, ¬ AsksForBypass node type) : fixMode node = .ok (node, []) := by
  obtain ⟨among, hamong⟩ := ((typeAmong_cases autoBypassTypes _).resolve_right
    fun hno => absurd hkey (by rw [hno.1]; decide)).2
  have hstays : ¬ (among && !(Fields.value node "mode").isFilled) = true := by
    rw [Bool.and_eq_true, Bool.not_eq_true']
    rintro ⟨htrue, hmode⟩
    obtain ⟨type, hmem, htype⟩ := (typeAmong_eq_ok_iff.mp hamong).2.mp htrue
    exact h type ⟨hmem, htype, hmode⟩
  simp only [fixMode, hamong, bind, Except.bind, if_neg hstays]
  rfl

theorem fixResolution_of_lacksResolution (h : LacksResolution node) :
    fixResolution node = (Entries.put node "widgets_values" (.arr resolutionValues),
      [s!"Fixed missing widget values for FluxResolutionNode ({Fields.idInWords node})"]) := by
  rw [fixResolution, if_pos]
  rw [Bool.and_eq_true, Json.equalsStr_iff, Bool.not_eq_true', hasResolution_eq_false_iff]
  exact ⟨h.type, h.values⟩

theorem fixResolution_of_not_lacksResolution (h : ¬ LacksResolution node) :
    fixResolution node = (node, []) := by
  rw [fixResolution, if_neg]
  rw [Bool.and_eq_true, Json.equalsStr_iff, Bool.not_eq_true', hasResolution_eq_false_iff]
  exact fun hboth => h ⟨hboth.1, hboth.2⟩

/-- Every node has a repair. -/
theorem exists_isRepairOf (node : Fields) : ∃ node' changes, IsRepairOf node node' changes := by
  by_cases hmode : ∃ type, AsksForBypass node type
  · obtain ⟨type, h⟩ := hmode
    exact ⟨_, _, .bypassed h⟩
  · by_cases hvalues : LacksResolution node
    · exact ⟨_, _, .restored hvalues⟩
    · exact ⟨_, _, .untouched (not_exists.mp hmode) hvalues⟩

theorem fixNode_of_isRepairOf (hkey : (Fields.value node "type").isKey = true)
    (h : IsRepairOf node node' changes) : fixNode node = .ok (node', changes) := by
  cases h with
  | @bypassed type h =>
      have hvalues : ¬ LacksResolution (Entries.put node "mode" (.int Editor.Mode.bypassed)) := by
        intro hlacks
        have htype := hlacks.type
        rw [Fields.value_put_ne node _ (by decide), h.type] at htype
        exact h.ne_resolutionType (Json.str.inj htype)
      simp only [fixNode, fixMode_of_asksForBypass h, fixResolution_of_not_lacksResolution hvalues,
        bind, Except.bind, List.append_nil]
      rfl
  | restored h =>
      have hmode : ∀ type, ¬ AsksForBypass node type := fun type hasks =>
        hasks.ne_resolutionType (Json.str.inj (hasks.type.symm.trans h.type))
      simp only [fixNode, fixMode_of_not_asksForBypass hkey hmode,
        fixResolution_of_lacksResolution h, bind, Except.bind, List.nil_append]
      rfl
  | untouched hmode hvalues =>
      simp only [fixNode, fixMode_of_not_asksForBypass hkey hmode,
        fixResolution_of_not_lacksResolution hvalues, bind, Except.bind, List.append_nil]
      rfl

/-- **When a node is repaired, and to what**: its type can be looked up, and there is one repair of
it. -/
theorem fixNode_eq_ok_iff :
    fixNode node = .ok (node', changes) ↔
      (Fields.value node "type").isKey = true ∧ IsRepairOf node node' changes := by
  constructor
  · intro hfix
    have hkey := exists_fixNode_iff.mp ⟨_, hfix⟩
    obtain ⟨other, said, h⟩ := exists_isRepairOf node
    rw [fixNode_of_isRepairOf hkey h] at hfix
    obtain ⟨rfl, rfl⟩ := Prod.mk.inj (Except.ok.inj hfix)
    exact ⟨hkey, h⟩
  · rintro ⟨hkey, h⟩
    exact fixNode_of_isRepairOf hkey h

/-- A repair leaves the type of a node. -/
theorem IsRepairOf.type (h : IsRepairOf node node' changes) :
    Fields.value node' "type" = Fields.value node "type" := by
  cases h with
  | bypassed | restored => exact Fields.value_put_ne node _ (by decide)
  | untouched => rfl

/-- **A node that was repaired is left alone**: what was looked for is there no more. -/
theorem IsRepairOf.again (h : IsRepairOf node node' changes) : IsRepairOf node' node' [] := by
  cases h with
  | @bypassed type h =>
      refine .untouched (fun other hasks => ?_) (fun hlacks => ?_)
      · have hmode := hasks.mode
        rw [Fields.value_put_self] at hmode
        cases hmode
      · have htype := hlacks.type
        rw [Fields.value_put_ne node _ (by decide), h.type] at htype
        exact h.ne_resolutionType (Json.str.inj htype)
  | restored h =>
      refine .untouched (fun type hasks => ?_) (fun hlacks => ?_)
      · have htype := hasks.type
        rw [Fields.value_put_ne node _ (by decide), h.type] at htype
        exact hasks.ne_resolutionType (Json.str.inj htype).symm
      · exact absurd (hlacks.values _ (Fields.value_put_self _ _ _)) (Nat.lt_irrefl _)
  | untouched hmode hvalues => exact .untouched hmode hvalues

/-- What is written is a number, or a list of simple values. -/
theorem IsRepairOf.depth_le (h : IsRepairOf node node' changes) :
    (Json.obj node').depth ≤ max (Json.obj node).depth 2 := by
  have hvalues : (Json.arr resolutionValues).depth = 1 := by decide
  cases h with
  | bypassed =>
      have hle := Json.depthOfFields_put_le node "mode" (.int Editor.Mode.bypassed)
      simp only [Json.depth] at hle ⊢
      omega
  | restored =>
      have hle := Json.depthOfFields_put_le node "widgets_values" (.arr resolutionValues)
      rw [hvalues] at hle
      simp only [Json.depth]
      omega
  | untouched => exact Nat.le_max_left _ _

end Node

/-! ## Graphs -/

/-- What becomes of an entry of the list of nodes, and what is said about it: a node is repaired,
and anything else stays as it is. -/
inductive IsEntryRepairOf : Json → Json × List String → Prop where
  | node {node node' : Fields} {changes : List String} (h : IsRepairOf node node' changes) :
      IsEntryRepairOf (.obj node) (.obj node', changes)
  | other {entry : Json} (h : entry.fields? = none) : IsEntryRepairOf entry (entry, [])

/-- When an entry is repaired, and to what. -/
theorem fixEntry_eq_ok_iff {entry : Json} {repaired : Json × List String} :
    fixEntry entry = .ok repaired ↔
      (∀ node, entry = .obj node → (Fields.value node "type").isKey = true) ∧
        IsEntryRepairOf entry repaired := by
  cases entry with
  | obj node =>
      rw [fixEntry, map_eq_ok_iff]
      constructor
      · rintro ⟨⟨node', changes⟩, hfix, rfl⟩
        obtain ⟨hkey, h⟩ := fixNode_eq_ok_iff.mp hfix
        exact ⟨fun _ hnode => Json.obj.inj hnode ▸ hkey, .node h⟩
      · rintro ⟨hkey, h⟩
        cases h with
        | node h => exact ⟨_, fixNode_eq_ok_iff.mpr ⟨hkey _ rfl, h⟩, rfl⟩
        | other h => cases h
  | null | bool | int | float | str | arr =>
      constructor
      · intro hfix
        obtain rfl := Except.ok.inj hfix
        refine ⟨fun _ hnode => ?_, .other rfl⟩
        cases hnode
      · rintro ⟨-, h⟩
        cases h
        rfl

section Entry

variable {entry : Json} {repaired : Json × List String} (h : IsEntryRepairOf entry repaired)
include h

/-- An entry that was repaired is left alone. -/
theorem IsEntryRepairOf.again : IsEntryRepairOf repaired.1 (repaired.1, []) := by
  cases h with
  | node h => exact .node h.again
  | other h => exact .other h

theorem IsEntryRepairOf.type {node' : Fields} (hnode : repaired.1 = .obj node') :
    ∃ node, entry = .obj node ∧ Fields.value node' "type" = Fields.value node "type" := by
  cases h with
  | @node node _ _ h =>
      obtain rfl := Json.obj.inj hnode
      exact ⟨node, rfl, h.type⟩
  | other h =>
      obtain rfl : entry = .obj node' := hnode
      cases h

theorem IsEntryRepairOf.depth_le : repaired.1.depth ≤ max entry.depth 2 := by
  cases h with
  | node h => exact h.depth_le
  | other => exact Nat.le_max_left _ _

end Entry

variable {w : Fields} {entries : List Json}

/-- **When a graph is repaired, and to what**: the list of nodes is repaired entry by entry. -/
theorem autoFix_eq_ok_iff (hnodes : Fields.value w "nodes" = .arr entries) {f : Json}
    {changes : List String} :
    autoFix (.obj w) = .ok (f, changes) ↔
      ∃ repaired, List.Forall₂ (fun entry repaired => fixEntry entry = .ok repaired) entries
          repaired ∧
        .obj (Entries.put w "nodes" (.arr (repaired.map Prod.fst))) = f ∧
        repaired.flatMap Prod.snd = changes := by
  rw [autoFix_of_nodes hnodes, map_eq_ok_iff]
  simp only [mapM_eq_ok_iff, Prod.mk.injEq]

/-- Entries that were repaired are left alone. -/
theorem forall₂_fixEntry_again {repaired : List (Json × List String)}
    (h : List.Forall₂ (fun entry repaired => fixEntry entry = .ok repaired) entries repaired) :
    List.Forall₂ (fun entry repaired => fixEntry entry = .ok repaired) (repaired.map Prod.fst)
      (repaired.map fun r => (r.1, [])) := by
  rw [List.forall₂_map_left_iff, List.forall₂_map_right_iff, List.forall₂_same]
  intro r hr
  obtain ⟨entry, -, hfix⟩ := exists_left_of_mem h hr
  obtain ⟨hkey, hrepair⟩ := fixEntry_eq_ok_iff.mp hfix
  refine fixEntry_eq_ok_iff.mpr ⟨fun node' hnode' => ?_, hrepair.again⟩
  obtain ⟨node, rfl, htype⟩ := hrepair.type hnode'
  rw [htype]
  exact hkey node rfl

/-- A graph that was repaired is left alone. -/
theorem autoFix_again (hnodes : Fields.value w "nodes" = .arr entries) {f : Json}
    {changes : List String} (h : autoFix (.obj w) = .ok (f, changes)) : autoFix f = .ok (f, []) := by
  obtain ⟨repaired, hrun, rfl, -⟩ := (autoFix_eq_ok_iff hnodes).mp h
  refine (autoFix_eq_ok_iff (Fields.value_put_self _ _ _)).mpr
    ⟨_, forall₂_fixEntry_again hrun, ?_, ?_⟩
  · rw [Entries.put_put, List.map_map]
    rfl
  · simp

/-- **A graph that can be copied still can after a repair.** -/
theorem depth_autoFix_le (hnodes : Fields.value w "nodes" = .arr entries) {f : Json}
    {changes : List String} (h : autoFix (.obj w) = .ok (f, changes))
    (hdepth : (Json.obj w).depth ≤ Json.copyLimit) : f.depth ≤ Json.copyLimit := by
  obtain ⟨repaired, hrun, rfl, -⟩ := (autoFix_eq_ok_iff hnodes).mp h
  have hlimit : 4 ≤ Json.copyLimit := by decide
  have hvalue := Json.depth_value_le w "nodes"
  rw [hnodes] at hvalue
  have hitems : Json.depthOfItems (repaired.map Prod.fst) ≤ Json.copyLimit - 2 := by
    refine Json.depthOfItems_le fun entry' hentry' => ?_
    obtain ⟨r, hr, rfl⟩ := List.mem_map.mp hentry'
    obtain ⟨entry, hentry, hfix⟩ := exists_left_of_mem hrun hr
    have hle := (fixEntry_eq_ok_iff.mp hfix).2.depth_le
    have hentry := Json.depth_le_of_mem hentry
    simp only [Json.depth] at hdepth hvalue
    omega
  have hput := Json.depthOfFields_put_le w "nodes" (.arr (repaired.map Prod.fst))
  simp only [Json.depth] at hdepth hput ⊢
  omega

/-- **A graph before and after a repair.** It has the same fields, and all but the list of nodes
are the same. The entries of that list are repaired one by one, with regard to nothing but the
entry: `IsEntryRepairOf` says what becomes of each and what is said about it, and what is said
comes in their order. A second repair changes nothing and says nothing. A graph that is nested too
deeply is not copied; within the limit copies make no difference. -/
theorem autoFix_of_isKey (hnodes : Fields.value w "nodes" = .arr entries)
    (hkeys : ∀ node, .obj node ∈ entries → (Fields.value node "type").isKey = true) :
    ∃ f repaired, autoFix (.obj w) = .ok (.obj f, repaired.flatMap Prod.snd) ∧
      Entries.keys f = Entries.keys w ∧
      (∀ name, name ≠ "nodes" → Entries.get? f name = Entries.get? w name) ∧
      Fields.value f "nodes" = .arr (repaired.map Prod.fst) ∧
      List.Forall₂ IsEntryRepairOf entries repaired ∧
      autoFix (.obj f) = .ok (.obj f, []) ∧
      ((Json.obj w).depth ≤ Json.copyLimit →
        Copying.autoFix (.obj w) = autoFix (.obj w) ∧
          Copying.autoFix (.obj f) = autoFix (.obj f)) := by
  obtain ⟨⟨f, changes⟩, h⟩ : ∃ fixed, autoFix (.obj w) = .ok fixed :=
    exists_autoFix_iff.mpr (by rwa [entriesIn_of_nodes hnodes])
  obtain ⟨repaired, hrun, rfl, rfl⟩ := (autoFix_eq_ok_iff hnodes).mp h
  refine ⟨_, repaired, h, ?keys, ?others, Fields.value_put_self _ _ _, ?entries,
    autoFix_again hnodes h, ?copies⟩
  case keys =>
    have hhas : Entries.has w "nodes" = true := Fields.has_of_value_ne_null (by simp [hnodes])
    rw [Entries.keys_put, if_pos hhas]
  case others =>
    intro name hname
    exact Entries.get?_put_ne w _ hname.symm
  case entries => exact hrun.imp fun _ _ hfix => (fixEntry_eq_ok_iff.mp hfix).2
  case copies =>
    intro hdepth
    exact ⟨Copying.autoFix_of_depth_le hdepth,
      Copying.autoFix_of_depth_le (depth_autoFix_le hnodes h hdepth)⟩

/-- A stray number, an upscaler without a mode, a loader with the mode `0.0`, one that is muted,
and a resolution calculator whose values have names. -/
def variousNodes : List Json :=
  [.int 7,
    .obj [("type", .str "UltimateSDUpscale"), ("id", .int 1)],
    .obj [("id", .int 2), ("mode", .float 0.0), ("type", .str "LoraLoaderModelOnly")],
    .obj [("id", .int 3), ("mode", .int 4), ("type", .str "UpscaleModelLoader")],
    .obj [("id", .int 4), ("type", .str "FluxResolutionNode"),
      ("widgets_values", .obj [("megapixel", .str "2.0")])],
    .obj [("id", .int 5)]]

/-- The same nodes after a repair. -/
def variousRepaired : List Json :=
  [.int 7,
    .obj [("type", .str "UltimateSDUpscale"), ("id", .int 1), ("mode", .int 2)],
    .obj [("id", .int 2), ("mode", .int 2), ("type", .str "LoraLoaderModelOnly")],
    .obj [("id", .int 3), ("mode", .int 4), ("type", .str "UpscaleModelLoader")],
    .obj [("id", .int 4), ("type", .str "FluxResolutionNode"),
      ("widgets_values", .arr
        [.str "1.0", .str "1:1 (Square)", .str "64", .bool false, .str "1:1"])],
    .obj [("id", .int 5)]]

theorem autoFix_variousNodes :
    (∀ node, .obj node ∈ variousNodes → (Fields.value node "type").isKey = true) ∧
      autoFix (.obj [("nodes", .arr variousNodes), ("version", .int 1)]) =
        .ok (.obj [("nodes", .arr variousRepaired), ("version", .int 1)],
          ["Set node 1 (UltimateSDUpscale) to bypass mode",
            "Set node 2 (LoraLoaderModelOnly) to bypass mode",
            "Fixed missing widget values for FluxResolutionNode (4)"]) ∧
      autoFix (.obj [("nodes", .arr variousRepaired), ("version", .int 1)]) =
        .ok (.obj [("nodes", .arr variousRepaired), ("version", .int 1)], []) := by
  have hkeys : ∀ node, .obj node ∈ variousNodes → (Fields.value node "type").isKey = true := by
    intro node hnode
    simp only [variousNodes, List.mem_cons, Json.obj.injEq, reduceCtorEq, List.not_mem_nil,
      or_false, false_or] at hnode
    rcases hnode with rfl | rfl | rfl | rfl | rfl <;> rfl
  have hfix : autoFix (.obj [("nodes", .arr variousNodes), ("version", .int 1)]) =
      .ok (.obj [("nodes", .arr variousRepaired), ("version", .int 1)],
        ["Set node 1 (UltimateSDUpscale) to bypass mode",
          "Set node 2 (LoraLoaderModelOnly) to bypass mode",
          "Fixed missing widget values for FluxResolutionNode (4)"]) := by
    rfl
  obtain ⟨f, repaired, h, -, -, -, -, hagain, -⟩ :=
    autoFix_of_isKey (w := [("nodes", .arr variousNodes), ("version", .int 1)]) rfl hkeys
  obtain rfl := Json.obj.inj (Prod.mk.inj (Except.ok.inj (hfix.symm.trans h))).1
  exact ⟨hkeys, hfix, hagain⟩

end NodeWorkflow.Repair
