import NodeWorkflow.Copying
import NodeWorkflow.Proofs.Reading

/-!
# Values that are not nested too deeply

Only parts of a graph are copied on the way to its compiled form, and none of them is
nested deeper than the graph. So as long as the graph itself is within the limit, the
operations on copies do what the operations of the same name do.

## Main statements

* `depth_value_le` — a field is not nested deeper than its object.
* `depthOfFields_put_le` — how deep an object is after a field was set.
* `Copying.compileSource_of_depth_le`, `Copying.analyze_of_depth_le`,
  `Copying.analyzeAndFix_of_depth_le` — within the limit copying makes no difference.
* `Copying.compileSource_eq_ok_iff` — when a compilation of copies gives a graph;
  `Copying.compileSource_eq_ok_iff_of_nodes` — the same told of the nodes of an object.
-/

namespace NodeWorkflow

namespace Json

/-! ## Depth -/

theorem depth_le_of_mem {items : List Json} {item : Json} (h : item ∈ items) :
    item.depth ≤ depthOfItems items := by
  induction items with
  | nil => cases h
  | cons v rest ih =>
      rw [depthOfItems]
      rcases List.mem_cons.mp h with rfl | h
      · exact Nat.le_max_left _ _
      · exact Nat.le_trans (ih h) (Nat.le_max_right _ _)

theorem depthOfItems_of_perm {items items' : List Json} (h : items'.Perm items) :
    depthOfItems items' = depthOfItems items := by
  induction h with
  | nil => rfl
  | cons item _ ih => rw [depthOfItems, depthOfItems, ih]
  | swap item other rest => simp only [depthOfItems, Nat.max_left_comm]
  | trans _ _ ih ih' => exact ih.trans ih'

/-- A field is not nested deeper than the others allow. -/
theorem depth_value_le (fields : Fields) (name : String) :
    (Fields.value fields name).depth ≤ depthOfFields fields := by
  induction fields with
  | nil => exact Nat.le_refl 0
  | cons field rest ih =>
      obtain ⟨k, v⟩ := field
      rw [depthOfFields, Fields.value, Entries.get?_cons]
      split
      · exact Nat.le_max_left _ _
      · exact Nat.le_trans ih (Nat.le_max_right _ _)

theorem depthOfItems_values (fields : Fields) :
    depthOfItems (Entries.values fields) = depthOfFields fields := by
  induction fields with
  | nil => rfl
  | cons field rest ih =>
      obtain ⟨k, v⟩ := field
      rw [depthOfFields, ← ih]
      rfl

/-- A field with another value that is nested as deeply leaves the depth as it is. -/
theorem depthOfFields_put {fields : Fields} {name : String} {v : Json}
    (hhas : Entries.has fields name = true) (hv : v.depth = (Fields.value fields name).depth) :
    depthOfFields (Entries.put fields name v) = depthOfFields fields := by
  induction fields with
  | nil => cases hhas
  | cons field rest ih =>
      obtain ⟨key, old⟩ := field
      rw [Entries.put]
      by_cases hkey : key = name
      · have hold : v.depth = old.depth := by simpa [Fields.value, Entries.get?_cons, hkey] using hv
        rw [if_pos hkey, depthOfFields, depthOfFields, hold]
      · rw [if_neg hkey, depthOfFields, depthOfFields, ih]
        · simpa [Entries.has, Entries.get?_cons, hkey] using hhas
        · simpa [Fields.value, Entries.get?_cons, hkey] using hv

/-- A field with another value is nested no deeper than the object was and the value is. -/
theorem depthOfFields_put_le (fields : Fields) (name : String) (v : Json) :
    depthOfFields (Entries.put fields name v) ≤ max (depthOfFields fields) v.depth := by
  induction fields with
  | nil => simp [Entries.put, depthOfFields]
  | cons field rest ih =>
      obtain ⟨key, old⟩ := field
      rw [Entries.put]
      by_cases hkey : key = name
      · simp only [if_pos hkey, depthOfFields]
        omega
      · simp only [if_neg hkey, depthOfFields]
        omega

theorem depthOfItems_le {items : List Json} {bound : Nat} (h : ∀ v ∈ items, v.depth ≤ bound) :
    depthOfItems items ≤ bound := by
  induction items with
  | nil => exact Nat.zero_le bound
  | cons v rest ih =>
      exact Nat.max_le.mpr ⟨h v List.mem_cons_self,
        ih fun w hw => h w (List.mem_cons_of_mem v hw)⟩

theorem depthOfItems_set_le (items : List Json) (place : Nat) (v : Json) :
    depthOfItems (items.set place v) ≤ max (depthOfItems items) v.depth := by
  refine depthOfItems_le fun w hw => ?_
  rcases List.mem_or_eq_of_mem_set hw with hold | rfl
  · exact (depth_le_of_mem hold).trans (Nat.le_max_left _ _)
  · exact Nat.le_max_right _ _

theorem depthOfItems_middle {v v' : Json} (h : v'.depth = v.depth) (before after : List Json) :
    depthOfItems (before ++ v' :: after) = depthOfItems (before ++ v :: after) := by
  induction before with
  | nil => simp only [List.nil_append, depthOfItems, h]
  | cons item before ih => simp only [List.cons_append, depthOfItems, ih]

theorem ensureCopyable_of_depth_le {v : Json} (h : v.depth ≤ copyLimit) :
    v.ensureCopyable = .ok () := by
  rw [ensureCopyable, if_neg (Nat.not_lt.mpr h)]

end Json

namespace Editor

/-- The widget values of a node are nested no deeper than what is saved for them. -/
theorem depth_widgetValues_le {id values : Json} {widgets : List Json}
    (h : widgetValues id values = .ok widgets) :
    (Json.arr widgets).depth ≤ max 1 values.depth := by
  cases values with
  | null =>
      obtain rfl : [] = widgets := Except.ok.inj h
      decide
  | arr items =>
      obtain rfl : items = widgets := Except.ok.inj h
      exact Nat.le_max_right _ _
  | obj fields =>
      obtain rfl : Entries.values fields = widgets := Except.ok.inj h
      rw [Json.depth, Json.depthOfItems_values, Json.depth]
      exact Nat.le_max_right _ _
  | bool | int | float | str => cases h

end Editor

namespace Copying

open Editor (nodeOfEntry)

/-! ## Parts of nodes -/

theorem isCopyableEntry_of_depth_le {entry : Json} (h : entry.depth ≤ Json.copyLimit) :
    isCopyableEntry entry = true := by
  rw [isCopyableEntry]
  cases hn : nodeOfEntry entry with
  | error e => rfl
  | ok n =>
      cases entry with
      | obj fields =>
          have hfields : Json.depthOfFields fields < Json.copyLimit := by
            rw [Json.depth] at h
            omega
          obtain ⟨widgets, inputs, outputs, slots, hw, -, -, -, rfl⟩ :=
            Editor.Node.ofFields_eq_ok_iff.mp hn
          have hwidgets : (Json.arr widgets).depth ≤ Json.copyLimit := by
            have hle := Editor.depth_widgetValues_le hw
            have hvalue := Json.depth_value_le fields "widgets_values"
            omega
          have hproperties :
              ((Fields.value fields "properties").orElse (.obj [])).depth ≤ Json.copyLimit := by
            have hvalue := Json.depth_value_le fields "properties"
            rw [Json.orElse]
            split
            · omega
            · decide
          simp only [isCopyableNode, Editor.Node.ofParts,
            Json.ensureCopyable_of_depth_le hwidgets, Json.ensureCopyable_of_depth_le hproperties]
          rfl
      | null | bool | int | float | str | arr => cases hn

/-- Entries that are read can be copied if the nodes that are read of them can. -/
theorem forall_isCopyableEntry_iff {entries : List Json} {nodes : List Editor.Node}
    (h : entries.mapM nodeOfEntry = .ok nodes) :
    (∀ entry ∈ entries, isCopyableEntry entry = true) ↔
      ∀ n ∈ nodes, isCopyableNode n = true := by
  constructor
  · intro hentries n hn
    obtain ⟨entry, hentry, hread⟩ := exists_item_of_mem h hn
    have hcopyable := hentries entry hentry
    rwa [isCopyableEntry, hread] at hcopyable
  · intro hnodes entry hentry
    obtain ⟨n, hn, hread⟩ := exists_result_of_mem h hentry
    rw [isCopyableEntry, hread]
    exact hnodes n hn

section Limit

variable {w : Json} (h : w.depth ≤ Json.copyLimit)
include h

/-- Within the limit every entry of the list of nodes can be copied. -/
theorem entriesBefore?_of_depth_le : entriesBefore? w = none := by
  cases w with
  | obj fields =>
      simp only [entriesBefore?, Json.fields?, Option.bind_eq_bind, Option.bind_some]
      cases hitems : (Fields.value fields "nodes").items? with
      | none => rfl
      | some entries =>
          have hnodes : Fields.value fields "nodes" = .arr entries := by
            cases hv : Fields.value fields "nodes" <;> simp_all [Json.items?]
          have hall : entries.all isCopyableEntry = true := by
            rw [List.all_eq_true]
            intro entry hentry
            refine isCopyableEntry_of_depth_le ?_
            have hvalue := Json.depth_value_le fields "nodes"
            have hitem := Json.depth_le_of_mem hentry
            rw [hnodes, Json.depth] at hvalue
            rw [Json.depth] at h
            omega
          rw [Option.bind_some, if_pos hall]
  | null | bool | int | float | str | arr => rfl

theorem readingStop?_of_depth_le : readingStop? w = none := by
  have hlinks : areLinksCopyable w = true := by
    cases w with
    | obj fields =>
        have hvalue := Json.depth_value_le fields "links"
        rw [Json.depth] at h
        rw [areLinksCopyable, Json.ensureCopyable_of_depth_le (by omega)]
        rfl
    | null | bool | int | float | str | arr => rfl
  rw [readingStop?, entriesBefore?_of_depth_le h]
  simp [hlinks]

/-- **Within the limit an analysis of copies is an analysis.** -/
theorem analyze_of_depth_le : analyze w = Repair.analyze w := by
  rw [analyze, entriesBefore?_of_depth_le h]

end Limit

theorem exists_error_of_afterwards {α β : Type} (before : Except Failure α) :
    ∃ e, (afterwards before : Except Failure β) = .error e := by
  cases before <;> exact ⟨_, rfl⟩

theorem sourceStop?_of_editor {source : WorkflowSource} {data : Json}
    (h : source.editor = .ok data) : sourceStop? source = readingStop? data := by
  rw [sourceStop?, h]
  rfl

theorem sourceStop?_of_depth_le {source : WorkflowSource}
    (h : ∀ data, source.editor = .ok data → data.depth ≤ Json.copyLimit) :
    sourceStop? source = none := by
  rw [sourceStop?]
  cases hdata : source.editor with
  | error e => rfl
  | ok data => exact readingStop?_of_depth_le (h data hdata)

/-- Where nothing stands in the way of copying, a compilation of copies is a compilation. -/
theorem compileSource_of_sourceStop? (catalog : Catalog) (rules : List Execution.RedirectRule)
    {source : WorkflowSource} (h : sourceStop? source = none) :
    compileSource catalog rules source = NodeWorkflow.compileSource catalog rules source := by
  rw [compileSource, h]

/-- **Within the limit a compilation of copies is a compilation.** -/
theorem compileSource_of_depth_le (catalog : Catalog) (rules : List Execution.RedirectRule)
    {source : WorkflowSource}
    (h : ∀ data, source.editor = .ok data → data.depth ≤ Json.copyLimit) :
    compileSource catalog rules source = NodeWorkflow.compileSource catalog rules source :=
  compileSource_of_sourceStop? catalog rules (sourceStop?_of_depth_le h)

theorem eq_of_editor_obj {w : Fields} {data : Json}
    (h : (WorkflowSource.value (.obj w)).editor = .ok data) : data = .obj w := by
  simp only [WorkflowSource.editor, acceptEditor] at h
  split at h
  · cases h
  · split at h
    · exact (Except.ok.inj h).symm
    · cases h

/-- The same told of an object. -/
theorem compileSource_obj_of_depth_le (catalog : Catalog) (rules : List Execution.RedirectRule)
    {w : Fields} (h : (Json.obj w).depth ≤ Json.copyLimit) :
    compileSource catalog rules (.value (.obj w)) =
      NodeWorkflow.compileSource catalog rules (.value (.obj w)) := by
  refine compileSource_of_depth_le catalog rules fun data hdata => ?_
  rw [eq_of_editor_obj hdata]
  exact h

theorem compile_obj_of_depth_le {w : Fields} (h : (Json.obj w).depth ≤ Json.copyLimit) :
    compile (.obj w) = NodeWorkflow.compile (.obj w) :=
  compileSource_obj_of_depth_le _ _ h

/-- A compilation of copies gives a graph if nothing stands in the way of copying and the
compilation gives it. -/
theorem compileSource_eq_ok_iff {catalog : Catalog} {rules : List Execution.RedirectRule}
    {source : WorkflowSource} {g : Execution.Graph} :
    (compileSource catalog rules source).outcome = .ok g ↔
      sourceStop? source = none ∧
        (NodeWorkflow.compileSource catalog rules source).outcome = .ok g := by
  rw [compileSource]
  cases hstop : sourceStop? source with
  | none => simp
  | some stop =>
      -- what stops the reading is a failure
      have hfails : ∃ e, stop.outcome = .error e := by
        obtain ⟨data, -, hstop⟩ := Option.bind_eq_some_iff.mp hstop
        simp only [readingStop?] at hstop
        split at hstop
        · obtain rfl := Option.some.inj hstop
          exact exists_error_of_afterwards _
        · split at hstop
          · cases hstop
          · obtain rfl := Option.some.inj hstop
            exact exists_error_of_afterwards _
      obtain ⟨log, outcome⟩ := stop
      obtain ⟨e, rfl⟩ := hfails
      simp [Compilation.failed]

theorem entriesBefore?_of_nodes {w : Fields} {entries : List Json}
    (h : Fields.value w "nodes" = .arr entries) :
    entriesBefore? (.obj w) =
      if entries.all isCopyableEntry then none else some (entries.takeWhile isCopyableEntry) := by
  simp [entriesBefore?, Json.fields?, h, Json.items?]

/-- Nothing stands in the way of copying a graph whose nodes and links can be copied. -/
theorem readingStop?_eq_none_iff {w : Fields} {entries : List Json}
    (h : Fields.value w "nodes" = .arr entries) :
    readingStop? (.obj w) = none ↔
      (∀ entry ∈ entries, isCopyableEntry entry = true) ∧
        (Fields.value w "links").ensureCopyable.isOk = true := by
  rw [readingStop?, entriesBefore?_of_nodes h, ← List.all_eq_true]
  cases entries.all isCopyableEntry with
  | false => simp
  | true =>
      simp only [if_pos, areLinksCopyable, true_and]
      by_cases hlinks : (Fields.value w "links").ensureCopyable.isOk = true <;> simp [hlinks]

/-- **When an object compiles, told of its nodes**: its list of links can be copied, and its
nodes are read, can be copied and compile. -/
theorem compileSource_eq_ok_iff_of_nodes {catalog : Catalog}
    {rules : List Execution.RedirectRule} {source : WorkflowSource} {w : Fields}
    {entries : List Json} {g : Execution.Graph} (hw : source.editor = .ok (.obj w))
    (hnodes : Fields.value w "nodes" = .arr entries) :
    (compileSource catalog rules source).outcome = .ok g ↔
      (Fields.value w "links").ensureCopyable.isOk = true ∧
        ∃ nodes, entries.mapM nodeOfEntry = .ok nodes ∧
          (∀ n ∈ nodes, isCopyableNode n = true) ∧
          (compileGraph catalog rules
            ⟨nodes, Editor.linksIn (Fields.value w "links")⟩).2 = .ok g := by
  rw [compileSource_eq_ok_iff, sourceStop?_of_editor hw, readingStop?_eq_none_iff hnodes,
    outcome_compileSource, graph_of_editor hw hnodes]
  constructor
  · rintro ⟨⟨hentries, hlinks⟩, hok⟩
    obtain ⟨e, he, hg⟩ := bind_eq_ok_iff.mp hok
    obtain ⟨nodes, hread, rfl⟩ := map_eq_ok_iff.mp he
    exact ⟨hlinks, nodes, hread, (forall_isCopyableEntry_iff hread).mp hentries, hg⟩
  · rintro ⟨hlinks, nodes, hread, hcopyable, hg⟩
    refine ⟨⟨(forall_isCopyableEntry_iff hread).mpr hcopyable, hlinks⟩, ?_⟩
    rw [hread]
    exact hg

theorem autoFix_of_depth_le {w : Json} (h : w.depth ≤ Json.copyLimit) :
    autoFix w = Repair.autoFix w := by
  rw [autoFix, Json.ensureCopyable_of_depth_le h]
  rfl

theorem quickFix_of_depth_le {w : Json} (h : w.depth ≤ Json.copyLimit) :
    quickFix w = Repair.quickFix w := by
  rw [quickFix, Json.ensureCopyable_of_depth_le h]
  rfl

/-- **Within the limit a repair of copies is a repair.** -/
theorem analyzeAndFix_of_depth_le {w : Json} (h : w.depth ≤ Json.copyLimit)
    (hstop : sourceStop? (.value w) = none) : analyzeAndFix w = Repair.analyzeAndFix w := by
  have hfixable : (ensureFixable w).outcome = (Repair.analyze w).outcome.map fun _ => () := by
    simp only [ensureFixable, analyze_of_depth_le h, Logged.outcome_bind,
      hstop, Json.ensureCopyable_of_depth_le h]
    cases (Repair.analyze w).outcome with
    | error e => rfl
    | ok analysis =>
        change (if (!analysis.isValid) = true then Logged.ofExcept (Except.ok ())
          else pure ()).outcome = _
        cases analysis.isValid <;> rfl
  cases ha : (Repair.analyze w).outcome with
  | ok analysis =>
      rw [ha] at hfixable
      simp only [analyzeAndFix, hfixable, Except.map]
  | error e =>
      rw [ha] at hfixable
      simp only [analyzeAndFix, hfixable, Except.map]
      simp only [ensureFixable, Repair.analyzeAndFix, analyze_of_depth_le h]
      generalize Repair.analyze w = x at ha
      obtain ⟨log, outcome⟩ := x
      obtain rfl : outcome = .error e := ha
      rfl

end Copying

end NodeWorkflow
