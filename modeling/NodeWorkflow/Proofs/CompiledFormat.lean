import NodeWorkflow.Proofs.Copying

/-!
# The format of compiled workflows

Three tests, written apart, tell the format of a workflow: one looks at its first entry, one at
the names of its entries, and one at every entry. What a compilation writes has the keys that
the ids of nodes make, and `nodes` and `links` are such keys as well; still the tests agree on
it, since under each of its keys stands an object with a type.

## Main definitions

* `Execution.IsWritten` — what the tests rest on: entries, each with a type and inputs.

## Main statements

* `isWritten_of_compileSource` — a compilation writes entries of this form.
* `outcome_isSoundWorkflow` — they are judged sound.
* `compileSource_of_isWritten` — they are not compiled again.
* `closed_under_formats` — the tests agree on what a compilation writes, and bringing a workflow
  into the engine's format twice does what doing so once does.
-/

namespace NodeWorkflow

open Execution (RedirectRule)

/-! ## Written entries -/

namespace Execution

/-- There are entries, and under each key stands an object with a type and inputs. -/
structure IsWritten (fields : Fields) : Prop where
  nonempty : fields ≠ []
  entry : ∀ field ∈ fields, ∃ node : Node, node.classType ≠ "" ∧ field.2 = node.toJson

/-- A graph with nodes of some type is written so. -/
theorem isWritten_toFields {g : Graph} (hne : g ≠ []) (hkeyed : g.IsKeyed) :
    IsWritten g.toFields where
  nonempty := by
    rwa [Graph.toFields, Entries.mapValues, Ne, List.map_eq_nil_iff]
  entry := by
    intro field hfield
    obtain ⟨entry, hentry, rfl⟩ := List.mem_map.mp hfield
    exact ⟨entry.2, (hkeyed entry hentry).2, rfl⟩

theorem entryParts?_toJson {node : Node} (h : node.classType ≠ "") :
    entryParts? node.toJson =
      some (.str node.classType, Entries.mapValues Binding.toJson node.inputs) := by
  have hfilled : (Json.str node.classType).isFilled = true := by
    simpa [Json.isFilled] using h
  simp [entryParts?, Node.toJson, Json.fields?, Fields.value, Entries.get?_cons, Inputs.toJson,
    hfilled]

/-- Entries with a type and inputs are sound, whatever parameters they lack. -/
theorem outcome_soundEntries (catalog : Catalog) {fields : Fields}
    (h : ∀ field ∈ fields, ∃ node : Node, node.classType ≠ "" ∧ field.2 = node.toJson) :
    (soundEntries catalog (Table.ofFields fields)).outcome = .ok true := by
  induction fields with
  | nil => rfl
  | cons field rest ih =>
      obtain ⟨id, entry⟩ := field
      obtain ⟨node, htype, rfl⟩ := h _ List.mem_cons_self
      have ih := ih fun other hother => h other (List.mem_cons_of_mem _ hother)
      rw [Table.ofFields, List.map_cons, ← Table.ofFields, soundEntries, entryParts?_toJson htype]
      simp only [missingInEntry, Logged.outcome_bind]
      change (if _ then _ else _ : Logged Bool).outcome = _
      split
      · rw [Logged.outcome_bind]
        exact ih
      · exact ih

/-- **Written entries are judged sound.** -/
theorem outcome_isSoundWorkflow (catalog : Catalog) {fields : Fields} (h : IsWritten fields) :
    (isSoundWorkflow catalog (.obj fields)).outcome = .ok true := by
  have hsound := outcome_soundEntries catalog h.entry
  cases fields with
  | nil => exact absurd rfl h.nonempty
  | cons field rest => exact hsound

variable {fields : Fields} (h : IsWritten fields)
include h

theorem firstEntryHasType_of_isWritten : firstEntryHasType fields = true := by
  cases fields with
  | nil => exact absurd rfl h.nonempty
  | cons field rest =>
      obtain ⟨id, entry⟩ := field
      obtain ⟨node, htype, rfl⟩ := h.entry _ List.mem_cons_self
      simpa [firstEntryHasType, Node.toJson, Fields.value, Entries.get?_cons, Json.isFilled]
        using htype

/-- No key has a list, whatever its name. -/
theorem isList_value_of_isWritten (name : String) : (Fields.value fields name).isList = false := by
  rw [Fields.value]
  cases hget : Entries.get? fields name with
  | none => rfl
  | some v =>
      obtain ⟨node, -, hv⟩ := h.entry _ (Entries.mem_of_get? hget)
      obtain rfl : v = node.toJson := hv
      rfl

theorem isEditorFormat_of_isWritten : isEditorFormat (.obj fields) = false := by
  simp [isEditorFormat, isList_value_of_isWritten h, firstEntryHasType_of_isWritten h]

/-- What is refused about written entries depends on whether a node has one of the names of the
lists of an editor graph. -/
theorem editor_of_isWritten :
    (WorkflowSource.value (.obj fields)).editor =
      .error (.structural
        (if Entries.has fields "nodes" || Entries.has fields "links" then .noNodeList
        else .alreadyCompiled)) := by
  simp only [WorkflowSource.editor, acceptEditor, looksCompiled, firstEntryHasType_of_isWritten h,
    isList_value_of_isWritten h]
  cases Entries.has fields "nodes" <;> cases Entries.has fields "links" <;> rfl

end Execution

/-! ## Compiled workflows -/

/-- **A compilation writes entries with types and inputs.** -/
theorem isWritten_of_compileSource {catalog : Catalog} {rules : List RedirectRule}
    {source : WorkflowSource} {g : Execution.Graph}
    (h : (compileSource catalog rules source).outcome = .ok g) :
    Execution.IsWritten g.toFields := by
  obtain ⟨e, -, hnodes, hne, rfl⟩ := compileSource_eq_ok_iff.mp h
  refine Execution.isWritten_toFields ?_ (isKeyed_rewire (isKeyed_assemble catalog _ hnodes) rules)
  rwa [Execution.rewire, Entries.mapValues, Ne, List.map_eq_nil_iff]

namespace Copying

/-- **Written entries are not compiled again.** -/
theorem compileSource_of_isWritten (catalog : Catalog) (rules : List RedirectRule)
    {fields : Fields} (h : Execution.IsWritten fields) :
    (compileSource catalog rules (.value (.obj fields))).outcome =
      .error (.structural
        (if Entries.has fields "nodes" || Entries.has fields "links" then .noNodeList
        else .alreadyCompiled)) := by
  have heditor := Execution.editor_of_isWritten h
  have hstop : sourceStop? (.value (.obj fields)) = none := by
    rw [sourceStop?, heditor]
    rfl
  rw [compileSource_of_sourceStop? catalog rules hstop, NodeWorkflow.compileSource, heditor]
  rfl

/-- What is in the engine's format passes as it is. -/
theorem ensureExecution_of_not_isEditorFormat {w : Json} (h : isEditorFormat w = false) :
    ensureExecution w = pure w := by
  rw [ensureExecution, h]
  rfl

/-- What comes out in the engine's format needs no compiling. -/
theorem isEditorFormat_of_ensureExecution {w r : Json} (h : (ensureExecution w).outcome = .ok r) :
    isEditorFormat r = false := by
  cases hw : isEditorFormat w with
  | false =>
      rw [ensureExecution_of_not_isEditorFormat hw] at h
      obtain rfl := Except.ok.inj h
      exact hw
  | true =>
      rw [ensureExecution, if_pos hw, compileToJson, Logged.outcome_bind] at h
      obtain ⟨g, hg, hr⟩ := bind_eq_ok_iff.mp h
      obtain rfl := Except.ok.inj hr
      exact Execution.isEditorFormat_of_isWritten
        (isWritten_of_compileSource (compileSource_eq_ok_iff.mp hg).2)

end Copying

/-- **The tests of formats agree on what a compilation writes**, whatever the ids of its nodes
are: it is sound by any catalog, it is no editor graph and passes as it is where the engine's
format is asked for, and it is refused where an editor graph is asked for. So asking for the
engine's format twice does what asking once does. -/
theorem closed_under_formats :
    (∀ {catalog : Catalog} {rules : List RedirectRule} {source : WorkflowSource}
        {g : Execution.Graph}, (Copying.compileSource catalog rules source).outcome = .ok g →
      (∀ other, (Execution.isSoundWorkflow other g.toJson).outcome = .ok true) ∧
        isEditorFormat g.toJson = false ∧
        Copying.ensureExecution g.toJson = pure g.toJson ∧
        ∀ other rules', (Copying.compileSource other rules' (.value g.toJson)).outcome =
          .error (.structural
            (if Entries.has g "nodes" || Entries.has g "links" then .noNodeList
            else .alreadyCompiled))) ∧
      ∀ w r, (Copying.ensureExecution w).outcome = .ok r → Copying.ensureExecution r = pure r := by
  refine ⟨?compiled, ?twice⟩
  case compiled =>
    intro catalog rules source g h
    have hwritten := isWritten_of_compileSource (Copying.compileSource_eq_ok_iff.mp h).2
    have hformat := Execution.isEditorFormat_of_isWritten hwritten
    refine ⟨?sound, hformat, Copying.ensureExecution_of_not_isEditorFormat hformat, ?refused⟩
    case sound => exact fun other => Execution.outcome_isSoundWorkflow other hwritten
    case refused =>
      intro other rules'
      rw [Execution.Graph.toJson, Copying.compileSource_of_isWritten other rules' hwritten,
        Entries.has_congr g.keys_toFields, Entries.has_congr g.keys_toFields]
  case twice =>
    intro w r hr
    exact Copying.ensureExecution_of_not_isEditorFormat
      (Copying.isEditorFormat_of_ensureExecution hr)

/-- Two nodes with the names of the lists of an editor graph. -/
def listNames : WorkflowSource :=
  .value (.obj [("nodes", .arr [.obj [("id", .str "nodes"), ("type", .str "VAEDecode")],
    .obj [("id", .str "links"), ("type", .str "VAEDecode")]])])

def listNamesCompiled : Execution.Graph :=
  [("nodes", ⟨"VAEDecode", [], .str "VAE Decode"⟩), ("links", ⟨"VAEDecode", [], .str "VAE Decode"⟩)]

theorem closed_under_formats_listNames :
    (Copying.compileSource Catalog.standard Execution.defaultRules listNames).outcome =
        .ok listNamesCompiled ∧
      isEditorFormat listNamesCompiled.toJson = false ∧
      (Copying.compileSource Catalog.standard Execution.defaultRules
        (.value listNamesCompiled.toJson)).outcome = .error (.structural .noNodeList) := by
  have h : (Copying.compileSource Catalog.standard Execution.defaultRules listNames).outcome =
      .ok listNamesCompiled := by
    rfl
  obtain ⟨-, hformat, -, hrefused⟩ := closed_under_formats.1 h
  exact ⟨h, hformat, hrefused _ _⟩

end NodeWorkflow
