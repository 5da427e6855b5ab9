import NodeWorkflow.Proofs.Retention
import NodeWorkflow.Repair.Fix

/-!
# When a compilation finds nothing wrong

Issues come from five places: links that cannot be read, sockets whose link is not
known, the resolution calculator without all of its values, wires that no rule leads
anywhere, and parameters that are missing in the end. Every stage appends to one list,
and a compilation has no issue if none of the five has.

## Main definitions

* `issuesIn` — the issues among findings.
* `findingsOf` — everything that is found in compiling a graph.
* `IsFlawless` — what is asked of a graph and of its compiled form.

## Main statements

* `withoutReports_compileGraph`, `issues_compileGraph` — what a compilation records, and
  its issues, stage by stage.
* `hasIssues_eq_false_iff` — a compilation without issues.
-/

namespace NodeWorkflow

open Execution (RedirectRule Binding keyOf linkAt? has_rewire)

/-! ## Issues among findings -/

/-- The issues among findings. -/
def issuesIn (findings : List Finding) : List String :=
  findings.filterMap Finding.issueText?

@[simp] theorem issuesIn_nil : issuesIn [] = [] := rfl

@[simp] theorem issuesIn_append (fs gs : List Finding) :
    issuesIn (fs ++ gs) = issuesIn fs ++ issuesIn gs :=
  List.filterMap_append

@[simp] theorem issuesIn_note (message : String) (fs : List Finding) :
    issuesIn (.note message :: fs) = issuesIn fs := rfl

@[simp] theorem issuesIn_issue (message : String) (advice : Option String) (fs : List Finding) :
    issuesIn (.issue message advice :: fs) = message :: issuesIn fs := rfl

theorem issuesIn_flatMap_eq_nil_iff {α : Type} {xs : List α} {f : α → List Finding} :
    issuesIn (xs.flatMap f) = [] ↔ ∀ x ∈ xs, issuesIn (f x) = [] := by
  induction xs with
  | nil => simp
  | cons x xs ih => simp [ih]

/-! ## What is found, stage by stage -/

namespace Diagnostics

/-- Everything that was found, without the reports on nodes. -/
def withoutReports (d : Diagnostics) : Diagnostics := { d with reports := [] }

theorem recordAll_append (d : Diagnostics) (fs gs : List Finding) :
    d.recordAll (fs ++ gs) = (d.recordAll fs).recordAll gs := by
  simp [recordAll]

theorem withoutReports_recordAll (d : Diagnostics) (fs : List Finding) :
    (d.recordAll fs).withoutReports = d.withoutReports.recordAll fs := rfl

theorem issues_recordAll (d : Diagnostics) (fs : List Finding) :
    (d.recordAll fs).issues = d.issues ++ issuesIn fs := rfl

end Diagnostics

open Diagnostics (recordAll_append withoutReports_recordAll issues_recordAll)

theorem withoutReports_foldl_file (outcomes : List NodeOutcome) (d : Diagnostics) :
    (outcomes.foldl NodeOutcome.file d).withoutReports =
      d.withoutReports.recordAll (outcomes.flatMap NodeOutcome.findings) := by
  induction outcomes generalizing d with
  | nil => simp
  | cons o outcomes ih =>
      have hstep : (o.file d).withoutReports = d.withoutReports.recordAll o.findings := rfl
      rw [List.foldl_cons, ih, hstep, List.flatMap_cons, recordAll_append]

theorem withoutReports_fileMissing (d : Diagnostics) (id : String) (missing : List String) :
    (Execution.fileMissing d id missing).withoutReports = d.withoutReports := by
  rw [Execution.fileMissing]
  cases d.reportOn? (.str id) <;> rfl

/-- What is found about a node of a compiled graph that lacks parameters. -/
def lackFindings (catalog : Catalog) (entry : String × Execution.Node) : List Finding :=
  Execution.missingFindings entry.1 entry.2.classType
    (Execution.missingParams catalog entry.2.classType entry.2.inputs)

theorem withoutReports_checkGraph (catalog : Catalog) {g : Execution.Graph} (h : g.IsKeyed)
    (d : Diagnostics) :
    (Execution.checkGraph catalog g d).1.withoutReports =
      d.withoutReports.recordAll (g.flatMap (lackFindings catalog)) := by
  induction g generalizing d with
  | nil => simp [Execution.checkGraph]
  | cons entry rest ih =>
      obtain ⟨id, n⟩ := entry
      have hentry : Execution.isUsableId (.str id) = true ∧ n.classType ≠ "" :=
        h (id, n) List.mem_cons_self
      rw [checkGraph_cons hentry.1 hentry.2, ih (fun e he => h e (List.mem_cons_of_mem _ he)),
        withoutReports_recordAll, withoutReports_fileMissing, List.flatMap_cons, recordAll_append]
      rfl

theorem diagnostics_compileSource {catalog : Catalog} {rules : List RedirectRule}
    {source : WorkflowSource} {e : Editor.Graph} (h : source.graph = .ok e) :
    (compileSource catalog rules source).diagnostics = (compileGraph catalog rules e).1 := by
  obtain ⟨data, hdata, hread⟩ := bind_eq_ok_iff.mp h
  simp only [compileSource, hdata, hread]

/-- Everything that is found in compiling a graph: about links, about nodes, about mended
wires, and about parameters of the finished graph. -/
def findingsOf (catalog : Catalog) (rules : List RedirectRule) (e : Editor.Graph) :
    List Finding :=
  let table := (Editor.linkTable e.links).1
  let mended := Execution.rewire rules (assemble catalog table e.nodes)
  (Editor.linkTable e.links).2 ++
    (e.nodes.flatMap fun n => (outcomeOf catalog table n).findings) ++
    mended.2 ++ mended.1.flatMap (lackFindings catalog)

section Stages

variable {catalog : Catalog} {rules : List RedirectRule} {e : Editor.Graph}

/-- The diagnostics of a compilation: nodes are filed after what was found about links, and
the finished graph is checked after what was found about wires. -/
theorem fst_compileGraph (hnodes : ∀ n ∈ e.nodes, n.IsCompilable)
    (hne : assemble catalog (Editor.linkTable e.links).1 e.nodes ≠ []) :
    (compileGraph catalog rules e).1 =
      let table := (Editor.linkTable e.links).1
      let mended := Execution.rewire rules (assemble catalog table e.nodes)
      (Execution.checkGraph catalog mended.1
        (((e.nodes.map (outcomeOf catalog table)).foldl NodeOutcome.file
          (({} : Diagnostics).recordAll (Editor.linkTable e.links).2)).recordAll mended.2)).1 := by
  simp only [compileGraph, compileNodes_of_isCompilable hnodes, gather_outcomes]
  cases hg : assemble catalog (Editor.linkTable e.links).1 e.nodes with
  | nil => exact absurd hg hne
  | cons entry rest => rfl

/-- **A compilation records what is found, stage by stage.** -/
theorem withoutReports_compileGraph (hnodes : ∀ n ∈ e.nodes, n.IsCompilable)
    (hne : assemble catalog (Editor.linkTable e.links).1 e.nodes ≠ []) :
    (compileGraph catalog rules e).1.withoutReports =
      ({} : Diagnostics).recordAll (findingsOf catalog rules e) := by
  have hkeyed := isKeyed_rewire
    (isKeyed_assemble catalog (Editor.linkTable e.links).1 hnodes) rules
  rw [fst_compileGraph hnodes hne, withoutReports_checkGraph catalog hkeyed,
    withoutReports_recordAll, withoutReports_foldl_file, withoutReports_recordAll,
    List.flatMap_map]
  simp only [findingsOf, recordAll_append]
  rfl

/-- **The issues of a compilation, stage by stage.** -/
theorem issues_compileGraph (hnodes : ∀ n ∈ e.nodes, n.IsCompilable)
    (hne : assemble catalog (Editor.linkTable e.links).1 e.nodes ≠ []) :
    (compileGraph catalog rules e).1.issues =
      issuesIn (Editor.linkTable e.links).2 ++
      issuesIn (e.nodes.flatMap fun n =>
        (outcomeOf catalog (Editor.linkTable e.links).1 n).findings) ++
      issuesIn (Execution.rewire rules
        (assemble catalog (Editor.linkTable e.links).1 e.nodes)).2 ++
      issuesIn ((Execution.rewire rules
        (assemble catalog (Editor.linkTable e.links).1 e.nodes)).1.flatMap
          (lackFindings catalog)) := by
  have hrecorded : (compileGraph catalog rules e).1.withoutReports = _ :=
    withoutReports_compileGraph hnodes hne
  have hissues := congrArg Diagnostics.issues hrecorded
  have hstart : ({} : Diagnostics).issues = [] := rfl
  rw [issues_recordAll, hstart, List.nil_append] at hissues
  simp only [findingsOf, issuesIn_append] at hissues
  exact hissues

end Stages

/-! ## Links -/

/-- Reading a list of links leaves no issue if every entry is a link. -/
theorem issuesIn_extendTable_eq_nil_iff (index : Nat) (table : Editor.LinkTable)
    (entries : List Json) :
    issuesIn (Editor.extendTable index table entries).2 = [] ↔
      ∀ entry ∈ entries, ∃ link, Editor.Link.ofJson entry = .ok link := by
  induction entries generalizing index table with
  | nil => simp [Editor.extendTable]
  | cons entry entries ih =>
      simp only [Editor.extendTable, issuesIn_append, List.append_eq_nil_iff, ih,
        List.forall_mem_cons]
      refine and_congr_left fun _ => ?_
      cases Editor.Link.ofJson entry with
      | error fault => simp [Editor.linkFindings]
      | ok link =>
          simp only [Editor.linkFindings]
          split <;> simp

theorem issuesIn_linkTable_eq_nil_iff {entries : List Json} :
    issuesIn (Editor.linkTable entries).2 = [] ↔
      ∀ entry ∈ entries, ∃ link, Editor.Link.ofJson entry = .ok link :=
  issuesIn_extendTable_eq_nil_iff 0 [] entries

/-! ## Nodes -/

theorem isSome_linkAt?_iff {table : Editor.LinkTable} {slot : Editor.InputSlot} :
    (linkAt? table slot).isSome = true ↔
      ∃ id link, slot.link.integer? = some id ∧ Entries.get? table id = some link := by
  rw [linkAt?, Option.isSome_iff_exists]
  simp only [Option.bind_eq_some_iff]
  exact exists_comm

/-- No socket is found dangling if every socket with a link has one that is known. -/
theorem issuesIn_danglingLinks_eq_nil_iff {table : Editor.LinkTable} {id : Json}
    {slots : List Editor.InputSlot} :
    issuesIn (Execution.danglingLinks table id slots) = [] ↔
      ∀ slot ∈ slots, slot.link.isNull = false →
        ∃ id link, slot.link.integer? = some id ∧ Entries.get? table id = some link := by
  simp only [← isSome_linkAt?_iff]
  induction slots with
  | nil => simp [Execution.danglingLinks]
  | cons slot slots ih =>
      rw [List.forall_mem_cons, ← ih]
      cases hnull : slot.link.isNull <;> cases hlink : (linkAt? table slot).isSome <;>
        simp [Execution.danglingLinks, hnull, hlink]

/-- Only the resolution calculator has the hook that may find an issue. -/
theorem hook_eq_resolution_iff {type : String} {known : NodeType}
    (h : Catalog.standard.find? type = some known) :
    known.hook = some .resolution ↔ type = Repair.resolutionType := by
  have hall : ∀ entry ∈ Catalog.standard,
      (entry.2.hook = some .resolution ↔ entry.1 = Repair.resolutionType) := by
    decide +kernel
  exact hall _ (Catalog.mem_of_find? h)

/-- The issue about a resolution calculator with too few values. -/
def defaultsText (id : String) (count : Nat) : String :=
  s!"Resolution node {id} has {count} widget values, expected " ++
    s!"{Execution.resolutionParams.length}; applying defaults"

/-- Of the hooks only that of the resolution calculator finds an issue, and only if
there are too few values. -/
theorem issuesIn_offers (hook : Hook) (id : Json) (order : List String) (values : List Json) :
    issuesIn (hook.offers id order values).2 =
      if hook = .resolution ∧ values.length < 5 then [defaultsText id.inWords values.length]
      else [] := by
  cases hook with
  | sampler =>
      simp only [Hook.offers, Execution.samplerOffers]
      split <;> rfl
  | resolution =>
      have hlength : Execution.resolutionParams.length = 5 := rfl
      simp only [Hook.offers, Execution.resolutionOffers, hlength]
      by_cases h : 5 ≤ values.length
      · rw [if_pos h, if_neg fun hfew => Nat.not_lt.mpr h hfew.2]
        rfl
      · rw [if_neg h, if_pos ⟨trivial, Nat.not_le.mp h⟩]
        rfl
  | tiledUpscale =>
      simp only [Hook.offers, Execution.tiledUpscaleOffers]
      split <;> rfl
  | dualLoader =>
      simp only [Hook.offers, Execution.dualLoaderOffers]
      split <;> rfl

/-- The issue about the widget values of a node, if there is one. -/
theorem issuesIn_offersFor (type : String) (n : Editor.Node) :
    issuesIn (Execution.offersFor Catalog.standard (some type) n).2 =
      if type = Repair.resolutionType ∧ n.widgets.length < 5 then
        [defaultsText n.id.inWords n.widgets.length]
      else [] := by
  rw [Execution.offersFor, Option.bind_some]
  cases hfind : Catalog.standard.find? type with
  | some known =>
      simp only [← hook_eq_resolution_iff hfind]
      cases hhook : known.hook with
      | none => rfl
      | some hook => simp only [issuesIn_offers, Option.some.injEq]
  | none =>
      have hnone : ¬(type = Repair.resolutionType ∧ n.widgets.length < 5) := by
        rintro ⟨rfl, -⟩
        cases hfind
      simp only [if_neg hnone]
      split
      · rfl
      · split
        · rfl
        · simp only
          split <;> rfl

theorem issuesIn_offersFor_eq_nil_iff (type : String) (n : Editor.Node) :
    issuesIn (Execution.offersFor Catalog.standard (some type) n).2 = [] ↔
      (type = Repair.resolutionType → 5 ≤ n.widgets.length) := by
  rw [issuesIn_offersFor, ite_eq_right_iff]
  simp

/-- The issues about a node that runs: its sockets come first, then its widget values. -/
theorem issuesIn_outcomeOf (table : Editor.LinkTable) {n : Editor.Node} {type : String}
    (h : n.runningType? = some type) :
    issuesIn (outcomeOf Catalog.standard table n).findings =
      issuesIn (Execution.danglingLinks table n.id n.inputs) ++
        issuesIn (Execution.offersFor Catalog.standard (some type) n).2 := by
  have hbypassed : issuesIn
      (if Editor.statusOf (some type) n.mode = .bypassed then
        [Finding.note s!"Bypassed node {n.id.inWords} ({type}) kept as a dependency"]
      else []) = [] := by
    split <;> rfl
  simp only [outcomeOf, h, keepNode, Execution.inputsOf, issuesIn_append, hbypassed,
    List.nil_append]

/-- The issues about a node: none unless it is retained. -/
theorem issuesIn_outcomeOf_eq_nil_iff (table : Editor.LinkTable) {n : Editor.Node}
    (h : n.IsCompilable) :
    issuesIn (outcomeOf Catalog.standard table n).findings = [] ↔
      (n.isRetained = true →
        (∀ slot ∈ n.inputs, slot.link.isNull = false →
          ∃ id link, slot.link.integer? = some id ∧ Entries.get? table id = some link) ∧
        (n.type? = some Repair.resolutionType → 5 ≤ n.widgets.length)) := by
  rw [Editor.Node.isRetained_eq_isSome_runningType? h]
  cases hruns : n.runningType? with
  | none => simp [outcomeOf, hruns, skipNode]
  | some type =>
      obtain ⟨-, htype, -⟩ := Editor.Node.runningType?_eq_some_iff.mp hruns
      rw [issuesIn_outcomeOf table hruns]
      simp only [List.append_eq_nil_iff, issuesIn_danglingLinks_eq_nil_iff,
        issuesIn_offersFor_eq_nil_iff, htype, Option.some.injEq, Option.isSome_some, forall_const]

/-! ## Wires -/

/-- A wire from the node `from_` to the input `name` comes from an entry of the graph,
or a rule leads it to one. -/
def IsMendable (rules : List RedirectRule) (g : Execution.Graph) (name from_ : String) : Prop :=
  Entries.has g from_ = true ∨
    ∃ r ∈ rules, r.inputName = name ∧ r.missing = from_ ∧ Entries.has g r.replacement = true

variable {rules : List RedirectRule} {g : Execution.Graph}

theorem isMendable_rewire_iff {name from_ : String} :
    IsMendable rules (Execution.rewire rules g).1 name from_ ↔ IsMendable rules g name from_ := by
  simp only [IsMendable, has_rewire]

theorem issuesIn_mendFindings_wire_eq_nil_iff {id name from_ : String} {slot : Int} :
    issuesIn (Execution.mendFindings rules g id name (.wire from_ slot)) = [] ↔
      IsMendable rules g name from_ := by
  have hrule : (Execution.ruleFor? rules g name from_).isSome = true ↔
      ∃ r ∈ rules, r.inputName = name ∧ r.missing = from_ ∧
        Entries.has g r.replacement = true := by
    simp [Execution.ruleFor?]
  rw [IsMendable, ← hrule, Execution.mendFindings]
  cases Entries.has g from_ <;> cases Execution.ruleFor? rules g name from_ <;> simp

theorem issuesIn_rewire_eq_nil_iff :
    issuesIn (Execution.rewire rules g).2 = [] ↔
      ∀ entry ∈ g, ∀ name from_ slot, (name, Binding.wire from_ slot) ∈ entry.2.inputs →
        IsMendable rules g name from_ := by
  simp only [Execution.rewire, issuesIn_flatMap_eq_nil_iff]
  refine forall₂_congr fun entry _ => ⟨?_, ?_⟩
  · intro h name from_ slot hinput
    exact issuesIn_mendFindings_wire_eq_nil_iff.mp (h (name, .wire from_ slot) hinput)
  · rintro h ⟨name, b⟩ hinput
    cases b with
    | literal value => rfl
    | wire from_ slot =>
        exact issuesIn_mendFindings_wire_eq_nil_iff.mpr (h name from_ slot hinput)

/-- With keys that differ, every retained node has an entry of its own, and nothing is
found about wires if each of its wires can be mended. -/
theorem issuesIn_rewire_assemble_eq_nil_iff {catalog : Catalog} {table : Editor.LinkTable}
    {nodes : List Editor.Node} (hnodes : ∀ n ∈ nodes, n.IsCompilable)
    (hkeys : ((nodes.filter Editor.Node.isRetained).map fun n => keyOf n.id).Nodup) :
    issuesIn (Execution.rewire rules (assemble catalog table nodes)).2 = [] ↔
      ∀ n ∈ nodes, n.isRetained = true → ∀ name from_ slot,
        (name, Binding.wire from_ slot) ∈ (Execution.inputsOf catalog table n.type? n).1 →
          IsMendable rules (assemble catalog table nodes) name from_ := by
  rw [issuesIn_rewire_eq_nil_iff]
  constructor
  · intro h n hn hretained name from_ slot hinput
    rw [Editor.Node.isRetained_eq_isSome_runningType? (hnodes n hn)] at hretained
    obtain ⟨type, hruns⟩ := Option.isSome_iff_exists.mp hretained
    obtain ⟨-, htype, -⟩ := Editor.Node.runningType?_eq_some_iff.mp hruns
    have hentry : (keyOf n.id, compiledNode catalog table n type) ∈
        assemble catalog table nodes := by
      rw [assemble_eq_filterMap hnodes catalog table hkeys, List.mem_filterMap]
      exact ⟨n, hn, entryOf?_eq_some_iff.mpr ⟨type, hruns, rfl⟩⟩
    rw [htype] at hinput
    exact h _ hentry name from_ slot hinput
  · intro h entry hentry name from_ slot hinput
    obtain ⟨n, hn, type, hruns, rfl⟩ := exists_of_mem_assemble hentry
    obtain ⟨-, htype, -⟩ := Editor.Node.runningType?_eq_some_iff.mp hruns
    refine h n hn ?_ name from_ slot (by rw [htype]; exact hinput)
    rw [Editor.Node.isRetained_eq_isSome_runningType? (hnodes n hn), hruns]
    rfl

/-! ## Parameters -/

/-- Nothing is found about an entry if something is bound to every required
parameter. -/
theorem issuesIn_lackFindings_eq_nil_iff {catalog : Catalog}
    {entry : String × Execution.Node} :
    issuesIn (lackFindings catalog entry) = [] ↔
      ∀ p ∈ catalog.requiredParams entry.2.classType,
        ∃ b, Entries.get? entry.2.inputs p = some b ∧ b.isNull = false := by
  have hempty : issuesIn (lackFindings catalog entry) = [] ↔
      Execution.missingParams catalog entry.2.classType entry.2.inputs = [] := by
    rw [lackFindings, Execution.missingFindings]
    split
    · rename_i h
      simpa using h
    · rename_i h
      simpa using h
  rw [hempty, Execution.missingParams, List.filter_eq_nil_iff]
  refine forall₂_congr fun p _ => ?_
  cases Entries.get? entry.2.inputs p <;> simp

/-! ## Compiled workflows -/

/-- What is asked of an editor graph and of its compiled form `g`: every link can be
read; every socket of a retained node that has a link has one that is known; every wire
of a retained node leads to an entry of the compiled graph, or a rule leads it to one;
the resolution calculator has its five values; and something is bound to every parameter
that an entry needs. -/
structure IsFlawless (rules : List RedirectRule) (e : Editor.Graph) (g : Execution.Graph) :
    Prop where
  links : ∀ entry ∈ e.links, ∃ link, Editor.Link.ofJson entry = .ok link
  sockets : ∀ n ∈ e.nodes, n.isRetained = true → ∀ slot ∈ n.inputs,
    slot.link.isNull = false →
      ∃ id link, slot.link.integer? = some id ∧
        Entries.get? (Editor.linkTable e.links).1 id = some link
  wires : ∀ n ∈ e.nodes, n.isRetained = true → ∀ name from_ slot,
    (name, Binding.wire from_ slot) ∈
        (Execution.inputsOf Catalog.standard (Editor.linkTable e.links).1 n.type? n).1 →
      IsMendable rules g name from_
  resolution : ∀ n ∈ e.nodes, n.isRetained = true →
    n.type? = some Repair.resolutionType → 5 ≤ n.widgets.length
  params : ∀ key node, (key, node) ∈ g →
    ∀ p ∈ Catalog.standard.requiredParams node.classType,
      ∃ b, Entries.get? node.inputs p = some b ∧ b.isNull = false

/-- **A compilation leaves no issue exactly if nothing is wrong with the graph**, provided
that the nodes that are retained differ in their keys: of two nodes with one key, the wires
of the first are never looked at. -/
theorem hasIssues_eq_false_iff {source : WorkflowSource} {e : Editor.Graph}
    (he : source.graph = .ok e)
    (h : (compileSource Catalog.standard rules source).outcome = .ok g)
    (hkeys : ((e.nodes.filter Editor.Node.isRetained).map fun n => keyOf n.id).Nodup) :
    (compileSource Catalog.standard rules source).diagnostics.hasIssues = false ↔
      IsFlawless rules e g := by
  obtain ⟨e', he', hnodes, hne, rfl⟩ := compileSource_eq_ok_iff.mp h
  obtain rfl : e = e' := Except.ok.inj (he.symm.trans he')
  rw [diagnostics_compileSource he, Diagnostics.hasIssues, Bool.not_eq_false',
    List.isEmpty_iff, issues_compileGraph hnodes hne]
  simp only [List.append_eq_nil_iff, issuesIn_linkTable_eq_nil_iff,
    issuesIn_rewire_assemble_eq_nil_iff hnodes hkeys, issuesIn_flatMap_eq_nil_iff,
    issuesIn_lackFindings_eq_nil_iff]
  constructor
  · rintro ⟨⟨⟨hlinks, hfound⟩, hwires⟩, hparams⟩
    have hfound := fun n hn => (issuesIn_outcomeOf_eq_nil_iff _ (hnodes n hn)).mp (hfound n hn)
    refine ⟨hlinks, fun n hn hr => (hfound n hn hr).1, ?_, fun n hn hr => (hfound n hn hr).2,
      fun key node => hparams (key, node)⟩
    simpa only [isMendable_rewire_iff] using hwires
  · intro hf
    have hwires := hf.wires
    simp only [isMendable_rewire_iff] at hwires
    refine ⟨⟨⟨hf.links, ?_⟩, hwires⟩, fun entry => hf.params entry.1 entry.2⟩
    intro n hn
    rw [issuesIn_outcomeOf_eq_nil_iff _ (hnodes n hn)]
    exact fun hr => ⟨hf.sockets n hn hr, hf.resolution n hn hr⟩

/-- A sampler with all of its values, whose model comes from a loader through a muted
adapter. -/
def tunedSampler : WorkflowSource :=
  .value (.obj [
    ("nodes", .arr [
      .obj [("id", .int 38), ("type", .str "UNETLoader"),
        ("widgets_values", .arr [.str "flux.safetensors", .str "default"])],
      .obj [("id", .int 56), ("type", .str "LoraLoader"), ("mode", .int 4)],
      .obj [("id", .int 31), ("type", .str "KSampler"),
        ("widgets_values", .arr [.int 42, .str "fixed", .int 20, .int 1, .str "euler",
          .str "simple", .int 1]),
        ("inputs", .arr [.obj [("name", .str "model"), ("link", .int 7)]])]]),
    ("links", .arr [.arr [.int 7, .int 56, .int 0, .int 31, .int 0, .str "MODEL"]])])

/-- The compiled form of `tunedSampler`. -/
def tunedSamplerGraph : Execution.Graph :=
  [("38", {
      classType := "UNETLoader"
      inputs := [("unet_name", .literal (.str "flux.safetensors")),
        ("weight_dtype", .literal (.str "default"))]
      title := .str "Load Diffusion Model" }),
    ("31", {
      classType := "KSampler"
      inputs := [("model", .wire "38" 0), ("seed", .literal (.int 42)),
        ("steps", .literal (.int 20)), ("cfg", .literal (.int 1)),
        ("sampler_name", .literal (.str "euler")), ("scheduler", .literal (.str "simple")),
        ("denoise", .literal (.int 1))]
      title := .str "KSampler" })]

theorem isFlawless_tunedSampler :
    ∃ e, tunedSampler.graph = .ok e ∧
      (compileSource Catalog.standard Execution.defaultRules tunedSampler).outcome =
        .ok tunedSamplerGraph ∧
      ((e.nodes.filter Editor.Node.isRetained).map fun n => keyOf n.id).Nodup ∧
      (compileSource Catalog.standard Execution.defaultRules
        tunedSampler).diagnostics.hasIssues = false ∧
      IsFlawless Execution.defaultRules e tunedSamplerGraph := by
  have h : (compileSource Catalog.standard Execution.defaultRules tunedSampler).outcome =
      .ok tunedSamplerGraph := by rfl
  have hissues : (compileSource Catalog.standard Execution.defaultRules
      tunedSampler).diagnostics.hasIssues = false := by rfl
  obtain ⟨e, he, -⟩ := compileSource_eq_ok_iff.mp h
  have hkeys : ((e.nodes.filter Editor.Node.isRetained).map fun n => keyOf n.id).Nodup := by
    cases he
    decide +kernel
  exact ⟨e, he, h, hkeys, hissues, (hasIssues_eq_false_iff he h hkeys).mp hissues⟩

end NodeWorkflow
