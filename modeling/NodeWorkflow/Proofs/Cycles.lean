import NodeWorkflow.Proofs.Wiring

/-!
# Cycles

A wire of a compiled graph follows a link of the editor graph, unless it was redirected.
The standard rule redirects to a single node, so that a compiled graph of an editor graph
without cycles has a cycle exactly if that node leads back to one that was redirected to
it; nothing in the rule keeps it from doing so.

## Main definitions

* `Editor.Graph.DependsOn`, `Execution.Graph.DependsOn` — which node an input of a node
  comes from.
* `IsRedirected` — the model of a node comes by the standard rule.

## Main statements

* `isAcyclic_iff_of_exits` — a relation with further steps to one goal.
* `exists_link_of_mem_rewire` — the link that a wire of a compiled graph goes back to.
* `isAcyclic_iff_of_compileSource` — when a compiled graph has no cycle.
* `cyclic_adapterChain` — a graph without a cycle that is compiled to one with a cycle.
-/

namespace NodeWorkflow

open Relation (TransGen ReflTransGen)
open Execution (RedirectRule Binding lastLink? linkAt? has_rewire)

/-! ## Relations without cycles -/

section Relations

variable {α β : Type}

/-- No number of steps leads back to where it began. -/
def IsAcyclic (R : α → α → Prop) : Prop := ∀ a, ¬ TransGen R a a

/-- What goes down at every step has no cycle. -/
theorem IsAcyclic.of_lt {R : α → α → Prop} (rank : α → ℕ)
    (h : ∀ a b, R a b → rank b < rank a) : IsAcyclic R := by
  have hpath : ∀ a b, TransGen R a b → rank b < rank a := by
    intro a b hab
    induction hab with
    | single hstep => exact h _ _ hstep
    | tail _ hstep ih => exact (h _ _ hstep).trans ih
  exact fun a hcycle => (hpath a a hcycle).false

/-- Other names for what is related make no cycle. -/
theorem IsAcyclic.map {R : α → α → Prop} (h : IsAcyclic R) {f : α → β}
    (hf : Function.Injective f) : IsAcyclic (Relation.Map R f f) := by
  have hback : ∀ x y, TransGen (Relation.Map R f f) x y →
      ∃ a b, f a = x ∧ f b = y ∧ TransGen R a b := by
    intro x y hxy
    induction hxy with
    | single hstep =>
        obtain ⟨a, b, hab, ha, hb⟩ := hstep
        exact ⟨a, b, ha, hb, .single hab⟩
    | tail _ hstep ih =>
        obtain ⟨a, b, ha, hb, hab⟩ := ih
        obtain ⟨b', c, hbc, hb', hc⟩ := hstep
        obtain rfl := hf (hb.trans hb'.symm)
        exact ⟨a, c, ha, hc, hab.tail hbc⟩
  intro x hcycle
  obtain ⟨a, b, ha, hb, hab⟩ := hback x x hcycle
  obtain rfl := hf (ha.trans hb.symm)
  exact h a hab

/-- **A relation with further steps to one goal**: besides the steps of a relation `D`
without cycles, some exits have a step to the goal. Then there is a cycle exactly if the
goal leads to an exit. -/
theorem isAcyclic_iff_of_exits {R D : α → α → Prop} {exits : α → Prop} {goal : α}
    (hD : IsAcyclic D) (hsteps : ∀ a b, R a b → D a b ∨ exits a ∧ b = goal)
    (hexits : ∀ a, exits a → R a goal) :
    IsAcyclic R ↔ ∀ a, exits a → ¬ ReflTransGen R goal a := by
  constructor
  · intro hR a ha hreach
    exact hR goal (.tail' hreach (hexits a ha))
  · intro hno a hcycle
    -- a path either keeps to `D` or reaches an exit and begins anew at the goal
    have hpath : ∀ x y, TransGen R x y →
        TransGen D x y ∨ ∃ c, exits c ∧ ReflTransGen R x c ∧ ReflTransGen R goal y := by
      intro x y hxy
      induction hxy with
      | single hstep =>
          rcases hsteps _ _ hstep with hd | ⟨hexit, rfl⟩
          · exact .inl (.single hd)
          · exact .inr ⟨x, hexit, .refl, .refl⟩
      | tail hxy hstep ih =>
          rcases ih with hd | ⟨c, hexit, hxc, hgoal⟩
          · rcases hsteps _ _ hstep with hd' | ⟨hexit, rfl⟩
            · exact .inl (hd.tail hd')
            · exact .inr ⟨_, hexit, hxy.to_reflTransGen, .refl⟩
          · exact .inr ⟨c, hexit, hxc, hgoal.tail hstep⟩
    rcases hpath a a hcycle with hd | ⟨c, hexit, hac, hgoal⟩
    · exact hD a hd
    · exact hno c hexit (hgoal.trans hac)

end Relations

/-! ## Dependencies -/

/-- An input socket of the node with id `i` has a link from the node with id `j`. -/
def Editor.Graph.DependsOn (e : Editor.Graph) (i j : Int) : Prop :=
  ∃ n ∈ e.nodes, n.id = .int i ∧ ∃ slot ∈ n.inputs, ∃ link,
    linkAt? (linkTable e.links).1 slot = some link ∧ link.source = j

/-- The ends of the links at the input sockets of the numbered nodes. -/
def Editor.Graph.dependencies (e : Editor.Graph) : List (Int × Int) :=
  e.nodes.flatMap fun n =>
    match n.id with
    | .int i => n.inputs.filterMap fun slot =>
        (linkAt? (linkTable e.links).1 slot).map fun link => (i, link.source)
    | _ => []

theorem Editor.Graph.mem_dependencies {e : Editor.Graph} {i j : Int} (h : e.DependsOn i j) :
    (i, j) ∈ e.dependencies := by
  obtain ⟨n, hn, hi, slot, hslot, link, hlink, rfl⟩ := h
  rw [dependencies, List.mem_flatMap]
  refine ⟨n, hn, ?_⟩
  rw [hi]
  exact List.mem_filterMap.mpr ⟨slot, hslot, by rw [hlink, Option.map_some]⟩

/-- An input of the entry `a` is a wire from `b`. -/
def Execution.Graph.DependsOn (g : Execution.Graph) (a b : String) : Prop :=
  ∃ node name slot, (a, node) ∈ g ∧ (name, Binding.wire b slot) ∈ node.inputs

/-- The model of a node comes by the standard rule: its last link leads to the missing
adapter, and the loader is there. -/
def IsRedirected (e : Editor.Graph) (g : Execution.Graph) (key : String) : Prop :=
  (∃ n link, lastRunning? e.nodes key = some n ∧
    lastLink? (Editor.linkTable e.links).1 n.inputs "model" = some link ∧ link.source = 56) ∧
  Entries.has g "56" = false ∧ Entries.has g "38" = true

/-- The link that decides about an input is at one of the sockets. -/
theorem exists_slot_of_lastLink? {table : Editor.LinkTable} {slots : List Editor.InputSlot}
    {name : String} {link : Editor.Link} (h : lastLink? table slots name = some link) :
    ∃ slot ∈ slots, linkAt? table slot = some link := by
  obtain ⟨slot, hslot, hlink⟩ := List.mem_filterMap.mp (List.mem_of_getLast? h)
  exact ⟨slot, List.mem_of_mem_filter hslot, hlink⟩

section Assembled

variable {catalog : Catalog} {table : Editor.LinkTable} {nodes : List Editor.Node}
  {rules : List RedirectRule} {key : String} {node : Execution.Node} {name : String}

/-- **The link that a wire of a compiled graph goes back to**: that of the last linked
socket of its name, on the last running node of the key; the wire is what mending makes
of it. -/
theorem exists_link_of_mem_rewire {from_ : String} {slot : Int}
    (hnode : (key, node) ∈ (Execution.rewire rules (assemble catalog table nodes)).1)
    (hwire : (name, Binding.wire from_ slot) ∈ node.inputs) :
    ∃ n link, lastRunning? nodes key = some n ∧ lastLink? table n.inputs name = some link ∧
      Execution.mendBinding rules (assemble catalog table nodes) name (Execution.wireOf link) =
        some (.wire from_ slot) := by
  obtain ⟨n, type, hlast, -, rfl⟩ := exists_of_mem_rewire_assemble hnode
  obtain ⟨⟨name', b⟩, hb, hmend⟩ := List.mem_filterMap.mp hwire
  obtain ⟨b', hb', heq⟩ := Option.map_eq_some_iff.mp hmend
  obtain ⟨rfl, rfl⟩ := Prod.mk.injEq _ _ _ _ ▸ heq
  have hinput := Entries.get?_of_mem (nodup_keys_inputsOf catalog table (some type) n) hb
  rw [get?_inputsOf] at hinput
  cases hlink : lastLink? table n.inputs name' with
  | some link =>
      rw [hlink] at hinput
      obtain rfl := Option.some.inj hinput
      exact ⟨n, link, hlast, hlink, hb'⟩
  | none =>
      rw [hlink, Option.map_none, Option.none_or, Option.map_eq_some_iff] at hinput
      obtain ⟨v, -, rfl⟩ := hinput
      cases hb'

/-- What mending makes of the link that decides is a wire of the mended graph. -/
theorem dependsOn_of_lastLink? {n : Editor.Node} {link : Editor.Link} {from_ : String}
    {slot : Int} (hlast : lastRunning? nodes key = some n)
    (hlink : lastLink? table n.inputs name = some link)
    (hmend : Execution.mendBinding rules (assemble catalog table nodes) name
      (Execution.wireOf link) = some (.wire from_ slot)) :
    (Execution.rewire rules (assemble catalog table nodes)).1.DependsOn key from_ := by
  obtain ⟨type, htype⟩ := (of_lastRunning? hlast).2.2
  have hnode := Entries.mem_of_get? (get?_rewire_assemble rules catalog table hlast htype)
  have hinput := get?_mendInputs_inputsOf rules (assemble catalog table nodes) catalog table
    (some type) n name
  rw [hlink, Option.map_some, Option.some_or, Option.bind_some, hmend] at hinput
  exact ⟨_, name, slot, hnode, Entries.mem_of_get? hinput⟩

end Assembled

/-! ## Compiled workflows -/

theorem ruleFor?_defaultRules (g : Execution.Graph) (name source : String) :
    Execution.ruleFor? Execution.defaultRules g name source =
      if name = "model" ∧ source = "56" ∧ Entries.has g "38" = true then
        some { inputName := "model", missing := "56", replacement := "38" }
      else none := by
  rw [Execution.ruleFor?, Execution.defaultRules, List.find?_singleton]
  by_cases h : "model" = name ∧ "56" = source ∧ Entries.has g "38" = true
  · obtain ⟨rfl, rfl, hthere⟩ := h
    simp [hthere]
  · rw [if_neg (by simpa using h), if_neg]
    rintro ⟨rfl, rfl, hthere⟩
    exact h ⟨rfl, rfl, hthere⟩

/-- What becomes of a wire by the standard rule. -/
theorem mendBinding_defaultRules_eq_some_iff {g : Execution.Graph} {name source from_ : String}
    {at_ slot : Int} :
    Execution.mendBinding Execution.defaultRules g name (.wire source at_) =
        some (.wire from_ slot) ↔
      (Entries.has g source = true ∧ from_ = source ∧ slot = at_) ∨
        (name = "model" ∧ source = "56" ∧ Entries.has g "56" = false ∧
          Entries.has g "38" = true ∧ from_ = "38" ∧ slot = 0) := by
  rw [Execution.mendBinding, ruleFor?_defaultRules]
  cases hsource : Entries.has g source <;> grind

/-- The key of a number is its text, and no two numbers share it. -/
theorem toString_int_injective : Function.Injective (toString : Int → String) :=
  fun _ _ h => eq_of_toString_eq h

variable {catalog : Catalog} {source : WorkflowSource} {e : Editor.Graph} {g : Execution.Graph}

/-- A wire of a graph compiled by the standard rule is a link of the editor graph, or its
input was redirected. -/
theorem map_or_isRedirected_of_dependsOn (he : source.graph = .ok e)
    (h : (compileSource catalog Execution.defaultRules source).outcome = .ok g)
    (hids : ∀ n ∈ e.nodes, ∃ i, n.id = .int i) {a b : String} (hab : g.DependsOn a b) :
    Relation.Map e.DependsOn toString toString a b ∨ IsRedirected e g a ∧ b = "38" := by
  obtain ⟨e', he', -, -, rfl⟩ := compileSource_eq_ok_iff.mp h
  obtain rfl := Except.ok.inj (he.symm.trans he')
  obtain ⟨node, name, slot, hnode, hwire⟩ := hab
  obtain ⟨n, link, hlast, hlink, hmend⟩ := exists_link_of_mem_rewire hnode hwire
  rcases mendBinding_defaultRules_eq_some_iff.mp hmend with
    ⟨-, rfl, -⟩ | ⟨rfl, hsource, hmissing, hthere, rfl, -⟩
  · -- the wire is as the link has it
    obtain ⟨hn, hkey, -⟩ := of_lastRunning? hlast
    obtain ⟨i, hi⟩ := hids n hn
    obtain ⟨slot, hslot, hat⟩ := exists_slot_of_lastLink? hlink
    rw [hi, Execution.keyOf_int] at hkey
    exact .inl ⟨i, link.source, ⟨n, hn, hi, slot, hslot, link, hat, rfl⟩, hkey, rfl⟩
  · have hsource : link.source = 56 := toString_int_injective hsource
    exact .inr ⟨⟨⟨n, link, hlast, hlink, hsource⟩, by rwa [has_rewire], by rwa [has_rewire]⟩,
      rfl⟩

/-- A redirected input is a wire from the replacement. -/
theorem dependsOn_of_isRedirected (he : source.graph = .ok e)
    (h : (compileSource catalog Execution.defaultRules source).outcome = .ok g) {a : String}
    (ha : IsRedirected e g a) : g.DependsOn a "38" := by
  obtain ⟨e', he', -, -, rfl⟩ := compileSource_eq_ok_iff.mp h
  obtain rfl := Except.ok.inj (he.symm.trans he')
  obtain ⟨⟨n, link, hlast, hlink, hsource⟩, hmissing, hthere⟩ := ha
  rw [has_rewire] at hmissing hthere
  have hmend : Execution.mendBinding Execution.defaultRules
      (assemble catalog (Editor.linkTable e.links).1 e.nodes) "model" (Execution.wireOf link) =
        some (.wire "38" 0) := by
    rw [Execution.wireOf, mendBinding_defaultRules_eq_some_iff, hsource]
    exact .inr ⟨rfl, rfl, hmissing, hthere, rfl, rfl⟩
  exact dependsOn_of_lastLink? hlast hlink hmend

/-- **A compiled graph has a cycle exactly if the replacement leads to a redirected node**,
if the nodes of the editor graph are numbered and there is no cycle among them: every wire
is a link of the editor graph, unless the standard rule led it to the replacement. -/
theorem isAcyclic_iff_of_compileSource (he : source.graph = .ok e)
    (h : (compileSource catalog Execution.defaultRules source).outcome = .ok g)
    (hids : ∀ n ∈ e.nodes, ∃ i, n.id = .int i) (hacyclic : IsAcyclic e.DependsOn) :
    (∀ a b, g.DependsOn a b →
        Relation.Map e.DependsOn toString toString a b ∨ IsRedirected e g a ∧ b = "38") ∧
      (IsAcyclic g.DependsOn ↔
        ∀ key, IsRedirected e g key → ¬ ReflTransGen g.DependsOn "38" key) := by
  have hsteps := fun a b (hab : g.DependsOn a b) =>
    map_or_isRedirected_of_dependsOn he h hids hab
  exact ⟨hsteps, isAcyclic_iff_of_exits (hacyclic.map toString_int_injective) hsteps
    fun _ ha => dependsOn_of_isRedirected he h ha⟩

theorem isAcyclic_iff_adaptedSampler :
    ∃ e, adaptedSampler.graph = .ok e ∧
      (compileSource Catalog.standard Execution.defaultRules adaptedSampler).outcome =
        .ok adaptedSamplerGraph ∧
      (∀ n ∈ e.nodes, ∃ i, n.id = .int i) ∧ IsAcyclic e.DependsOn ∧
      (∀ a b, adaptedSamplerGraph.DependsOn a b →
        Relation.Map e.DependsOn toString toString a b ∨
          IsRedirected e adaptedSamplerGraph a ∧ b = "38") ∧
      (IsAcyclic adaptedSamplerGraph.DependsOn ↔
        ∀ key, IsRedirected e adaptedSamplerGraph key →
          ¬ ReflTransGen adaptedSamplerGraph.DependsOn "38" key) := by
  obtain ⟨e, he, hids, hdependencies⟩ : ∃ e, adaptedSampler.graph = .ok e ∧
      (∀ n ∈ e.nodes, ∃ i, n.id = .int i) ∧ e.dependencies = [(31, 56)] := by
    refine ⟨_, rfl, ?_, rfl⟩
    rintro n (_ | ⟨_, _ | ⟨_, _ | ⟨_, ⟨⟩⟩⟩⟩) <;> exact ⟨_, rfl⟩
  have h : (compileSource Catalog.standard Execution.defaultRules adaptedSampler).outcome =
      .ok adaptedSamplerGraph := by rfl
  have hacyclic : IsAcyclic e.DependsOn := by
    refine .of_lt (fun i => [56, 31].idxOf i) fun i j hij => ?_
    have hmem := Editor.Graph.mem_dependencies hij
    rw [hdependencies, List.mem_singleton] at hmem
    obtain ⟨rfl, rfl⟩ := Prod.mk.injEq _ _ _ _ ▸ hmem
    decide
  exact ⟨e, he, h, hids, hacyclic, isAcyclic_iff_of_compileSource he h hids hacyclic⟩

/-- A chain of three adapters, of which the first is muted and the last has the id that the
standard rule takes for that of the loader. -/
def adapterChain : Json :=
  .obj [
    ("nodes", .arr [
      .obj [("id", .int 56), ("type", .str "LoraLoader"), ("mode", .int 4)],
      .obj [("id", .int 31), ("type", .str "LoraLoader"),
        ("inputs", .arr [.obj [("name", .str "model"), ("link", .int 1)]])],
      .obj [("id", .int 38), ("type", .str "LoraLoader"),
        ("inputs", .arr [.obj [("name", .str "model"), ("link", .int 2)]])]]),
    ("links", .arr [
      .arr [.int 1, .int 56, .int 0, .int 31, .int 0, .str "MODEL"],
      .arr [.int 2, .int 31, .int 0, .int 38, .int 0, .str "MODEL"]])]

/-- The compiled form of `adapterChain`. -/
def adapterChainGraph : Execution.Graph :=
  [("31", {
      classType := "LoraLoader"
      inputs := [("model", .wire "38" 0)]
      title := .str "Load LoRA" }),
    ("38", {
      classType := "LoraLoader"
      inputs := [("model", .wire "31" 0)]
      title := .str "Load LoRA" })]

/-- **A graph without a cycle may be compiled to one with a cycle**: the adapter after the
muted one gets the model of the adapter that comes after itself. -/
theorem cyclic_adapterChain :
    ∃ e g, (WorkflowSource.value adapterChain).graph = .ok e ∧
      (compile adapterChain).outcome = .ok g ∧
      (∀ n ∈ e.nodes, ∃ i, n.id = .int i) ∧ (e.nodes.map Editor.Node.id).Nodup ∧
      IsAcyclic e.DependsOn ∧ ¬ IsAcyclic g.DependsOn := by
  obtain ⟨e, he, hids, hdistinct, hdependencies⟩ :
      ∃ e, (WorkflowSource.value adapterChain).graph = .ok e ∧
        (∀ n ∈ e.nodes, ∃ i, n.id = .int i) ∧ (e.nodes.map Editor.Node.id).Nodup ∧
          e.dependencies = [(31, 56), (38, 31)] := by
    refine ⟨_, rfl, ?_, ?_, rfl⟩
    · rintro n (_ | ⟨_, _ | ⟨_, _ | ⟨_, ⟨⟩⟩⟩⟩) <;> exact ⟨_, rfl⟩
    · change [Json.int 56, .int 31, .int 38].Nodup
      simp
  have hacyclic : IsAcyclic e.DependsOn := by
    refine .of_lt (fun i => [56, 31].idxOf i) fun i j hij => ?_
    have hmem := Editor.Graph.mem_dependencies hij
    rw [hdependencies, List.mem_pair] at hmem
    rcases hmem with hmem | hmem <;> obtain ⟨rfl, rfl⟩ := Prod.mk.injEq _ _ _ _ ▸ hmem <;>
      decide
  have hmiddle : adapterChainGraph.DependsOn "31" "38" := ⟨_, "model", 0, .head _, .head _⟩
  have hlast : adapterChainGraph.DependsOn "38" "31" :=
    ⟨_, "model", 0, .tail _ (.head _), .head _⟩
  exact ⟨e, adapterChainGraph, he, rfl, hids, hdistinct, hacyclic,
    fun hg => hg "31" ((TransGen.single hmiddle).tail hlast)⟩

end NodeWorkflow
