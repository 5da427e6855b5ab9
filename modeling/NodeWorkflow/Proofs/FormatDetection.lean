import NodeWorkflow.Proofs.CompiledFormat
import NodeWorkflow.Proofs.Reading

/-!
# Whether a graph that compiles is taken for an editor graph

The compiler asks for a list of nodes and for nothing else; links that are no list count as none.
Where the engine's format is asked for, another test comes first. It asks for a list of nodes and a
list of links, and without these it goes by the first entry. So a graph without a list of links
whose first entry has a type compiles, and yet passes as it is where the engine's format is asked
for.

## Main definitions

* `IsMisread` — no list of links, and a first entry with a type.

## Main statements

* `exists_nodes_of_compile` — what compiles has a list of nodes.
* `isEditorFormat_iff_of_nodes` — how such an object is taken.
* `ensureExecution_of_compile` — what is delivered for an object that compiles.
-/

namespace NodeWorkflow

variable {w : Fields} {g : Execution.Graph}

/-- The links are no list, and the first entry is an object with a type. -/
def IsMisread (w : Fields) : Prop :=
  (Fields.value w "links").isList = false ∧ firstEntryHasType w = true

/-- **What compiles has a list of nodes.** -/
theorem exists_nodes_of_compile (h : (Copying.compile (.obj w)).outcome = .ok g) :
    ∃ entries, Fields.value w "nodes" = .arr entries := by
  obtain ⟨-, h⟩ := Copying.compileSource_eq_ok_iff.mp h
  obtain ⟨e, he, -⟩ := compileSource_eq_ok_iff.mp h
  obtain ⟨entries, -, hnodes, -⟩ := exists_nodes_of_graph he
  exact ⟨entries, hnodes⟩

/-- **How an object with a list of nodes is taken.** -/
theorem isEditorFormat_iff_of_nodes {entries : List Json}
    (h : Fields.value w "nodes" = .arr entries) :
    isEditorFormat (.obj w) = true ↔ ¬IsMisread w := by
  have hempty : w.isEmpty = false := by
    cases w with
    | nil => cases h
    | cons => rfl
  have hlist : (Fields.value w "nodes").isList = true := by
    rw [h]
    rfl
  rw [IsMisread, isEditorFormat, hempty, hlist]
  cases (Fields.value w "links").isList <;> cases firstEntryHasType w <;> decide

/-- What is written for a graph has no list among its entries, whatever their names. -/
theorem toJson_ne_of_nodes (h : (Copying.compile (.obj w)).outcome = .ok g) :
    g.toJson ≠ .obj w := by
  intro heq
  obtain ⟨entries, hnodes⟩ := exists_nodes_of_compile h
  have hwritten := isWritten_of_compileSource (Copying.compileSource_eq_ok_iff.mp h).2
  have hlist := Execution.isList_value_of_isWritten hwritten "nodes"
  rw [Json.obj.inj heq, hnodes] at hlist
  cases hlist

theorem outcome_ensureExecution (h : (Copying.compile (.obj w)).outcome = .ok g)
    (hformat : isEditorFormat (.obj w) = true) :
    (Copying.ensureExecution (.obj w)).outcome = .ok g.toJson := by
  have hlogged : (Copying.compile (.obj w)).toLogged.outcome = .ok g := h
  rw [Copying.ensureExecution, if_pos hformat, Copying.compileToJson, Logged.outcome_bind, hlogged]
  rfl

/-- **What is delivered for an object that compiles.** Unless it is misread, it is taken for an
editor graph, and the compiled graph is delivered. An object that is misread is delivered as it is,
and that is not what the compilation gives. -/
theorem ensureExecution_of_compile (h : (Copying.compile (.obj w)).outcome = .ok g)
    (client : Json) :
    (isEditorFormat (.obj w) = true ↔ ¬IsMisread w) ∧
      (¬IsMisread w →
        (Copying.ensureExecution (.obj w)).outcome = .ok g.toJson ∧
          (Copying.payload (.obj w) client).outcome = .ok (payloadOf g.toJson client)) ∧
      (IsMisread w →
        Copying.ensureExecution (.obj w) = pure (.obj w) ∧
          Copying.payload (.obj w) client = pure (payloadOf (.obj w) client) ∧
          g.toJson ≠ .obj w) := by
  obtain ⟨entries, hnodes⟩ := exists_nodes_of_compile h
  have hformat := isEditorFormat_iff_of_nodes hnodes
  refine ⟨hformat, fun hread => ?compiled, fun hmisread => ?misread⟩
  case compiled =>
    have houtcome := outcome_ensureExecution h (hformat.mpr hread)
    refine ⟨houtcome, ?_⟩
    rw [Copying.payload, Logged.outcome_bind, houtcome]
    rfl
  case misread =>
    have hpasses : Copying.ensureExecution (.obj w) = pure (.obj w) := by
      refine Copying.ensureExecution_of_not_isEditorFormat (Bool.eq_false_iff.mpr ?_)
      exact fun htrue => hformat.mp htrue hmisread
    refine ⟨hpasses, ?_, toJson_ne_of_nodes h⟩
    rw [Copying.payload, hpasses]
    rfl

/-- A decoder, with other fields before and behind the list of nodes. -/
def decoderWith (before behind : Fields) : Fields :=
  before ++ ("nodes", .arr [.obj [("id", .int 1), ("type", .str "VAEDecode")]]) :: behind

/-- The compiled decoder. -/
def decoderCompiled : Execution.Graph :=
  [("1", ⟨"VAEDecode", [], .str "VAE Decode"⟩)]

/-- A first entry with a type does no harm where there is a list of links. -/
theorem ensureExecution_of_compile_decoder :
    (Copying.compile (.obj (decoderWith [("extra", .obj [("class_type", .str "KSampler")])]
        [("links", .arr [])]))).outcome = .ok decoderCompiled ∧
      (Copying.ensureExecution (.obj (decoderWith
        [("extra", .obj [("class_type", .str "KSampler")])] [("links", .arr [])]))).outcome =
          .ok decoderCompiled.toJson := by
  have h : (Copying.compile (.obj (decoderWith [("extra", .obj [("class_type", .str "KSampler")])]
      [("links", .arr [])]))).outcome = .ok decoderCompiled := by
    rfl
  obtain ⟨-, hcompiled, -⟩ := ensureExecution_of_compile h .null
  exact ⟨h, (hcompiled fun hmisread => by cases hmisread.1).1⟩

/-- Without a list of links the same graph compiles and passes as it is. -/
theorem passed_decoder :
    (Copying.compile (.obj (decoderWith [("extra", .obj [("class_type", .str "KSampler")])]
        []))).outcome = .ok decoderCompiled ∧
      isEditorFormat (.obj (decoderWith [("extra", .obj [("class_type", .str "KSampler")])] [])) =
        false ∧
      Copying.ensureExecution (.obj (decoderWith
          [("extra", .obj [("class_type", .str "KSampler")])] [])) =
        pure (.obj (decoderWith [("extra", .obj [("class_type", .str "KSampler")])] [])) :=
  ⟨rfl, rfl, rfl⟩

end NodeWorkflow
