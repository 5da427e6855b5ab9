import NodeWorkflow.Proofs.Acceptance

/-!
# Values of any kind in every field

A node that somebody wrote by hand may hold any value anywhere. Most of them are told
as structural faults or as findings, but not all: sockets, links and properties are gone
through as they are, and a value that cannot be gone through ends the operation with a
failure that nobody foresaw. This module says of a node which values do that.

## Main definitions

* `IsOrderly` — an outcome is a result or a structural fault.
* `Json.IsWalkable` — a value can be gone through, or counts as missing.
* `Editor.HasReadableWidgets`, `Editor.HasReadableSockets`, `Editor.HasReadableType` — the
  parts of a saved node are of the kinds that can be read.
* `Editor.AreOrderly` — no saved node that cannot be read is reached before a fault is told.

## Main statements

* `isOrderly_mapM_iff` — a run is orderly if every step is that is reached.
* `Editor.ofFields_cases`, `Editor.declaredType_cases` — what becomes of a saved node when
  it is read, and when its type is looked for.
-/

namespace NodeWorkflow

variable {α β : Type}

/-! ## Orderly outcomes -/

/-- An outcome is a result or a structural fault. -/
def IsOrderly (outcome : Except Failure α) : Prop :=
  ∀ failure, outcome = .error failure → ∃ fault, failure = .structural fault

theorem isOrderly_ok (a : α) : IsOrderly (.ok a : Except Failure α) := by
  intro failure h
  cases h

theorem isOrderly_error_iff {failure : Failure} :
    IsOrderly (.error failure : Except Failure α) ↔ ∃ fault, failure = .structural fault := by
  refine ⟨fun h => h failure rfl, ?_⟩
  intro hfault failure' h
  exact Except.error.inj h ▸ hfault

/-- Two steps in a row are orderly if both are, as far as the second is reached. -/
theorem isOrderly_bind_iff {x : Except Failure α} {f : α → Except Failure β} :
    IsOrderly (x.bind f) ↔ IsOrderly x ∧ ∀ a, x = .ok a → IsOrderly (f a) := by
  cases x with
  | error failure =>
      change IsOrderly (.error failure) ↔ _
      rw [isOrderly_error_iff, isOrderly_error_iff]
      exact ⟨fun h => ⟨h, fun a ha => by cases ha⟩, And.left⟩
  | ok a =>
      change IsOrderly (f a) ↔ _
      refine ⟨fun h => ⟨isOrderly_ok a, fun b hb => Except.ok.inj hb ▸ h⟩, fun h => h.2 a rfl⟩

theorem isOrderly_map_iff {x : Except Failure α} {f : α → β} :
    IsOrderly (x.map f) ↔ IsOrderly x := by
  cases x with
  | error failure => exact isOrderly_error_iff.trans isOrderly_error_iff.symm
  | ok a => exact ⟨fun _ => isOrderly_ok a, fun _ => isOrderly_ok (f a)⟩

/-- **A run is orderly if every step is that is reached**, which a step is if all steps
before it give a result. -/
theorem isOrderly_mapM_iff {f : α → Except Failure β} {xs : List α} :
    IsOrderly (xs.mapM f) ↔
      ∀ before x after, xs = before ++ x :: after → (∀ y ∈ before, ∃ z, f y = .ok z) →
        IsOrderly (f x) := by
  induction xs with
  | nil => exact ⟨fun _ before x after h => by simp at h, fun _ => isOrderly_ok []⟩
  | cons x xs ih =>
      rw [mapM_cons_eq, isOrderly_bind_iff]
      simp only [isOrderly_map_iff]
      constructor
      · rintro ⟨hx, hxs⟩ before y after hsplit hbefore
        cases before with
        | nil =>
            obtain ⟨rfl, -⟩ := List.cons.inj hsplit
            exact hx
        | cons first before =>
            obtain ⟨rfl, hrest⟩ := List.cons.inj hsplit
            obtain ⟨z, hz⟩ := hbefore x List.mem_cons_self
            refine ih.mp (hxs z hz) before y after hrest ?_
            intro w hw
            exact hbefore w (List.mem_cons_of_mem _ hw)
      · intro h
        refine ⟨h [] x xs rfl (fun y hy => by cases hy), ?_⟩
        intro y hy
        refine ih.mpr ?_
        intro before z after hsplit hbefore
        refine h (x :: before) z after (congrArg (x :: ·) hsplit) ?_
        intro w hw
        rcases List.mem_cons.mp hw with rfl | hw
        · exact ⟨y, hy⟩
        · exact hbefore w hw

/-! ## Values that can be gone through -/

namespace Json

/-- A value can be gone through, or counts as missing. -/
inductive IsWalkable : Json → Prop where
  | missing {v : Json} (h : v.isFilled = false) : IsWalkable v
  | list (items : List Json) : IsWalkable (arr items)
  | object (fields : Fields) : IsWalkable (obj fields)
  | text (s : String) : IsWalkable (str s)

/-- What can be gone through has elements, and anything else is unsuitable. -/
theorem elementsOrNone_cases (v : Json) :
    (v.IsWalkable ∧ ∃ items, v.elementsOrNone = .ok items) ∨
      (¬ v.IsWalkable ∧ v.elementsOrNone = .error .unsuitable) := by
  rw [elementsOrNone]
  split
  case isTrue hfilled =>
    cases v with
    | arr items => exact .inl ⟨.list items, _, rfl⟩
    | obj fields => exact .inl ⟨.object fields, _, rfl⟩
    | str s => exact .inl ⟨.text s, _, rfl⟩
    | null | bool | int | float =>
        refine .inr ⟨?_, rfl⟩
        rintro ⟨h⟩
        rw [hfilled] at h
        cases h
  case isFalse hfilled => exact .inl ⟨.missing (Bool.not_eq_true _ ▸ hfilled), [], rfl⟩

end Json

namespace Editor

/-! ## Parts of saved nodes -/

/-- The widget values are a list or an object, as far as they are there. -/
def HasReadableWidgets (node : Fields) : Prop :=
  (Fields.value node "widgets_values").IsListOrNull ∨
    (Fields.value node "widgets_values").IsObjectOrNull

/-- The sockets of a node, and the links of its output sockets, can be gone through. -/
structure HasReadableSockets (node : Fields) : Prop where
  inputs : (Fields.value node "inputs").IsWalkable
  outputs : (Fields.value node "outputs").IsWalkable
  links : ∀ sockets, Fields.value node "outputs" = .arr sockets →
    ∀ socket, .obj socket ∈ sockets → (Fields.value socket "links").IsWalkable

/-- The properties are an object or count as missing, unless the type is found without
them. -/
def HasReadableType (node : Fields) : Prop :=
  (Fields.value node "type").isFilled = true ∨ (Fields.value node "class_type").isFilled = true ∨
    (Fields.value node "properties").isFilled = false ∨
      ∃ fields, Fields.value node "properties" = .obj fields

/-- A saved node is muted, or has an id and a type that can be used. -/
def IsUsable (node : Fields) : Prop :=
  HasReadableType node ∧ (isMutedIn node = false →
    Execution.isUsableId (Fields.value node "id") = true ∧ (typeIn? node).isSome = true)

/-- An entry of the list of nodes is a node. -/
def IsReadable (entry : Json) : Prop :=
  ∃ node, entry = .obj node ∧ HasReadableWidgets node ∧ HasReadableSockets node

/-- **No saved node that cannot be read is reached before a fault is told.** All nodes are
read before the type of the first is looked for. -/
structure AreOrderly (entries : List Json) : Prop where
  sockets : ∀ before node after, entries = before ++ .obj node :: after →
    (∀ entry ∈ before, IsReadable entry) → HasReadableWidgets node → HasReadableSockets node
  type : (∀ entry ∈ entries, IsReadable entry) →
    ∀ before node after, entries = before ++ .obj node :: after →
      (∀ saved, .obj saved ∈ before → IsUsable saved) → HasReadableType node

/-! ## Reading -/

theorem slotFields_cases (v : Json) :
    (v.IsWalkable ∧ ∃ slots, slotFields v = .ok slots) ∨
      (¬ v.IsWalkable ∧ slotFields v = .error .unsuitable) := by
  rcases Json.elementsOrNone_cases v with ⟨h, items, hitems⟩ | ⟨h, herror⟩
  · exact .inl ⟨h, items.filterMap Json.fields?, by rw [slotFields, hitems]; rfl⟩
  · exact .inr ⟨h, by rw [slotFields, herror]; rfl⟩

variable {node : Fields}

theorem ofFields_slot_cases (socket : Fields) :
    ((Fields.value socket "links").IsWalkable ∧ ∃ slot, OutputSlot.ofFields socket = .ok slot) ∨
      (¬ (Fields.value socket "links").IsWalkable ∧
        OutputSlot.ofFields socket = .error .unsuitable) := by
  rcases Json.elementsOrNone_cases (Fields.value socket "links") with ⟨h, links, hl⟩ | ⟨h, he⟩
  · exact .inl ⟨h, { name := slotName socket, type := slotType socket, links },
      by rw [OutputSlot.ofFields, hl]; rfl⟩
  · exact .inr ⟨h, by rw [OutputSlot.ofFields, he]; rfl⟩

/-- The objects of a list of sockets are read. -/
theorem mem_slotFields {items : List Json} {slots : List Fields}
    (h : slotFields (.arr items) = .ok slots) {socket : Fields} (hs : .obj socket ∈ items) :
    socket ∈ slots := by
  obtain ⟨others, hothers, rfl⟩ := map_eq_ok_iff.mp h
  rw [Json.elementsOrNone_arr] at hothers
  obtain rfl := Except.ok.inj hothers
  exact List.mem_filterMap.mpr ⟨_, hs, rfl⟩

/-- What becomes of the output sockets of a node. -/
theorem outputs_cases {outputs : List Fields}
    (ho : slotFields (Fields.value node "outputs") = .ok outputs) :
    ((∀ sockets, Fields.value node "outputs" = .arr sockets →
        ∀ socket, .obj socket ∈ sockets → (Fields.value socket "links").IsWalkable) ∧
      ∃ slots, outputs.mapM OutputSlot.ofFields = .ok slots) ∨
    ((¬ ∀ sockets, Fields.value node "outputs" = .arr sockets →
        ∀ socket, .obj socket ∈ sockets → (Fields.value socket "links").IsWalkable) ∧
      outputs.mapM OutputSlot.ofFields = .error .unsuitable) := by
  cases hs : outputs.mapM OutputSlot.ofFields with
  | ok slots =>
      refine .inl ⟨?_, slots, rfl⟩
      intro sockets hsockets socket hsocket
      rw [hsockets] at ho
      obtain ⟨slot, -, hslot⟩ := exists_result_of_mem hs (mem_slotFields ho hsocket)
      rcases ofFields_slot_cases socket with ⟨h, -⟩ | ⟨-, h⟩
      · exact h
      · rw [h] at hslot
        cases hslot
  | error failure =>
      obtain ⟨socket, hsocket, he⟩ := exists_of_mapM_eq_error hs
      rcases ofFields_slot_cases socket with ⟨-, slot, h⟩ | ⟨hlinks, h⟩
      · rw [h] at he
        cases he
      · rw [h] at he
        refine .inr ⟨?_, congrArg _ (Except.error.inj he).symm⟩
        intro hall
        obtain ⟨items, hitems, hin⟩ := mem_of_mem_slotFields ho hsocket
        exact hlinks (hall items hitems socket hin)

/-- **What becomes of a saved node when it is read.** -/
theorem ofFields_cases (node : Fields) :
    (HasReadableWidgets node ∧ HasReadableSockets node ∧ ∃ n, Node.ofFields node = .ok n) ∨
      (¬ HasReadableWidgets node ∧ ∃ fault, Node.ofFields node = .error (.structural fault)) ∨
      (HasReadableWidgets node ∧ ¬ HasReadableSockets node ∧
        Node.ofFields node = .error .unsuitable) := by
  rcases widgetValues_cases (Fields.value node "id") (Fields.value node "widgets_values")
    with ⟨hwidgets, widgets, hw⟩ | ⟨hlist, hobject, fault, hw⟩
  case inr =>
    exact .inr (.inl ⟨fun h => h.elim hlist hobject, fault, Node.ofFields_of_widgetValues hw⟩)
  case inl =>
    rcases slotFields_cases (Fields.value node "inputs") with ⟨hin, inputs, hi⟩ | ⟨hin, hi⟩
    case inr =>
      refine .inr (.inr ⟨hwidgets, fun h => hin h.inputs, ?_⟩)
      rw [Node.ofFields, hw, hi]
      rfl
    case inl =>
      rcases slotFields_cases (Fields.value node "outputs") with ⟨hout, outputs, ho⟩ | ⟨hout, ho⟩
      case inr =>
        refine .inr (.inr ⟨hwidgets, fun h => hout h.outputs, ?_⟩)
        rw [Node.ofFields, hw, hi, ho]
        rfl
      case inl =>
        rcases outputs_cases ho with ⟨hlinks, slots, hs⟩ | ⟨hlinks, hs⟩
        · exact .inl ⟨hwidgets, ⟨hin, hout, hlinks⟩, _,
            Node.ofFields_eq_ok_iff.mpr ⟨widgets, inputs, outputs, slots, hw, hi, ho, hs, rfl⟩⟩
        · refine .inr (.inr ⟨hwidgets, fun h => hlinks h.links, ?_⟩)
          simp only [Node.ofFields, hw, hi, ho, hs, bind, Except.bind]

theorem exists_ofFields_iff :
    (∃ n, Node.ofFields node = .ok n) ↔ HasReadableWidgets node ∧ HasReadableSockets node := by
  rcases ofFields_cases node with ⟨hw, hs, n, hn⟩ | ⟨hw, fault, he⟩ | ⟨-, hs, he⟩
  · simp [hn, hw, hs]
  · simp [he, hw]
  · simp [he, hs]

theorem isOrderly_ofFields_iff :
    IsOrderly (Node.ofFields node) ↔ (HasReadableWidgets node → HasReadableSockets node) := by
  rcases ofFields_cases node with ⟨-, hs, n, hn⟩ | ⟨hw, fault, he⟩ | ⟨hw, hs, he⟩
  · simp [hn, isOrderly_ok, hs]
  · simp [he, isOrderly_error_iff, hw]
  · simp [he, isOrderly_error_iff, hw, hs]

theorem exists_nodeOfEntry_iff {entry : Json} :
    (∃ n, nodeOfEntry entry = .ok n) ↔ IsReadable entry := by
  cases entry with
  | obj node =>
      rw [nodeOfEntry, exists_ofFields_iff]
      simp [IsReadable]
  | null | bool | int | float | str | arr => simp [nodeOfEntry, IsReadable]

theorem isOrderly_nodeOfEntry_iff {entry : Json} :
    IsOrderly (nodeOfEntry entry) ↔
      ∀ node, entry = .obj node → HasReadableWidgets node → HasReadableSockets node := by
  cases entry with
  | obj node =>
      rw [nodeOfEntry, isOrderly_ofFields_iff]
      simp
  | null | bool | int | float | str | arr => simp [nodeOfEntry, isOrderly_error_iff]

/-! ## Types -/

/-- The type of a node is looked for in its properties last, and not found there if they
are no object. -/
theorem declaredType_cases {n : Node} (hn : Node.ofFields node = .ok n) :
    (HasReadableType node ∧ n.declaredType = .ok (typeIn? node)) ∨
      (¬ HasReadableType node ∧ n.declaredType = .error .fieldless) := by
  obtain ⟨widgets, inputs, outputs, slots, -, -, -, -, rfl⟩ := Node.ofFields_eq_ok_iff.mp hn
  simp only [Node.declaredType, Node.typeCandidate, Node.ofParts, typeIn?, HasReadableType]
  by_cases ht : (Fields.value node "type").isFilled = true
  · exact .inl ⟨.inl ht, by simp [ht, Except.map]⟩
  by_cases hc : (Fields.value node "class_type").isFilled = true
  · exact .inl ⟨.inr (.inl hc), by simp [ht, hc, Except.map]⟩
  by_cases hp : (Fields.value node "properties").isFilled = true
  · cases hv : Fields.value node "properties" with
    | obj fields =>
        rw [hv] at hp
        exact .inl ⟨.inr (.inr (.inr ⟨fields, rfl⟩)),
          by simp [ht, hc, hp, Json.fields, Json.fields?, Except.map]⟩
    | null | bool | int | float | str | arr =>
        rw [hv] at hp
        exact .inr ⟨by simp [ht, hc, hp], by simp [ht, hc, hp, Json.fields, Except.map]⟩
  · have hnone : ((Fields.value node "properties").fields?).getD [] = [] := by
      cases hv : Fields.value node "properties" with
      | obj fields => simpa [hv, Json.isFilled, Json.fields?] using hp
      | null | bool | int | float | str | arr => rfl
    exact .inl ⟨.inr (.inr (.inl (Bool.not_eq_true _ ▸ hp))),
      by simp [ht, hc, hp, hnone, Json.fields, Except.map]⟩

theorem isCompilable_iff_isUsable {n : Node} (hn : Node.ofFields node = .ok n) :
    n.IsCompilable ↔ IsUsable node := by
  have hid : n.id = Fields.value node "id" := Node.id_of_ofFields hn
  have hmuted : n.isMuted = isMutedIn node := by
    obtain ⟨widgets, inputs, outputs, slots, -, -, -, -, rfl⟩ := Node.ofFields_eq_ok_iff.mp hn
    rfl
  rw [IsUsable, ← hid, ← hmuted]
  rcases declaredType_cases hn with ⟨htype, h⟩ | ⟨htype, h⟩
  · rw [← Node.type?_of_eq_ok h]
    constructor
    · intro hc
      exact ⟨htype, fun hm => ⟨hc.isUsableId hm, hc.typed hm⟩⟩
    · rintro ⟨-, husable⟩
      exact ⟨⟨_, h⟩, fun hm => (husable hm).1, fun hm => (husable hm).2⟩
  · constructor
    · rintro ⟨⟨type, hok⟩, -, -⟩
      rw [h] at hok
      cases hok
    · rintro ⟨hreadable, -⟩
      exact absurd hreadable htype

end Editor

end NodeWorkflow
