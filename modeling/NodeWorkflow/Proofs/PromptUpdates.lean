import NodeWorkflow.Execution.Edit
import NodeWorkflow.Proofs.Entries
import NodeWorkflow.Proofs.Traversal

/-!
# Changing prompts

An update sets the texts of some text encoders, one after the other. Each step changes one entry in
its place, so that a run changes every entry on its own: the text that an entry gets is the one
under its key, and whoever is no text encoder gets none. What a prompt is for is said by a title,
which no update touches.

## Main definitions

* `IsPlainEntry` — an entry whose prompt can be read and set.
* `withText`, `textOf?`, `purposeOf` — a prompt set, its text and what it is for.
* `updated` — entries with the texts that stand under their keys.
* `IsUpdated` — what an update changes, and what it leaves.

## Main statements

* `updatePrompt_eq`, `updatePrompts_eq` — one step, and a run.
* `prompts_eq` — the prompts of entries.
* `updated_updated` — two updates are one.
* `prompts_of_updatePrompts` — what is changed, what is read afterwards, and what a second update
  does.
-/

namespace NodeWorkflow.Execution

open Prompt (Role)

variable {node : Fields}

/-! ## Entries -/

/-- The fields of an entry that are shown to the user, none if they are missing. -/
def shownFields (node : Fields) : Fields :=
  (Fields.value node "_meta").fields?.getD []

/-- The title of an entry, empty if it has none. -/
def shownTitle (node : Fields) : String :=
  (Fields.value (shownFields node) "title").string?.getD ""

/-- What a prompt is for, as the title of its entry says. -/
def purposeOf (node : Fields) : Role :=
  if contains (foldText (shownTitle node)) negativeStem then .negative else .positive

/-- The inputs of an entry, none if they are missing. -/
def inputsIn (node : Fields) : Fields :=
  (inputsField node).fields?.getD []

/-- The text of an entry, if it is literal. -/
def textOf? (node : Fields) : Option String :=
  (Fields.value (inputsIn node) "text").string?

/-- An entry with a text set. -/
def withText (node : Fields) (text : String) : Fields :=
  Entries.put node "inputs" (.obj (Entries.put (inputsIn node) "text" (.str text)))

/-- An entry whose prompt can be read and set: its inputs are an object, and so is what is shown to
the user, if it is there, with a text for a title, if that is there. -/
structure IsPlainEntry (node : Fields) : Prop where
  inputs : inputsField node = .obj (inputsIn node)
  shown : Fields.value node "_meta" = .null ∨ Fields.value node "_meta" = .obj (shownFields node)
  title : Fields.value (shownFields node) "title" = .null ∨
    Fields.value (shownFields node) "title" = .str (shownTitle node)

theorem roleByTitle_eq (h : IsPlainEntry node) : roleByTitle node = .ok (purposeOf node) := by
  have hshown : ((Fields.value node "_meta").orElse (.obj [])).fields = .ok (shownFields node) := by
    rcases h.shown with hnull | hobj
    · rw [shownFields, hnull]
      rfl
    · rw [hobj]
      cases shownFields node <;> rfl
  have htitle : (Fields.value (shownFields node) "title").orElse (.str "") =
      .str (shownTitle node) := by
    rcases h.title with hnull | hstr
    · rw [shownTitle, hnull]
      rfl
    · rw [hstr]
      by_cases hempty : shownTitle node = ""
      · rw [hempty]
        rfl
      · exact Json.orElse_of_isFilled (bne_iff_ne.mpr hempty)
  simp only [roleByTitle, hshown, htitle, purposeOf, bind, Except.bind]
  split <;> rfl

/-! ## A text set -/

@[simp] theorem inputsIn_withText (node : Fields) (text : String) :
    inputsIn (withText node text) = Entries.put (inputsIn node) "text" (.str text) := by
  rw [inputsIn, inputsField, withText, Entries.get?_put_self]
  rfl

theorem value_withText_ne (text : String) {name : String} (h : "inputs" ≠ name) :
    Fields.value (withText node text) name = Fields.value node name :=
  Fields.value_put_ne node _ h

@[simp] theorem isTextEntry_withText (node : Fields) (text : String) :
    isTextEntry (withText node text) = isTextEntry node := by
  rw [isTextEntry, value_withText_ne text (by decide), isTextEntry]

@[simp] theorem shownFields_withText (node : Fields) (text : String) :
    shownFields (withText node text) = shownFields node := by
  rw [shownFields, value_withText_ne text (by decide), shownFields]

@[simp] theorem purposeOf_withText (node : Fields) (text : String) :
    purposeOf (withText node text) = purposeOf node := by
  rw [purposeOf, shownTitle, shownFields_withText, purposeOf, shownTitle]

/-- The text that was set is read. -/
@[simp] theorem textOf?_withText (node : Fields) (text : String) :
    textOf? (withText node text) = some text := by
  rw [textOf?, inputsIn_withText, Fields.value_put_self]
  rfl

/-- Of two texts that are set the second stays. -/
@[simp] theorem withText_withText (node : Fields) (first second : String) :
    withText (withText node first) second = withText node second := by
  rw [withText, inputsIn_withText, Entries.put_put, withText, Entries.put_put, withText]

theorem IsPlainEntry.withText (h : IsPlainEntry node) (text : String) :
    IsPlainEntry (withText node text) where
  inputs := by
    rw [inputsIn_withText, inputsField, Execution.withText, Entries.get?_put_self]
    rfl
  shown := by
    rw [value_withText_ne text (by decide), shownFields_withText]
    exact h.shown
  title := by
    rw [shownTitle, shownFields_withText]
    exact h.title

/-- A text encoder with the text that is meant for it; without one, and for any other entry, nothing
is changed. -/
def withNewText (node : Fields) (text : Option String) : Fields :=
  if isTextEntry node then text.elim node (withText node) else node

/-- What does not depend on the text is left alone. -/
theorem eq_of_withNewText {α : Type} {f : Fields → α}
    (hf : ∀ text, f (withText node text) = f node) (text : Option String) :
    f (withNewText node text) = f node := by
  rw [withNewText]
  split
  · cases text with
    | none => rfl
    | some text => exact hf text
  · rfl

@[simp] theorem isTextEntry_withNewText (node : Fields) (text : Option String) :
    isTextEntry (withNewText node text) = isTextEntry node :=
  eq_of_withNewText (isTextEntry_withText node) text

@[simp] theorem purposeOf_withNewText (node : Fields) (text : Option String) :
    purposeOf (withNewText node text) = purposeOf node :=
  eq_of_withNewText (purposeOf_withText node) text

theorem textOf?_withNewText (h : isTextEntry node = true) (text : Option String) :
    textOf? (withNewText node text) = text.or (textOf? node) := by
  rw [withNewText, if_pos h]
  cases text <;> simp

theorem IsPlainEntry.withNewText (h : IsPlainEntry node) (text : Option String) :
    IsPlainEntry (withNewText node text) := by
  rw [Execution.withNewText]
  split
  · cases text with
    | none => exact h
    | some text => exact h.withText text
  · exact h

/-- Of two texts that are meant for an entry the second counts, if there is one. -/
theorem withNewText_withNewText (node : Fields) (first second : Option String) :
    withNewText (withNewText node first) second = withNewText node (second.or first) := by
  rw [withNewText, isTextEntry_withNewText]
  by_cases h : isTextEntry node = true
  · rw [if_pos h, withNewText, if_pos h, withNewText, if_pos h]
    cases first <;> cases second <;> simp
  · rw [if_neg h, withNewText, if_neg h, withNewText, if_neg h]

/-! ## Prompts -/

/-- The prompt of an entry that gets a text. -/
def promptAfter? (node : Fields) (text : Option String) : Option (Role × String) :=
  if isTextEntry node then (text.or (textOf? node)).map (purposeOf node, ·) else none

theorem promptOf_obj (h : IsPlainEntry node) :
    promptOf (.obj node) = .ok (promptAfter? node none) := by
  have hinputs : (inputsField node).fields = .ok (inputsIn node) := by
    rw [h.inputs]
    rfl
  have hnode : (Json.obj node).fields = .ok node := rfl
  simp only [promptOf, hnode, hinputs, roleByTitle_eq h, promptAfter?, textOf?, bind, Except.bind]
  split
  · cases Fields.value (inputsIn node) "text" <;> rfl
  · rfl

theorem promptAfter?_withNewText (node : Fields) (text : Option String) :
    promptAfter? (withNewText node text) none = promptAfter? node text := by
  rw [promptAfter?, promptAfter?, isTextEntry_withNewText, purposeOf_withNewText, Option.none_or]
  split
  · rename_i h
    rw [textOf?_withNewText h]
  · rfl

/-- The entries of a workflow as an object. -/
def toWorkflow (nodes : Entries String Fields) : Json :=
  .obj (Entries.mapValues .obj nodes)

/-- **The prompts of entries**, in their order. -/
theorem prompts_eq {nodes : Entries String Fields} (h : ∀ entry ∈ nodes, IsPlainEntry entry.2) :
    prompts (toWorkflow nodes) = .ok (nodes.filterMap fun entry => promptAfter? entry.2 none) :=
  filterMapM_map_eq_ok fun entry hentry => promptOf_obj (h entry hentry)

/-! ## Updates -/

/-- Entries with the texts that stand under their keys. -/
def updated (texts : String → Option String) (nodes : Entries String Fields) :
    Entries String Fields :=
  nodes.map fun entry => (entry.1, withNewText entry.2 (texts entry.1))

variable {nodes : Entries String Fields} {texts : String → Option String}

theorem keys_updated : Entries.keys (updated texts nodes) = Entries.keys nodes := by
  rw [Entries.keys, updated, List.map_map]
  rfl

theorem nodup_keys_updated (hkeys : (Entries.keys nodes).Nodup) :
    (Entries.keys (updated texts nodes)).Nodup := by
  rw [keys_updated]
  exact hkeys

theorem get?_updated (key : String) :
    Entries.get? (updated texts nodes) key =
      (Entries.get? nodes key).map fun node => withNewText node (texts key) := by
  induction nodes with
  | nil => rfl
  | cons entry nodes ih =>
      rw [updated, List.map_cons, Entries.get?_cons, Entries.get?_cons]
      split
      · rename_i hkey
        rw [hkey]
        rfl
      · exact ih

theorem isPlainEntry_updated (h : ∀ entry ∈ nodes, IsPlainEntry entry.2) :
    ∀ entry ∈ updated texts nodes, IsPlainEntry entry.2 := by
  intro entry hentry
  obtain ⟨old, hold, rfl⟩ := List.mem_map.mp hentry
  exact (h old hold).withNewText _

/-- **Two updates are one**, in which the second counts. -/
theorem updated_updated (first second : String → Option String) :
    updated second (updated first nodes) =
      updated (fun key => (second key).or (first key)) nodes := by
  rw [updated, updated, List.map_map, updated]
  refine List.map_congr_left fun entry _ => ?_
  exact congrArg (Prod.mk entry.1) (withNewText_withNewText _ _ _)

/-- Only texts under the keys of entries count. -/
theorem updated_congr {others : String → Option String}
    (h : ∀ key ∈ Entries.keys nodes, texts key = others key) :
    updated texts nodes = updated others nodes := by
  refine List.map_congr_left fun entry hentry => ?_
  rw [h entry.1 (List.mem_map_of_mem hentry)]

theorem updated_of_forall_eq_none (h : ∀ key ∈ Entries.keys nodes, texts key = none) :
    updated texts nodes = nodes := by
  refine (List.map_congr_left fun entry hentry => ?_).trans (List.map_id nodes)
  rw [h entry.1 (List.mem_map_of_mem hentry), withNewText]
  simp

/-- The text meant for one key. -/
def textFor (id text : String) (key : String) : Option String :=
  if key = id then some text else none

theorem updated_textFor (hkeys : (Entries.keys nodes).Nodup) {id : String}
    (hget : Entries.get? nodes id = some node) (text : String) :
    updated (textFor id text) nodes = Entries.put nodes id (withNewText node (some text)) := by
  rw [Entries.put_of_get? hkeys hget fun node => withNewText node (some text)]
  refine List.map_congr_left fun entry _ => ?_
  rw [textFor]
  split
  · rfl
  · simp [withNewText]

/-- **One step of an update** changes the entry under the key in its place. -/
theorem updatePrompt_eq (hkeys : (Entries.keys nodes).Nodup)
    (h : ∀ entry ∈ nodes, IsPlainEntry entry.2) (id text : String) :
    updatePrompt (Table.ofFields (Entries.mapValues .obj nodes)) id (.str text) =
      .ok (Table.ofFields (Entries.mapValues .obj (updated (textFor id text) nodes))) := by
  rw [updatePrompt, Table.field_ofFields, Fields.value, Entries.get?_mapValues]
  cases hget : Entries.get? nodes id with
  | none =>
      have hnone : ∀ key ∈ Entries.keys nodes, textFor id text key = none := by
        intro key hkey
        refine if_neg ?_
        rintro rfl
        exact Entries.get?_eq_none_iff.mp hget hkey
      rw [updated_of_forall_eq_none hnone]
      rfl
  | some node =>
      have hplain : IsPlainEntry node := h (id, node) (Entries.mem_of_get? hget)
      rw [updated_textFor hkeys hget]
      by_cases htype : isTextEntry node = true
      · have hfilled : (Json.obj node).isFilled = true := by
          cases node with
          | nil => exact absurd htype (by decide)
          | cons field fields => rfl
        have hwith : withInputs node [("text", .str text)] = .ok (withText node text) := by
          rw [withInputs, hplain.inputs]
          rfl
        rw [withNewText, if_pos htype, Entries.mapValues_put, ← Table.put_ofFields]
        change (if (Json.obj node).isFilled then (if isTextEntry node then
          withInputs node [("text", .str text)] >>= fun changed =>
            pure (Table.put _ (.str id) (.obj changed)) else pure _) else _) = _
        rw [if_pos hfilled, if_pos htype, hwith]
        rfl
      · have hsame : Entries.put nodes id node = nodes :=
          (Entries.put_of_get? hkeys hget fun node => node).trans (by simp)
        rw [withNewText, if_neg htype, hsame]
        change (if (Json.obj node).isFilled then (if isTextEntry node then _ else pure _)
          else pure _) = _
        rw [if_neg htype, ite_self]
        rfl

/-- Updates as an object. -/
def toUpdates (updates : Entries String String) : Json :=
  .obj (Entries.mapValues .str updates)

/-- **A run of an update** gives each entry the text under its key. -/
theorem updatePrompts_eq (hkeys : (Entries.keys nodes).Nodup)
    (h : ∀ entry ∈ nodes, IsPlainEntry entry.2) {updates : Entries String String}
    (hupdates : (Entries.keys updates).Nodup) :
    updatePrompts (toWorkflow nodes) (toUpdates updates) =
      .ok (Table.ofFields (Entries.mapValues .obj (updated (Entries.get? updates) nodes))) := by
  change (Entries.mapValues Json.str updates).foldlM
    (fun entries (pair : String × Json) => updatePrompt entries pair.1 pair.2)
    (Table.ofFields (Entries.mapValues .obj nodes)) = _
  induction updates generalizing nodes with
  | nil =>
      rw [updated_of_forall_eq_none fun key _ => Entries.get?_nil key]
      rfl
  | cons pair updates ih =>
      have hnodup : pair.1 ∉ Entries.keys updates ∧ (Entries.keys updates).Nodup :=
        List.nodup_cons.mp hupdates
      have hfirst : updated (Entries.get? updates) (updated (textFor pair.1 pair.2) nodes) =
          updated (Entries.get? (pair :: updates)) nodes := by
        rw [updated_updated]
        refine updated_congr fun key _ => ?_
        rw [Entries.get?_cons, textFor]
        by_cases hkey : pair.1 = key
        · rw [if_pos hkey, if_pos hkey.symm,
            Entries.get?_eq_none_iff.mpr (hkey ▸ hnodup.1), Option.none_or]
        · rw [if_neg hkey, if_neg (Ne.symm hkey), Option.or_none]
      have hstep := updatePrompt_eq hkeys h pair.1 pair.2
      have hcons : Entries.mapValues Json.str (pair :: updates) =
          (pair.1, .str pair.2) :: Entries.mapValues .str updates := rfl
      rw [hcons, List.foldlM_cons, hstep, ← hfirst]
      exact ih (nodup_keys_updated hkeys) (isPlainEntry_updated h) hnodup.2

/-! ## What is changed and what is read -/

/-- What an update changes: the text of each text encoder whose key it names, in its place. All
other entries stay as they are. -/
structure IsUpdated (updates : Entries String String) (nodes after : Entries String Fields) :
    Prop where
  keys : Entries.keys after = Entries.keys nodes
  text : ∀ key node text, Entries.get? nodes key = some node → isTextEntry node = true →
    Entries.get? updates key = some text → ∃ inputs, inputsField node = .obj inputs ∧
      Entries.get? after key =
        some (Entries.put node "inputs" (.obj (Entries.put inputs "text" (.str text))))
  rest : ∀ key node, Entries.get? nodes key = some node →
    isTextEntry node = false ∨ Entries.get? updates key = none →
      Entries.get? after key = some node

theorem isUpdated_updated (h : ∀ entry ∈ nodes, IsPlainEntry entry.2)
    (updates : Entries String String) :
    IsUpdated updates nodes (updated (Entries.get? updates) nodes) where
  keys := keys_updated
  text := by
    intro key node text hnode htype htext
    refine ⟨inputsIn node, (h (key, node) (Entries.mem_of_get? hnode)).inputs, ?_⟩
    rw [get?_updated, hnode, htext, Option.map_some, withNewText, if_pos htype]
    rfl
  rest := by
    intro key node hnode hrest
    rw [get?_updated, hnode, Option.map_some, withNewText]
    rcases hrest with htype | htext
    · rw [htype, if_neg Bool.false_ne_true]
    · rw [htext]
      simp

/-- Of two updates the second counts. -/
theorem get?_merge_updates {first second : Entries String String}
    (hsecond : (Entries.keys second).Nodup) (key : String) :
    Entries.get? (Entries.merge first second) key =
      (Entries.get? second key).or (Entries.get? first key) := by
  rw [Entries.get?_merge, ← Entries.get?_ofList, Entries.ofList_eq_self hsecond]

/-- **What an update does.** In a workflow whose entries are plain, an update goes through. It keeps
all keys in their order, sets the texts of the text encoders that it names and changes nothing else.
The prompts are then, in the order of the entries and for the purposes that the titles said before,
the texts that were set and the literal texts of the other text encoders. A second update does what
one update with the texts of both does, in which the second counts. -/
theorem prompts_of_updatePrompts (hkeys : (Entries.keys nodes).Nodup)
    (h : ∀ entry ∈ nodes, IsPlainEntry entry.2) {updates : Entries String String}
    (hupdates : (Entries.keys updates).Nodup) :
    ∃ after, updatePrompts (toWorkflow nodes) (toUpdates updates) =
        .ok (Table.ofFields (Entries.mapValues .obj after)) ∧
      IsUpdated updates nodes after ∧
      prompts (toWorkflow after) = .ok (nodes.filterMap fun (key, node) =>
        if isTextEntry node then
          ((Entries.get? updates key).or (textOf? node)).map fun text => (purposeOf node, text)
        else none) ∧
      ∀ second, (Entries.keys second).Nodup →
        updatePrompts (toWorkflow after) (toUpdates second) =
          updatePrompts (toWorkflow nodes) (toUpdates (Entries.merge updates second)) := by
  refine ⟨updated (Entries.get? updates) nodes, updatePrompts_eq hkeys h hupdates,
    isUpdated_updated h updates, ?prompts, ?again⟩
  case prompts =>
    rw [prompts_eq (isPlainEntry_updated h), updated, List.filterMap_map]
    refine congrArg Except.ok (List.filterMap_congr fun entry _ => ?_)
    exact promptAfter?_withNewText entry.2 _
  case again =>
    intro second hsecond
    rw [updatePrompts_eq (nodup_keys_updated hkeys) (isPlainEntry_updated h) hsecond,
      updatePrompts_eq hkeys h (Entries.nodup_keys_merge hupdates second), updated_updated]
    refine congrArg (fun after => Except.ok (Table.ofFields (Entries.mapValues .obj after))) ?_
    exact updated_congr fun key _ => (get?_merge_updates hsecond key).symm

/-- A text encoder with a title. -/
def titledEncoder : Fields :=
  [("inputs", .obj [("text", .str "blurry")]), ("class_type", .str "CLIPTextEncode"),
    ("_meta", .obj [("title", .str "Negative")])]

/-- A text encoder without a title whose text is a wire. -/
def wiredEncoder : Fields :=
  [("class_type", .str "CLIPTextEncode"), ("inputs", .obj [("text", .arr [.str "9", .int 0])])]

/-- Two text encoders and a sampler. -/
def promptedSampler : Entries String Fields :=
  [("6", titledEncoder), ("7", wiredEncoder),
    ("3", [("class_type", .str "KSampler"), ("inputs", .obj [("steps", .int 20)])])]

/-- The wire gives way to a text, and the sampler and a key that is not there are passed over. -/
theorem prompts_of_updatePrompts_promptedSampler :
    (∀ entry ∈ promptedSampler, IsPlainEntry entry.2) ∧
      ∃ after, updatePrompts (toWorkflow promptedSampler)
          (toUpdates [("3", "unused"), ("7", "a fox"), ("99", "unused")]) =
            .ok (Table.ofFields (Entries.mapValues .obj after)) ∧
        Entries.get? after "3" = Entries.get? promptedSampler "3" ∧
        prompts (toWorkflow after) = .ok [(.negative, "blurry"), (.positive, "a fox")] ∧
        updatePrompts (toWorkflow after) (toUpdates [("6", "a cat"), ("7", "a dog")]) =
          updatePrompts (toWorkflow promptedSampler)
            (toUpdates [("3", "unused"), ("7", "a dog"), ("99", "unused"), ("6", "a cat")]) := by
  have hplain : ∀ entry ∈ promptedSampler, IsPlainEntry entry.2 := by
    rw [promptedSampler, List.forall_mem_cons, List.forall_mem_cons, List.forall_mem_singleton]
    exact ⟨⟨rfl, .inr rfl, .inr rfl⟩, ⟨rfl, .inl rfl, .inl rfl⟩, ⟨rfl, .inl rfl, .inl rfl⟩⟩
  have hupdates : (Entries.keys [("3", "unused"), ("7", "a fox"), ("99", "unused")]).Nodup := by
    decide
  have htitled : purposeOf titledEncoder = .negative := by
    have htitle : shownTitle titledEncoder = "Negative" := rfl
    have hfolded : foldText "Negative" = "negative" := by decide +kernel
    rw [purposeOf, htitle, hfolded]
    decide
  have hwired : purposeOf wiredEncoder = .positive := by
    have htitle : shownTitle wiredEncoder = "" := rfl
    have hfolded : foldText "" = "" := rfl
    rw [purposeOf, htitle, hfolded]
    decide
  obtain ⟨after, hupdate, hupdated, hprompts, hagain⟩ :=
    prompts_of_updatePrompts (by decide) hplain hupdates
  refine ⟨hplain, after, hupdate, hupdated.rest "3" _ rfl (.inl rfl), hprompts.trans ?_,
    hagain _ (by decide)⟩
  change Except.ok [(purposeOf titledEncoder, "blurry"), (purposeOf wiredEncoder, "a fox")] = _
  rw [htitled, hwired]

end NodeWorkflow.Execution
