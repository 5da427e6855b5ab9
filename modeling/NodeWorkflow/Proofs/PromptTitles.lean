import NodeWorkflow.Copying
import NodeWorkflow.Proofs.Entries
import NodeWorkflow.Proofs.Sorting
import NodeWorkflow.Proofs.Traversal

/-!
# Prompts placed by title or by order

The titles of the text encoders are read from the first to the last, and the last title of each
kind counts. If none names the positive prompt, titles do not count for it, and where there are two
text encoders they do not count at all: the prompts go to the first two in the order in which the
nodes run. So a node with a negative title can take the positive prompt, but only if no title names
the positive one.

## Main definitions

* `Encoder.isPositive` and `Encoder.isNegative` — what a title says.
* `Encoder.RunsBefore` — the order in which nodes run.
* `IsChoice` — where the prompts go.
* `HasPrompts` — nodes before and after the prompts are written.

## Main statements

* `injectByTitle_isChoice` — both prompts are written where they belong, and nothing else is.
-/

namespace NodeWorkflow.Prompt

namespace Encoder

/-- A title that is a text or missing, and an order that is a whole number or missing. -/
structure IsPlain (e : Encoder) : Prop where
  title : Fields.value e.fields "title" = .null ∨
    ∃ title, Fields.value e.fields "title" = .str title
  order : Fields.value e.fields "order" = .null ∨ ∃ n, Fields.value e.fields "order" = .int n

/-- Whether the title of a text encoder names the positive prompt. -/
def isPositive (e : Encoder) : Bool :=
  match e.foldedTitle with
  | .ok title => positiveTitles.any (contains title)
  | .error _ => false

/-- Whether the title of a text encoder means a negative prompt and does not name the positive
one. -/
def isNegative (e : Encoder) : Bool :=
  !e.isPositive && titleIsNegative (Fields.value e.fields "title")

/-- The order of a text encoder as a number; one that is missing is zero. -/
def rank (e : Encoder) : Int :=
  match Fields.value e.fields "order" with
  | .int n => n
  | _ => 0

/-- Text encoders run by their order, and those of one order by their place. -/
abbrev RunsBefore : Encoder → Encoder → Prop :=
  Sorting.ByRank rank place

theorem IsPlain.exists_foldedTitle {e : Encoder} (h : e.IsPlain) :
    ∃ title, e.foldedTitle = .ok title := by
  rw [foldedTitle]
  obtain htitle | ⟨title, htitle⟩ := h.title
  · exact ⟨foldText "", by rw [htitle]; rfl⟩
  · refine ⟨foldText title, ?_⟩
    by_cases hempty : title = ""
    · subst hempty
      rw [htitle]
      rfl
    · rw [htitle, Json.orElse_of_isFilled (by simpa [Json.isFilled] using hempty)]

theorem IsPlain.order_eq {e : Encoder} (h : e.IsPlain) : e.order = .int e.rank := by
  rw [Encoder.order, rank]
  obtain horder | ⟨n, horder⟩ := h.order
  · rw [horder]
    rfl
  · rw [horder]
    by_cases hzero : n = 0
    · subst hzero
      rfl
    · rw [Json.orElse_of_isFilled (by simpa [Json.isFilled] using hzero)]

end Encoder

/-- The text encoders among nodes, with their places. -/
def encodersAmong (nodes : List Fields) : List Encoder :=
  (nodes.zipIdx.filter fun (node, _) => isEncoder node).map fun (node, i) => ⟨i, node⟩

theorem encoders_map_obj (nodes : List Fields) :
    encoders (nodes.map Json.obj) = .ok (encodersAmong nodes) := by
  have hfields : (nodes.map Json.obj).mapM Json.fields = .ok nodes := by
    rw [mapM_eq_ok_iff, List.forall₂_map_left_iff]
    exact List.forall₂_same.mpr fun node _ => rfl
  rw [encoders, hfields]
  rfl

theorem pairwise_place_encodersAmong (nodes : List Fields) :
    (encodersAmong nodes).Pairwise fun e e' => e.place < e'.place := by
  have hplaces : (nodes.zipIdx.map Prod.snd).Pairwise (· < ·) := by
    rw [List.zipIdx_map_snd]
    exact List.pairwise_lt_range'
  rw [encodersAmong, List.pairwise_map]
  exact (List.pairwise_map.mp hplaces).filter _

section Choosing

variable {found : List Encoder}

/-- Takes notice of the title of one text encoder. -/
def Choice.notice (c : Choice) (e : Encoder) : Choice :=
  if e.isPositive then { c with positive := some e.place }
  else if e.isNegative then { c with negative := some e.place }
  else c

theorem chooseByTitle_eq (h : ∀ e ∈ found, e.IsPlain) :
    chooseByTitle found = .ok (found.foldl Choice.notice ⟨none, none⟩) := by
  rw [chooseByTitle]
  generalize (⟨none, none⟩ : Choice) = c
  induction found generalizing c with
  | nil => rfl
  | cons e rest ih =>
      obtain ⟨title, htitle⟩ := (h e List.mem_cons_self).exists_foldedTitle
      have hnotice : (if positiveTitles.any (contains title) then
            pure { c with positive := some e.place }
          else if titleIsNegative (Fields.value e.fields "title") then
            pure { c with negative := some e.place }
          else pure c : Except Failure Choice) = .ok (c.notice e) := by
        have hpositive : e.isPositive = positiveTitles.any (contains title) := by
          rw [Encoder.isPositive, htitle]
        rw [Choice.notice, Encoder.isNegative, hpositive]
        cases positiveTitles.any (contains title)
        case true => rfl
        case false => cases titleIsNegative (Fields.value e.fields "title") <;> rfl
      rw [List.foldlM_cons, List.foldl_cons, htitle,
        ← ih (fun e he => h e (List.mem_cons_of_mem _ he))]
      exact congrArg (Except.bind · _) hnotice

theorem map_getLast?_cons_or (e : Encoder) (es : List Encoder) (before : Option Nat) :
    (((e :: es).getLast?.map Encoder.place).or before) =
      (es.getLast?.map Encoder.place).or (some e.place) := by
  rw [List.getLast?_cons]
  cases es.getLast? <;> rfl

/-- Of several titles of one kind the last counts. -/
theorem foldl_notice (found : List Encoder) (c : Choice) :
    found.foldl Choice.notice c =
      ⟨((found.filter Encoder.isPositive).getLast?.map Encoder.place).or c.positive,
        ((found.filter Encoder.isNegative).getLast?.map Encoder.place).or c.negative⟩ := by
  induction found generalizing c with
  | nil => simp
  | cons e rest ih =>
      rw [List.foldl_cons, ih, Choice.notice]
      cases hpositive : e.isPositive
      case true =>
        have hnegative : e.isNegative = false := by
          rw [Encoder.isNegative, hpositive]
          rfl
        rw [List.filter_cons_of_pos hpositive, List.filter_cons_of_neg (by simp [hnegative]),
          map_getLast?_cons_or, if_pos rfl]
      case false =>
        rw [List.filter_cons_of_neg (by simp [hpositive]), if_neg Bool.false_ne_true]
        cases hnegative : e.isNegative
        case true => rw [List.filter_cons_of_pos hnegative, map_getLast?_cons_or, if_pos rfl]
        case false =>
          rw [List.filter_cons_of_neg (by simp [hnegative]), if_neg Bool.false_ne_true]

/-- Where the prompts go in a list of text encoders. What becomes of the negative prompt if there is
only one text encoder, and its title is negative, is left open. -/
structure IsChoice (found : List Encoder) (c : Choice) : Prop where
  among : ∀ i, c.positive = some i ∨ c.negative = some i → ∃ e ∈ found, e.place = i
  byTitle : ∀ e, (found.filter Encoder.isPositive).getLast? = some e →
    c.positive = some e.place ∧
      c.negative = (found.filter Encoder.isNegative).getLast?.map Encoder.place
  spared : (∃ e ∈ found, e.isPositive = true) →
    ∀ e ∈ found, e.isNegative = true → c.positive ≠ some e.place
  byOrder : (∀ e ∈ found, e.isPositive = false) →
    ∃ ordered : List Encoder, ordered.Perm found ∧ ordered.Pairwise Encoder.RunsBefore ∧
      c.positive = ordered[0]?.map Encoder.place ∧
      (2 ≤ found.length → c.negative = ordered[1]?.map Encoder.place)
  alone : ∀ e, found = [e] → e.isNegative = false → c.negative = none
  distinct : (∀ e, found = [e] → e.isNegative = false) → c.positive ≠ c.negative

theorem Encoder.isPositive_of_isNegative {e : Encoder} (h : e.isNegative = true) :
    e.isPositive = false := by
  rw [Encoder.isNegative, Bool.and_eq_true, Bool.not_eq_true'] at h
  exact h.1

theorem exists_of_map_getLast? {p : Encoder → Bool} {i : Nat}
    (h : (found.filter p).getLast?.map Encoder.place = some i) :
    ∃ e ∈ found, p e = true ∧ e.place = i := by
  obtain ⟨e, he, hi⟩ := Option.map_eq_some_iff.mp h
  obtain ⟨hmem, hp⟩ := List.mem_filter.mp (List.mem_of_getLast? he)
  exact ⟨e, hmem, hp, hi⟩

/-- The choice if a title names the positive prompt. -/
theorem isChoice_byTitle (hplaces : (found.map Encoder.place).Nodup) {e : Encoder}
    (he : (found.filter Encoder.isPositive).getLast? = some e) :
    IsChoice found ⟨some e.place,
      (found.filter Encoder.isNegative).getLast?.map Encoder.place⟩ := by
  obtain ⟨hmem, hpositive⟩ := List.mem_filter.mp (List.mem_of_getLast? he)
  have hspared : ∀ e' ∈ found, e'.isNegative = true → e.place ≠ e'.place := by
    intro e' he' hnegative heq
    obtain rfl := List.inj_on_of_nodup_map hplaces hmem he' heq
    rw [Encoder.isPositive_of_isNegative hnegative] at hpositive
    cases hpositive
  constructor
  case among =>
    rintro i (hi | hi)
    · exact ⟨e, hmem, Option.some.inj hi⟩
    · obtain ⟨e', he', -, hplace⟩ := exists_of_map_getLast? hi
      exact ⟨e', he', hplace⟩
  case byTitle =>
    intro e' he'
    obtain rfl : e = e' := Option.some.inj (he.symm.trans he')
    exact ⟨rfl, rfl⟩
  case spared =>
    intro _ e' he' hnegative heq
    exact hspared e' he' hnegative (Option.some.inj heq)
  case byOrder =>
    intro hnone
    rw [hnone e hmem] at hpositive
    cases hpositive
  case alone =>
    rintro e' rfl hnegative
    rw [List.filter_cons_of_neg (by simp [hnegative])]
    rfl
  case distinct =>
    intro _ heq
    obtain ⟨e', he', hnegative, hplace⟩ := exists_of_map_getLast? heq.symm
    exact hspared e' he' hnegative hplace.symm

/-- If no title names the positive prompt, the order decides. -/
theorem isChoice_of_forall_not_isPositive {c : Choice} (hnone : ∀ e ∈ found, e.isPositive = false)
    (among : ∀ i, c.positive = some i ∨ c.negative = some i → ∃ e ∈ found, e.place = i)
    (byOrder : ∃ ordered : List Encoder, ordered.Perm found ∧
      ordered.Pairwise Encoder.RunsBefore ∧ c.positive = ordered[0]?.map Encoder.place ∧
      (2 ≤ found.length → c.negative = ordered[1]?.map Encoder.place))
    (alone : ∀ e, found = [e] → e.isNegative = false → c.negative = none)
    (distinct : (∀ e, found = [e] → e.isNegative = false) → c.positive ≠ c.negative) :
    IsChoice found c where
  among := among
  byTitle e he := by
    obtain ⟨hmem, hpositive⟩ := List.mem_filter.mp (List.mem_of_getLast? he)
    rw [hnone e hmem] at hpositive
    cases hpositive
  spared := by
    rintro ⟨e, he, hpositive⟩
    rw [hnone e he] at hpositive
    cases hpositive
  byOrder _ := byOrder
  alone := alone
  distinct := distinct

theorem isChoice_alone {e : Encoder} (hnone : e.isPositive = false) :
    IsChoice [e] ⟨some e.place, ([e].filter Encoder.isNegative).getLast?.map Encoder.place⟩ := by
  have hfilter (h : e.isNegative = false) : [e].filter Encoder.isNegative = [] := by
    rw [List.filter_cons_of_neg (by simp [h])]
    rfl
  refine isChoice_of_forall_not_isPositive (by simpa using hnone) ?among ?byOrder ?alone ?distinct
  case among =>
    rintro i (hi | hi)
    · exact ⟨e, List.mem_cons_self, Option.some.inj hi⟩
    · obtain ⟨e', he', -, hplace⟩ := exists_of_map_getLast? hi
      exact ⟨e', he', hplace⟩
  case byOrder =>
    exact ⟨[e], .rfl, List.pairwise_singleton _ _, rfl, fun hlength => by simp at hlength⟩
  case alone =>
    intro e' he' hnegative
    obtain rfl : e = e' := List.singleton_injective he'
    rw [hfilter hnegative]
    rfl
  case distinct =>
    intro h
    rw [hfilter (h e rfl)]
    exact Option.some_ne_none _

theorem isChoice_byOrder (hplaces : (found.map Encoder.place).Nodup) {first second : Encoder}
    {rest : List Encoder} (hperm : (first :: second :: rest).Perm found)
    (hruns : (first :: second :: rest).Pairwise Encoder.RunsBefore)
    (hnone : ∀ e ∈ found, e.isPositive = false) :
    IsChoice found ⟨some first.place, some second.place⟩ := by
  have hfirst : first ∈ found := hperm.mem_iff.mp (by simp)
  have hsecond : second ∈ found := hperm.mem_iff.mp (by simp)
  refine isChoice_of_forall_not_isPositive hnone ?among ⟨_, hperm, hruns, rfl, fun _ => rfl⟩
    ?alone ?distinct
  case among =>
    rintro i (hi | hi)
    · exact ⟨first, hfirst, Option.some.inj hi⟩
    · exact ⟨second, hsecond, Option.some.inj hi⟩
  case alone =>
    rintro e rfl
    simpa using hperm.length_eq
  case distinct =>
    intro _ heq
    obtain rfl := List.inj_on_of_nodup_map hplaces hfirst hsecond (Option.some.inj heq)
    have := List.rel_of_pairwise_cons hruns List.mem_cons_self
    simp [Sorting.ByRank] at this

theorem exists_choose (hne : found ≠ []) (hplain : ∀ e ∈ found, e.IsPlain)
    (hplaces : found.Pairwise fun e e' => e.place < e'.place) :
    ∃ c, choose found = .ok c ∧ IsChoice found c := by
  have hnodup : (found.map Encoder.place).Nodup :=
    List.pairwise_map.mpr (hplaces.imp fun hlt => hlt.ne)
  rw [choose, chooseByTitle_eq hplain, foldl_notice]
  simp only [Option.or_none]
  match hlast : (found.filter Encoder.isPositive).getLast? with
  | some e => exact ⟨_, rfl, isChoice_byTitle hnodup hlast⟩
  | none =>
      have hnone : ∀ e ∈ found, e.isPositive = false := by
        simpa using hlast
      change ∃ c, chooseByOrder found _ = .ok c ∧ _
      obtain ⟨ordered, hsort, hperm, hruns⟩ :=
        Sorting.exists_sortBy (fun e he => (hplain e he).order_eq) hplaces
      rw [chooseByOrder, hsort]
      match ordered, hperm, hruns with
      | [], hperm, _ => exact (hne hperm.symm.eq_nil).elim
      | [first], hperm, _ =>
          obtain rfl := List.perm_singleton.mp hperm.symm
          exact ⟨_, rfl, isChoice_alone (hnone first List.mem_cons_self)⟩
      | first :: second :: rest, hperm, hruns =>
          exact ⟨_, rfl, isChoice_byOrder hnodup hperm hruns hnone⟩

end Choosing

section Writing

/-- Makes a text the only widget value of a node. -/
def withText (text : String) (node : Fields) : Fields :=
  Entries.put node "widgets_values" (.arr [.str text])

/-- Nodes before and after the prompts are written. Nodes at other places stay as they are, and of
no node a field changes but its widget values. -/
structure HasPrompts (saved : List Fields) (c : Choice) (positive negative : String)
    (written : List Fields) : Prop where
  elsewhere : ∀ i, c.positive ≠ some i → c.negative ≠ some i → written[i]? = saved[i]?
  positive : ∀ i, c.positive = some i → c.negative ≠ some i →
    written[i]? = saved[i]?.map (withText positive)
  negative : ∀ i, c.negative = some i → c.positive ≠ some i →
    written[i]? = saved[i]?.map (withText negative)
  frame : ∀ (i : Nat) (node : Fields), saved[i]? = some node → ∃ node', written[i]? = some node' ∧
    ∀ name, name ≠ "widgets_values" → Entries.get? node' name = Entries.get? node name

/-- Makes a text the only widget value of the node at a place. -/
def promptAt (place : Option Nat) (text : String) (saved : List Fields) : List Fields :=
  match place with
  | none => saved
  | some i => saved.modify i (withText text)

theorem getElem?_promptAt (place : Option Nat) (text : String) (saved : List Fields) (i : Nat) :
    (promptAt place text saved)[i]? =
      if place = some i then saved[i]?.map (withText text) else saved[i]? := by
  cases place with
  | none => rfl
  | some k =>
      rw [promptAt, List.getElem?_modify]
      by_cases h : k = i <;> simp [h]

theorem writePrompt_map_obj (saved : List Fields) (place : Option Nat) (text : String) :
    writePrompt (saved.map Json.obj) place (.str text) =
      (promptAt place text saved).map Json.obj := by
  cases place with
  | none => rfl
  | some k =>
      ext1 i
      rw [writePrompt, List.getElem?_map, getElem?_promptAt, List.getElem?_modify,
        List.getElem?_map]
      by_cases h : k = i
      · cases saved[i]? <;> simp [h, withText]
      · simp [h]

theorem hasPrompts_promptAt (saved : List Fields) (c : Choice) (positive negative : String) :
    HasPrompts saved c positive negative
      (promptAt c.negative negative (promptAt c.positive positive saved)) := by
  constructor
  case elsewhere =>
    intro i hpositive hnegative
    rw [getElem?_promptAt, if_neg hnegative, getElem?_promptAt, if_neg hpositive]
  case positive =>
    intro i hpositive hnegative
    rw [getElem?_promptAt, if_neg hnegative, getElem?_promptAt, if_pos hpositive]
  case negative =>
    intro i hnegative hpositive
    rw [getElem?_promptAt, if_pos hnegative, getElem?_promptAt, if_neg hpositive]
  case frame =>
    have hstep (place : Option Nat) (text : String) {nodes : List Fields} {i : Nat} {node : Fields}
        (h : nodes[i]? = some node) :
        ∃ node', (promptAt place text nodes)[i]? = some node' ∧
          ∀ name, name ≠ "widgets_values" → Entries.get? node' name = Entries.get? node name := by
      rw [getElem?_promptAt, h]
      split
      · exact ⟨_, rfl, fun name hname => Entries.get?_put_ne node _ hname.symm⟩
      · exact ⟨node, rfl, fun _ _ => rfl⟩
    intro i node h
    obtain ⟨node', h', hsame⟩ := hstep c.positive positive h
    obtain ⟨node'', h'', hsame'⟩ := hstep c.negative negative h'
    exact ⟨node'', h'', fun name hname => (hsame' name hname).trans (hsame name hname)⟩

end Writing

section Result

variable {w : Fields} {saved : List Fields} {positive negative : String}

theorem outcome_promptNodes_none (hnone : encodersAmong saved = []) (positive negative : Json) :
    (promptNodes (saved.map Json.obj) positive negative).outcome = .ok none := by
  rw [promptNodes, encoders_map_obj, hnone]
  rfl

theorem outcome_promptNodes {c : Choice} (hne : encodersAmong saved ≠ [])
    (hchoose : choose (encodersAmong saved) = .ok c) (positive negative : Json) :
    (promptNodes (saved.map Json.obj) positive negative).outcome =
      .ok (some (writePrompts (saved.map Json.obj) c positive negative)) := by
  have hempty : (encodersAmong saved).isEmpty = false := by simpa using hne
  rw [promptNodes, encoders_map_obj]
  rw [Logged.outcome_bind]
  change Logged.outcome (if (encodersAmong saved).isEmpty then _ else
    Logged.bind (Logged.ofExcept (choose (encodersAmong saved))) _) = _
  rw [if_neg (by simp [hempty]), hchoose]
  change Logged.outcome (if negative.isFilled && c.negative.isNone then _ else _) = _
  split <;> rfl

theorem outcome_injectByTitle
    (hnodes : (Fields.value w "nodes").elementsOrNone = .ok (saved.map Json.obj))
    (positive negative : Json) :
    (injectByTitle (.obj w) positive negative).outcome =
      (promptNodes (saved.map Json.obj) positive negative).outcome.map fun
        | some nodes => Table.ofFields (Entries.put w "nodes" (.arr nodes))
        | none => Table.ofFields w := by
  change (injectByTitleInto (Table.ofFields w) positive negative).outcome = _
  rw [injectByTitleInto, Table.field_ofFields, hnodes]
  change (promptNodes (saved.map Json.obj) positive negative >>= _).outcome = _
  rw [Logged.outcome_bind]
  cases (promptNodes (saved.map Json.obj) positive negative).outcome with
  | error e => rfl
  | ok nodes =>
      cases nodes with
      | none => rfl
      | some nodes => exact congrArg Except.ok (Table.put_ofFields w "nodes" (.arr nodes))

theorem outcome_injectByTitle_copy (w : Fields) (positive negative : Json) :
    (Copying.injectByTitle (Table.ofFields w) positive negative).outcome =
      (Json.obj w).ensureCopyable.bind fun _ =>
        (injectByTitle (.obj w) positive negative).outcome := by
  rw [Copying.injectByTitle, Logged.outcome_bind, Copying.ensureTable, Table.toFields_ofFields]
  rfl

/-- **Prompts placed by title or by order.** A graph without a text encoder stays as it is. In any
other the prompts are written where `IsChoice` says, and nothing else is changed. Only a graph that
is nested too deeply to be copied is refused. -/
theorem injectByTitle_isChoice
    (hnodes : (Fields.value w "nodes").elementsOrNone = .ok (saved.map Json.obj))
    (hplain : ∀ e ∈ encodersAmong saved, e.IsPlain) (hpositive : positive ≠ "")
    (hnegative : negative ≠ "") :
    (Copying.injectByTitle (Table.ofFields w) (.str positive) (.str negative)).outcome =
        (Json.obj w).ensureCopyable.bind (fun _ =>
          (injectByTitle (.obj w) (.str positive) (.str negative)).outcome) ∧
      (encodersAmong saved = [] →
        (injectByTitle (.obj w) (.str positive) (.str negative)).outcome =
          .ok (Table.ofFields w)) ∧
      (encodersAmong saved ≠ [] → ∃ c written,
        (injectByTitle (.obj w) (.str positive) (.str negative)).outcome =
          .ok (Table.ofFields (Entries.put w "nodes" (.arr (written.map Json.obj)))) ∧
        IsChoice (encodersAmong saved) c ∧ HasPrompts saved c positive negative written) := by
  refine ⟨outcome_injectByTitle_copy w _ _, fun hnone => ?unchanged, fun hne => ?written⟩
  case unchanged =>
    rw [outcome_injectByTitle hnodes, outcome_promptNodes_none hnone]
    rfl
  case written =>
    obtain ⟨c, hchoose, hchoice⟩ :=
      exists_choose hne hplain (pairwise_place_encodersAmong saved)
    refine ⟨c, _, ?_, hchoice, hasPrompts_promptAt saved c positive negative⟩
    have hfilled {text : String} (h : text ≠ "") : (Json.str text).isFilled = true := by
      simpa [Json.isFilled] using h
    rw [outcome_injectByTitle hnodes, outcome_promptNodes hne hchoose, writePrompts,
      if_pos (hfilled hpositive), if_pos (hfilled hnegative), writePrompt_map_obj,
      writePrompt_map_obj]
    rfl

/-- A text encoder with a title, as it is saved. -/
def titledEncoder (id : Int) (title text : String) : Fields :=
  [("id", .int id), ("type", .str "CLIPTextEncode"), ("title", .str title), ("order", .int id),
    ("widgets_values", .arr [.str text])]

/-- Two text encoders with titles, of which the first runs first. -/
def titledPair (first second : String) : List Fields :=
  [titledEncoder 1 first "old", titledEncoder 2 second "old"]

theorem encodersAmong_titledPair (first second : String) :
    encodersAmong (titledPair first second) =
      [⟨0, titledEncoder 1 first "old"⟩, ⟨1, titledEncoder 2 second "old"⟩] := rfl

theorem isPlain_titledPair (first second : String) :
    ∀ e ∈ encodersAmong (titledPair first second), e.IsPlain := by
  rw [encodersAmong_titledPair]
  simp only [List.mem_cons, List.not_mem_nil, or_false, forall_eq_or_imp, forall_eq]
  exact ⟨⟨.inr ⟨first, rfl⟩, .inr ⟨1, rfl⟩⟩, ⟨.inr ⟨second, rfl⟩, .inr ⟨2, rfl⟩⟩⟩

/-- Titles name both prompts. -/
theorem injectByTitle_isChoice_titledPair :
    (∀ e ∈ encodersAmong (titledPair "Negative" "Positive"), e.IsPlain) ∧ "sunny" ≠ "" ∧
      "dark" ≠ "" ∧
      ∃ written, (injectByTitle (.obj [("nodes", .arr ((titledPair "Negative" "Positive").map
            Json.obj))]) (.str "sunny") (.str "dark")).outcome =
          .ok (Table.ofFields [("nodes", .arr (written.map Json.obj))]) ∧
        HasPrompts (titledPair "Negative" "Positive") ⟨some 1, some 0⟩ "sunny" "dark" written := by
  have hplain := isPlain_titledPair "Negative" "Positive"
  obtain ⟨-, -, h⟩ := injectByTitle_isChoice
    (show (Fields.value [("nodes", .arr ((titledPair "Negative" "Positive").map Json.obj))]
      "nodes").elementsOrNone = .ok ((titledPair "Negative" "Positive").map Json.obj) from rfl)
    hplain (show "sunny" ≠ "" by decide) (show "dark" ≠ "" by decide)
  rw [encodersAmong_titledPair] at h
  obtain ⟨c, written, houtcome, hchoice, hprompts⟩ := h (by simp)
  have hfirst : Encoder.isPositive ⟨0, titledEncoder 1 "Negative" "old"⟩ = false ∧
      Encoder.isNegative ⟨0, titledEncoder 1 "Negative" "old"⟩ = true := by decide +kernel
  have hsecond : Encoder.isPositive ⟨1, titledEncoder 2 "Positive" "old"⟩ = true ∧
      Encoder.isNegative ⟨1, titledEncoder 2 "Positive" "old"⟩ = false := by decide +kernel
  obtain ⟨hpositive, hnegative⟩ := hchoice.byTitle ⟨1, titledEncoder 2 "Positive" "old"⟩ (by
    simp [hfirst.1, hsecond.1])
  have hc : c = ⟨some 1, some 0⟩ := by
    cases c
    simp_all
  exact ⟨hplain, by decide, by decide, written, houtcome, hc ▸ hprompts⟩

/-- The positive prompt goes into a node with a negative title, as no title names the positive one
and the node runs first. -/
theorem injectByTitle_crossedPair :
    (∀ e ∈ encodersAmong (titledPair "Negative" "Prompt"), e.IsPlain) ∧
      (⟨0, titledEncoder 1 "Negative" "old"⟩ ∈ encodersAmong (titledPair "Negative" "Prompt") ∧
        Encoder.isNegative ⟨0, titledEncoder 1 "Negative" "old"⟩ = true) ∧
      (injectByTitle (.obj [("nodes", .arr ((titledPair "Negative" "Prompt").map Json.obj))])
          (.str "sunny") (.str "dark")).outcome =
        .ok (Table.ofFields [("nodes", .arr [.obj (titledEncoder 1 "Negative" "sunny"),
          .obj (titledEncoder 2 "Prompt" "dark")])]) := by
  refine ⟨isPlain_titledPair _ _, ⟨List.mem_cons_self, by decide +kernel⟩, ?outcome⟩
  case outcome =>
    have hchoose : choose (encodersAmong (titledPair "Negative" "Prompt")) =
        .ok ⟨some 0, some 1⟩ := by
      exact eq_ok_of_toOption (by decide +kernel)
    rw [outcome_injectByTitle rfl, outcome_promptNodes (by rw [encodersAmong_titledPair]; simp)
      hchoose]
    rfl

end Result

end NodeWorkflow.Prompt
