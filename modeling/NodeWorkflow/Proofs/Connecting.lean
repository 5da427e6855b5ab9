import NodeWorkflow.Proofs.WidgetNaming
import NodeWorkflow.Proofs.Wiring

/-!
# Connecting a socket

A socket without a link is given one. The wire takes its place under the name of the socket, and
no other wire changes. The widget values of a described type stay with their names, since these
come from the catalog. A type that nobody describes takes its names from the widget sockets that
have no link: to connect one of them takes a name away, and the values from its place on move up
to the next names. Once none of these sockets is left, the names are guessed.

## Main definitions

* `InputSlot.connect` — a socket with a link.
* `KeepsPlaces` — a connection takes no name away in front of a value.

## Main statements

* `lastLink?_self`, `lastLink?_other` — the link of a socket only counts under its name.
* `get?_offersFor_connect` — where places are kept, no other name is offered anything else.
* `inputsOfNode_connect` — the inputs of a node before and after a connection.
-/

namespace NodeWorkflow

/-- The socket with a link. -/
def Editor.InputSlot.connect (slot : Editor.InputSlot) (link : Json) : Editor.InputSlot :=
  { slot with link }

namespace Execution

open Editor (InputSlot Link LinkTable)

/-! ## Wires -/

section Sockets

variable (table : LinkTable) {before after : List InputSlot} {slot : InputSlot}

/-- The link of a socket decides about its name if no other socket has that. -/
theorem lastLink?_self (h : ∀ other ∈ before ++ after, other.name ≠ slot.name) :
    lastLink? table (before ++ slot :: after) slot.name = linkAt? table slot := by
  have hnone : ∀ slots ⊆ before ++ after,
      slots.filter (fun other => other.name = slot.name) = [] := by
    intro slots hslots
    rw [List.filter_eq_nil_iff]
    intro other hother
    simpa using h other (hslots hother)
  rw [lastLink?, List.filter_append, List.filter_cons_of_pos (by simp),
    hnone before (List.subset_append_left _ _), hnone after (List.subset_append_right _ _)]
  cases hlink : linkAt? table slot <;> simp [hlink]

/-- The link of a socket has no say about another name. -/
theorem lastLink?_other {name : String} (h : slot.name ≠ name) :
    lastLink? table (before ++ slot :: after) name = lastLink? table (before ++ after) name := by
  rw [lastLink?, lastLink?, List.filter_append, List.filter_append,
    List.filter_cons_of_neg (by simpa using h)]

theorem lastLink?_connect (link : Json) {name : String} (h : slot.name ≠ name) :
    lastLink? table (before ++ slot.connect link :: after) name =
      lastLink? table (before ++ slot :: after) name := by
  have hconnected : (slot.connect link).name ≠ name := h
  rw [lastLink?_other table h, lastLink?_other table hconnected]

end Sockets

/-! ## Names -/

section Connection

variable (catalog : Catalog) {type : Option String} {node : Editor.Node}
  {before after : List InputSlot} {slot : InputSlot} {link : Json}

/-- To connect a socket between `before` and `after` takes no name away in front of a value. -/
inductive KeepsPlaces (type : Option String) (values : List Json) (before : List InputSlot)
    (slot : InputSlot) (after : List InputSlot) : Prop where
  /-- The names are in the catalog. -/
  | described (h : type.bind catalog.find? ≠ none)
  /-- The socket stands for no widget. -/
  | plain (h : slot.widget.isFilled = false)
  /-- The name is the last of several. -/
  | last (hbefore : widgetNames before ≠ []) (hafter : widgetNames after = [])
  /-- No value stands at the place of the name or behind it. -/
  | short (h : values.length ≤ (widgetNames before).length)

theorem widgetNames_connect (hlink : link ≠ .null) :
    widgetNames (before ++ slot.connect link :: after) =
      widgetNames before ++ widgetNames after := by
  have hlinked : link.isNull = false := by
    cases link with
    | null => exact absurd rfl hlink
    | _ => rfl
  simp [widgetNames, InputSlot.connect, hlinked]

theorem widgetNames_plain (h : slot.widget.isFilled = false) :
    widgetNames (before ++ slot :: after) = widgetNames before ++ widgetNames after := by
  simp [widgetNames, h]

theorem widgetNames_free (hfree : slot.link = .null) (h : slot.widget.isFilled = true) :
    widgetNames (before ++ slot :: after) =
      widgetNames before ++ slot.name :: widgetNames after := by
  simp [widgetNames, h, hfree, Json.isNull]

/-- **Where places are kept, no other name is offered anything else.** -/
theorem get?_offersFor_connect (hslots : node.inputs = before ++ slot :: after)
    (hfree : slot.link = .null) (hlink : link ≠ .null)
    (hkeeps : KeepsPlaces catalog type node.widgets before slot after) {name : String}
    (hname : slot.name ≠ name) :
    Entries.get?
        (offersFor catalog type { node with inputs := before ++ slot.connect link :: after }).1
        name =
      Entries.get? (offersFor catalog type node).1 name := by
  cases hknown : type.bind catalog.find? with
  | some known => simp only [offersFor, hknown]
  | none =>
      have hhook : ∀ known, type.bind catalog.find? = some known → known.hook = none := by
        simp [hknown]
      have hconnected :
          widgetNames { node with inputs := before ++ slot.connect link :: after }.inputs =
            widgetNames before ++ widgetNames after := widgetNames_connect hlink
      rw [offersFor_eq_named _ hhook, offersFor_eq_named _ hhook]
      by_cases hwidget : slot.widget.isFilled = true
      case neg =>
        have hplain : widgetNames node.inputs = widgetNames before ++ widgetNames after := by
          rw [hslots, widgetNames_plain (Bool.eq_false_iff.mpr hwidget)]
        simp only [namesFor, hknown, hconnected, hplain]
      case pos =>
        -- the connection takes a name away
        have hown : widgetNames node.inputs =
            widgetNames before ++ slot.name :: widgetNames after := by
          rw [hslots, widgetNames_free hfree hwidget]
        have hnames : namesFor catalog type node =
            widgetNames before ++ slot.name :: widgetNames after :=
          (namesFor_of_widgetNames hknown (by simp [hown])).trans hown
        cases hkeeps with
        | described h => exact absurd hknown h
        | plain h => exact absurd hwidget (Bool.eq_false_iff.mp h)
        | last hbefore hafter =>
            rw [hafter, List.append_nil] at hconnected
            have hnone : Entries.get?
                (named [slot.name] (node.widgets.drop (widgetNames before).length)) name = none :=
              get?_named_of_not_mem (by simpa using hname.symm) _
            rw [namesFor_of_widgetNames hknown (by rwa [hconnected]), hconnected, hnames, hafter,
              named_append, Entries.get?_append, hnone, Option.or_none]
        | short h =>
            by_cases hnil : widgetNames before = []
            · -- there are no values at all
              rw [hnil, List.length_nil, Nat.le_zero, List.length_eq_zero_iff] at h
              simp only [h, named_nil]
            · rw [namesFor_of_widgetNames hknown (by simp [hconnected, hnil]), hconnected, hnames,
                named_append, named_append, List.drop_eq_nil_of_le h, named_nil, named_nil]

variable {table : LinkTable}

/-- **To connect a socket changes the input of its name**, which becomes the wire, and no other
wire. No other input changes at all where places are kept. Otherwise the type is one that nobody
describes, and the socket one of those that the names come from: the values then go to the names
of the widget sockets that are left, or if none is left, to the names that are guessed. -/
theorem inputsOfNode_connect
    (htyped : node.type.isFilled = true ∨ node.classType.isFilled = true ∨
      ∃ fields, node.properties = .obj fields)
    (hslots : node.inputs = before ++ slot :: after) (hfree : slot.link = .null)
    (hname : ∀ other ∈ before ++ after, other.name ≠ slot.name) {number : Int} {wire : Link}
    (hlink : link.integer? = some number) (hwire : Entries.get? table number = some wire) :
    let connected := { node with inputs := before ++ slot.connect link :: after }
    ∃ type inputs inputs' findings findings', node.declaredType = .ok type ∧
      inputsOfNode catalog table node = .ok (inputs, findings) ∧
      inputsOfNode catalog table connected = .ok (inputs', findings') ∧
      Entries.get? inputs' slot.name = some (wireOf wire) ∧
      (∀ name ≠ slot.name, ∀ source output, Entries.get? inputs' name = some (.wire source output) ↔
        Entries.get? inputs name = some (.wire source output)) ∧
      (KeepsPlaces catalog type node.widgets before slot after →
        ∀ name ≠ slot.name, Entries.get? inputs' name = Entries.get? inputs name) ∧
      (type.bind catalog.find? = none → slot.widget.isFilled = true →
        widgetNames before ++ widgetNames after ≠ [] →
        ∀ name ≠ slot.name, ∀ v, Entries.get? inputs' name = some (.literal v) ↔
          lastLink? table node.inputs name = none ∧ name ≠ "" ∧
            IsFirstValue (widgetNames before ++ widgetNames after) node.widgets name v) ∧
      (type.bind catalog.find? = none → slot.widget.isFilled = true →
        widgetNames before ++ widgetNames after = [] →
        ∀ name ≠ slot.name, ∀ v, Entries.get? inputs' name = some (.literal v) ↔
          lastLink? table node.inputs name = none ∧ name ≠ "" ∧
            IsFirstValue (guessedNames type node.widgets.length) node.widgets name v) := by
  intro connected
  obtain ⟨type, htype⟩ := Editor.Node.exists_declaredType htyped
  have hnull : link ≠ .null := by
    rintro rfl
    cases hlink
  have hself : lastLink? table (before ++ slot.connect link :: after) slot.name = some wire := by
    have hconnected : ∀ other ∈ before ++ after, other.name ≠ (slot.connect link).name := hname
    have hlast := lastLink?_self table hconnected
    rw [linkAt?, InputSlot.connect, hlink] at hlast
    exact hlast.trans hwire
  have hother : ∀ name ≠ slot.name,
      lastLink? table (before ++ slot.connect link :: after) name =
        lastLink? table node.inputs name := by
    intro name hne
    rw [hslots, lastLink?_connect table link hne.symm]
  have hnames : widgetNames connected.inputs = widgetNames before ++ widgetNames after :=
    widgetNames_connect hnull
  have hliteral : type.bind catalog.find? = none → ∀ name ≠ slot.name, ∀ v,
      Entries.get? (inputsOf catalog table type connected).1 name = some (.literal v) ↔
        lastLink? table node.inputs name = none ∧ name ≠ "" ∧
          IsFirstValue (namesFor catalog type connected) node.widgets name v := by
    intro hunknown name hne v
    rw [get?_inputsOf, hother name hne, offersFor_eq_named _ (by simp [hunknown]),
      ← get?_named_eq_some_iff]
    cases lastLink? table node.inputs name with
    | none => simp [connected]
    | some other => simp [wireOf]
  refine ⟨type, (inputsOf catalog table type node).1, (inputsOf catalog table type connected).1,
    (inputsOf catalog table type node).2, (inputsOf catalog table type connected).2, htype,
    inputsOfNode_of_declaredType htype, inputsOfNode_of_declaredType htype,
    ?wire, ?wires, ?kept, ?moved, ?guessed⟩
  case wire =>
    rw [get?_inputsOf, hself]
    rfl
  case wires =>
    intro name hne source output
    rw [get?_inputsOf, get?_inputsOf, hother name hne]
    cases lastLink? table node.inputs name <;> simp
  case kept =>
    intro hkeeps name hne
    rw [get?_inputsOf, get?_inputsOf, hother name hne,
      get?_offersFor_connect catalog hslots hfree hnull hkeeps hne.symm]
  case moved =>
    intro hunknown _ hleft
    rw [← hnames, ← namesFor_of_widgetNames hunknown (by rwa [hnames])]
    exact hliteral hunknown
  case guessed =>
    intro hunknown _ hnone
    have hguessed : namesFor catalog type connected = guessedNames type node.widgets.length :=
      namesFor_of_widgetNames_eq_nil hunknown (hnames.trans hnone)
    rw [← hguessed]
    exact hliteral hunknown

end Connection

/-! ## A connection at each of two sockets -/

/-- A socket for a widget, without a link. -/
def widgetSocket (name : String) : InputSlot :=
  ⟨name, "", .null, .str name⟩

/-- An active node that has no more than a type, widget values and input sockets. -/
def activeNode (type : String) (widgets : List Json) (inputs : List InputSlot) : Editor.Node where
  id := .int 3
  type := .str type
  classType := .null
  mode := .number 0
  title := .null
  widgets := widgets
  inputs := inputs
  outputs := []
  properties := .obj []
  order := .int 0

/-- A node of a type that nobody describes, with two widgets that have sockets. -/
def grader : Editor.Node :=
  activeNode "Grader" [.int 5, .str "fast"] [widgetSocket "strength", widgetSocket "mode"]

/-- The link that the grader is given. -/
def graderLink : Link := ⟨9, 2, 0, 3, 0, "FLOAT"⟩

theorem find?_grader : Catalog.standard.find? "Grader" = none := by cbv

theorem declaredType_grader : grader.declaredType = .ok (some "Grader") := rfl

/-- The inputs of the grader without a link. -/
theorem inputsOfNode_grader : inputsOfNode .standard [(9, graderLink)] grader =
    .ok ([("strength", .literal (.int 5)), ("mode", .literal (.str "fast"))], []) := by
  rw [inputsOfNode_of_declaredType declaredType_grader, inputsOf, offersFor, Option.bind_some,
    find?_grader]
  rfl

/-- The second of the two sockets is connected: the first keeps its value. -/
theorem inputsOfNode_connect_grader :
    let connected := { grader with
      inputs := [widgetSocket "strength", (widgetSocket "mode").connect (.int 9)] }
    ∃ inputs inputs' findings findings',
      inputsOfNode .standard [(9, graderLink)] grader = .ok (inputs, findings) ∧
      inputsOfNode .standard [(9, graderLink)] connected = .ok (inputs', findings') ∧
      Entries.get? inputs "strength" = some (.literal (.int 5)) ∧
      Entries.get? inputs' "mode" = some (.wire "2" 0) ∧
      ∀ name ≠ "mode", Entries.get? inputs' name = Entries.get? inputs name := by
  intro connected
  have htyped : grader.type.isFilled = true := rfl
  have hslots : grader.inputs = [widgetSocket "strength"] ++ widgetSocket "mode" :: [] := rfl
  have hname : ∀ other ∈ [widgetSocket "strength"] ++ [], other.name ≠ "mode" := by
    simp [widgetSocket]
  have hlink : (Json.int 9).integer? = some 9 := rfl
  have hwire : Entries.get? [((9 : Int), graderLink)] 9 = some graderLink := rfl
  obtain ⟨type, inputs, inputs', findings, findings', -, hinputs, hinputs', hmode, -, hkept, -⟩ :=
    inputsOfNode_connect .standard (.inl htyped) hslots rfl hname hlink hwire
  obtain ⟨rfl, rfl⟩ := Prod.mk.inj (Except.ok.inj (hinputs.symm.trans inputsOfNode_grader))
  exact ⟨_, inputs', _, findings', hinputs, hinputs', rfl, hmode,
    hkept (.last (List.cons_ne_nil _ _) rfl)⟩

/-- The first of the two sockets is connected: its value moves to the name of the second. -/
theorem moved_grader :
    let connected := { grader with
      inputs := [(widgetSocket "strength").connect (.int 9), widgetSocket "mode"] }
    (widgetSocket "strength").link = .null ∧ (widgetSocket "mode").name ≠ "strength" ∧
      inputsOfNode .standard [(9, graderLink)] grader = .ok
        ([("strength", .literal (.int 5)), ("mode", .literal (.str "fast"))], []) ∧
      inputsOfNode .standard [(9, graderLink)] connected = .ok
        ([("strength", .wire "2" 0), ("mode", .literal (.int 5))], []) := by
  intro connected
  have htype : connected.declaredType = .ok (some "Grader") := declaredType_grader
  refine ⟨rfl, by decide, inputsOfNode_grader, ?_⟩
  rw [inputsOfNode_of_declaredType htype, inputsOf, offersFor, Option.bind_some, find?_grader]
  rfl

end Execution

end NodeWorkflow
