import CubeQuery.Proofs.Plan.DimensionAcceptance
import CubeQuery.Proofs.Plan.TableAcceptance
import CubeQuery.Proofs.Report.Faults
import CubeQuery.Session.Cube
import Mathlib.Data.List.Basic

set_option autoImplicit false

/-!
# Runs of calls

A client makes one call after another on a cube, each of its own kind, and the transport has a
state, so that what it answers may depend on all that it was sent before. Each transport has a
recorded form, which keeps every statement with what came back for it, and a run is performed on
this form.

Whatever its kind, a call is one question: the statement of its query, and a reading of the cellset
that comes back (`Call.perform_eq_ask`). From this a performed call has two shapes
(`Performed.Follows`): its query had no statement and nothing was sent, or its statement was sent
once and the answer was read.

Main statement: a run sends the statements of the queries that have one, in the order of the calls,
and nothing else; an error of the transport is the error of its call; and as long as the transport
has no construction errors of its own, these are the errors of the calls that sent nothing
(`run_sends_compiled`).
-/

namespace CubeQuery.Session

open Mdx (Level)
open Report (Row PropertyMap Layout FilledRow Chart)
open Request (Filter Options DimensionOptions DimensionQuery TableQuery ChartConfig)

/-! ## Queries -/

/-- A query of either shape. -/
inductive Query where
  | dimension (query : DimensionQuery)
  | table (query : TableQuery)

/-- The statement of a query on a cube. -/
def Query.text? (cube : String) : Query → Except Error String
  | dimension query => Plan.dimensionText? cube query
  | table query => Plan.tableText? cube query

/-- A query without a statement is refused with a construction error. -/
theorem Query.text?_failsOnly (cube : String) (query : Query) :
    FailsOnly (fun e => e.isConstruction = true) (query.text? cube) := by
  cases query with
  | dimension query =>
    exact (Plan.dimensionText?_decides cube query).2.mono fun _ => Error.isConstruction_of_isRefusal
  | table query =>
    exact (Plan.tableText?_decides cube query).2.mono fun _ => Error.isConstruction_of_isRefusal

/-! ## Calls -/

/-- The calls that a client can make on a cube. -/
inductive Call : Type 1 where
  | dimension (attributes : List Level) (options : DimensionOptions)
  | dimensionRecords {α : Type} (map : PropertyMap) (read? : Json → Option α)
      (options : DimensionOptions)
  | table (measures rows : List Level) (options : Options)
  | tableRecords {α : Type} (map : PropertyMap) (read? : Json → Option α) (options : Options)
  | chart (config : ChartConfig) (options : Options)
  | laidOut {α ε : Type} (layout : Layout α ε) (filters : List Filter)

namespace Call

/-- What a call comes to. -/
def Result : Call → Type
  | dimension _ _ => Report.Dimension Row
  | @dimensionRecords α _ _ _ => Report.Dimension α
  | table _ _ _ => Report.Table Row
  | @tableRecords α _ _ _ => Report.Table α
  | chart _ _ => Chart
  | @laidOut α ε _ _ => List (FilledRow α ε)

/-- A call, made on a cube. -/
def perform {m : Type → Type} [Monad m] (cube : Cube m) :
    (call : Call) → m (Except Error call.Result)
  | dimension attributes options => cube.dimension attributes options
  | dimensionRecords map read? options => cube.dimensionRecords map read? options
  | table measures rows options => cube.table measures rows options
  | tableRecords map read? options => cube.tableRecords map read? options
  | chart config options => cube.chart config options
  | laidOut layout filters => cube.layout layout filters

/-- The query that a call puts to the server. -/
def query : Call → Query
  | dimension attributes options => .dimension (options.query attributes)
  | dimensionRecords map _ options => .dimension (options.query (map.expressions.map Level.mk))
  | table measures rows options => .table ⟨[], measures, rows, options⟩
  | tableRecords map _ options =>
    let levels := map.expressions.map Level.mk
    .table ⟨[], levels.filter (·.isMeasure), levels.filter (!·.isMeasure), options⟩
  | chart config options => .table (config.query options)
  | laidOut layout filters => .table (Cube.layoutQuery layout filters)

/-- What a call makes of the cellset that comes back. -/
def read? : (call : Call) → Cellset → Except Error call.Result
  | dimension _ options, c => Report.dimensionRows? c options.options.requestsTotalCount
  | dimensionRecords map read? options, c =>
    (Report.dimensionRows? c options.options.requestsTotalCount).bind
      fun report => report.mapM? (map.record? read?)
  | table _ _ options, c => Report.tableRows? c options.requestsTotals options.requestsTotalCount
  | tableRecords map read? options, c =>
    (Report.tableRows? c options.requestsTotals options.requestsTotalCount).bind
      fun report => report.mapM? (map.record? read?)
  | chart _ _, c => Report.chart? c
  | laidOut layout _, c => layout.fill? c

/-- A cellset that a call cannot read is at fault. -/
theorem read?_fault (call : Call) (c : Cellset) :
    FailsOnly Error.IsResponseFault (call.read? c) := by
  cases call with
  | dimension attributes options =>
    exact (Report.dimensionRows?_fault c _).mono fun _ => Error.isResponseFault_of_isCellsetFault
  | dimensionRecords map read? options =>
    refine FailsOnly.bind ?_ fun report _ => ?_
    · exact (Report.dimensionRows?_fault c _).mono fun _ => Error.isResponseFault_of_isCellsetFault
    · exact Report.dimension_mapM?_failsOnly fun row _ => Report.record?_fault map read? row.data
  | table measures rows options =>
    exact (Report.tableRows?_fault c _ _).mono fun _ => Error.isResponseFault_of_isCellsetFault
  | tableRecords map read? options =>
    refine FailsOnly.bind ?_ fun report _ => ?_
    · exact (Report.tableRows?_fault c _ _).mono fun _ => Error.isResponseFault_of_isCellsetFault
    · exact Report.table_mapM?_failsOnly fun row _ => Report.record?_fault map read? row
  | chart config options =>
    exact (Report.chart?_fault c).mono fun _ => Error.isResponseFault_of_isCellsetFault
  | laidOut layout filters =>
    exact (Report.fill?_fault layout c).mono fun _ => Error.isResponseFault_of_isCellsetFault

end Call

/-! ## A call is one question -/

section Questions

variable {m : Type → Type} [Monad m] [LawfulMonad m]

/-- Reading on after a question is a part of its reading. -/
theorem ask_bind {α β : Type} (cube : Cube m) (statement? : Except Error String)
    (read : Cellset → Except Error α) (f : α → Except Error β) :
    (do
      let outcome ← cube.ask statement? read
      pure (outcome.bind f)) =
      cube.ask statement? fun c => (read c).bind f := by
  cases statement? with
  | error e => exact pure_bind _ _
  | ok statement =>
    simp only [Cube.ask, bind_assoc, pure_bind]
    congr 1
    funext outcome
    cases outcome <;> rfl

/-- A call puts the statement of its query and reads what comes back. -/
theorem Call.perform_eq_ask (cube : Cube m) (call : Call) :
    call.perform cube = cube.ask (call.query.text? cube.name) call.read? := by
  cases call with
  | dimension attributes options => rfl
  | dimensionRecords map read? options => exact ask_bind cube _ _ _
  | table measures rows options => rfl
  | tableRecords map read? options =>
    -- The map is split in one pass; the query is told by two filters.
    rw [perform, Cube.tableRecords, List.partition_eq_filter_filter]
    exact ask_bind cube _ _ _
  | chart config options => rfl
  | laidOut layout filters => rfl

end Questions

/-- A call whose statement was answered comes to what it makes of the answer. -/
theorem Call.perform_of_answer {σ : Type} {cube : Cube (StateM σ)} {call : Call} {text : String}
    {s : σ} {c : Cellset} (htext : call.query.text? cube.name = .ok text)
    (hanswer : ((cube.transport text).run s).1 = .ok c) :
    ((call.perform cube).run s).1 = call.read? c := by
  have hrun : ((cube.ask (.ok text) call.read?).run s).1 =
      ((cube.transport text).run s).1.bind call.read? := rfl
  rw [Call.perform_eq_ask, htext, hrun, hanswer]
  rfl

/-- A cube whose server answers every statement alike. -/
def Cube.answering (name : String) (c : Cellset) : Cube (StateM Unit) :=
  ⟨name, fun _ _ => (.ok c, ())⟩

/-! ## Recorded transports -/

/-- A statement that was sent and what came back for it. -/
structure Exchange where
  statement : String
  outcome : Except Error Cellset

variable {σ : Type}

/-- The transport with a record of its exchanges, the latest last, beside its own state. -/
def Transport.recorded (transport : Transport (StateM σ)) :
    Transport (StateM (List Exchange × σ)) :=
  fun statement (record, s) =>
    let (outcome, s') := (transport statement).run s
    (outcome, record ++ [⟨statement, outcome⟩], s')

/-- The transport has no construction errors of its own. -/
def Transport.NeverRefuses (transport : Transport (StateM σ)) : Prop :=
  ∀ statement s, FailsOnly (fun e => e.isConstruction = false) ((transport statement).run s).1

/-- The cube behind the recorded transport. -/
def Cube.recorded (cube : Cube (StateM σ)) : Cube (StateM (List Exchange × σ)) :=
  ⟨cube.name, cube.transport.recorded⟩

/-- A call whose query has no statement sends nothing. -/
theorem perform_recorded_of_error {cube : Cube (StateM σ)} {call : Call} {e : Error}
    (h : call.query.text? cube.name = .error e) (record : List Exchange) (s : σ) :
    (call.perform cube.recorded).run (record, s) = (.error e, record, s) := by
  have htext : call.query.text? cube.recorded.name = .error e := h
  rw [Call.perform_eq_ask, htext]
  rfl

/-- A call whose query has a statement sends it, and reads what comes back. -/
theorem perform_recorded_of_ok {cube : Cube (StateM σ)} {call : Call} {statement : String}
    (h : call.query.text? cube.name = .ok statement) (record : List Exchange) (s : σ) :
    (call.perform cube.recorded).run (record, s) =
      (((cube.transport statement).run s).1.bind call.read?,
        record ++ [⟨statement, ((cube.transport statement).run s).1⟩],
        ((cube.transport statement).run s).2) := by
  have htext : call.query.text? cube.recorded.name = .ok statement := h
  rw [Call.perform_eq_ask, htext]
  rfl

/-! ## Runs -/

/-- A call that was made, what it came to, and what it exchanged with the server. -/
structure Performed : Type 1 where
  call : Call
  outcome : Except Error call.Result
  exchanges : List Exchange

namespace Cube

/-- A call, made with a record of its own in a state of the transport. -/
def performOne (cube : Cube (StateM σ)) (call : Call) (s : σ) : Performed × σ :=
  let (outcome, record, s') := (call.perform cube.recorded).run ([], s)
  (⟨call, outcome, record⟩, s')

/-- Calls, made one after another; each finds the transport as the call before left it. -/
def run (cube : Cube (StateM σ)) : List Call → σ → List Performed
  | [], _ => []
  | call :: calls, s =>
    let (performed, s') := cube.performOne call s
    performed :: cube.run calls s'

theorem run_cons (cube : Cube (StateM σ)) (call : Call) (calls : List Call) (s : σ) :
    cube.run (call :: calls) s =
      (cube.performOne call s).1 :: cube.run calls (cube.performOne call s).2 :=
  rfl

end Cube

/-- The two shapes of a performed call. -/
inductive Performed.Follows (cube : Cube (StateM σ)) : Performed → Prop where
  | refused {call : Call} {e : Error} (text : call.query.text? cube.name = .error e) :
    Follows cube ⟨call, .error e, []⟩
  | answered {call : Call} {statement : String} (s : σ)
    (text : call.query.text? cube.name = .ok statement) :
    Follows cube ⟨call, ((cube.transport statement).run s).1.bind call.read?,
      [⟨statement, ((cube.transport statement).run s).1⟩]⟩

/-- One call takes one of the two shapes, by whether its query has a statement. -/
theorem performOne_follows (cube : Cube (StateM σ)) (call : Call) (s : σ) :
    (cube.performOne call s).1.Follows cube := by
  cases htext : call.query.text? cube.name with
  | error e =>
    simp only [Cube.performOne, perform_recorded_of_error htext]
    exact .refused htext
  | ok statement =>
    simp only [Cube.performOne, perform_recorded_of_ok htext, List.nil_append]
    exact .answered s htext

/-- Every call of a run does, whatever state the calls before it leave the transport in. -/
theorem run_follows (cube : Cube (StateM σ)) (calls : List Call) (s : σ) :
    ∀ performed ∈ cube.run calls s, performed.Follows cube := by
  induction calls generalizing s with
  | nil => exact List.forall_mem_nil _
  | cons call calls ih =>
    rw [Cube.run_cons]
    exact List.forall_mem_cons.2 ⟨performOne_follows cube call s, ih _⟩

/-- A run performs its calls in order. -/
theorem map_call_run (cube : Cube (StateM σ)) (calls : List Call) (s : σ) :
    (cube.run calls s).map (·.call) = calls := by
  induction calls generalizing s with
  | nil => rfl
  | cons call calls ih =>
    rw [Cube.run_cons, List.map_cons, ih]
    rfl

namespace Performed.Follows

variable {cube : Cube (StateM σ)} {performed : Performed}

/-- What is sent is the statement of the query, once, or nothing where there is none. -/
theorem map_statement (h : performed.Follows cube) :
    performed.exchanges.map (·.statement) =
      (performed.call.query.text? cube.name).toOption.toList := by
  cases h with
  | refused text => rw [text]; rfl
  | answered s text => rw [text]; rfl

/-- The call fails as its transport does. -/
theorem outcome_eq_error (h : performed.Follows cube) {exchange : Exchange}
    (hmem : exchange ∈ performed.exchanges) {e : Error} (he : exchange.outcome = .error e) :
    performed.outcome = .error e := by
  cases h with
  | refused text => cases hmem
  | answered s text =>
    obtain rfl := List.mem_singleton.1 hmem
    simp only at he ⊢
    rw [he]
    rfl

/-- Construction errors are the errors of calls that send nothing. -/
theorem isConstruction_iff (h : performed.Follows cube) (htransport : cube.transport.NeverRefuses)
    {e : Error} (he : performed.outcome = .error e) :
    e.isConstruction = true ↔ performed.exchanges = [] := by
  cases h with
  | @refused call e' text =>
    cases he
    exact iff_of_true (Query.text?_failsOnly _ _ e text) rfl
  | @answered call statement s text =>
    -- A call that sent something fails with its transport or with its reading.
    have hread : FailsOnly (fun e => e.isConstruction = false)
        (((cube.transport statement).run s).1 >>= call.read?) := by
      refine FailsOnly.bind (htransport statement s) fun c _ => ?_
      exact (call.read?_fault c).mono fun _ => Error.isConstruction_of_isResponseFault
    refine iff_of_false ?_ (List.cons_ne_nil _ _)
    rw [hread e he]
    exact Bool.false_ne_true

end Performed.Follows

/-- **A run sends what compiles.** The statements sent are those of the queries that have one, in
the order of the calls; each call sends at most its own. An error of the transport comes out as it
is, and a transport without construction errors leaves these to the calls that sent nothing. -/
theorem run_sends_compiled (cube : Cube (StateM σ)) (calls : List Call) (s : σ) :
    (cube.run calls s).map (·.call) = calls ∧
    ((cube.run calls s).flatMap (·.exchanges)).map (·.statement) =
      calls.filterMap (fun call => (call.query.text? cube.name).toOption) ∧
    ∀ performed ∈ cube.run calls s,
      performed.exchanges.map (·.statement) =
        (performed.call.query.text? cube.name).toOption.toList ∧
      (∀ exchange ∈ performed.exchanges, ∀ e,
        exchange.outcome = .error e → performed.outcome = .error e) ∧
      (cube.transport.NeverRefuses → ∀ e, performed.outcome = .error e →
        (e.isConstruction = true ↔ performed.exchanges = [])) := by
  have hfollows := run_follows cube calls s
  have hcalls := map_call_run cube calls s
  refine ⟨hcalls, ?_, ?_⟩
  · -- Each performed call contributes the text of its own query, if there is one.
    calc ((cube.run calls s).flatMap (·.exchanges)).map (·.statement)
        = (cube.run calls s).flatMap fun performed =>
            performed.exchanges.map (·.statement) := List.map_flatMap
      _ = (cube.run calls s).flatMap fun performed =>
            (performed.call.query.text? cube.name).toOption.toList :=
          List.flatMap_congr fun performed hmem => (hfollows performed hmem).map_statement
      _ = ((cube.run calls s).map (·.call)).flatMap fun call =>
            (call.query.text? cube.name).toOption.toList := by
          rw [List.flatMap_map]
      _ = calls.filterMap fun call => (call.query.text? cube.name).toOption := by
          rw [hcalls, List.filterMap_eq_flatMap_toList]
  · intro performed hmem
    have hone := hfollows performed hmem
    exact ⟨hone.map_statement, fun exchange hexchange e he => hone.outcome_eq_error hexchange he,
      fun htransport e he => hone.isConstruction_iff htransport he⟩

/-- A cube whose server is never reached; its transport counts the attempts. -/
private def unreachable : Cube (StateM Nat) :=
  ⟨"Sales", fun _ attempts => (.error (.transport "unreachable"), attempts + 1)⟩

/-- A call without attributes, which has no statement, and a call for a measure. -/
private def emptyThenSales : List Call :=
  [.dimension [] (.ofOptions .none), .table [⟨"[Measures].[Sales]"⟩] [] .none]

theorem run_sends_compiled_unreachable :
    unreachable.transport.NeverRefuses ∧
    ((unreachable.run emptyThenSales 0).flatMap (·.exchanges)).map (·.statement) =
      ["\r\n".intercalate
        ["WITH",
          "SET [queryMeasures] AS [Measures].[Sales]",
          "SELECT [queryMeasures] DIMENSION PROPERTIES MEMBER_VALUE ON COLUMNS",
          "FROM [Sales]",
          "CELL PROPERTIES VALUE, FORMATTED_VALUE"]] ∧
    ∀ performed ∈ unreachable.run emptyThenSales 0, ∀ e, performed.outcome = .error e →
      (e.isConstruction = true ↔ performed.exchanges = []) := by
  have hnever : unreachable.transport.NeverRefuses := by
    intro statement attempts e he
    cases he
    rfl
  obtain ⟨-, hsent, hperformed⟩ := run_sends_compiled unreachable emptyThenSales 0
  exact ⟨hnever, hsent.trans rfl, fun performed hmem => (hperformed performed hmem).2.2 hnever⟩

end CubeQuery.Session
