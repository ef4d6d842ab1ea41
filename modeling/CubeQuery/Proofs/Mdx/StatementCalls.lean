import CubeQuery.Mdx.Statement
import CubeQuery.Text.Word

set_option autoImplicit false

/-!
# Statements as sequences of calls

A statement is built call by call, and a text can be asked for at any time. Definitions are
collected; of an axis or a restriction only the last call counts, and a restriction is also taken
back by such a call. What one call does to the statement is said once (`perform_fst`), and what a
sequence of calls does follows by induction on it (`after_eq`). A call that fails leaves the
statement as it was (`perform_eq_of_error`).

A caption is quoted with its quotes doubled. The expression before it may hold quotes as well, so a
caption is read from the end of its definition: a text with doubled quotes is one from either end
(`reverse_doubleQuotes`).

Main statement: after any calls, the text of a statement is the one that the calls request, the
calls that failed might as well not have been made, and captions are read back from their
definitions (`calls_determine_statement`).
-/

namespace CubeQuery.Mdx

/-- A call on a statement. -/
inductive Call where
  | defineMember (name : String) (value : Expr) (caption : Option String)
  | defineSet (name : String) (value : SetExpr)
  | onColumns (set : SetExpr)
  | onRows (set : SetExpr)
  | onPages (set : SetExpr)
  | selectingFrom (set : Option SetExpr)
  | slicedBy (set : Option SetExpr)
  | text

/-- What a call answers: the text if it asks for one, or an error. -/
abbrev Answer := Except Error (Option String)

/-! ## What a call sets -/

namespace Call

/-- The definition that a call adds. -/
def definition? : Call → Option Definition
  | defineMember name value caption => some (.member name value caption)
  | defineSet name value => some (.set name value)
  | _ => none

/-- The set that a call puts on columns. -/
def columns? : Call → Option SetExpr
  | onColumns set => some set
  | _ => none

/-- The set that a call puts on rows. -/
def rows? : Call → Option SetExpr
  | onRows set => some set
  | _ => none

/-- What a call makes of the sub-select. -/
def subSelect? : Call → Option (Option SetExpr)
  | selectingFrom set => some set
  | _ => none

/-- What a call makes of the slicer. -/
def slicer? : Call → Option (Option SetExpr)
  | slicedBy set => some set
  | _ => none

/-- What the last of the calls that set something sets. -/
def last? {α : Type} (sets : Call → Option α) (calls : List Call) : Option α :=
  (calls.filterMap sets).getLast?

theorem last?_cons {α : Type} (sets : Call → Option α) (call : Call) (calls : List Call) :
    last? sets (call :: calls) = (last? sets calls).or (sets call) := by
  rw [last?, last?, List.filterMap_cons]
  cases sets call with
  | none => exact Option.or_none.symm
  | some first =>
    rw [List.getLast?_cons]
    cases (calls.filterMap sets).getLast? <;> rfl

theorem mem_filterMap_columns? {calls : List Call} {set : SetExpr} :
    set ∈ calls.filterMap columns? ↔ onColumns set ∈ calls := by
  rw [List.mem_filterMap]
  constructor
  · rintro ⟨call, hmem, hset⟩
    cases call with
    | onColumns set' =>
      obtain rfl : set' = set := Option.some.inj hset
      exact hmem
    | _ => cases hset
  · exact fun hmem => ⟨onColumns set, hmem, rfl⟩

theorem last?_columns?_isSome_iff (calls : List Call) :
    (last? columns? calls).isSome ↔ ∃ set, onColumns set ∈ calls := by
  rw [last?, List.getLast?_isSome]
  constructor
  · intro hsets
    obtain ⟨set, hset⟩ := List.exists_mem_of_ne_nil _ hsets
    exact ⟨set, mem_filterMap_columns?.1 hset⟩
  · rintro ⟨set, hmem⟩
    exact List.ne_nil_of_mem (mem_filterMap_columns?.2 hmem)

end Call

namespace Statement

open Call (definition? columns? rows? subSelect? slicer? last?)

/-! ## Runs of calls -/

/-- The statement behind a call, and what the call answers. -/
def perform (s : Statement) : Call → Statement × Answer
  | .defineMember name value caption => (s.defineMember name value caption, .ok none)
  | .defineSet name value => (s.defineSet name value, .ok none)
  | .onColumns set => (s.onColumns set, .ok none)
  | .onRows set => (s.onRows set, .ok none)
  | .onPages set =>
    match s.onPages? set with
    | .ok next => (next, .ok none)
    | .error e => (s, .error e)
  | .selectingFrom set => (s.selectingFrom set, .ok none)
  | .slicedBy set => (s.slicedBy set, .ok none)
  | .text => (s, s.text?.map some)

/-- The statement behind calls. -/
def after (s : Statement) (calls : List Call) : Statement :=
  calls.foldl (fun s call => (s.perform call).1) s

/-- Calls with their answers. -/
def transcript (s : Statement) : List Call → List (Call × Answer)
  | [] => []
  | call :: calls => (call, (s.perform call).2) :: transcript (s.perform call).1 calls

/-- The part of a transcript without the calls that fail. -/
def accepted (s : Statement) (calls : List Call) : List (Call × Answer) :=
  (s.transcript calls).filter (·.2.isOk)

/-- One call adds its definition, and sets what it sets. -/
theorem perform_fst (s : Statement) (call : Call) :
    (s.perform call).1 = { s with
      definitions := s.definitions ++ (definition? call).toList
      columns := (columns? call).or s.columns
      rows := (rows? call).or s.rows
      subSelect := (subSelect? call).getD s.subSelect
      slicer := (slicer? call).getD s.slicer } := by
  cases call <;>
    simp [perform, definition?, columns?, rows?, subSelect?, slicer?, defineMember, defineSet,
      onColumns, onRows, onPages?, selectingFrom, slicedBy]

/-- Calls add their definitions in order; of everything else the last call counts. -/
theorem after_eq (s : Statement) (calls : List Call) :
    s.after calls = { s with
      definitions := s.definitions ++ calls.filterMap definition?
      columns := (last? columns? calls).or s.columns
      rows := (last? rows? calls).or s.rows
      subSelect := (last? subSelect? calls).getD s.subSelect
      slicer := (last? slicer? calls).getD s.slicer } := by
  induction calls generalizing s with
  | nil => simp [after, last?]
  | cons call calls ih =>
    have hcons : s.after (call :: calls) = (s.perform call).1.after calls := rfl
    have hdefinitions : (definition? call).toList ++ calls.filterMap definition? =
        (call :: calls).filterMap definition? := by
      rw [List.filterMap_cons]
      cases definition? call <;> rfl
    rw [hcons, ih, perform_fst]
    simp only [List.append_assoc, hdefinitions, Call.last?_cons, Option.or_assoc, Option.getD_or]

theorem after_ofCube (cube : String) (calls : List Call) :
    (ofCube cube).after calls =
      { cube
        definitions := calls.filterMap definition?
        columns := last? columns? calls
        rows := last? rows? calls
        subSelect := (last? subSelect? calls).join
        slicer := (last? slicer? calls).join } := by
  have hjoin : ∀ set : Option (Option SetExpr), set.getD none = set.join := by
    rintro (_ | _) <;> rfl
  simp only [after_eq, ofCube, List.nil_append, Option.or_none, hjoin]

/-- A call that fails leaves the statement as it was. -/
theorem perform_eq_of_error {s : Statement} {call : Call} {e : Error}
    (h : (s.perform call).2 = .error e) : (s.perform call).1 = s := by
  cases call with
  | onPages set => rfl
  | text => rfl
  | _ => cases h

/-- The calls that do not fail give the same answers without the others, and the same statement. -/
theorem transcript_accepted (s : Statement) (calls : List Call) :
    s.transcript ((s.accepted calls).map Prod.fst) = s.accepted calls ∧
      s.after ((s.accepted calls).map Prod.fst) = s.after calls := by
  induction calls generalizing s with
  | nil => exact ⟨rfl, rfl⟩
  | cons call calls ih =>
    obtain ⟨htranscript, hafter⟩ := ih (s.perform call).1
    cases hanswer : (s.perform call).2 with
    | ok text =>
      have haccepted : s.accepted (call :: calls) =
          (call, .ok text) :: (s.perform call).1.accepted calls := by
        rw [accepted, transcript, hanswer]
        rfl
      rw [haccepted, List.map_cons]
      refine ⟨?_, hafter⟩
      rw [transcript, hanswer, htranscript]
    | error e =>
      -- The call is left out, and the others meet the same statement.
      have haccepted : s.accepted (call :: calls) = s.accepted calls := by
        rw [accepted, transcript, hanswer, perform_eq_of_error hanswer]
        rfl
      have hsame : s.after (call :: calls) = s.after calls := by
        rw [after, List.foldl_cons, perform_eq_of_error hanswer]
        rfl
      rw [perform_eq_of_error hanswer] at htranscript hafter
      rw [haccepted, hsame]
      exact ⟨htranscript, hafter⟩

/-! ## Texts -/

/-- The lines that calls on a new statement ask for, with the set on columns. -/
def requestedLines (cube : String) (calls : List Call) (columns : SetExpr) : List String :=
  let definitions := calls.filterMap definition?
  (if definitions.isEmpty then [] else "WITH" :: definitions.map Definition.text) ++
  [match last? rows? calls with
    | none => "SELECT " ++ columns.text ++ " DIMENSION PROPERTIES MEMBER_VALUE ON COLUMNS"
    | some rows =>
      "SELECT " ++ columns.text ++ " DIMENSION PROPERTIES MEMBER_VALUE ON COLUMNS, " ++
        rows.text ++ " DIMENSION PROPERTIES MEMBER_VALUE ON ROWS",
    match (last? subSelect? calls).join with
    | none => "FROM [" ++ cube ++ "]"
    | some set => "FROM (SELECT " ++ set.text ++ " ON COLUMNS FROM [" ++ cube ++ "])"] ++
  (match (last? slicer? calls).join with
    | none => []
    | some set => ["WHERE (" ++ set.text ++ ")"]) ++
  ["CELL PROPERTIES VALUE, FORMATTED_VALUE"]

/-- The text that calls on a new statement ask for. -/
def requestedText? (cube : String) (calls : List Call) : Except Error String :=
  match last? columns? calls with
  | none => .error (.invalidQuery .noColumnAxis)
  | some columns => .ok ("\r\n".intercalate (requestedLines cube calls columns))

theorem lines?_after (cube : String) (calls : List Call) (columns : SetExpr)
    (h : last? columns? calls = some columns) :
    ((ofCube cube).after calls).lines? = .ok (requestedLines cube calls columns) := by
  have hcolumns : " DIMENSION PROPERTIES MEMBER_VALUE ON COLUMNS" =
      " " ++ (memberProperties ++ " ON COLUMNS") := rfl
  have hboth : " DIMENSION PROPERTIES MEMBER_VALUE ON COLUMNS, " =
      " " ++ (memberProperties ++ (" ON COLUMNS" ++ ", ")) := rfl
  have hrows : " DIMENSION PROPERTIES MEMBER_VALUE ON ROWS" =
      " " ++ (memberProperties ++ " ON ROWS") := rfl
  rw [after_ofCube, lines?, requestedLines, h, hcolumns, hboth, hrows]
  simp only [withLines, selectLine, fromLine, whereLines, String.append_assoc]
  cases calls.filterMap definition? <;> rfl

theorem text?_after (cube : String) (calls : List Call) :
    ((ofCube cube).after calls).text? = requestedText? cube calls := by
  rw [text?, requestedText?]
  cases h : last? columns? calls with
  | none =>
    rw [after_ofCube, h]
    rfl
  | some columns =>
    rw [lines?_after cube calls columns h]
    rfl

/-! ## Captions -/

/-- What stands before the first quote that is not doubled, with the doubled ones undone, and what
follows that quote. -/
def readQuoted? : List Char → Option (List Char × List Char)
  | [] => none
  | '\'' :: '\'' :: cs => (readQuoted? cs).map fun (inner, rest) => ('\'' :: inner, rest)
  | '\'' :: cs => some ([], cs)
  | c :: cs => (readQuoted? cs).map fun (inner, rest) => (c :: inner, rest)

/-- A definition without its caption, and the caption. The definition is read from its end, and the
mark of a caption with it. -/
def splitCaption? (definition : String) : Option (String × String) :=
  match definition.toList.reverse with
  | '\'' :: back => do
    let (caption, back) ← readQuoted? back
    let front ← Text.afterWord? " = NOITPAC ," back
    pure (String.ofList front.reverse, String.ofList caption.reverse)
  | _ => none

theorem doubleQuotes_eq_flatMap (cs : List Char) :
    doubleQuotes cs = cs.flatMap fun c => if c = '\'' then ['\'', '\''] else [c] := by
  induction cs with
  | nil => rfl
  | cons c cs ih =>
    rw [doubleQuotes, List.flatMap_cons, ih]
    split <;> rfl

/-- A text with doubled quotes reads the same from its end. -/
theorem reverse_doubleQuotes (cs : List Char) :
    (doubleQuotes cs).reverse = doubleQuotes cs.reverse := by
  rw [doubleQuotes_eq_flatMap, doubleQuotes_eq_flatMap, List.reverse_flatMap]
  congr 1
  funext c
  simp only [Function.comp_apply]
  split <;> rfl

theorem readQuoted?_doubleQuotes (cs : List Char) {rest : List Char}
    (hrest : rest.head? ≠ some '\'') :
    readQuoted? (doubleQuotes cs ++ '\'' :: rest) = some (cs, rest) := by
  induction cs with
  | nil =>
    rw [doubleQuotes, List.nil_append]
    cases rest with
    | nil => rfl
    | cons c rest =>
      -- The quote ends the text as no second one follows.
      rw [readQuoted?]
      rintro cs ⟨⟩
      exact hrest rfl
  | cons c cs ih =>
    rw [doubleQuotes]
    split
    · next hquote =>
      subst hquote
      rw [List.cons_append, List.cons_append, readQuoted?, ih]
      rfl
    · next hplain =>
      rw [List.cons_append, readQuoted?, ih]
      · rfl
      · exact fun _ hc => absurd hc hplain
      · exact fun hc => absurd hc hplain

/-- A caption is read back from its definition. -/
theorem splitCaption?_text (name : String) (value : Expr) (caption : String) :
    splitCaption? (Definition.member name value (some caption)).text =
      some ("MEMBER " ++ name ++ " AS " ++ value.text, caption) := by
  have hmark : ", CAPTION = '".toList.reverse = '\'' :: " = NOITPAC ,".toList := rfl
  have hclose : "'".toList.reverse = ['\''] := rfl
  have hreverse : (Definition.member name value (some caption)).text.toList.reverse =
      '\'' :: (doubleQuotes caption.toList.reverse ++ '\'' :: (" = NOITPAC ,".toList ++
        ("MEMBER " ++ name ++ " AS " ++ value.text).toList.reverse)) := by
    simp only [Definition.text, String.toList_append, List.reverse_append, String.toList_ofList,
      reverse_doubleQuotes, hmark, hclose, List.cons_append, List.nil_append]
  have hquoted : ∀ front : List Char,
      readQuoted?
          (doubleQuotes caption.toList.reverse ++ '\'' :: (" = NOITPAC ,".toList ++ front)) =
        some (caption.toList.reverse, " = NOITPAC ,".toList ++ front) := fun front =>
    readQuoted?_doubleQuotes _ (by simp)
  rw [splitCaption?, hreverse]
  simp only [hquoted, Option.bind_eq_bind, Option.bind_some, Text.afterWord?_append,
    List.reverse_reverse, String.ofList_toList]
  rfl

/-- The expression may hold what looks like a caption. -/
example : splitCaption? "MEMBER [m] AS '', CAPTION = ''', CAPTION = 'It''s'" =
    some ("MEMBER [m] AS '', CAPTION = '''", "It's") := by
  rfl

/-! ## Whole runs -/

/-- A statement has a text exactly after a call for columns. -/
theorem exists_text?_after_iff (cube : String) (calls : List Call) :
    (∃ text, ((ofCube cube).after calls).text? = .ok text) ↔ ∃ set, Call.onColumns set ∈ calls := by
  rw [← Call.last?_columns?_isSome_iff, text?_after, requestedText?]
  cases last? columns? calls <;> simp

/-- The calls that fail are those for pages, and those for a text before any call for columns. -/
theorem perform_after_eq_error_iff (cube : String) (calls : List Call) (call : Call) (e : Error) :
    (((ofCube cube).after calls).perform call).2 = .error e ↔
      (∃ set, call = .onPages set) ∧ e = .unsupportedAxis .pages ∨
      (call = .text ∧ ∀ set, Call.onColumns set ∉ calls) ∧ e = .invalidQuery .noColumnAxis := by
  cases call with
  | onPages set =>
    simp [perform, onPages?, eq_comm]
  | text =>
    have hcolumns := Call.last?_columns?_isSome_iff calls
    simp only [perform, text?_after, requestedText?]
    cases hlast : last? columns? calls with
    | none =>
      have hnever : ∀ set, Call.onColumns set ∉ calls := by
        simpa [hlast] using hcolumns
      simp [hnever, Except.map, eq_comm]
    | some columns =>
      obtain ⟨set, hset⟩ : ∃ set, Call.onColumns set ∈ calls := by
        simpa [hlast] using hcolumns
      simp only [Except.map, reduceCtorEq, exists_false, false_and, true_and, false_or, false_iff,
        not_and]
      exact fun hnever => absurd hset (hnever set)
  | _ => simp [perform]

/-- **Calls determine the statement.** After any calls on a new statement, its text can be asked for
exactly if there was a call for columns, and is the one that the calls request. The calls that fail
are those for pages and those for a text without columns; without them the others get the same
answers, texts included, and make the same statement. From the definition of a member with a caption
the caption is read back, and what stands before it. -/
theorem calls_determine_statement (cube : String) (calls : List Call) :
    ((∃ text, ((ofCube cube).after calls).text? = .ok text) ↔
      ∃ set, Call.onColumns set ∈ calls) ∧
    ((ofCube cube).after calls).text? = requestedText? cube calls ∧
    (∀ call e, (((ofCube cube).after calls).perform call).2 = .error e ↔
      (∃ set, call = .onPages set) ∧ e = .unsupportedAxis .pages ∨
      (call = .text ∧ ∀ set, Call.onColumns set ∉ calls) ∧ e = .invalidQuery .noColumnAxis) ∧
    (ofCube cube).after (((ofCube cube).accepted calls).map Prod.fst) = (ofCube cube).after calls ∧
    (ofCube cube).transcript (((ofCube cube).accepted calls).map Prod.fst) =
      (ofCube cube).accepted calls ∧
    ∀ name value caption,
      splitCaption? (Definition.member name value (some caption)).text =
        some ("MEMBER " ++ name ++ " AS " ++ value.text, caption) := by
  obtain ⟨htranscript, hafter⟩ := transcript_accepted (ofCube cube) calls
  exact ⟨exists_text?_after_iff cube calls, text?_after cube calls,
    perform_after_eq_error_iff cube calls, hafter, htranscript, splitCaption?_text⟩

end Statement

end CubeQuery.Mdx
