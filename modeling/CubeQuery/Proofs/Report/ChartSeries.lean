import CubeQuery.Proofs.Mdx.Server
import CubeQuery.Proofs.Report.ChartAxis
import CubeQuery.Proofs.Report.TableRows

set_option autoImplicit false

/-!
# The series of charts

Each step of a chart under construction adds entries behind those of its series and makes no series
new. A row adds its values to the series that it belongs to, and a group of rows of one x value
leaves those series waiting that no row of it belongs to. They get a gap when the next group begins,
and the last ones when there are no more rows.

Main statements: a chart is read exactly from the replies that have both axes, no empty tuple and a
cell for every pair of a row and a column, and a place for every value is always there
(`chart?_fails_on_input_only`). Its series are made of the columns of its groups (`chart?_eq_ok`).
-/

namespace CubeQuery.Report

open Cellset (Tuple Axis)

/-! ## Entries -/

/-- The entries of the series of a measure with a name. -/
def entriesIn (data : Std.TreeMap String SeriesGroup) (measure name : String) :
    Option (List (Option Float)) :=
  data[measure]?.bind fun group => group[name]?.map Array.toList

/-- Data that has further entries behind those of its series, and no new measure or series. -/
structure Extends (data data' : Std.TreeMap String SeriesGroup)
    (entries : String → String → List (Option Float)) : Prop where
  measures : ∀ measure, measure ∈ data' ↔ measure ∈ data
  entries : ∀ measure name, entriesIn data' measure name =
    (entriesIn data measure name).map (· ++ entries measure name)

/-- Data that has all series of some names for some measures. -/
def HasSeries (measures names : List String) (data : Std.TreeMap String SeriesGroup) : Prop :=
  ∀ measure ∈ measures, ∀ name ∈ names, (entriesIn data measure name).isSome = true

section Entries

variable {data data' data'' : Std.TreeMap String SeriesGroup}
variable {entries entries' : String → String → List (Option Float)}
variable {measures names : List String}

theorem Extends.refl (data : Std.TreeMap String SeriesGroup) : Extends data data fun _ _ => [] where
  measures _ := Iff.rfl
  entries measure name := by
    cases entriesIn data measure name with
    | none => rfl
    | some found => exact congrArg some (List.append_nil found).symm

theorem Extends.trans (h : Extends data data' entries) (h' : Extends data' data'' entries') :
    Extends data data'' fun measure name => entries measure name ++ entries' measure name where
  measures measure := (h'.measures measure).trans (h.measures measure)
  entries measure name := by
    rw [h'.entries measure name, h.entries measure name, Option.map_map]
    congr 1
    funext found
    exact List.append_assoc _ _ _

theorem Extends.congr (h : Extends data data' entries)
    (heq : ∀ measure name, entries measure name = entries' measure name) :
    Extends data data' entries' where
  measures := h.measures
  entries measure name := by rw [h.entries measure name, heq measure name]

theorem Extends.hasSeries (h : Extends data data' entries) (hdata : HasSeries measures names data) :
    HasSeries measures names data' := by
  intro measure hmeasure name hname
  rw [h.entries measure name, Option.isSome_map]
  exact hdata measure hmeasure name hname

/-- Replacing a series changes its entries and no others. -/
theorem entriesIn_insert {measure name : String} {group : SeriesGroup}
    (hgroup : data[measure]? = some group) (series : Series) (m t : String) :
    entriesIn (data.insert measure (group.insert name series)) m t =
      if m = measure ∧ t = name then some series.toList else entriesIn data m t := by
  rw [entriesIn, entriesIn, Std.TreeMap.getElem?_insert]
  by_cases hm : m = measure
  · rw [if_pos (Std.LawfulEqCmp.compare_eq_iff_eq.2 hm.symm), hm, hgroup, Option.bind_some,
      Option.bind_some, Std.TreeMap.getElem?_insert]
    by_cases ht : t = name
    · rw [if_pos (Std.LawfulEqCmp.compare_eq_iff_eq.2 ht.symm), if_pos ⟨rfl, ht⟩, Option.map_some]
    · rw [if_neg (mt Std.LawfulEqCmp.compare_eq_iff_eq.1 (Ne.symm ht)), if_neg (mt And.right ht)]
  · rw [if_neg (mt Std.LawfulEqCmp.compare_eq_iff_eq.1 (Ne.symm hm)), if_neg (mt And.left hm)]

/-- A series that is there takes a value. -/
theorem addValue?_eq_ok {measure name : String} (value : Option Float)
    (h : (entriesIn data measure name).isSome = true) :
    ∃ data', addValue? name data (measure, value) = .ok data' ∧ Extends data data' fun m t =>
      if m = measure ∧ t = name then [value] else [] := by
  obtain ⟨found, hfound⟩ := Option.isSome_iff_exists.1 h
  obtain ⟨group, hgroup, hentries⟩ := Option.bind_eq_some_iff.1 hfound
  obtain ⟨series, hseries, rfl⟩ := Option.map_eq_some_iff.1 hentries
  refine ⟨data.insert measure (group.insert name (series.push value)), ?_, ?_, ?_⟩
  · simp only [addValue?, hgroup, hseries]
  · intro m
    rw [Std.TreeMap.mem_insert, Std.LawfulEqCmp.compare_eq_iff_eq, or_iff_right_iff_imp]
    rintro rfl
    rw [Std.TreeMap.mem_iff_isSome_getElem?, hgroup]
    rfl
  · intro m t
    rw [entriesIn_insert hgroup]
    by_cases hplace : m = measure ∧ t = name
    · obtain ⟨rfl, rfl⟩ := hplace
      rw [if_pos ⟨rfl, rfl⟩, hfound, Array.toList_push]
      simp
    · simp [hplace]

/-- A fold extends data by what its steps do, if each of them does after those before it. -/
theorem exists_foldlM_extends {α : Type}
    {step : Std.TreeMap String SeriesGroup → α → Except Error (Std.TreeMap String SeriesGroup)}
    (added : α → String → String → List (Option Float)) {xs : List α}
    (h : ∀ a ∈ xs, ∀ data' entries, Extends data data' entries →
      ∃ data'', step data' a = Except.ok data'' ∧ Extends data' data'' (added a)) :
    ∃ data', xs.foldlM step data = Except.ok data' ∧
      Extends data data' fun measure name => xs.flatMap fun a => added a measure name := by
  induction xs generalizing data with
  | nil => exact ⟨data, rfl, Extends.refl data⟩
  | cons a rest ih =>
    -- The later steps start from what the first one leaves, which extends the data as well.
    obtain ⟨next, hstep, hnext⟩ := h a List.mem_cons_self data _ (Extends.refl data)
    have hrest : ∀ b ∈ rest, ∀ data' entries, Extends next data' entries →
        ∃ data'', step data' b = Except.ok data'' ∧ Extends data' data'' (added b) :=
      fun b hb data' entries hentries =>
        h b (List.mem_cons_of_mem _ hb) data' _ (hnext.trans hentries)
    obtain ⟨last, hrun, hlast⟩ := ih hrest
    refine ⟨last, ?_, hnext.trans hlast⟩
    rw [List.foldlM_cons, hstep]
    exact hrun

end Entries

/-- The values of a row in the columns of a measure. -/
def valuesUnder (measures : List String) (values : List (Option Float)) (measure : String) :
    List (Option Float) :=
  ((measures.zip values).filter fun cell => cell.1 == measure).map Prod.snd

/-- The gaps of a series for those of its name that wait. -/
def gaps (measures waiting : List String) (measure name : String) : List (Option Float) :=
  List.replicate (waiting.count name * measures.count measure) none

section Steps

variable {data : Std.TreeMap String SeriesGroup} {measures names : List String}

theorem flatMap_eq_valuesUnder (cells : List (String × Option Float)) (measure : String) :
    (cells.flatMap fun cell => if measure = cell.1 then [cell.2] else []) =
      (cells.filter fun cell => cell.1 == measure).map Prod.snd := by
  induction cells with
  | nil => rfl
  | cons cell rest ih =>
    rw [List.flatMap_cons, ih, List.filter_cons]
    by_cases h : measure = cell.1
    · rw [if_pos h, if_pos (beq_iff_eq.2 h.symm)]
      rfl
    · rw [if_neg h, if_neg (mt beq_iff_eq.1 (Ne.symm h))]
      rfl

/-- Series that are there take a value for each measure. -/
theorem addValues?_eq_ok {name : String} (h : HasSeries measures [name] data)
    (values : List (Option Float)) :
    ∃ data', addValues? measures name values data = .ok data' ∧ Extends data data'
      fun m t => if t = name then valuesUnder measures values m else [] := by
  have hstep : ∀ cell ∈ measures.zip values, ∀ data' entries, Extends data data' entries →
      ∃ data'', addValue? name data' cell = .ok data'' ∧ Extends data' data'' fun m t =>
        if m = cell.1 ∧ t = name then [cell.2] else [] := by
    intro cell hcell data' entries hentries
    exact addValue?_eq_ok cell.2
      (hentries.hasSeries h cell.1 (List.of_mem_zip hcell).1 name List.mem_cons_self)
  obtain ⟨data', hrun, hdata'⟩ := exists_foldlM_extends _ hstep
  refine ⟨data', hrun, hdata'.congr fun m t => ?_⟩
  by_cases ht : t = name
  · simp only [ht, and_true, if_true]
    exact flatMap_eq_valuesUnder _ m
  · simp only [ht, and_false, if_false]
    exact List.flatMap_eq_nil_iff.2 fun _ _ => rfl

theorem valuesUnder_none (measures : List String) (measure : String) :
    valuesUnder measures (measures.map fun _ => none) measure =
      List.replicate (measures.count measure) none := by
  rw [valuesUnder]
  induction measures with
  | nil => rfl
  | cons first rest ih =>
    rw [List.map_cons, List.zip_cons_cons, List.filter_cons, List.count_cons]
    by_cases h : first = measure
    · rw [if_pos (beq_iff_eq.2 h), if_pos (beq_iff_eq.2 h), List.map_cons, ih,
        List.replicate_succ]
    · rw [if_neg (mt beq_iff_eq.1 h), if_neg (mt beq_iff_eq.1 h), ih, Nat.add_zero]

/-- Each of the names that is a given one brings its gaps. -/
theorem flatMap_eq_replicate (waiting : List String) (name : String) (count : Nat) :
    (waiting.flatMap fun other =>
      if name = other then List.replicate count (none : Option Float) else []) =
      List.replicate (waiting.count name * count) none := by
  induction waiting with
  | nil => rw [List.count_nil, Nat.zero_mul, List.flatMap_nil, List.replicate_zero]
  | cons other rest ih =>
    rw [List.flatMap_cons, ih, List.count_cons]
    by_cases h : name = other
    · rw [if_pos h, if_pos (beq_iff_eq.2 h.symm), Nat.add_mul, Nat.one_mul, Nat.add_comm,
        List.replicate_append_replicate]
    · rw [if_neg h, if_neg (mt beq_iff_eq.1 (Ne.symm h)), Nat.add_zero, List.nil_append]

/-- Series that are there take gaps. -/
theorem addGaps?_eq_ok {waiting : List String} (h : HasSeries measures waiting data) :
    ∃ data', addGaps? measures waiting data = .ok data' ∧
      Extends data data' (gaps measures waiting) := by
  have hstep : ∀ name ∈ waiting, ∀ data' entries, Extends data data' entries →
      ∃ data'', addValues? measures name (measures.map fun _ => none) data' = .ok data'' ∧
        Extends data' data'' fun m t =>
          if t = name then valuesUnder measures (measures.map fun _ => none) m else [] := by
    intro name hname data' entries hentries
    apply addValues?_eq_ok
    intro measure hmeasure other hother
    rw [List.mem_singleton.1 hother]
    exact hentries.hasSeries h measure hmeasure name hname
  obtain ⟨data', hrun, hdata'⟩ := exists_foldlM_extends _ hstep
  refine ⟨data', hrun, hdata'.congr fun m t => ?_⟩
  rw [valuesUnder_none, gaps]
  exact flatMap_eq_replicate _ t _

end Steps

/-! ## Rows -/

/-- The numbers in a block of cells. -/
def numbers (c : Cellset) (start count : Nat) : List (Option Float) :=
  (block c start count).map fun value => value.bind Value.toNumber?

/-- What a row adds to a series: its values in the columns of the measure, if it belongs to it. -/
def rowEntries (c : Cellset) (measures : List String) (measure name : String)
    (row : Tuple × Nat) : List (Option Float) :=
  if name = seriesNameOf row.1 then
    valuesUnder measures (numbers c (row.2 * measures.length) measures.length) measure
  else []

/-- The series that rows belong to. -/
def seriesOf (rows : List (Tuple × Nat)) : List String :=
  rows.map fun row => seriesNameOf row.1

/-- A row with members and cells, of a series that there is. -/
structure IsReadableRow (c : Cellset) (measures names : List String) (row : Tuple × Nat) :
    Prop where
  members : row.1.members ≠ []
  cells : row.2 * measures.length + measures.length ≤ c.cells.size
  series : seriesNameOf row.1 ∈ names

section Rows

variable {c : Cellset} {measures names : List String} {p : Pivot} {row : Tuple × Nat}

theorem firstMember?_map_value {tuple : Tuple} (h : tuple.members ≠ []) :
    ∃ member, tuple.firstMember? = .ok member ∧ member.value = xOf tuple := by
  rw [xOf, Tuple.firstMember?]
  cases hmembers : tuple.members with
  | nil => exact absurd hmembers h
  | cons first rest => exact ⟨first, rfl, rfl⟩

theorem turnTo?_of_same {x : Option Value}
    (h : ∀ last ∈ p.current, Value.sameOption last x = true) :
    p.turnTo? measures names x = .ok { p with current := some x } := by
  have hsame : (p.current.any fun last => !Value.sameOption last x) = false := by
    cases hcurrent : p.current with
    | none => rfl
    | some last =>
      rw [Option.any_some, h last hcurrent]
      rfl
  rw [Pivot.turnTo?, hsame]
  rfl

theorem turnTo?_of_new {last x : Option Value} (hcurrent : p.current = some last)
    (hnew : Value.sameOption last x = false) (h : HasSeries measures p.waiting p.data) :
    ∃ data', p.turnTo? measures names x = .ok ⟨data', names, some x⟩ ∧
      Extends p.data data' (gaps measures p.waiting) := by
  obtain ⟨data', hgaps, hdata'⟩ := addGaps?_eq_ok h
  refine ⟨data', ?_, hdata'⟩
  rw [Pivot.turnTo?, hcurrent, Option.any_some, hnew, Bool.not_false, if_pos rfl, hgaps]
  rfl

theorem put?_eq_ok {name : String} (h : HasSeries measures [name] p.data)
    (values : List (Option Float)) :
    ∃ data', p.put? measures name values =
        .ok ⟨data', p.waiting.filter (· != name), p.current⟩ ∧
      Extends p.data data' fun m t =>
        if t = name then valuesUnder measures values m else [] := by
  obtain ⟨data', hrun, hdata'⟩ := addValues?_eq_ok h values
  refine ⟨data', ?_, hdata'⟩
  rw [Pivot.put?, hrun]
  rfl

/-- A readable row is added once its x value is turned to. -/
theorem addRowAt?_of_turnTo? (hrow : IsReadableRow c measures names row) {turned : Pivot}
    (hturn : p.turnTo? measures names (xOf row.1) = .ok turned)
    (hdata : HasSeries measures names turned.data) :
    ∃ data', p.addRowAt? c measures names row =
        .ok ⟨data', turned.waiting.filter (· != seriesNameOf row.1), turned.current⟩ ∧
      Extends turned.data data' fun m t => rowEntries c measures m t row := by
  obtain ⟨member, hmember, hvalue⟩ := firstMember?_map_value hrow.members
  have hseries : HasSeries measures [seriesNameOf row.1] turned.data := by
    intro measure hmeasure name hname
    rw [List.mem_singleton.1 hname]
    exact hdata measure hmeasure _ hrow.series
  obtain ⟨data', hput, hdata'⟩ := put?_eq_ok hseries
    (numbers c (row.2 * measures.length) measures.length)
  refine ⟨data', ?_, hdata'⟩
  rw [Pivot.addRowAt?]
  refine (bind_of_eq_ok hmember).trans ?_
  rw [hvalue]
  refine (bind_of_eq_ok hturn).trans ?_
  exact (bind_of_eq_ok (cellValues?_eq_ok hrow.cells)).trans hput

end Rows

/-! ## Groups of rows -/

section Groups

variable {c : Cellset} {measures names : List String}

/-- Rows of the x value at which a chart stands only add their values. -/
theorem foldlM_addRowAt?_of_same {first : Tuple × Nat} {rest : List (Tuple × Nat)} {p : Pivot}
    (hchain : (first :: rest).IsChain fun a b => sameX a b = true)
    (hcurrent : p.current = some (xOf first.1))
    (hrows : ∀ row ∈ rest, IsReadableRow c measures names row)
    (hdata : HasSeries measures names p.data) :
    ∃ p' : Pivot, rest.foldlM (Pivot.addRowAt? c measures names) p = .ok p' ∧
      p'.current = ((first :: rest).getLast?.map fun row => xOf row.1) ∧
      p'.waiting = p.waiting.filter (fun name => !(seriesOf rest).contains name) ∧
      Extends p.data p'.data fun m t => rest.flatMap (rowEntries c measures m t) := by
  -- Each row is compared with the one before it, at whose x value the chart stands.
  induction rest generalizing first p with
  | nil =>
    refine ⟨p, rfl, hcurrent, ?_, Extends.refl p.data⟩
    exact (List.filter_eq_self.2 fun _ _ => rfl).symm
  | cons row rest ih =>
    obtain ⟨hsame, hchain⟩ := List.isChain_cons_cons.1 hchain
    have hturn : p.turnTo? measures names (xOf row.1) =
        .ok { p with current := some (xOf row.1) } := by
      apply turnTo?_of_same
      intro last hlast
      rw [hcurrent] at hlast
      cases hlast
      exact hsame
    obtain ⟨hrow, hrest⟩ := List.forall_mem_cons.1 hrows
    obtain ⟨data', hadd, hdata'⟩ := addRowAt?_of_turnTo? hrow hturn hdata
    obtain ⟨p', hrun, hlast, hwaiting, hentries⟩ := ih
      (p := ⟨data', p.waiting.filter (· != seriesNameOf row.1), some (xOf row.1)⟩)
      hchain rfl hrest (hdata'.hasSeries hdata)
    refine ⟨p', ?_, ?_, ?_, hdata'.trans hentries⟩
    · rw [List.foldlM_cons, hadd]
      exact hrun
    · rw [hlast, List.getLast?_cons_cons]
    · rw [hwaiting, List.filter_filter]
      congr 1
      funext name
      rw [seriesOf, seriesOf, List.map_cons, List.contains_cons, Bool.not_or, Bool.and_comm]
      rfl

/-- A chart that is about to begin, or to go on to a new x value. -/
def Opens (names : List String) (p : Pivot) (x : Option Value) : Prop :=
  (p.current = none ∧ p.waiting = names) ∨
    ∃ last, p.current = some last ∧ Value.sameOption last x = false

/-- The gaps that a chart owes at its x value. -/
def owed (measures : List String) (p : Pivot) (measure name : String) : List (Option Float) :=
  match p.current with
  | none => []
  | some _ => gaps measures p.waiting measure name

theorem turnTo?_of_opens {p : Pivot} {x : Option Value} (hopens : Opens names p x)
    (hdata : HasSeries measures names p.data) (hwaiting : ∀ name ∈ p.waiting, name ∈ names) :
    ∃ data', p.turnTo? measures names x = .ok ⟨data', names, some x⟩ ∧
      Extends p.data data' (owed measures p) := by
  rcases hopens with ⟨hnone, hall⟩ | ⟨last, hlast, hnew⟩
  · refine ⟨p.data, ?_, ?_⟩
    · rw [turnTo?_of_same (by rw [hnone]; nofun), hall]
    · exact (Extends.refl p.data).congr fun _ _ => by rw [owed, hnone]
  · have hseries : HasSeries measures p.waiting p.data :=
      fun measure hmeasure name hname => hdata measure hmeasure name (hwaiting name hname)
    obtain ⟨data', hturn, hdata'⟩ := turnTo?_of_new hlast hnew hseries
    exact ⟨data', hturn, hdata'.congr fun _ _ => by rw [owed, hlast]⟩

/-- The series that no row of a group belongs to. -/
def missingFrom (names : List String) (group : List (Tuple × Nat)) : List String :=
  names.filter fun name => !(seriesOf group).contains name

/-- What a group of rows brings a series: the values of its rows that belong to it, or gaps. -/
def groupColumn (c : Cellset) (measures names : List String) (measure name : String)
    (group : List (Tuple × Nat)) : List (Option Float) :=
  group.flatMap (rowEntries c measures measure name) ++
    gaps measures (missingFrom names group) measure name

/-- A group pays the gaps that are owed, adds its values and leaves the other series waiting. -/
theorem foldlM_addRowAt?_group {group : List (Tuple × Nat)} {p : Pivot} (hne : group ≠ [])
    (hchain : group.IsChain fun a b => sameX a b = true)
    (hrows : ∀ row ∈ group, IsReadableRow c measures names row)
    (hopens : ∀ row ∈ group.head?, Opens names p (xOf row.1))
    (hdata : HasSeries measures names p.data) (hwaiting : ∀ name ∈ p.waiting, name ∈ names) :
    ∃ p' : Pivot, group.foldlM (Pivot.addRowAt? c measures names) p = .ok p' ∧
      p'.current = (group.getLast?.map fun row => xOf row.1) ∧
      p'.waiting = missingFrom names group ∧
      Extends p.data p'.data fun m t =>
        owed measures p m t ++ group.flatMap (rowEntries c measures m t) := by
  cases group with
  | nil => exact absurd rfl hne
  | cons first rest =>
    obtain ⟨hfirst, hrest⟩ := List.forall_mem_cons.1 hrows
    obtain ⟨data₁, hturn, hdata₁⟩ := turnTo?_of_opens (hopens first rfl) hdata hwaiting
    obtain ⟨data₂, hadd, hdata₂⟩ := addRowAt?_of_turnTo? hfirst hturn (hdata₁.hasSeries hdata)
    obtain ⟨p', hrun, hlast, hleft, hentries⟩ := foldlM_addRowAt?_of_same
      (p := ⟨data₂, names.filter (· != seriesNameOf first.1), some (xOf first.1)⟩)
      hchain rfl hrest (hdata₂.hasSeries (hdata₁.hasSeries hdata))
    refine ⟨p', ?_, hlast, ?_, ?_⟩
    · rw [List.foldlM_cons, hadd]
      exact hrun
    · rw [hleft, missingFrom, List.filter_filter]
      congr 1
      funext name
      rw [seriesOf, seriesOf, List.map_cons, List.contains_cons, Bool.not_or, Bool.and_comm]
      rfl
    · refine ((hdata₁.trans hdata₂).trans hentries).congr fun m t => ?_
      rw [List.flatMap_cons, List.append_assoc]

/-- **A run over groups of rows.** With the gaps still owed at its end, a series has the gaps owed
before and the columns of all groups. -/
theorem foldlM_addRowAt?_groups {groups : List (List (Tuple × Nat))} {p : Pivot} (hne : [] ∉ groups)
    (hchains : ∀ group ∈ groups, group.IsChain fun a b => sameX a b = true)
    (hchange : groups.IsChain fun g h =>
      ∃ (hg : g ≠ []) (hh : h ≠ []), sameX (g.getLast hg) (h.head hh) = false)
    (hrows : ∀ row ∈ groups.flatten, IsReadableRow c measures names row)
    (hopens : ∀ row ∈ groups.flatten.head?, Opens names p (xOf row.1))
    (hdata : HasSeries measures names p.data) (hwaiting : ∀ name ∈ p.waiting, name ∈ names) :
    ∃ (p' : Pivot) (entries : String → String → List (Option Float)),
      groups.flatten.foldlM (Pivot.addRowAt? c measures names) p = .ok p' ∧
      (p'.current = none → p.current = none ∧ groups = []) ∧
      (∀ name ∈ p'.waiting, name ∈ names) ∧
      Extends p.data p'.data entries ∧
      ∀ m t, entries m t ++ owed measures p' m t =
        owed measures p m t ++ groups.flatMap (groupColumn c measures names m t) := by
  -- The gaps of a group are paid when the next one begins; what is owed carries them over.
  induction groups generalizing p with
  | nil =>
    refine ⟨p, _, rfl, fun h => ⟨h, rfl⟩, hwaiting, Extends.refl p.data, fun m t => ?_⟩
    rw [List.flatMap_nil, List.append_nil, List.nil_append]
  | cons group rest ih =>
    have hgroup : group ≠ [] := fun h => hne (h ▸ List.mem_cons_self)
    rw [List.flatten_cons, List.forall_mem_append] at hrows
    have hhead : ∀ row ∈ group.head?, Opens names p (xOf row.1) := by
      intro row hrow
      apply hopens
      rw [List.flatten_cons, List.head?_append, Option.mem_def.1 hrow]
      rfl
    obtain ⟨p₁, hrun₁, hcurrent₁, hwaiting₁, hentries₁⟩ := foldlM_addRowAt?_group hgroup
      (hchains group List.mem_cons_self) hrows.1 hhead hdata hwaiting
    rw [List.getLast?_eq_some_getLast hgroup, Option.map_some] at hcurrent₁
    -- The next group begins with another x value than this one ends with.
    have hopens₁ : ∀ row ∈ rest.flatten.head?, Opens names p₁ (xOf row.1) := by
      intro row hrow
      cases rest with
      | nil => cases hrow
      | cons next others =>
        obtain ⟨_, hnext, hnew⟩ := (List.isChain_cons_cons.1 hchange).1
        rw [List.flatten_cons, List.head?_append, List.head?_eq_some_head hnext] at hrow
        cases hrow
        exact .inr ⟨_, hcurrent₁, hnew⟩
    have hsub₁ : ∀ name ∈ p₁.waiting, name ∈ names := by
      rw [hwaiting₁]
      exact fun name hname => (List.mem_filter.1 hname).1
    obtain ⟨p', entries, hrun, hcurrent, hsub, hentries, heq⟩ := ih
      (fun h => hne (List.mem_cons_of_mem _ h))
      (fun g hg => hchains g (List.mem_cons_of_mem _ hg)) hchange.tail hrows.2 hopens₁
      (hentries₁.hasSeries hdata) hsub₁
    refine ⟨p', _, ?_, fun hnone => ?_, hsub, hentries₁.trans hentries, fun m t => ?_⟩
    · rw [List.flatten_cons, List.foldlM_append, hrun₁]
      exact hrun
    · have hcontra := (hcurrent hnone).1
      rw [hcurrent₁] at hcontra
      cases hcontra
    · have howed : owed measures p₁ m t = gaps measures (missingFrom names group) m t := by
        rw [owed, hcurrent₁, hwaiting₁]
      rw [List.append_assoc, heq m t, howed, List.flatMap_cons, groupColumn]
      simp only [List.append_assoc]

end Groups

/-! ## Charts -/

/-- A map that has one value for some keys. -/
theorem getElem?_foldl_insert_const {β : Type} (keys : List String) (value : β) (key : String) :
    (keys.foldl (fun map key => map.insert key value) (∅ : Std.TreeMap String β))[key]? =
      if key ∈ keys then some value else none := by
  rw [getElem?_foldl_insert (fun key : String => key) fun _ => value, Std.TreeMap.getElem?_emptyc,
    Option.or_none]
  by_cases hkey : key ∈ keys
  · have hfound : key ∈ keys.filter fun other => other == key :=
      List.mem_filter.2 ⟨hkey, beq_self_eq_true key⟩
    rw [if_pos hkey, List.getLast?_eq_some_getLast (List.ne_nil_of_mem hfound), Option.map_some]
  · have hnone : (keys.filter fun other => other == key) = [] := by
      rw [List.filter_eq_nil_iff]
      intro other hother heq
      rw [beq_iff_eq.1 heq] at hother
      exact hkey hother
    rw [if_neg hkey, hnone]
    rfl

/-- The data of a chart without values has all its series, and no others. -/
theorem entriesIn_emptyData (measures names : List String) (measure name : String) :
    entriesIn (emptyData measures names) measure name =
      if measure ∈ measures ∧ name ∈ names then some [] else none := by
  rw [entriesIn, emptyData, getElem?_foldl_insert_const]
  by_cases hmeasure : measure ∈ measures
  · rw [if_pos hmeasure, Option.bind_some, getElem?_foldl_insert_const]
    by_cases hname : name ∈ names
    · rw [if_pos hname, if_pos ⟨hmeasure, hname⟩]
      rfl
    · rw [if_neg hname, if_neg (mt And.right hname)]
      rfl
  · rw [if_neg hmeasure, if_neg (mt And.left hmeasure)]
    rfl

/-- The data of a chart without values has its measures, and no others. -/
theorem mem_emptyData_iff (measures names : List String) (measure : String) :
    measure ∈ emptyData measures names ↔ measure ∈ measures := by
  rw [emptyData, Std.TreeMap.mem_iff_isSome_getElem?, getElem?_foldl_insert_const]
  split
  · rename_i hmeasure
    exact iff_of_true rfl hmeasure
  · rename_i hmeasure
    exact iff_of_false Bool.false_ne_true hmeasure

theorem hasSeries_emptyData (measures names : List String) :
    HasSeries measures names (emptyData measures names) := by
  intro measure hmeasure name hname
  rw [entriesIn_emptyData, if_pos ⟨hmeasure, hname⟩]
  rfl

theorem mem_sortedNames_iff (names : List String) (name : String) :
    name ∈ sortedNames names ↔ name ∈ names := by
  rw [sortedNames, List.mem_mergeSort, List.mem_eraseDups]

/-- The series of rows are those that rows belong to, or the default one without rows. -/
theorem mem_seriesNamesOf_iff (tuples : List Tuple) (name : String) :
    name ∈ seriesNamesOf tuples ↔
      name ∈ tuples.map seriesNameOf ∨ tuples = [] ∧ name = defaultSeries := by
  have hempty : (sortedNames (tuples.map seriesNameOf)).isEmpty = true ↔ tuples = [] := by
    rw [List.isEmpty_iff, List.eq_nil_iff_forall_not_mem]
    simp only [mem_sortedNames_iff]
    rw [← List.eq_nil_iff_forall_not_mem, List.map_eq_nil_iff]
  rw [seriesNamesOf]
  by_cases hnil : tuples = []
  · rw [if_pos (hempty.2 hnil), hnil, List.mem_singleton, List.map_nil]
    simp
  · rw [if_neg (mt hempty.1 hnil), mem_sortedNames_iff]
    simp [hnil]

/-- The series names of rows are sorted and do not repeat. -/
theorem sorted_seriesNamesOf (tuples : List Tuple) :
    (seriesNamesOf tuples).Pairwise (· < ·) := by
  have hsorted : (sortedNames (tuples.map seriesNameOf)).Pairwise (· < ·) := by
    have hle : (sortedNames (tuples.map seriesNameOf)).Pairwise
        fun a b => decide (a ≤ b) = true := by
      apply List.pairwise_mergeSort
      · intro a b c hab hbc
        exact decide_eq_true (String.le_trans (of_decide_eq_true hab) (of_decide_eq_true hbc))
      · intro a b
        rw [Bool.or_eq_true, decide_eq_true_iff, decide_eq_true_iff]
        exact String.le_total a b
    have hnodup : (sortedNames (tuples.map seriesNameOf)).Nodup :=
      (List.mergeSort_perm _ _).nodup_iff.2 (Mdx.nodup_eraseDups _)
    refine (hle.and hnodup).imp ?_
    rintro a b ⟨hab, hne⟩
    exact String.not_le.1 fun hba => hne (String.le_antisymm (of_decide_eq_true hab) hba)
  rw [seriesNamesOf]
  split
  · exact List.pairwise_singleton _ _
  · exact hsorted

/-- A reply that a chart can be read from. -/
structure IsChartable (c : Cellset) (columns rows : Axis) : Prop where
  columnAxis : c.axes[0]? = some columns
  rowAxis : c.axes[1]? = some rows
  measures : ∀ tuple ∈ columns.tuples, tuple.members ≠ []
  members : ∀ tuple ∈ rows.tuples, tuple.members ≠ []
  cells : rows.tuples.length * columns.tuples.length ≤ c.cells.size

section Charts

variable {c : Cellset} {columns rows : Axis}

theorem IsChartable.isReadableRow (h : IsChartable c columns rows) {row : Tuple × Nat}
    (hrow : row ∈ rows.tuples.zipIdx) :
    IsReadableRow c (columnNames columns) (seriesNamesOf rows.tuples) row where
  members := h.members row.1 (List.fst_mem_of_mem_zipIdx hrow)
  cells := by
    rw [length_columnNames h.measures]
    have hlt : row.2 < rows.tuples.length := by simpa using List.snd_lt_of_mem_zipIdx hrow
    exact block_end_le hlt h.cells
  series := (mem_seriesNamesOf_iff _ _).2
    (.inl (List.mem_map_of_mem (List.fst_mem_of_mem_zipIdx hrow)))

/-- The rows of a reply, group by group, fill the series of its chart. -/
theorem IsChartable.exists_filled (h : IsChartable c columns rows) :
    ∃ (p : Pivot) (data : Std.TreeMap String SeriesGroup),
      rows.tuples.zipIdx.foldlM
        (Pivot.addRowAt? c (columnNames columns) (seriesNamesOf rows.tuples))
        ⟨emptyData (columnNames columns) (seriesNamesOf rows.tuples),
          seriesNamesOf rows.tuples, none⟩ = .ok p ∧
      (if rows.tuples.isEmpty then .ok p.data
        else addGaps? (columnNames columns) p.waiting p.data) = Except.ok data ∧
      Extends (emptyData (columnNames columns) (seriesNamesOf rows.tuples)) data fun m t =>
        (xGroups rows.tuples).flatMap
          (groupColumn c (columnNames columns) (seriesNamesOf rows.tuples) m t) := by
  have hempty := hasSeries_emptyData (columnNames columns) (seriesNamesOf rows.tuples)
  have hrows : ∀ row ∈ (xGroups rows.tuples).flatten,
      IsReadableRow c (columnNames columns) (seriesNamesOf rows.tuples) row := by
    rw [flatten_xGroups]
    exact fun row => h.isReadableRow
  obtain ⟨p, entries, hrun, hcurrent, hwaiting, hentries, heq⟩ := foldlM_addRowAt?_groups
    (p := ⟨emptyData (columnNames columns) (seriesNamesOf rows.tuples),
      seriesNamesOf rows.tuples, none⟩)
    (List.nil_notMem_splitBy sameX rows.tuples.zipIdx) (fun _ => List.isChain_of_mem_splitBy)
    (List.isChain_getLast_head_splitBy _ _) hrows (fun _ _ => .inl ⟨rfl, rfl⟩) hempty fun _ => id
  rw [List.flatten_splitBy] at hrun
  refine ⟨p, ?_⟩
  cases hlast : p.current with
  | none =>
    -- Without rows nothing is owed.
    have hnil : rows.tuples = [] := (xGroups_eq_nil_iff _).1 (hcurrent hlast).2
    refine ⟨p.data, hrun, by rw [hnil]; rfl, hentries.congr fun m t => ?_⟩
    have howed := heq m t
    rwa [owed, hlast, List.append_nil] at howed
  | some last =>
    have hne : rows.tuples.isEmpty = false := by
      rw [List.isEmpty_eq_false_iff]
      intro hnil
      rw [hnil] at hrun
      cases hrun
      cases hlast
    obtain ⟨data, hgaps, hdata⟩ := addGaps?_eq_ok fun measure hmeasure name hname =>
      hentries.hasSeries hempty measure hmeasure name (hwaiting name hname)
    refine ⟨data, hrun, by rw [hne]; exact hgaps, (hentries.trans hdata).congr fun m t => ?_⟩
    have howed := heq m t
    rwa [owed, hlast] at howed

/-- **The series of a chart are made of the columns of its groups.** -/
theorem chart?_eq_ok (h : IsChartable c columns rows) :
    ∃ data, chart? c = .ok ⟨data, columnNames columns, seriesNamesOf rows.tuples,
        distinctValues ((xGroups rows.tuples).map groupValue)⟩ ∧
      (∀ measure, measure ∈ data ↔ measure ∈ columnNames columns) ∧
      ∀ measure name, entriesIn data measure name =
        if measure ∈ columnNames columns ∧ name ∈ seriesNamesOf rows.tuples then
          some ((xGroups rows.tuples).flatMap
            (groupColumn c (columnNames columns) (seriesNamesOf rows.tuples) measure name))
        else none := by
  obtain ⟨p, data, hrun, hgaps, hdata⟩ := h.exists_filled
  have hxs : (rows.tuples.mapM fun tuple => tuple.firstMember?.map (·.value)) =
      .ok (rows.tuples.map xOf) := by
    apply mapM_eq_ok_map
    intro tuple htuple
    obtain ⟨member, hmember, hvalue⟩ := firstMember?_map_value (h.members tuple htuple)
    rw [hmember, ← hvalue]
    rfl
  refine ⟨data, ?_, fun measure => ?_, fun measure name => ?_⟩
  · rw [chart?]
    refine (bind_of_eq_ok (columnAxis?_eq_ok_iff.2 h.columnAxis)).trans ?_
    refine (bind_of_eq_ok (rowAxis?_eq_ok_iff.2 h.rowAxis)).trans ?_
    refine (bind_of_eq_ok hxs).trans ?_
    refine (bind_of_eq_ok (measureNames?_eq_ok_iff.2 ⟨h.measures, rfl⟩)).trans ?_
    rw [run'_foldlM_addRow?]
    refine (bind_of_eq_ok hrun).trans ((bind_of_eq_ok hgaps).trans ?_)
    rw [List.map_map, ← distinctValues_axisValues]
    rfl
  · rw [hdata.measures, mem_emptyData_iff]
  · rw [hdata.entries, entriesIn_emptyData]
    split
    · rw [Option.map_some, List.nil_append]
    · rfl

theorem members_ne_nil_of_firstMember? {tuple : Tuple} {member : Cellset.Member}
    (h : tuple.firstMember? = .ok member) : tuple.members ≠ [] := by
  intro hnil
  rw [Tuple.firstMember?, hnil] at h
  cases h

/-- A reply that a chart is read from has all that a chart needs. -/
theorem exists_isChartable_of_eq_ok {chart : Chart} (h : chart? c = .ok chart) :
    ∃ columns rows, IsChartable c columns rows := by
  obtain ⟨columns, hcolumns, h⟩ := steps_of_bind_eq_ok h
  obtain ⟨rows, hrows, h⟩ := steps_of_bind_eq_ok h
  obtain ⟨xs, -, h⟩ := steps_of_bind_eq_ok h
  obtain ⟨measures, hmeasures, h⟩ := steps_of_bind_eq_ok h
  obtain ⟨p, hrun, -⟩ := steps_of_bind_eq_ok h
  rw [run'_foldlM_addRow?] at hrun
  obtain ⟨hcolumnMembers, rfl⟩ := measureNames?_eq_ok_iff.1 hmeasures
  -- Every row was added, so that its members and cells were found.
  have hread : ∀ row ∈ rows.tuples.zipIdx, row.1.members ≠ [] ∧ ∃ values,
      cellValues? c (row.2 * (columnNames columns).length) (columnNames columns).length =
        .ok values := by
    intro row hrow
    obtain ⟨before, after, hadd⟩ := isOk_of_foldlM hrun hrow
    obtain ⟨member, hmember, hadd⟩ := steps_of_bind_eq_ok hadd
    obtain ⟨turned, -, hadd⟩ := steps_of_bind_eq_ok hadd
    obtain ⟨values, hvalues, -⟩ := steps_of_bind_eq_ok hadd
    exact ⟨members_ne_nil_of_firstMember? hmember, values, hvalues⟩
  have hcells := cells_le_of_blocks fun row hrow => (hread row hrow).2
  rw [length_columnNames hcolumnMembers] at hcells
  refine ⟨columns, rows, columnAxis?_eq_ok_iff.1 hcolumns, rowAxis?_eq_ok_iff.1 hrows,
    hcolumnMembers, fun tuple htuple => ?_, hcells⟩
  obtain ⟨r, hr⟩ := List.mem_iff_getElem?.1 htuple
  exact (hread (tuple, r) (List.mem_zipIdx_iff_getElem?.2 hr)).1

end Charts

/-! ## Places for values -/

/-- A chart under construction that has all series that may get a value or a gap. -/
structure IsPrepared (measures names : List String) (p : Pivot) : Prop where
  series : HasSeries measures names p.data
  waiting : ∀ name ∈ p.waiting, name ∈ names

section Prepared

variable {measures names : List String} {p : Pivot}

theorem IsPrepared.addGaps? (h : IsPrepared measures names p) :
    ∃ data', Report.addGaps? measures p.waiting p.data = .ok data' ∧
      HasSeries measures names data' := by
  obtain ⟨data', hgaps, hdata'⟩ := addGaps?_eq_ok fun measure hmeasure name hname =>
    h.series measure hmeasure name (h.waiting name hname)
  exact ⟨data', hgaps, hdata'.hasSeries h.series⟩

theorem IsPrepared.turnTo? (h : IsPrepared measures names p) (x : Option Value) :
    ∃ p', p.turnTo? measures names x = .ok p' ∧ IsPrepared measures names p' := by
  rw [Pivot.turnTo?]
  split
  · obtain ⟨data', hgaps, hdata'⟩ := h.addGaps?
    exact ⟨_, by rw [hgaps]; rfl, hdata', fun _ => id⟩
  · exact ⟨_, rfl, h.series, h.waiting⟩

theorem IsPrepared.put? (h : IsPrepared measures names p) {name : String} (hname : name ∈ names)
    (values : List (Option Float)) :
    ∃ p', p.put? measures name values = .ok p' ∧ IsPrepared measures names p' := by
  have hseries : HasSeries measures [name] p.data := by
    intro measure hmeasure other hother
    rw [List.mem_singleton.1 hother]
    exact h.series measure hmeasure name hname
  obtain ⟨data', hput, hdata'⟩ := put?_eq_ok hseries values
  refine ⟨_, hput, hdata'.hasSeries h.series, fun other hother => ?_⟩
  exact h.waiting other (List.mem_filter.1 hother).1

/-- A row of a series that there is finds its places and leaves them prepared. -/
theorem IsPrepared.addRowAt? (h : IsPrepared measures names p) {c : Cellset} {row : Tuple × Nat}
    (hseries : seriesNameOf row.1 ∈ names) :
    FailsOnly (fun e => e.isUnprepared = false) (p.addRowAt? c measures names row) ∧
      ∀ p', p.addRowAt? c measures names row = .ok p' → IsPrepared measures names p' := by
  constructor
  · refine FailsOnly.bind ((firstMember?_failsOnly row.1).mono fun _ he => he ▸ rfl)
      fun member _ => ?_
    obtain ⟨turned, hturn, hprepared⟩ := h.turnTo? member.value
    refine FailsOnly.bind (FailsOnly.of_eq_ok hturn) fun p₁ hp₁ => ?_
    cases hturn.symm.trans hp₁
    have hcells := cellValues?_failsOnly c (row.2 * measures.length) measures.length
    refine FailsOnly.bind (hcells.mono fun _ he => he.elim fun _ h => h ▸ rfl) fun values _ => ?_
    obtain ⟨p', hput, -⟩ := hprepared.put? hseries
      (values.map fun value => value.bind Value.toNumber?)
    exact FailsOnly.of_eq_ok hput
  · intro p' hadd
    obtain ⟨member, -, hadd⟩ := steps_of_bind_eq_ok hadd
    obtain ⟨turned, hturn, hadd⟩ := steps_of_bind_eq_ok hadd
    obtain ⟨values, -, hput⟩ := steps_of_bind_eq_ok hadd
    obtain ⟨_, hturned, hprepared⟩ := h.turnTo? member.value
    cases hturned.symm.trans hturn
    obtain ⟨_, hputs, hprepared'⟩ := hprepared.put? hseries
      (values.map fun value => value.bind Value.toNumber?)
    cases hputs.symm.trans hput
    exact hprepared'

end Prepared

/-- A chart never lacks a place for a value. -/
theorem chart?_lacks_no_place (c : Cellset) :
    FailsOnly (fun e => e.isUnprepared = false) (chart? c) := by
  have hmembers : ∀ tuple : Tuple, FailsOnly (fun e => e.isUnprepared = false) tuple.firstMember? :=
    fun tuple => (firstMember?_failsOnly tuple).mono fun _ he => he ▸ rfl
  rw [chart?]
  refine FailsOnly.bind ((columnAxis?_failsOnly c).mono fun _ he => he ▸ rfl) fun columns _ => ?_
  refine FailsOnly.bind ((rowAxis?_failsOnly c).mono fun _ he => he ▸ rfl) fun rows _ => ?_
  refine FailsOnly.bind (FailsOnly.mapM fun tuple _ => (hmembers tuple).map _) fun xs _ => ?_
  refine FailsOnly.bind (FailsOnly.mapM fun tuple _ => (hmembers tuple).map _) fun measures _ => ?_
  have hprepared : IsPrepared measures (seriesNamesOf rows.tuples)
      ⟨emptyData measures (seriesNamesOf rows.tuples), seriesNamesOf rows.tuples, none⟩ :=
    ⟨hasSeries_emptyData _ _, fun _ => id⟩
  rw [run'_foldlM_addRow?]
  obtain ⟨hfails, hkeeps⟩ := FailsOnly.foldlM_of_invariant
    (fun row hrow p hp => IsPrepared.addRowAt? hp (c := c) ((mem_seriesNamesOf_iff _ _).2
      (.inl (List.mem_map_of_mem (List.fst_mem_of_mem_zipIdx hrow))))) hprepared
  refine FailsOnly.bind hfails fun p hp => ?_
  refine FailsOnly.bind ?_ fun data _ => FailsOnly.ok _
  split
  · exact FailsOnly.ok _
  · obtain ⟨data', hgaps, -⟩ := (hkeeps p hp).addGaps?
    exact FailsOnly.of_eq_ok hgaps

/-- **A chart fails only on missing input.** A chart is read exactly from the replies that have both
axes, no empty tuple and a cell for every pair of a row and a column. Whatever the reply is, a place
for a value is never missing. -/
theorem chart?_fails_on_input_only (c : Cellset) :
    ((∃ chart, chart? c = .ok chart) ↔ ∃ columns rows, IsChartable c columns rows) ∧
    ∀ name, chart? c ≠ .error (.invalidResponse (.unpreparedMeasure name)) ∧
      chart? c ≠ .error (.invalidResponse (.unpreparedSeries name)) := by
  refine ⟨⟨?_, ?_⟩, fun name => ⟨fun herror => ?_, fun herror => ?_⟩⟩
  · rintro ⟨chart, hchart⟩
    exact exists_isChartable_of_eq_ok hchart
  · rintro ⟨columns, rows, h⟩
    obtain ⟨data, hchart, -⟩ := chart?_eq_ok h
    exact ⟨_, hchart⟩
  · cases chart?_lacks_no_place c _ herror
  · cases chart?_lacks_no_place c _ herror

end CubeQuery.Report
