import CubeQuery.Proofs.Text.Separators
import CubeQuery.Xml.Token
import CubeQuery.Xmla.Envelope
import Mathlib.Data.List.Forall2

set_option autoImplicit false

/-!
# Enclosed texts

What a reader of XML finds where an envelope carries texts from outside. A statement stands in CDATA
sections, each of which ends at the first end mark behind its opening; as a section ends inside of
every end mark of the statement, no section holds one (`exists_sections`), and the reader meets the
sections one behind the other, whatever stands behind them (`tokens?_sections`). The value of a
property stands between tags with its markup written as references (`escapes_escape`).

Main statement: between the tags of the statement stand sections that hold the statement, and
between the tags of each property stands its value escaped (`envelope_encloses`).
-/

namespace CubeQuery.Xml

open Xmla (sectionOpening sectionEnd)

/-! ## Reading sections -/

/-- A CDATA section around characters. -/
def enclosed (cs : List Char) : List Char :=
  (sectionOpening ++ String.ofList cs ++ sectionEnd).toList

/-- The end tag with a name. -/
def endTag (name : String) : List Char :=
  ("</" ++ name ++ ">").toList

theorem toList_sectionEnd : sectionEnd.toList = [']', ']', '>'] := by
  simp [sectionEnd]

/-- The end mark of sections does not begin inside of characters that do not hold it. -/
theorem delimits_sectionEnd :
    Text.Delimits sectionEnd.toList fun cs => ¬ sectionEnd.toList <:+: cs := by
  rw [toList_sectionEnd]
  exact Text.delimits_of_unbordered (Text.unbordered_concat (by decide : '>' ∉ [']', ']']))

/-- Characters that a mark delimits are split off at the mark behind them. -/
theorem splitAt?_append {mark : List Char} {P : List Char → Prop} (h : Text.Delimits mark P)
    {cs : List Char} (hcs : P cs) (rest : List Char) :
    splitAt? mark (cs ++ (mark ++ rest)) = some (cs, rest) := by
  -- By induction on what is left of the characters, which are of the kind as a whole only.
  have hsplit : ∀ before after, P (before ++ after) →
      splitAt? mark (after ++ (mark ++ rest)) = some (after, rest) := by
    intro before after hkind
    induction after generalizing before with
    | nil =>
      cases mark with
      | nil => exact absurd hkind (h.not_of_append before [])
      | cons m ms => simp [splitAt?, List.isPrefixOf_iff_prefix]
    | cons c after ih =>
      have hlater : ¬ mark <+: c :: (after ++ (mark ++ rest)) := by
        rintro ⟨rest', heq⟩
        exact absurd (h.eq_nil hkind heq) (List.cons_ne_nil _ _)
      rw [List.cons_append, splitAt?, if_neg (by rwa [List.isPrefixOf_iff_prefix]),
        ih (before ++ [c]) (by simpa using hkind)]
      rfl
  exact hsplit [] cs hcs

/-- A section is read up to the first end mark behind its opening. -/
theorem scanToken?_enclosed {cs : List Char} (h : ¬ sectionEnd.toList <:+: cs) (rest : List Char) :
    scanToken? (enclosed cs ++ rest) = some (.cdata cs, rest) := by
  have htext : enclosed cs ++ rest
      = '<' :: '!' :: ("[CDATA[".toList ++ (cs ++ (sectionEnd.toList ++ rest))) := by
    simp [enclosed, sectionOpening]
  have hcomment :
      Text.afterWord? "--" ("[CDATA[".toList ++ (cs ++ (sectionEnd.toList ++ rest))) = none := by
    simp [Text.afterWord?]
  have hcontent : splitAt? "]]>".toList (cs ++ (sectionEnd.toList ++ rest)) = some (cs, rest) :=
    splitAt?_append delimits_sectionEnd h rest
  rw [htext]
  simp only [scanToken?, hcomment, Text.afterWord?_append, hcontent, Option.bind_eq_bind,
    Option.bind_some]

theorem tokens?_of_scanToken? {cs rest : List Char} {token : Token}
    (h : scanToken? cs = some (token, rest)) (hlength : rest.length < cs.length) :
    tokens? cs = (tokens? rest).map (token :: ·) := by
  have hne : cs.isEmpty = false := by
    rw [List.isEmpty_eq_false_iff]
    rintro rfl
    exact absurd hlength (Nat.not_lt_zero _)
  rw [tokens?, hne, h]
  simp [hlength]

/-- Sections are read one by one, whatever follows them. -/
theorem tokens?_sections {contents : List (List Char)}
    (h : ∀ content ∈ contents, ¬ sectionEnd.toList <:+: content) (rest : List Char) :
    tokens? (contents.flatMap enclosed ++ rest) =
      (tokens? rest).map (contents.map .cdata ++ ·) := by
  induction contents with
  | nil => simp
  | cons content contents ih =>
    obtain ⟨hcontent, hcontents⟩ := List.forall_mem_cons.1 h
    have hlength : ∀ rest : List Char, rest.length < (enclosed content ++ rest).length := by
      intro rest
      simp [enclosed, toList_sectionEnd]
      omega
    rw [List.flatMap_cons, List.append_assoc,
      tokens?_of_scanToken? (scanToken?_enclosed hcontent _) (hlength _), ih hcontents,
      Option.map_map]
    simp [Function.comp_def]

theorem scanName?_append {name rest : List Char} (hname : ∀ c ∈ name, isName c = true)
    (hrest : ∀ c ∈ rest.head?, isName c = false) :
    scanName? (name ++ rest) = (rawName? name).map fun raw => (raw, rest) := by
  have hends : rest.takeWhile isName = [] ∧ rest.dropWhile isName = rest := by
    cases rest with
    | nil => exact ⟨rfl, rfl⟩
    | cons c rest =>
      have hc := hrest c rfl
      exact ⟨List.takeWhile_cons_of_neg (by simp [hc]), List.dropWhile_cons_of_neg (by simp [hc])⟩
  rw [scanName?, List.takeWhile_append_of_pos hname, List.dropWhile_append_of_pos hname, hends.1,
    hends.2, List.append_nil]

theorem tokens?_endTag_statement (rest : List Char) :
    tokens? (endTag "Statement" ++ rest) =
      (tokens? rest).map (.closing ⟨"", "Statement"⟩ :: ·) := by
  have htext : endTag "Statement" ++ rest = '<' :: '/' :: ("Statement".toList ++ '>' :: rest) := by
    simp [endTag]
  have hraw : rawName? "Statement".toList = some ⟨"", "Statement"⟩ := by decide
  have hname : scanName? ("Statement".toList ++ '>' :: rest)
      = some (⟨"", "Statement"⟩, '>' :: rest) := by
    rw [scanName?_append (List.all_eq_true.1 (by decide)) (by simp; decide), hraw]
    rfl
  have hspace : ('>' :: rest).dropWhile isSpace = '>' :: rest :=
    List.dropWhile_cons_of_neg (by decide)
  apply tokens?_of_scanToken?
  · rw [htext]
    simp only [scanToken?, hname, hspace, Option.bind_eq_bind, Option.bind_some]
  · rw [htext]
    simp
    omega

/-- The character that an item is or stands for. -/
def Item.character : Item → Char
  | plain c => c
  | referred c => c

end CubeQuery.Xml

namespace CubeQuery.Xmla

open Xml (Item enclosed endTag items? itemsFrom toList_sectionEnd tokens?)

/-! ## Statements -/

theorem flatMap_enclosed {contents : List (List Char)} (h : contents ≠ []) :
    contents.flatMap enclosed =
      sectionOpening.toList ++ (sectionEnd ++ sectionOpening).toList.intercalate contents
        ++ sectionEnd.toList := by
  induction contents with
  | nil => exact absurd rfl h
  | cons content contents ih =>
    cases contents with
    | nil => simp [enclosed]
    | cons next contents =>
      rw [List.flatMap_cons, ih (List.cons_ne_nil _ _), List.intercalate_cons_cons]
      simp [enclosed]

/-- Split characters are contents of sections with the marks between them, and no content holds an
end mark. -/
theorem exists_sections (cs : List Char) :
    ∃ contents, contents ≠ [] ∧ contents.flatten = cs ∧
      (sectionEnd ++ sectionOpening).toList.intercalate contents = splitSections cs ∧
      ∀ content ∈ contents, ¬ sectionEnd.toList <:+: content := by
  fun_induction splitSections cs with
  | case1 rest ih =>
    obtain ⟨_ | ⟨head, tail⟩, hne, hcontents, htext, hfree⟩ := ih
    · exact absurd rfl hne
    obtain ⟨hhead, htail⟩ := List.forall_mem_cons.1 hfree
    refine ⟨[']', ']'] :: ('>' :: head) :: tail, by simp, by simpa using hcontents, ?_, ?_⟩
    · rw [← htext]
      cases tail <;> simp
    · simp only [List.forall_mem_cons]
      refine ⟨?_, ?_, htail⟩
      · rw [toList_sectionEnd]
        decide
      · rw [List.infix_cons_iff, not_or]
        exact ⟨by simp [toList_sectionEnd], hhead⟩
  | case2 c rest hmark ih =>
    obtain ⟨_ | ⟨head, tail⟩, hne, hcontents, htext, hfree⟩ := ih
    · exact absurd rfl hne
    obtain ⟨hhead, htail⟩ := List.forall_mem_cons.1 hfree
    refine ⟨(c :: head) :: tail, by simp, by simpa using hcontents, ?_, ?_⟩
    · rw [← htext]
      cases tail <;> simp
    · simp only [List.forall_mem_cons]
      refine ⟨?_, htail⟩
      rw [List.infix_cons_iff, not_or]
      refine ⟨?_, hhead⟩
      -- An end mark at the front would stand at the front of all characters.
      intro hprefix
      have hall : sectionEnd.toList <+: c :: rest := by
        rw [← hcontents]
        exact hprefix.trans (by simp)
      rw [toList_sectionEnd] at hall
      obtain ⟨after, hafter⟩ := hall
      obtain ⟨rfl, rfl⟩ : ']' = c ∧ ']' :: '>' :: after = rest := by simpa using hafter
      exact hmark after rfl rfl
  | case3 =>
    exact ⟨[[]], by simp, rfl, by simp, by simp [toList_sectionEnd]⟩

/-! ## Values -/

/-- The characters that stand for themselves nowhere between tags, the ampersand apart. -/
def delimiters : List Char :=
  ['<', '>', '"', '\'']

/-- How the ampersand and the delimiters are written. -/
def references : List String :=
  ["&amp;", "&lt;", "&gt;", "&quot;", "&apos;"]

/-- A character as it is written between tags: as itself, or as a reference that is read as it. -/
inductive IsWritten (c : Char) : List Char → Prop where
  | plain : c ≠ '&' → c ∉ delimiters → IsWritten c [c]
  | reference (name : List Char) : (∃ reference ∈ references, reference.toList = '&' :: name) →
      '&' ∉ name → (∀ d ∈ '&' :: name, d ∉ delimiters) →
      (∀ rest, itemsFrom none ('&' :: name ++ rest) =
        (itemsFrom none rest).map (.referred c :: ·)) →
      IsWritten c ('&' :: name)

/-- Characters that carry a value between tags: they hold no delimiter, and no ampersand but at the
front of a reference, and with the references replaced they are the value. -/
structure Escapes (value text : List Char) : Prop where
  not_mem : ∀ c ∈ text, c ∉ delimiters
  begins : ∀ back, '&' :: back <:+ text →
    ∃ reference ∈ references, reference.toList <+: '&' :: back
  reads : (items? text).map (List.map Item.character) = some value

theorem isWritten_escapeChar (c : Char) : IsWritten c (escapeChar c) := by
  unfold escapeChar
  split
  case h_6 hamp hlt hgt hquot hapos =>
    exact .plain hamp (by simpa [delimiters] using ⟨hlt, hgt, hquot, hapos⟩)
  -- The other characters are written as references, all alike.
  all_goals
    simp only [String.reduceToList]
    refine .reference _ (by simp [references]) (by simp) (by simp [delimiters]) fun rest => ?_
    simp [itemsFrom, Xml.referred?]

theorem escapeChar_of_plain {c : Char} (h : c ∉ '&' :: delimiters) : escapeChar c = [c] := by
  unfold escapeChar
  split
  case h_6 => rfl
  all_goals exact absurd (by decide) h

/-- Behind a front part without a character, what the character begins lies in the back part. -/
theorem cons_suffix_append_iff {α : Type} {a : α} {front back rest : List α} (h : a ∉ front) :
    a :: rest <:+ front ++ back ↔ a :: rest <:+ back := by
  induction front with
  | nil => rfl
  | cons b front ih =>
    simp only [List.mem_cons, not_or] at h
    rw [List.cons_append, List.suffix_cons_iff, ih h.2]
    simp [h.1]

namespace Escapes

theorem nil : Escapes [] [] where
  not_mem := by simp
  begins := by simp
  reads := rfl

/-- One more character in front, as it is written. -/
theorem cons {c : Char} {written value text : List Char} (hc : IsWritten c written)
    (h : Escapes value text) : Escapes (c :: value) (written ++ text) := by
  obtain ⟨read, hread, rfl⟩ := Option.map_eq_some_iff.1 h.reads
  rw [items?] at hread
  cases hc with
  | plain hamp hplain =>
    refine ⟨List.forall_mem_cons.2 ⟨hplain, h.not_mem⟩, fun back hback => ?_, ?_⟩
    · exact h.begins back ((cons_suffix_append_iff (by simpa using Ne.symm hamp)).1 hback)
    · rw [items?, List.singleton_append, itemsFrom, if_neg hamp, hread]
      rfl
  | reference name href hname hplain hreads =>
    refine ⟨fun d hd => ?_, fun back hback => ?_, ?_⟩
    · rcases List.mem_append.1 hd with hd | hd
      · exact hplain d hd
      · exact h.not_mem d hd
    · rw [List.cons_append, List.suffix_cons_iff, cons_suffix_append_iff hname] at hback
      rcases hback with hback | hback
      · obtain ⟨reference, href, htext⟩ := href
        refine ⟨reference, href, ?_⟩
        rw [htext, hback]
        exact ⟨text, rfl⟩
      · exact h.begins back hback
    · rw [items?, hreads, hread]
      rfl

end Escapes

theorem escapes_escape (value : String) : Escapes value.toList (escape value).toList := by
  rw [escape, String.toList_ofList]
  induction value.toList with
  | nil => exact .nil
  | cons c cs ih =>
    rw [List.flatMap_cons]
    exact ih.cons (isWritten_escapeChar c)

/-- The digits of a number are written as themselves. -/
theorem escape_repr (n : Nat) : escape n.repr = n.repr := by
  have hplain : ∀ d ∈ '&' :: delimiters, d.isDigit = false := by simp [delimiters]
  have hchars : ∀ c ∈ n.repr.toList, escapeChar c = [c] := by
    intro c hc
    rw [Nat.toList_repr] at hc
    have hdigit : c.isDigit = true := Nat.isDigit_of_mem_toDigits (by decide) (by decide) hc
    apply escapeChar_of_plain
    intro hmem
    rw [hplain c hmem] at hdigit
    exact absurd hdigit (by decide)
  rw [escape, List.flatMap_congr hchars, List.flatMap_singleton', String.ofList_toList]

/-! ## Properties -/

/-- The properties by name: those that every request has, and then the extra ones in order. -/
def Properties.entries (p : Properties) : List (String × String) :=
  [("Catalog", p.catalog), ("ShowHiddenCubes", "True"),
      ("Timeout", toString p.timeoutSeconds.toNat),
      ("LocaleIdentifier", toString p.locale.toNat)]
    ++ p.extra

theorem elements_eq (p : Properties) :
    p.elements = p.entries.map fun entry => textElement entry.1 (escape entry.2) := by
  have hshown : escape "True" = "True" := by decide
  simp [Properties.elements, Properties.entries, escape_repr, hshown]

/-- **Nothing escapes from an envelope.** Between the tags of the statement stand CDATA sections
whose contents together are the statement, and a reader meets them one behind the other and then the
end tag, whatever follows. Between the tags of every property, the extra ones behind the four that
every request has, stands a text without markup that is read as the value. -/
theorem envelope_encloses (statement : String) (p : Properties) :
    ∃ (contents : List (List Char)) (texts : List String),
      envelope statement p =
        "\n".intercalate
          (envelopeLines (textElement "Statement" (String.ofList (contents.flatMap enclosed)))
            (List.zipWith (fun entry text => textElement entry.1 text) p.entries texts)) ∧
      contents.flatten = statement.toList ∧
      (∀ rest, tokens? (contents.flatMap enclosed ++ (endTag "Statement" ++ rest)) =
        (tokens? rest).map fun tokens =>
          contents.map .cdata ++ .closing ⟨"", "Statement"⟩ :: tokens) ∧
      List.Forall₂ (fun entry text => Escapes entry.2.toList text.toList) p.entries texts := by
  obtain ⟨contents, hne, hcontents, htext, hfree⟩ := exists_sections statement.toList
  refine ⟨contents, p.entries.map fun entry => escape entry.2, ?_, hcontents, fun rest => ?_, ?_⟩
  · have hstatement : statementElement statement
        = textElement "Statement" (String.ofList (contents.flatMap enclosed)) := by
      rw [statementElement, flatMap_enclosed hne, htext]
      simp [String.append_assoc]
    rw [envelope, hstatement, elements_eq, List.zipWith_map_right, List.zipWith_self]
  · rw [Xml.tokens?_sections hfree, Xml.tokens?_endTag_statement, Option.map_map]
    rfl
  · rw [List.forall₂_map_right_iff, List.forall₂_same]
    exact fun entry _ => escapes_escape entry.2

end CubeQuery.Xmla
