import CubeQuery.Text.Word
import CubeQuery.Xml.Reference

set_option autoImplicit false

/-!
# Tokens of XML

A document cut into tags, character data, CDATA sections, comments and processing instructions.
Names are not resolved yet, and nothing is known yet about which tags belong together. A document
type declaration is no token, so a document with one is not read.
-/

namespace CubeQuery.Xml

/-- A name as written, with its prefix apart. -/
structure RawName where
  scope : String
  localName : String
deriving DecidableEq, Repr, Inhabited

/-- An attribute as written, its value resolved. -/
structure RawAttribute where
  name : RawName
  value : String
deriving DecidableEq, Repr, Inhabited

/-- A piece of a document. -/
inductive Token where
  | opening (name : RawName) (attributes : List RawAttribute)
  | empty (name : RawName) (attributes : List RawAttribute)
  | closing (name : RawName)
  | characters (raw : List Char)
  | cdata (raw : List Char)
  | comment (text : String)
  | instruction (target text : String)
deriving DecidableEq, Repr

/-- Splits characters at the first place where `mark` stands, which is dropped. -/
def splitAt? (mark : List Char) : List Char → Option (List Char × List Char)
  | [] => none
  | c :: rest =>
    if mark.isPrefixOf (c :: rest) then some ([], (c :: rest).drop mark.length)
    else (splitAt? mark rest).map fun (front, back) => (c :: front, back)

/-- Whether `mark` stands somewhere in characters. -/
def holds (mark : String) (cs : List Char) : Bool :=
  (splitAt? mark.toList cs).isSome

/-- The name that characters spell: at most one colon, and name characters in place. -/
def rawName? (cs : List Char) : Option RawName :=
  let front := cs.takeWhile (· != ':')
  let starts (cs : List Char) : Bool := cs.head?.any isNameStart
  match cs.dropWhile (· != ':') with
  | [] => if starts front then some ⟨"", String.ofList front⟩ else none
  | _ :: back =>
    if (front.isEmpty || starts front) && starts back && !back.contains ':' then
      some ⟨String.ofList front, String.ofList back⟩
    else none

/-- A name at the beginning of characters, and what follows it. -/
def scanName? (cs : List Char) : Option (RawName × List Char) :=
  (rawName? (cs.takeWhile isName)).map fun name => (name, cs.dropWhile isName)

/-- A name with a quoted value at the beginning of characters, and what follows it. -/
def scanAssignment? (cs : List Char) : Option (RawName × List Char × List Char) := do
  let (name, rest) ← scanName? cs
  match rest.dropWhile isSpace with
  | '=' :: rest =>
    match rest.dropWhile isSpace with
    | quote :: rest =>
      if quote = '"' || quote = '\'' then
        let (raw, rest) ← splitAt? [quote] rest
        if raw.contains '<' then none else some (name, raw, rest)
      else none
    | [] => none
  | _ => none

/-- An attribute at the beginning of characters, and what follows it. -/
def scanAttribute? (cs : List Char) : Option (RawAttribute × List Char) := do
  let (name, raw, rest) ← scanAssignment? cs
  some (⟨name, ← attributeValue? raw⟩, rest)

/-- The attributes of a tag up to its end, whether it is empty, and what follows the tag. -/
def scanAttributes? (cs : List Char) : Option (List RawAttribute × Bool × List Char) :=
  match cs.dropWhile isSpace with
  | '>' :: rest => some ([], false, rest)
  | '/' :: '>' :: rest => some ([], true, rest)
  | [] => none
  | c :: rest =>
    if cs.head?.any isSpace then
      match scanAttribute? (c :: rest) with
      | none => none
      | some (first, rest) =>
        if rest.length < cs.length then
          (scanAttributes? rest).map fun (others, isEmpty, rest) => (first :: others, isEmpty, rest)
        else none
    else none
termination_by cs.length

/-- The processing instruction behind its opening mark, and what follows it. -/
def scanInstruction? (cs : List Char) : Option (Token × List Char) :=
  let target := cs.takeWhile isName
  if target.head?.any isNameStart then
    (splitAt? "?>".toList ((cs.dropWhile isName).dropWhile isSpace)).map fun (text, rest) =>
      (.instruction (String.ofList target) (String.ofList text), rest)
  else none

/-- The comment behind its opening mark, and what follows it. -/
def scanComment? (cs : List Char) : Option (Token × List Char) := do
  let (text, rest) ← splitAt? "-->".toList cs
  if holds "--" text || text.getLast? == some '-' then none
  else some (.comment (String.ofList text), rest)

/-- The first token of characters, and what follows it. -/
def scanToken? (cs : List Char) : Option (Token × List Char) :=
  match cs with
  | '<' :: '!' :: rest =>
    match Text.afterWord? "--" rest with
    | some rest => scanComment? rest
    | none => do
      let rest ← Text.afterWord? "[CDATA[" rest
      let (raw, rest) ← splitAt? "]]>".toList rest
      some (.cdata raw, rest)
  | '<' :: '?' :: rest =>
    if (Text.afterWord? "xml " rest).isSome then none else scanInstruction? rest
  | '<' :: '/' :: rest => do
    let (name, rest) ← scanName? rest
    match rest.dropWhile isSpace with
    | '>' :: rest => some (.closing name, rest)
    | _ => none
  | '<' :: rest => do
    let (name, rest) ← scanName? rest
    let (attributes, isEmpty, rest) ← scanAttributes? rest
    some (if isEmpty then .empty name attributes else .opening name attributes, rest)
  | cs =>
    let raw := cs.takeWhile (· != '<')
    if holds "]]>" raw then none else some (.characters raw, cs.dropWhile (· != '<'))

/-- The tokens of characters. -/
def tokens? (cs : List Char) : Option (List Token) :=
  if cs.isEmpty then some []
  else
    match scanToken? cs with
    | none => none
    | some (token, rest) =>
      if rest.length < cs.length then (tokens? rest).map (token :: ·) else none
termination_by cs.length

/--
A part of the declaration, in which nothing is a reference, and the space behind it, if more than
the end follows.
-/
def scanDeclared? (cs : List Char) : Option (List Char) := do
  let (_, _, rest) ← scanAssignment? cs
  if rest.head?.any isSpace || (Text.afterWord? "?>" rest).isSome || rest.isEmpty then
    some (rest.dropWhile isSpace)
  else none

/--
What follows the declaration of a document: the version, then optionally the encoding and whether
it stands alone.
-/
def afterDeclaration? (cs : List Char) : Option (List Char) :=
  match Text.afterWord? "<?xml " cs with
  | none => some cs
  | some rest => do
    let rest := rest.dropWhile isSpace
    let _ ← Text.afterWord? "version" rest
    let rest ← scanDeclared? rest
    let rest ← if (Text.afterWord? "encoding" rest).isSome then scanDeclared? rest else some rest
    let rest ←
      if (Text.afterWord? "standalone" rest).isSome then
        (scanAssignment? rest).map fun (_, _, rest) => rest
      else some rest
    Text.afterWord? "?>" (rest.dropWhile isSpace)

end CubeQuery.Xml
