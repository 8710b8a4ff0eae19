import EntitySchema.Proofs.Host.Tokens
import EntitySchema.Proofs.Text.Pieces

/-!
# Lines of a class

Reads the last class of a host text line by line. Of each line it keeps the tokens outside of all brackets,
from which the properties that the class declares are read (`declared`). A line that is not made of whole
tokens, or has what the scanner does not know, is not read but still counted.

A quoted text on a line has no say in this: the line is read alike whatever is quoted
(`look_quote_congr`, `look_spelled_congr`). Neither has what stands in brackets that an earlier line opened
(`look_opened_congr`).
-/

namespace EntitySchema.Host

namespace Token

/-- The marks that start comments, regular expressions and templates, the escapes outside of literals, and
the line terminators that break a literal. -/
def isUnread : Token → Bool
  | mark c => c == '/' || c == '\\' || c == '\x60' || Text.isLineTerminator c
  | _ => false

def opens (token : Token) : Bool := token == mark '(' || token == mark '[' || token == mark '\x7b'

def closes (token : Token) : Bool := token == mark ')' || token == mark ']' || token == mark '\x7d'

/-- The number of open brackets behind a token. -/
def depthAfter (depth : Nat) (token : Token) : Nat :=
  if token.opens then depth + 1 else if token.closes then depth - 1 else depth

end Token

/-! ## Reading -/

def lineTokens? (line : List Char) : Option (List Token) :=
  let found := (scan .between (line ++ ['\n'])).1
  if found.any Token.isUnread then none else some found

/-- Reads tokens behind so many open brackets: gives those outside of all brackets, with the outermost
brackets, and the number of brackets that are open behind them. -/
def outside : Nat → List Token → List Token × Nat
  | depth, [] => ([], depth)
  | depth, token :: rest =>
    let after := token.depthAfter depth
    let (found, last) := outside after rest
    (if depth = 0 ∨ after = 0 then token :: found else found, last)

def readLine (depth : Nat) (line : List Char) : Option (List Token) × Nat :=
  match lineTokens? line with
  | none => (none, depth)
  | some tokens => (some (outside depth tokens).1, (outside depth tokens).2)

/-- Reads lines one after another; one that cannot be read opens and closes no brackets. -/
def readLines : Nat → List (List Char) → List (Option (List Token)) × Nat
  | depth, [] => ([], depth)
  | depth, line :: rest =>
    let (found, after) := readLine depth line
    let (more, last) := readLines after rest
    (found :: more, last)

def opensClass (line : List Char) : Bool := "export abstract class ".toList.isPrefixOf line

/-- The lines behind the last head of a class. -/
def classBody? : List (List Char) → Option (List (List Char))
  | [] => none
  | line :: rest => (classBody? rest).or (if opensClass line then some rest else none)

def linesOf (text : String) : List (List Char) := Text.pieces '\n' text.toList

/-- The lines of the last class of a text, each as its tokens outside of all brackets of the class. -/
def classLines? (text : String) : Option (List (Option (List Token))) :=
  (classBody? (linesOf text)).map fun body => (readLines 0 body).1

/-- A property that a class declares. -/
structure Declared where
  name : String
  mark : Option Char
  type : List Token
deriving DecidableEq, Repr

def declaredAt? : List Token → Option Declared
  | .name name :: .mark ':' :: rest => some ⟨name, none, rest.takeWhile (· != .mark ';')⟩
  | .name name :: .mark mark :: .mark ':' :: rest =>
    if mark = '!' ∨ mark = '?' then some ⟨name, some mark, rest.takeWhile (· != .mark ';')⟩ else none
  | _ => none

def declared : List Token → List Declared
  | [] => []
  | token :: rest => (declaredAt? (token :: rest)).toList ++ declared rest

def classMembers? (text : String) : Option (List (Option (List Declared))) :=
  (classLines? text).map fun lines => lines.map fun line => line.map declared

/-! ## Parts of a text -/

theorem outside_append (depth : Nat) (front rest : List Token) :
    outside depth (front ++ rest) =
      ((outside depth front).1 ++ (outside (outside depth front).2 rest).1,
        (outside (outside depth front).2 rest).2) := by
  induction front generalizing depth with
  | nil => rfl
  | cons token more ih =>
    simp only [List.cons_append, outside, ih]
    split <;> rfl

theorem readLines_append (depth : Nat) (front rest : List (List Char)) :
    readLines depth (front ++ rest) =
      ((readLines depth front).1 ++ (readLines (readLines depth front).2 rest).1,
        (readLines (readLines depth front).2 rest).2) := by
  induction front generalizing depth with
  | nil => rfl
  | cons line more ih => simp only [List.cons_append, readLines, ih]

theorem classBody?_append (front rest : List (List Char)) :
    classBody? (front ++ rest) = (classBody? rest).or ((classBody? front).map (· ++ rest)) := by
  induction front with
  | nil => simp [classBody?]
  | cons line more ih =>
    rw [List.cons_append, classBody?, classBody?, ih, Option.or_assoc]
    split <;> cases classBody? more <;> rfl

theorem classBody?_eq_none {lines : List (List Char)} (noHead : ∀ line ∈ lines, opensClass line = false) :
    classBody? lines = none := by
  induction lines with
  | nil => rfl
  | cons line rest ih =>
    rw [classBody?, ih fun other member => noHead other (List.mem_cons_of_mem _ member),
      noHead line List.mem_cons_self]
    rfl

/-! ## Lines that look alike -/

/-- All that reading makes of lines: behind any number of open brackets, and behind the last head of a class
in them. -/
def look (lines : List (List Char)) :
    (Nat → List (Option (List Token)) × Nat) × Option (List (Option (List Token)) × Nat) :=
  (fun depth => readLines depth lines, (classBody? lines).map (readLines 0))

variable {front rest back other : List Char} {lines others more : List (List Char)}

theorem look_append_congr {moreOthers : List (List Char)} (same : look lines = look others)
    (sameRest : look more = look moreOthers) : look (lines ++ more) = look (others ++ moreOthers) := by
  obtain ⟨read, body⟩ := Prod.mk.inj same
  obtain ⟨readRest, bodyRest⟩ := Prod.mk.inj sameRest
  replace read (depth : Nat) : readLines depth lines = readLines depth others := congrFun read depth
  replace readRest (depth : Nat) : readLines depth more = readLines depth moreOthers := congrFun readRest depth
  have behind (bodies : Option (List (List Char))) (rest : List (List Char)) :
      (bodies.map (· ++ rest)).map (readLines 0) = (bodies.map (readLines 0)).map fun found =>
        (found.1 ++ (readLines found.2 rest).1, (readLines found.2 rest).2) := by
    rw [Option.map_map, Option.map_map]
    exact congrArg (Option.map · bodies) (funext fun body => readLines_append 0 body rest)
  refine Prod.ext (funext fun depth => ?_) ?_
  · change readLines depth (lines ++ more) = readLines depth (others ++ moreOthers)
    rw [readLines_append, readLines_append, read, readRest]
  · change (classBody? (lines ++ more)).map _ = (classBody? (others ++ moreOthers)).map _
    rw [classBody?_append, classBody?_append, Option.map_or, Option.map_or, bodyRest, behind, behind, body]
    simp only [readRest]

theorem look_flatMap_congr {texts others : List String}
    (same : texts.map (fun text => look (linesOf text)) = others.map fun text => look (linesOf text)) :
    look (texts.flatMap linesOf) = look (others.flatMap linesOf) := by
  induction texts generalizing others with
  | nil =>
    obtain rfl : others = [] := List.map_eq_nil_iff.mp same.symm
    rfl
  | cons text rest ih =>
    obtain ⟨first, more, rfl, isFirst, areRest⟩ := List.map_eq_cons_iff.mp same.symm
    exact look_append_congr isFirst.symm (ih areRest.symm)

theorem look_line_congr {line other : List Char} (tokens : lineTokens? line = lineTokens? other)
    (head : opensClass line = opensClass other) : look [line] = look [other] := by
  have read (depth : Nat) : readLine depth line = readLine depth other := by rw [readLine, readLine, tokens]
  refine Prod.ext (funext fun depth => ?_) ?_
  · simp only [look, readLines, read]
  · simp only [look, classBody?, head]

/-- What stands before the last class says nothing of it. -/
theorem classLines?_of_parts {text : String} (parts : linesOf text = lines ++ more)
    (hasHead : (classBody? more).isSome = true) : classLines? text = (look more).2.map Prod.fst := by
  obtain ⟨body, isBody⟩ := Option.isSome_iff_exists.mp hasHead
  rw [classLines?, parts, classBody?_append, look, isBody]
  rfl

theorem linesOf_joined {separator : String} (isBreak : separator.toList = ['\n']) {texts : List String}
    (nonempty : texts ≠ []) : linesOf (Text.joined separator texts) = texts.flatMap linesOf := by
  rw [linesOf, Text.joined, String.toList_intercalate, isBreak,
    Text.pieces_intercalate_flatMap (by simpa using nonempty), List.flatMap_map]
  rfl

/-! ## Quoted texts on a line -/

namespace Mode

/-- In no literal. -/
def isCode : Mode → Bool
  | between | within _ => true
  | _ => false

@[simp] theorem isCode_between : between.isCode = true := rfl

def pending : Mode → List Token
  | within read => [.name (String.ofList read)]
  | _ => []

theorem isUnread_pending (mode : Mode) : mode.pending.any Token.isUnread = false := by
  cases mode <;> rfl

end Mode

/-- A character that goes on with no name completes the one before it. -/
theorem scan_of_apart {mode : Mode} (code : mode.isCode = true) {c : Char} (apart : isNameChar c = false)
    (rest : List Char) :
    scan mode (c :: rest) = (mode.pending ++ (scan .between (c :: rest)).1, (scan .between (c :: rest)).2) := by
  cases mode with
  | between => rfl
  | within read => simp [scan, Mode.next, Mode.pending, apart]
  | quoted _ => cases code
  | escaped _ => cases code

theorem scan_quote {mode : Mode} (code : mode.isCode = true) (text : String) (rest : List Char) :
    scan mode ((Text.quote text).toList ++ rest) =
      (mode.pending ++ .literal :: (scan .between rest).1, (scan .between rest).2) := by
  obtain ⟨more, isQuoted⟩ : ∃ more, (Text.quote text).toList = '\'' :: more := by
    rw [Text.quote, String.toList_ofList]
    exact ⟨_, rfl⟩
  have whole : scan .between ((Text.quote text).toList ++ rest) =
      (.literal :: (scan .between rest).1, (scan .between rest).2) := by
    rw [scan_append, spells_quote]
    rfl
  rw [isQuoted, List.cons_append] at whole ⊢
  rw [scan_of_apart code (by decide), whole]

/-- The characters that stand for themselves in a literal as well as outside of one. -/
def isPlain (c : Char) : Bool := c != '\'' && c != '"' && !(Token.mark c).isUnread

/-- A literal that is still open at the end of a line breaks the line. -/
theorem isUnread_of_open {quote : Char} (isQuote : quote = '\'' ∨ quote = '"')
    (plain : back.all isPlain = true) :
    (scan (.quoted quote) (back ++ ['\n'])).1.any Token.isUnread = true := by
  induction back with
  | nil => rcases isQuote with rfl | rfl <;> decide
  | cons c rest ih =>
    obtain ⟨isPlain, arePlain⟩ : _ ∧ _ := by simpa only [List.all_cons, Bool.and_eq_true] using plain
    have stays : StaysIn quote [c] := by
      simp only [Host.isPlain, Token.isUnread, Bool.and_eq_true, bne_iff_ne, Bool.not_eq_true',
        Bool.or_eq_false_iff, beq_eq_false_iff_ne] at isPlain
      refine staysIn_singleton isPlain.2.1.1.2 ?_ isPlain.2.2
      rcases isQuote with rfl | rfl
      · exact isPlain.1.1
      · exact isPlain.1.2
    unfold StaysIn at stays
    rw [List.cons_append, ← List.singleton_append, scan_append, stays]
    exact ih arePlain

/-- In code, or in a literal that a single quote does not end. -/
def Mode.isOpen (mode : Mode) : Prop := mode.isCode = true ∨ mode = .quoted '"'

/-- A quoted character that is not read as part of a literal with single quotes breaks the line or leaves the
scanner outside of one. -/
theorem isUnread_or_isOpen {mode : Mode} (isOpen : mode.isOpen) (c : Char) :
    (scan mode (Text.quotedChar c)).1.any Token.isUnread = true ∨
      (scan mode (Text.quotedChar c)).2.isOpen := by
  rcases isOpen with code | rfl
  · have escape (e : Char) (rest : List Char) :
        (scan mode ('\\' :: e :: rest)).1.any Token.isUnread = true := by
      rw [scan_of_apart code (by decide), List.any_append, Bool.or_eq_true]
      exact Or.inr rfl
    unfold Text.quotedChar
    split_ifs with isEscape isQuote isFeed isReturn isTab isLine isParagraph
    case neg =>
      have starts : (Mode.start c).2.isOpen := by
        unfold Mode.start
        split_ifs with _ _ opensLiteral
        · exact Or.inl rfl
        · exact Or.inl rfl
        · exact Or.inr (congrArg Mode.quoted (opensLiteral.resolve_left isQuote))
        · exact Or.inl rfl
      refine Or.inr ?_
      cases mode with
      | between => exact starts
      | within read =>
        simp only [scan, Mode.next]
        split
        · exact Or.inl rfl
        · exact starts
      | quoted _ => cases code
      | escaped _ => cases code
    all_goals exact Or.inl (escape _ _)
  · refine Or.inr ?_
    unfold Text.quotedChar
    split_ifs with isEscape isQuote isFeed isReturn isTab isLine isParagraph
    case neg =>
      simp only [scan, Mode.next, if_neg isEscape]
      split_ifs with _ isEnd
      · exact Or.inl rfl
      · simp [Text.isLineTerminator, isFeed, isReturn, isLine, isParagraph] at isEnd
      · exact Or.inr rfl
    all_goals exact Or.inr rfl

/-- Behind a single quote that is open already, or where double quotes may be open, a quoted text does not
close all literals: what is quoted is read as code, and the quote behind it opens a literal. -/
theorem isUnread_of_quoted {mode : Mode} (isOpen : mode.isOpen) (text : List Char)
    (plain : back.all isPlain = true) :
    (scan mode (text.flatMap Text.quotedChar ++ '\'' :: back ++ ['\n'])).1.any Token.isUnread = true := by
  induction text generalizing mode with
  | nil =>
    have opens : ∃ quote, (quote = '\'' ∨ quote = '"') ∧ (mode.next '\'').2 = .quoted quote := by
      rcases isOpen with code | rfl
      · refine ⟨'\'', Or.inl rfl, ?_⟩
        cases mode with
        | between => decide
        | within read => simp [Mode.next, Mode.start, isNameChar, isBlank, Text.isWhiteSpace]
        | quoted _ => cases code
        | escaped _ => cases code
      · exact ⟨'"', Or.inr rfl, by decide⟩
    obtain ⟨quote, isQuote, isNext⟩ := opens
    simp only [List.flatMap_nil, List.nil_append, List.cons_append, scan, isNext, List.any_append,
      isUnread_of_open isQuote plain, Bool.or_true]
  | cons c rest ih =>
    rw [List.flatMap_cons, List.append_assoc, List.append_assoc, scan_append, List.any_append, Bool.or_eq_true,
      ← List.append_assoc]
    exact (isUnread_or_isOpen isOpen c).imp_right ih

/-- Literals have single or double quotes. -/
def Mode.WellQuoted (mode : Mode) : Prop :=
  ∀ quote, mode = .quoted quote ∨ mode = .escaped quote → quote = '\'' ∨ quote = '"'

theorem wellQuoted_next {mode : Mode} (wellQuoted : mode.WellQuoted) (c : Char) :
    (mode.next c).2.WellQuoted := by
  have starts : (Mode.start c).2.WellQuoted := by
    intro quote isStart
    unfold Mode.start at isStart
    split_ifs at isStart with _ _ isQuote <;> simp at isStart
    exact isStart ▸ isQuote
  intro quote isNext
  cases mode with
  | between => exact starts quote isNext
  | within read =>
    simp only [Mode.next] at isNext
    split at isNext
    · simp at isNext
    · exact starts quote isNext
  | quoted own | escaped own =>
    have isOwn := wellQuoted own (by simp)
    simp only [Mode.next] at isNext
    split_ifs at isNext <;> simp at isNext <;> exact isNext ▸ isOwn

theorem wellQuoted_scan {mode : Mode} (wellQuoted : mode.WellQuoted) (text : List Char) :
    (scan mode text).2.WellQuoted := by
  induction text generalizing mode with
  | nil => exact wellQuoted
  | cons c rest ih => exact ih (wellQuoted_next wellQuoted c)

theorem lineTokens?_quote_congr (apart : ∀ quote, (scan .between front).2 ≠ .escaped quote)
    (plain : back.all isPlain = true) (text other : String) :
    lineTokens? (front ++ (Text.quote text).toList ++ back) =
      lineTokens? (front ++ (Text.quote other).toList ++ back) := by
  have behind (text : String) : scan .between (front ++ (Text.quote text).toList ++ back ++ ['\n']) =
      ((scan .between front).1 ++
          (scan (scan .between front).2 ((Text.quote text).toList ++ (back ++ ['\n']))).1,
        (scan (scan .between front).2 ((Text.quote text).toList ++ (back ++ ['\n']))).2) := by
    rw [List.append_assoc, List.append_assoc, scan_append]
  have wellQuoted : (scan .between front).2.WellQuoted := wellQuoted_scan (by simp [Mode.WellQuoted]) front
  cases isMode : (scan .between front).2 with
  | between | within read =>
    rw [lineTokens?, lineTokens?, behind, behind, isMode, scan_quote rfl, scan_quote rfl]
  | escaped quote => exact absurd isMode (apart quote)
  | quoted quote =>
    have isNone (text : String) : lineTokens? (front ++ (Text.quote text).toList ++ back) = none := by
      have broken : (scan (.quoted quote) ((Text.quote text).toList ++ (back ++ ['\n']))).1.any
          Token.isUnread = true := by
        have isOpen : ((Mode.quoted quote).next '\'').2.isOpen := by
          rcases wellQuoted quote (Or.inl isMode) with rfl | rfl
          · exact Or.inl rfl
          · exact Or.inr rfl
        rw [Text.quote, String.toList_ofList, List.cons_append, List.cons_append, List.append_assoc, scan,
          List.any_append, Bool.or_eq_true]
        exact Or.inr (by simpa using isUnread_of_quoted isOpen text.toList plain)
      rw [lineTokens?, behind, isMode]
      simp [broken]
    rw [isNone, isNone]

theorem prefix_append_cons_iff {α : Type} {pattern front rest : List α} {c : α} (absent : c ∉ pattern) :
    pattern <+: front ++ c :: rest ↔ pattern <+: front := by
  refine ⟨fun isPrefix => ?_, fun isPrefix => isPrefix.trans (List.prefix_append front _)⟩
  have inFront : front <+: front ++ c :: rest := List.prefix_append front _
  rcases List.prefix_or_prefix_of_prefix isPrefix inFront with within | ⟨more, rfl⟩
  · exact within
  · rw [List.prefix_append_right_inj] at isPrefix
    cases more with
    | nil => simp
    | cons d others =>
      obtain ⟨rfl, -⟩ := List.cons_prefix_cons.mp isPrefix
      exact absurd (by simp) absent

/-- The head of a class is told by what stands before a character that is not in it. -/
theorem opensClass_append {c : Char} (absent : c ∉ "export abstract class ".toList) (front rest : List Char) :
    opensClass (front ++ c :: rest) = opensClass front := by
  rw [Bool.eq_iff_iff, opensClass, opensClass, List.isPrefixOf_iff_prefix, List.isPrefixOf_iff_prefix,
    prefix_append_cons_iff absent]

theorem notMem_quote (text : String) : '\n' ∉ (Text.quote text).toList := by
  have within : '\n' ∉ text.toList.flatMap Text.quotedChar := fun member =>
    absurd ((staysIn_quote text).inLine _ member) (by decide)
  simpa [Text.quote] using within

theorem next_blank_ne_escaped (mode : Mode) (quote : Char) : (mode.next ' ').2 ≠ .escaped quote := by
  have starts : Mode.start ' ' = ([], .between) := by decide
  have notName : isNameChar ' ' = false := by decide
  cases mode with
  | quoted own =>
    rw [Mode.next, if_neg (by decide)]
    split_ifs <;> simp
  | _ => simp [Mode.next, starts, notName, Text.isLineTerminator]

/-- Lines look alike whatever is quoted on the last one, if only plain characters stand behind that. -/
theorem look_quote_congr (front : List Char) {stem : List Char} (inLine : '\n' ∉ stem)
    (plain : back.all isPlain = true) (text other : String) :
    look (Text.pieces '\n' (front ++ (stem ++ ' ' :: (Text.quote text).toList ++ back))) =
      look (Text.pieces '\n' (front ++ (stem ++ ' ' :: (Text.quote other).toList ++ back))) := by
  obtain ⟨init, last, -, goesOn⟩ := Text.exists_pieces_append '\n' front
  have noBreak (text : String) : '\n' ∉ stem ++ ' ' :: (Text.quote text).toList ++ back := by
    have inBack : '\n' ∉ back := fun member => absurd (List.all_eq_true.mp plain _ member) (by decide)
    simp [inLine, notMem_quote, inBack]
  rw [goesOn _ (noBreak text), goesOn _ (noBreak other)]
  refine look_append_congr rfl (look_line_congr ?_ ?_)
  · have apart (quote : Char) : (scan .between (last ++ stem ++ [' '])).2 ≠ .escaped quote := by
      rw [scan_append]
      exact next_blank_ne_escaped _ quote
    simpa using lineTokens?_quote_congr apart plain text other
  · have head (text : String) : opensClass (last ++ (stem ++ ' ' :: (Text.quote text).toList ++ back)) =
        opensClass (last ++ (stem ++ [' '])) := by
      rw [Text.quote, String.toList_ofList]
      have absent : '\'' ∉ "export abstract class ".toList := by decide
      simpa using opensClass_append absent (last ++ (stem ++ [' '])) _
    rw [head, head]

/-- A line looks alike whatever is quoted on it between whole tokens and a text without line terminators. -/
theorem look_spelled_congr {tokens : List Token} (spells : Spells front tokens) (inLine : '\n' ∉ front)
    {rest : List Char} (restInLine : '\n' ∉ rest) (text other : String) :
    look (Text.pieces '\n' (front ++ (Text.quote text).toList ++ rest)) =
      look (Text.pieces '\n' (front ++ (Text.quote other).toList ++ rest)) := by
  have noBreak (text : String) : '\n' ∉ front ++ (Text.quote text).toList ++ rest := by
    simp [inLine, notMem_quote, restInLine]
  rw [Text.pieces_of_notMem (noBreak text), Text.pieces_of_notMem (noBreak other)]
  refine look_line_congr ?_ ?_
  · have isRead (text : String) : (scan .between (front ++ (Text.quote text).toList ++ rest ++ ['\n'])).1 =
        tokens ++ .literal :: (scan .between (rest ++ ['\n'])).1 := by
      rw [List.append_assoc, List.append_assoc, scan_append, spells, scan_quote rfl]
      rfl
    rw [lineTokens?, lineTokens?, isRead, isRead]
  · have head (text : String) : opensClass (front ++ (Text.quote text).toList ++ rest) = opensClass front := by
      rw [Text.quote, String.toList_ofList]
      have absent : '\'' ∉ "export abstract class ".toList := by decide
      simpa using opensClass_append absent front _
    rw [head, head]

/-! ## Texts behind an open bracket -/

/-- Reading a plain character in code completes a name or nothing, and gives the character if it is a mark. -/
theorem next_of_plain {mode : Mode} (code : mode.isCode = true) {c : Char} (plain : isPlain c = true) :
    (mode.next c).2.isCode = true ∧ ∃ done : List Token, (∀ token ∈ done, ∃ name, token = .name name) ∧
      (mode.next c).1 = done ++ if isNameChar c || isBlank c then [] else [.mark c] := by
  have starts : (Mode.start c).2.isCode = true ∧
      (Mode.start c).1 = if isNameChar c || isBlank c then [] else [.mark c] := by
    have notQuote : ¬ (c = '\'' ∨ c = '"') := by
      simp only [isPlain, Bool.and_eq_true, bne_iff_ne] at plain
      exact not_or.mpr plain.1
    unfold Mode.start
    split_ifs <;> simp_all [Mode.isCode]
  cases mode with
  | between => exact ⟨starts.1, [], by simp, starts.2⟩
  | within read =>
    simp only [Mode.next]
    split
    · exact ⟨rfl, [], by simp, by simp_all⟩
    · exact ⟨starts.1, [.name (String.ofList read)], by simp, by simp [starts.2]⟩
  | quoted _ => cases code
  | escaped _ => cases code

/-- Names are none of these tokens, and the marks that are start no name and are no blanks. -/
structure OfMarks (p : Token → Bool) : Prop where
  name : ∀ name, p (.name name) = false
  mark : ∀ c, p (.mark c) = true → isNameChar c = false ∧ isBlank c = false

theorem ofMarks_opens : OfMarks Token.opens where
  name _ := rfl
  mark c isMark := by
    simp only [Token.opens, Bool.or_eq_true, beq_iff_eq, Token.mark.injEq] at isMark
    rcases isMark with (rfl | rfl) | rfl <;> decide

theorem ofMarks_closes : OfMarks Token.closes where
  name _ := rfl
  mark c isMark := by
    simp only [Token.closes, Bool.or_eq_true, beq_iff_eq, Token.mark.injEq] at isMark
    rcases isMark with (rfl | rfl) | rfl <;> decide

/-- A plain text in code is read up to its end, and of each mark it has as many as it is written with. -/
theorem scan_of_plain {mode : Mode} (code : mode.isCode = true) {text : List Char}
    (plain : text.all isPlain = true) :
    (scan mode text).2.isCode = true ∧ (scan mode text).1.any Token.isUnread = false ∧
      ∀ p, OfMarks p → (scan mode text).1.countP p = text.countP fun c => p (.mark c) := by
  induction text generalizing mode with
  | nil => exact ⟨code, rfl, fun _ _ => rfl⟩
  | cons c rest ih =>
    obtain ⟨isPlain, arePlain⟩ : _ ∧ _ := by simpa only [List.all_cons, Bool.and_eq_true] using plain
    obtain ⟨goesOn, done, areNames, isNext⟩ := next_of_plain code isPlain
    obtain ⟨last, read, counted⟩ := ih goesOn arePlain
    refine ⟨last, ?_, fun p ofMarks => ?_⟩
    · have isRead : (Token.mark c).isUnread = false := by
        simp only [Host.isPlain, Bool.and_eq_true, Bool.not_eq_true'] at isPlain
        exact isPlain.2
      rw [scan, List.any_append, read, isNext, Bool.or_false, List.any_append, Bool.or_eq_false_iff]
      refine ⟨List.any_eq_false.mpr fun token member => ?_, ?_⟩
      · obtain ⟨name, rfl⟩ := areNames token member
        simp [Token.isUnread]
      · split <;> simp [isRead]
    · have noNames : done.countP p = 0 := List.countP_eq_zero.mpr fun token member => by
        obtain ⟨name, rfl⟩ := areNames token member
        simp [ofMarks.name]
      have own : (if isNameChar c || isBlank c then [] else [Token.mark c]).countP p =
          if p (.mark c) then 1 else 0 := by
        have isMark := ofMarks.mark c
        split <;> cases isCounted : p (.mark c) <;> simp_all
      rw [scan, List.countP_append, counted p ofMarks, isNext, List.countP_append, noNames, own,
        List.countP_cons]
      omega

/-- Brackets that open are open behind the tokens unless as many close. -/
theorem depth_outside (depth : Nat) (tokens : List Token) :
    depth + tokens.countP Token.opens ≤ (outside depth tokens).2 + tokens.countP Token.closes := by
  induction tokens generalizing depth with
  | nil => exact Nat.le_refl _
  | cons token rest ih =>
    have behind := ih (token.depthAfter depth)
    rw [List.countP_cons, List.countP_cons]
    simp only [outside]
    unfold Token.depthAfter at behind ⊢
    split_ifs at behind ⊢ <;> omega

/-- The tokens of a text whose last name does not go on. -/
def codeTokens (text : List Char) : List Token := (scan .between text).1 ++ (scan .between text).2.pending

/-- Behind a plain text the tokens of what starts no name go on. -/
theorem lineTokens?_append {tokens : List Token} (plain : front.all isPlain = true) {c : Char}
    (apart : isNameChar c = false) (spells : Spells (c :: rest ++ ['\n']) tokens)
    (read : tokens.any Token.isUnread = false) :
    lineTokens? (front ++ c :: rest) = some (codeTokens front ++ tokens) := by
  obtain ⟨code, areRead, -⟩ := scan_of_plain Mode.isCode_between plain
  unfold Spells at spells
  rw [List.cons_append] at spells
  have isFound : (scan .between (front ++ c :: rest ++ ['\n'])).1 = codeTokens front ++ tokens := by
    rw [List.append_assoc, List.cons_append, scan_append, scan_of_apart code apart, spells, codeTokens,
      List.append_assoc]
  rw [lineTokens?, isFound]
  simp [codeTokens, areRead, Mode.isUnread_pending, read]

theorem lineTokens?_of_plain (plain : front.all isPlain = true) :
    lineTokens? front = some (codeTokens front) := by
  obtain ⟨code, areRead, -⟩ := scan_of_plain Mode.isCode_between plain
  have blank : scan .between ['\n'] = ([], .between) := by decide
  have isFound : (scan .between (front ++ ['\n'])).1 = codeTokens front := by
    rw [scan_append, scan_of_apart code (by decide), blank, List.append_nil, codeTokens]
  rw [lineTokens?, isFound]
  simp [codeTokens, areRead, Mode.isUnread_pending]

/-- The brackets that a plain text opens are open behind it unless it closes as many. -/
theorem depth_codeTokens (depth : Nat) (plain : front.all isPlain = true) :
    depth + front.countP (fun c => (Token.mark c).opens) ≤
      (outside depth (codeTokens front)).2 + front.countP fun c => (Token.mark c).closes := by
  obtain ⟨-, -, counted⟩ := scan_of_plain Mode.isCode_between plain
  have all {p : Token → Bool} (ofMarks : OfMarks p) :
      (codeTokens front).countP p = front.countP fun c => p (.mark c) := by
    have noMarks : (scan .between front).2.pending.countP p = 0 := by
      cases (scan .between front).2 <;> simp [Mode.pending, ofMarks.name]
    rw [codeTokens, List.countP_append, counted p ofMarks, noMarks, Nat.add_zero]
  rw [← all ofMarks_opens, ← all ofMarks_closes]
  exact depth_outside depth _

theorem depth_readLines (depth : Nat) (plain : ∀ line ∈ lines, line.all isPlain = true) :
    depth + lines.flatten.countP (fun c => (Token.mark c).opens) ≤
      (readLines depth lines).2 + lines.flatten.countP fun c => (Token.mark c).closes := by
  induction lines generalizing depth with
  | nil => exact Nat.le_refl _
  | cons line rest ih =>
    have isPlain := plain line List.mem_cons_self
    have isRead : (readLine depth line).2 = (outside depth (codeTokens line)).2 := by
      rw [readLine, lineTokens?_of_plain isPlain]
    have first := depth_codeTokens depth isPlain
    have later := ih (readLine depth line).2 fun other member => plain other (List.mem_cons_of_mem _ member)
    rw [isRead] at later
    simp only [readLines, List.flatten_cons, List.countP_append, isRead]
    omega

/-- A text that closes a bracket and says nothing outside of it. -/
structure Closes (text : List Char) : Prop where
  inLine : '\n' ∉ text
  starts : ∃ c rest, text = c :: rest ∧ isNameChar c = false ∧ c ∉ "export abstract class ".toList
  spells : ∃ tokens, Spells text tokens ∧ tokens.any Token.isUnread = false ∧
    ∀ depth, outside (depth + 1) tokens = outside (depth + 1) [.mark ')']

theorem closes_bracket : Closes [')'] where
  inLine := by decide
  starts := ⟨')', [], rfl, by decide, by decide⟩
  spells := ⟨[.mark ')'], by decide, by decide, fun _ => rfl⟩

/-- In brackets, tokens without brackets say nothing outside. -/
theorem outside_flat {tokens : List Token}
    (flat : ∀ token ∈ tokens, token.opens = false ∧ token.closes = false) (depth : Nat) :
    outside (depth + 1) tokens = ([], depth + 1) := by
  induction tokens with
  | nil => rfl
  | cons token rest ih =>
    obtain ⟨noOpen, noClose⟩ := flat token List.mem_cons_self
    rw [outside, Token.depthAfter, noOpen, noClose]
    simp [ih fun other member => flat other (List.mem_cons_of_mem _ member)]

/-- A bracket is closed behind a record without brackets. -/
theorem closes_record {body : List Char} {tokens : List Token} (inLine : '\n' ∉ body)
    (spells : Spells (body ++ [' ']) tokens) (read : tokens.any Token.isUnread = false)
    (flat : ∀ token ∈ tokens, token.opens = false ∧ token.closes = false) :
    Closes (", \x7b ".toList ++ body ++ " \x7d)".toList) where
  inLine := by simp [inLine]
  starts := ⟨',', _, rfl, by decide, by decide⟩
  spells := by
    have isText : ", \x7b ".toList ++ body ++ " \x7d)".toList =
        ", \x7b ".toList ++ (body ++ [' ']) ++ "\x7d)".toList := by simp
    have opens : Spells ", \x7b ".toList [.mark ',', .mark '\x7b'] := by decide
    have closes : Spells "\x7d)".toList [.mark '\x7d', .mark ')'] := by decide
    refine ⟨[.mark ',', .mark '\x7b'] ++ tokens ++ [.mark '\x7d', .mark ')'],
      isText ▸ (opens.append spells).append closes, ?_, fun depth => ?_⟩
    · simp [read, Token.isUnread, Text.isLineTerminator]
    · have openings : outside (depth + 1) [.mark ',', .mark '\x7b'] = ([], depth + 2) := by
        simp [outside, Token.depthAfter, Token.opens, Token.closes]
      rw [outside_append, outside_append, openings, outside_flat flat]
      simp [outside, Token.depthAfter, Token.opens, Token.closes]

theorem opensClass_closes (closes : Closes back) (front : List Char) :
    opensClass (front ++ back) = opensClass front := by
  obtain ⟨c, rest, rfl, -, absent⟩ := closes.starts
  exact opensClass_append absent front rest

/-- Behind an open bracket, a text that closes it is read as that bracket. -/
theorem readLines_closes {depth further : Nat} (plain : front.all isPlain = true)
    (isOpen : (outside (readLines depth lines).2 (codeTokens front)).2 = further + 1) (closes : Closes back) :
    readLines depth (lines ++ [front ++ back]) = readLines depth (lines ++ [front ++ [')']]) := by
  have isRead {text : List Char} (closes : Closes text) : readLine (readLines depth lines).2 (front ++ text) =
      let (found, within) := outside (readLines depth lines).2 (codeTokens front)
      let (more, behind) := outside within [.mark ')']
      (some (found ++ more), behind) := by
    obtain ⟨c, rest, rfl, apart, -⟩ := closes.starts
    obtain ⟨tokens, spells, read, closing⟩ := closes.spells
    have blank : Spells ['\n'] [] := by decide
    have ends : Spells (c :: rest ++ ['\n']) tokens := by simpa using spells.append blank
    simp only [readLine, lineTokens?_append plain apart ends read, outside_append, isOpen, closing]
  rw [readLines_append, readLines_append, readLines, readLines, isRead closes, isRead closes_bracket]

/-- Where a bracket is open, lines look alike whatever text closes it. -/
theorem look_opened_congr (plain : ∀ c ∈ front, isPlain c = true ∨ c = '\n')
    (opened : front.countP (fun c => (Token.mark c).closes) < front.countP fun c => (Token.mark c).opens)
    (noHead : ∀ line ∈ Text.pieces '\n' front, opensClass line = false)
    (closes : Closes back) (otherCloses : Closes other) :
    look (Text.pieces '\n' (front ++ back)) = look (Text.pieces '\n' (front ++ other)) := by
  obtain ⟨init, last, arePieces, goesOn⟩ := Text.exists_pieces_append '\n' front
  have arePlain : ∀ line ∈ Text.pieces '\n' front, line.all isPlain = true := by
    intro line isLine
    refine List.all_eq_true.mpr fun c member => ?_
    refine (plain c (Text.subset_of_mem_pieces isLine member)).resolve_right ?_
    rintro rfl
    exact Text.notMem_of_mem_pieces isLine member
  rw [arePieces] at arePlain noHead
  have initPlain : ∀ line ∈ init, line.all isPlain = true := fun line member =>
    arePlain line (List.mem_append_left _ member)
  have lastPlain : last.all isPlain = true := arePlain last (by simp)
  -- At the end of the text in front a bracket is open.
  have isOpen (depth : Nat) :
      ∃ further, (outside (readLines depth init).2 (codeTokens last)).2 = further + 1 := by
    have counted {p : Char → Bool} (inLine : p '\n' = false) :
        front.countP p = init.flatten.countP p + last.countP p := by
      rw [← Text.countP_pieces inLine, arePieces]
      simp
    have inInit := depth_readLines depth initPlain
    have inLast := depth_codeTokens (readLines depth init).2 lastPlain
    rw [counted (by decide), counted (by decide)] at opened
    exact Nat.exists_eq_succ_of_ne_zero (by omega)
  have noHeads {text : List Char} (closes : Closes text) : classBody? (init ++ [last ++ text]) = none := by
    refine classBody?_eq_none fun line member => ?_
    rcases List.mem_append.mp member with inInit | isLast
    · exact noHead line (List.mem_append_left _ inInit)
    · rw [List.mem_singleton.mp isLast, opensClass_closes closes]
      exact noHead last (by simp)
  rw [goesOn back closes.inLine, goesOn other otherCloses.inLine, look, look, noHeads closes,
    noHeads otherCloses]
  refine Prod.ext (funext fun depth => ?_) rfl
  obtain ⟨further, isDepth⟩ := isOpen depth
  exact (readLines_closes lastPlain isDepth closes).trans (readLines_closes lastPlain isDepth otherCloses).symm

end EntitySchema.Host
