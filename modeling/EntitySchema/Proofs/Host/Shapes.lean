import EntitySchema.Proofs.Host.Tokens

/-!
# Shapes in host texts

Types and validators of the host language, read back as shapes: a type such as `{ tags?: string[]; }`, and
a validator such as `z.object({ tags: z.array(z.string()).optional(), })`, from which descriptions and
bounds to integers drop out. Both readers go down the tokens with a rule for each form, and the length of
the tokens bounds how deep they go. `IsType`, `AreMembers`, `IsValidator` and `AreEntries` say of texts
what the readers find in them, whatever is around, and are put together form by form.
-/

namespace EntitySchema.Host

/-- What values look like. -/
inductive Shape where
  | text
  | number
  | boolean
  | date
  | any
  | array (items : Shape)
  | object (members : List (String × Bool × Shape))

/-! ## Readers -/

def expect (c : Char) : List Token → Option (List Token)
  | .mark d :: rest => if d = c then some rest else none
  | _ => none

@[simp] theorem expect_mark (c : Char) (rest : List Token) : expect c (.mark c :: rest) = some rest := if_pos rfl

/-- Whether a mark comes first, and the tokens behind it if it does. -/
def accept (c : Char) (found : List Token) : Bool × List Token :=
  match expect c found with
  | some rest => (true, rest)
  | none => (false, found)

def leafType? : String → Option Shape
  | "string" => some .text
  | "number" => some .number
  | "boolean" => some .boolean
  | "Date" => some .date
  | "any" => some .any
  | _ => none

/-- A type with the brackets behind it. -/
def readBrackets : Shape → List Token → Shape × List Token
  | shape, .mark '[' :: .mark ']' :: rest => readBrackets (.array shape) rest
  | shape, rest => (shape, rest)

mutual

def readType : Nat → List Token → Option (Shape × List Token)
  | depth + 1, .mark '{' :: rest => do
    let (members, rest) ← readMembers depth rest
    return readBrackets (.object members) rest
  | _ + 1, .name name :: rest => do
    return readBrackets (← leafType? name) rest
  | _, _ => none

/-- Reads the members of a type up to its closing brace. -/
def readMembers : Nat → List Token → Option (List (String × Bool × Shape) × List Token)
  | _ + 1, .mark '}' :: rest => some ([], rest)
  | depth + 1, .name name :: rest => do
    let (isOptional, rest) := accept '?' rest
    let (shape, rest) ← readType depth (← expect ':' rest)
    let (members, rest) ← readMembers depth (← expect ';' rest)
    return ((name, isOptional, shape) :: members, rest)
  | _, _ => none

end

/-- The validators without arguments. -/
def leafValidator? : String → Option Shape
  | "string" => some .text
  | "number" => some .number
  | "boolean" => some .boolean
  | "date" => some .date
  | "any" => some .any
  | _ => none

/-- Whether the calls behind a validator make it optional. -/
def readCalls : Bool → List Token → Bool × List Token
  | isOptional, .mark '.' :: .name "describe" :: .mark '(' :: .literal :: .mark ')' :: rest =>
    readCalls isOptional rest
  | isOptional, .mark '.' :: .name "int" :: .mark '(' :: .mark ')' :: rest => readCalls isOptional rest
  | _, .mark '.' :: .name "optional" :: .mark '(' :: .mark ')' :: rest => readCalls true rest
  | isOptional, rest => (isOptional, rest)

theorem readCalls_mark {c : Char} (noCall : c ≠ '.') (isOptional : Bool) (rest : List Token) :
    readCalls isOptional (.mark c :: rest) = (isOptional, .mark c :: rest) := by
  rw [readCalls] <;> simp [noCall]

mutual

def readValidator : Nat → List Token → Option (Shape × Bool × List Token)
  | depth + 1, .name "z" :: .mark '.' :: .name "object" :: .mark '(' :: .mark '{' :: rest => do
    let (entries, rest) ← readEntries depth rest
    return (.object entries, readCalls false (← expect ')' rest))
  | depth + 1, .name "z" :: .mark '.' :: .name "array" :: .mark '(' :: rest => do
    let (items, isOptional, rest) ← readValidator depth rest
    if isOptional then none
    else return (.array items, readCalls false (← expect ')' rest))
  | _ + 1, .name "z" :: .mark '.' :: .name kind :: .mark '(' :: rest => do
    return (← leafValidator? kind, readCalls false (← expect ')' rest))
  | _, _ => none

/-- Reads the entries of an object up to its closing brace. -/
def readEntries : Nat → List Token → Option (List (String × Bool × Shape) × List Token)
  | _ + 1, .mark '}' :: rest => some ([], rest)
  | depth + 1, .name name :: rest => do
    let (shape, isOptional, rest) ← readValidator depth (← expect ':' rest)
    let (entries, rest) ← readEntries depth (← expect ',' rest)
    return ((name, isOptional, shape) :: entries, rest)
  | _, _ => none

end

def readInterface? (name text : String) : Option Shape := do
  let found ← tokens? (← text.toList.dropPrefix? ("export interface " ++ name ++ " ").toList)
  match readType found.length found with
  | some (shape, []) => some shape
  | _ => none

def readConstant? (name text : String) : Option Shape := do
  let found ← tokens? (← text.toList.dropPrefix? ("const " ++ name ++ " = ").toList)
  match readValidator found.length found with
  | some (shape, false, [.mark ';']) => some shape
  | _ => none

theorem dropPrefix?_append (front rest : List Char) : (front ++ rest).dropPrefix? front = some rest :=
  List.dropPrefix?_eq_some_iff.mpr ⟨front, rfl, by simp⟩

variable {text : List Char} {shape : Shape} {lines : List String}
  {members : List (String × Bool × Shape)} {name : String} {isOptional : Bool}

/-! ## Texts of types -/

def IsType (text : List Char) (shape : Shape) : Prop :=
  ∃ found : List Token,
    (∀ c, isNameChar c = false → Mode.start c = ([.mark c], .between) →
      Spells (text ++ [c]) (found ++ [.mark c])) ∧
    ∀ depth rest, found.length ≤ depth →
      readType depth (found ++ rest) = some (readBrackets shape rest)

def AreMembers (lines : List String) (members : List (String × Bool × Shape)) : Prop :=
  ∃ found : List (List Token), List.Forall₂ (fun line found => Spells line.toList found) lines found ∧
    ∀ depth rest, found.flatten.length < depth →
      readMembers depth (found.flatten ++ .mark '}' :: rest) = some (members, rest)

namespace IsType

theorem leaf (named : isName name = true) (isLeaf : leafType? name = some shape) :
    IsType name.toList shape := by
  refine ⟨[.name name], fun c apart isMark => spells_name named apart isMark, ?_⟩
  rintro (_ | depth) rest enough
  · cases enough
  · simp [readType, isLeaf]

theorem array (items : IsType text shape) : IsType (text ++ "[]".toList) (.array shape) := by
  obtain ⟨found, spells, read⟩ := items
  refine ⟨found ++ [.mark '[', .mark ']'], fun c apart isMark => ?_, fun depth rest enough => ?_⟩
  · have opens : Spells (text ++ ['[']) (found ++ [.mark '[']) := spells '[' (by decide) (by decide)
    have closes : Spells [']'] [.mark ']'] := by decide
    simpa using opens.append (closes.append (spells_mark isMark))
  · rw [List.length_append] at enough
    rw [List.append_assoc, read depth _ (by omega)]
    rfl

theorem object {separator : String} (areMembers : AreMembers lines members)
    (isBlank : Spells separator.toList []) :
    IsType ("\x7b ".toList ++ (Text.joined separator lines).toList ++ " \x7d".toList) (.object members) := by
  obtain ⟨found, spells, read⟩ := areMembers
  refine ⟨.mark '{' :: found.flatten ++ [.mark '}'], fun c _ isMark => ?_, ?_⟩
  · have opens : Spells "\x7b ".toList [.mark '{'] := by decide
    have closes : Spells " \x7d".toList [.mark '}'] := by decide
    simpa using (opens.append (.joined isBlank spells)).append (closes.append (spells_mark isMark))
  · rintro (_ | depth) rest enough
    · cases enough
    · simp only [List.length_append, List.length_cons, List.length_nil] at enough
      rw [List.append_assoc, List.cons_append, readType, List.singleton_append, read depth rest (by omega)]
      rfl

end IsType

namespace AreMembers

theorem nil : AreMembers [] [] := by
  refine ⟨[], .nil, ?_⟩
  rintro (_ | depth) rest enough
  · cases enough
  · rfl

theorem cons {type mark : String} (named : isName name = true) (isMark : mark = if isOptional then "?" else "")
    (isType : IsType type.toList shape) (areMembers : AreMembers lines members) :
    AreMembers ((name ++ mark ++ ": " ++ type ++ ";") :: lines) ((name, isOptional, shape) :: members) := by
  obtain ⟨found, spells, read⟩ := isType
  obtain ⟨others, spelled, readOthers⟩ := areMembers
  obtain ⟨front, opens, marked⟩ : ∃ front,
      Spells (name ++ mark ++ ": ").toList (.name name :: front ++ [.mark ':']) ∧
      ∀ rest, accept '?' (front ++ .mark ':' :: rest) = (isOptional, .mark ':' :: rest) := by
    subst isMark
    cases isOptional with
    | false =>
      have space : Spells [' '] [] := by decide
      have named := spells_name named (c := ':') (by decide) (by decide)
      exact ⟨[], by simpa using named.append space, fun rest => rfl⟩
    | true =>
      have colon : Spells [':', ' '] [.mark ':'] := by decide
      have named := spells_name named (c := '?') (by decide) (by decide)
      exact ⟨[.mark '?'], by simpa using named.append colon, fun rest => rfl⟩
  have ends : Spells (type.toList ++ [';']) (found ++ [.mark ';']) := spells ';' (by decide) (by decide)
  refine ⟨(.name name :: front ++ [.mark ':'] ++ (found ++ [.mark ';'])) :: others,
    .cons (by simpa using opens.append ends) spelled, ?_⟩
  rintro (_ | depth) rest enough
  · cases enough
  · simp only [List.flatten_cons, List.length_append, List.length_cons, List.length_nil] at enough
    have readType := read depth (.mark ';' :: (others.flatten ++ .mark '}' :: rest)) (by omega)
    have readRest := readOthers depth rest (by omega)
    have ended (rest : List Token) : readBrackets shape (.mark ';' :: rest) = (shape, .mark ';' :: rest) := by
      rw [readBrackets]
      simp
    simp only [List.flatten_cons, List.append_assoc, List.cons_append, List.nil_append, readMembers, marked,
      expect_mark, readType, ended, readRest, Option.bind_eq_bind, Option.bind_some, Option.pure_def]

theorem indented {indentation : String} (isBlank : Spells indentation.toList [])
    (areMembers : AreMembers lines members) : AreMembers (lines.map (indentation ++ ·)) members := by
  obtain ⟨found, spells, read⟩ := areMembers
  refine ⟨found, ?_, read⟩
  rw [List.forall₂_map_left_iff]
  exact spells.imp fun line found spells => by simpa using isBlank.append spells

end AreMembers

theorem AreMembers.readInterface? {separator : String} (areMembers : AreMembers lines members)
    (isBlank : Spells separator.toList []) :
    Host.readInterface? name
      (Text.joined separator (("export interface " ++ name ++ " \x7b") :: lines ++ ["\x7d"])) =
        some (.object members) := by
  obtain ⟨found, spells, read⟩ := areMembers
  have body : (Text.joined separator (("export interface " ++ name ++ " \x7b") :: lines ++ ["\x7d"])).toList =
      ("export interface " ++ name ++ " ").toList ++
        (Text.joined separator ("\x7b" :: (lines ++ ["\x7d"]))).toList := by
    rw [Text.joined, Text.joined, String.toList_intercalate, String.toList_intercalate]
    cases lines <;> simp [List.intercalate_cons_cons]
  have opens : Spells "\x7b".toList [.mark '{'] := by decide
  have closes : Spells "\x7d".toList [.mark '}'] := by decide
  have block : Spells (Text.joined separator ("\x7b" :: (lines ++ ["\x7d"]))).toList
      (.mark '{' :: found.flatten ++ [.mark '}']) := by
    simpa using Spells.joined isBlank (.cons opens (List.rel_append spells (.cons closes .nil)))
  have size : (Token.mark '{' :: found.flatten ++ [Token.mark '}']).length = found.flatten.length + 1 + 1 := by
    rw [List.length_append, List.length_cons, List.length_singleton]
  have isRead : readType (found.flatten.length + 1 + 1) (.mark '{' :: found.flatten ++ [.mark '}']) =
      some (.object members, []) := by
    rw [List.cons_append, readType, read _ _ (Nat.lt_succ_self _)]
    rfl
  rw [Host.readInterface?, body, dropPrefix?_append, Option.bind_eq_bind, Option.bind_some, block.tokens?,
    Option.bind_eq_bind, Option.bind_some, size, isRead]

/-! ## Texts of validators -/

def IsValidator (text : List Char) (shape : Shape) : Prop :=
  ∃ found : List Token, Spells text found ∧
    ∀ depth rest, found.length ≤ depth →
      readValidator depth (found ++ rest) = some (shape, readCalls false rest)

def AreEntries (lines : List String) (members : List (String × Bool × Shape)) : Prop :=
  ∃ found : List (List Token), List.Forall₂ (fun line found => Spells line.toList found) lines found ∧
    ∀ depth rest, found.flatten.length < depth →
      readEntries depth (found.flatten ++ .mark '}' :: rest) = some (members, rest)

/-- The text is a row of calls that leave the shape as it is. -/
def AreCalls (text : List Char) (isOptional : Bool) : Prop :=
  ∃ found : List Token, Spells text found ∧
    ∀ before rest, readCalls before (found ++ rest) = readCalls (before || isOptional) rest

namespace IsValidator

theorem leaf {kind : String} (named : isName kind = true) (isLeaf : leafValidator? kind = some shape)
    (apart : kind ≠ "object" ∧ kind ≠ "array") :
    IsValidator ("z.".toList ++ kind.toList ++ "()".toList) shape := by
  refine ⟨[.name "z", .mark '.', .name kind, .mark '(', .mark ')'], ?_, ?_⟩
  · have opens : Spells "z.".toList [.name "z", .mark '.'] := by decide
    have called := spells_name named (c := '(') (by decide) (by decide)
    have closes : Spells [')'] [.mark ')'] := by decide
    simpa using (opens.append called).append closes
  · rintro (_ | depth) rest enough
    · cases enough
    · simp [readValidator, isLeaf, apart]

theorem array (items : IsValidator text shape) :
    IsValidator ("z.array(".toList ++ text ++ ")".toList) (.array shape) := by
  obtain ⟨found, spells, read⟩ := items
  refine ⟨[.name "z", .mark '.', .name "array", .mark '('] ++ found ++ [.mark ')'], ?_, ?_⟩
  · have opens : Spells "z.array(".toList [.name "z", .mark '.', .name "array", .mark '('] := by decide
    have closes : Spells ")".toList [.mark ')'] := by decide
    exact (opens.append spells).append closes
  · rintro (_ | depth) rest enough
    · cases enough
    · simp only [List.length_append, List.length_cons, List.length_nil] at enough
      have readItems := read depth (.mark ')' :: rest) (by omega)
      rw [readCalls_mark (by decide)] at readItems
      simp [readValidator, readItems]

theorem object {opening separator closing : String} (areEntries : AreEntries lines members)
    (isBlank : Spells separator.toList []) (opens : Spells opening.toList [.mark '{'])
    (closes : Spells closing.toList [.mark '}']) :
    IsValidator ("z.object(".toList ++ opening.toList ++ (Text.joined separator lines).toList ++
      closing.toList ++ ")".toList) (.object members) := by
  obtain ⟨found, spells, read⟩ := areEntries
  refine ⟨[.name "z", .mark '.', .name "object", .mark '('] ++ [.mark '{'] ++ found.flatten ++
    [.mark '}'] ++ [.mark ')'], ?_, ?_⟩
  · have calls : Spells "z.object(".toList [.name "z", .mark '.', .name "object", .mark '('] := by decide
    have ends : Spells ")".toList [.mark ')'] := by decide
    exact (((calls.append opens).append (.joined isBlank spells)).append closes).append ends
  · rintro (_ | depth) rest enough
    · cases enough
    · simp only [List.length_append, List.length_cons, List.length_nil] at enough
      have readRest := read depth (.mark ')' :: rest) (by omega)
      simp [readValidator, readRest]

/-- Calls that keep a validator may stand behind it. -/
theorem call {calls : List Char} (isValidator : IsValidator text shape) (areCalls : AreCalls calls false) :
    IsValidator (text ++ calls) shape := by
  obtain ⟨found, spells, read⟩ := isValidator
  obtain ⟨called, spelled, keeps⟩ := areCalls
  refine ⟨found ++ called, spells.append spelled, fun depth rest enough => ?_⟩
  rw [List.length_append] at enough
  rw [List.append_assoc, read depth _ (by omega), keeps, Bool.or_false]

end IsValidator

namespace AreCalls

theorem none : AreCalls [] false := ⟨[], rfl, fun before rest => by simp⟩

theorem integer : AreCalls ".int()".toList false :=
  ⟨[.mark '.', .name "int", .mark '(', .mark ')'], by decide, fun before rest => by simp [readCalls]⟩

theorem optional : AreCalls ".optional()".toList true :=
  ⟨[.mark '.', .name "optional", .mark '(', .mark ')'], by decide, fun before rest => by simp [readCalls]⟩

theorem describe {literal : List Char} (isLiteral : Spells literal [.literal]) :
    AreCalls (".describe(".toList ++ literal ++ ")".toList) false := by
  refine ⟨[.mark '.', .name "describe", .mark '(', .literal, .mark ')'], ?_, fun before rest => ?_⟩
  · have opens : Spells ".describe(".toList [.mark '.', .name "describe", .mark '('] := by decide
    have closes : Spells ")".toList [.mark ')'] := by decide
    exact (opens.append isLiteral).append closes
  · simp [readCalls]

end AreCalls

theorem IsValidator.readConstant? (isValidator : IsValidator text shape) {constant : String}
    (isConstant : constant.toList = ("const " ++ name ++ " = ").toList ++ (text ++ [';'])) :
    Host.readConstant? name constant = some shape := by
  obtain ⟨found, spells, read⟩ := isValidator
  have ends : Spells [';'] [.mark ';'] := by decide
  have readBody := read (found ++ [Token.mark ';']).length [.mark ';'] (by simp)
  rw [readCalls_mark (by decide)] at readBody
  rw [Host.readConstant?, isConstant, dropPrefix?_append, Option.bind_eq_bind, Option.bind_some,
    (spells.append ends).tokens?, Option.bind_eq_bind, Option.bind_some, readBody]
  rfl

namespace AreEntries

theorem nil : AreEntries [] [] := by
  refine ⟨[], .nil, ?_⟩
  rintro (_ | depth) rest enough
  · cases enough
  · rfl

theorem cons {indentation validator calls : String} (isBlank : Spells indentation.toList [])
    (named : isName name = true) (isValidator : IsValidator validator.toList shape)
    (areCalls : AreCalls calls.toList isOptional) (areEntries : AreEntries lines members) :
    AreEntries ((indentation ++ name ++ ": " ++ validator ++ calls ++ ",") :: lines)
      ((name, isOptional, shape) :: members) := by
  obtain ⟨found, spells, read⟩ := isValidator
  obtain ⟨called, areCalled, calls⟩ := areCalls
  obtain ⟨others, spelled, readOthers⟩ := areEntries
  have opens : Spells (name.toList ++ [':']) [.name name, .mark ':'] :=
    spells_name named (by decide) (by decide)
  have space : Spells [' '] [] := by decide
  have ends : Spells [','] [.mark ','] := by decide
  refine ⟨(.name name :: .mark ':' :: (found ++ called ++ [.mark ','])) :: others, .cons ?_ spelled, ?_⟩
  · simpa using isBlank.append ((opens.append space).append ((spells.append areCalled).append ends))
  · rintro (_ | depth) rest enough
    · cases enough
    · simp only [List.flatten_cons, List.length_append, List.length_cons, List.length_nil] at enough
      have readFirst := read depth
        (called ++ .mark ',' :: (others.flatten ++ .mark '}' :: rest)) (by omega)
      have readRest := readOthers depth rest (by omega)
      rw [calls, readCalls_mark (by decide)] at readFirst
      simp [readEntries, readFirst, readRest]

end AreEntries

end EntitySchema.Host
