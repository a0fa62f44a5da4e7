import PageHarvest.Text.Capital
import PageHarvest.Text.Integer
import PageHarvest.Text.Quoted
import PageHarvest.Text.Search

/-! # Options

Words of a command line are options or arguments. A long option may be shortened as long as only
one option begins that way, and takes its value behind an equals sign or as the next word; a short
one may have its value right behind it. After two dashes that stand alone all words are arguments.
-/

namespace PageHarvest.CommandLine

/-- How many values an option takes. -/
inductive Arity where
  | none
  | one
  | atMostOne
  deriving DecidableEq, Inhabited

/-- An option, known by a key. -/
structure Rule (κ : Type) where
  key : κ
  names : List String
  arity : Arity := .one
  required : Bool := false

def Rule.title {κ : Type} (rule : Rule κ) : String := "/".intercalate rule.names

/-- How an option is written, with a word in capitals for its value. -/
def Rule.usage {κ : Type} (rule : Rule κ) : String :=
  let name := rule.names.headD ""
  let value := Text.capitals (String.ofList ((name.toList.dropWhile (· = '-')).map fun c =>
    if c = '-' then '_' else c))
  let shown := match rule.arity with
    | .none => name
    | .one => s!"{name} {value}"
    | .atMostOne => s!"{name} [{value}]"
  if rule.required then shown else s!"[{shown}]"

/-- What is wrong with a command line. -/
inductive Misuse where
  | ambiguous (word : String) (names : List String)
  | valueMissing (title : String)
  | valueUnexpected (title value : String)
  | valueUnreadable (title kind value : String)
  | optionsMissing (titles : List String)
  | wordsLeft (words : List String)
  deriving DecidableEq, Inhabited

def Misuse.message : Misuse → String
  | .ambiguous word names =>
    s!"ambiguous option: {word} could match " ++ ", ".intercalate names
  | .valueMissing title => s!"argument {title}: expected one argument"
  | .valueUnexpected title value =>
    s!"argument {title}: ignored explicit argument {Text.quoted value}"
  | .valueUnreadable title kind value =>
    s!"argument {title}: invalid {kind} value: {Text.quoted value}"
  | .optionsMissing titles =>
    "the following arguments are required: " ++ ", ".intercalate titles
  | .wordsLeft words => "unrecognized arguments: " ++ " ".intercalate words

/-- A word of a command line. -/
inductive Word (κ : Type) where
  | argument (text : String)
  /-- The two dashes after which there are no options. -/
  | separator
  /-- An option by one of its names, and the value that the same word gives it. -/
  | option (rule : Rule κ) (name : String) (value : Option String)
  /-- What looks like an option and is none. -/
  | stranger (text : String)

variable {κ σ ε : Type}

def allNames (rules : List (Rule κ)) : List (String × Rule κ) :=
  rules.flatMap fun rule => rule.names.map fun name => (name, rule)

def ruleOf? (rules : List (Rule κ)) (name : String) : Option (Rule κ) :=
  (allNames rules).lookup name

/-- Whether a text is a negative number in digits, with a point before the last of them or
without. -/
def isNegativeNumber (text : String) : Bool :=
  let isDigits (s : List Char) : Bool := !s.isEmpty && s.all fun c => (Text.digitValue? c).isSome
  match text.toList with
  | '-' :: body => match Text.cut ['.'] body with
    | none => isDigits body
    | some (whole, places) => (whole.isEmpty || isDigits whole) && isDigits places
  | _ => false

/-- The options that a word may mean by the beginning of a name, each with the value that the word
gives it. -/
def candidates (rules : List (Rule κ)) (word : String) :
    List (String × Rule κ × Option String) :=
  if word.startsWith "--" then
    let (front, value) := match Text.cut ['='] word.toList with
      | some (front, value) => (String.ofList front, some (String.ofList value))
      | none => (word, none)
    (allNames rules).filterMap fun (name, rule) =>
      if name.startsWith front then some (name, rule, value) else none
  else
    let short := String.ofList (word.toList.take 2)
    (allNames rules).filterMap fun (name, rule) =>
      if name = short then some (name, rule, some (String.ofList (word.toList.drop 2)))
      else if name.startsWith word then some (name, rule, none)
      else none

def Word.read (rules : List (Rule κ)) (word : String) : Except Misuse (Word κ) := do
  if !word.startsWith "-" then return .argument word
  if let some rule := ruleOf? rules word then return .option rule word none
  if word = "-" then return .argument word
  if let some (front, value) := Text.cut ['='] word.toList then
    if let some rule := ruleOf? rules (String.ofList front) then
      return .option rule (String.ofList front) (some (String.ofList value))
  match candidates rules word with
  | [(name, rule, value)] => return .option rule name value
  | [] =>
    if isNegativeNumber word || word.toList.contains ' ' then return .argument word
    else return .stranger word
  | several => throw (.ambiguous word (several.map (·.1)))

def readWords (rules : List (Rule κ)) : List String → Except Misuse (List (Word κ))
  | [] => return []
  | word :: rest => do
    if word = "--" then return .separator :: rest.map .argument
    let first ← Word.read rules word
    return first :: (← readWords rules rest)

/-- The options that one word gives, with their values, where `value` is what stands in the word
behind the name; whether the last of them still needs a value from the next word. -/
def bundle (rules : List (Rule κ)) (rule : Rule κ) (isShort : Bool) :
    List Char → Except Misuse (List (Rule κ × Option String) × Option (Rule κ))
  | [] =>
    if rule.arity = .none then throw (.valueUnexpected rule.title "")
    else return ([(rule, some "")], none)
  | c :: rest =>
    let refused : Misuse := .valueUnexpected rule.title (String.ofList (c :: rest))
    if rule.arity != .none then return ([(rule, some (String.ofList (c :: rest)))], none)
    else if !isShort then throw refused
    else match ruleOf? rules (String.ofList ['-', c]) with
      | none => throw refused
      | some next =>
        if rest.isEmpty then return ([(rule, none)], some next)
        else do
          let (more, open_) ← bundle rules next true rest
          return ((rule, none) :: more, open_)

/-- Takes the value of an option from the words that follow, if it needs one. -/
def takeValue (rule : Rule κ) (words : List (Word κ)) :
    Except Misuse ((Rule κ × Option String) × List (Word κ)) :=
  match rule.arity, words with
  | .none, _ => .ok ((rule, none), words)
  | _, .argument text :: rest => .ok ((rule, some text), rest)
  | .atMostOne, _ => .ok ((rule, none), words)
  | .one, _ => .error (.valueMissing rule.title)

theorem length_takeValue {rule : Rule κ} {words rest : List (Word κ)} {found}
    (h : takeValue rule words = .ok (found, rest)) : rest.length ≤ words.length := by
  unfold takeValue at h
  split at h <;> simp only [Except.ok.injEq, Prod.mk.injEq, reduceCtorEq] at h
  · exact Nat.le_of_eq (congrArg List.length h.2.symm)
  · exact Nat.le_succ_of_le (Nat.le_of_eq (congrArg List.length h.2.symm))
  · exact Nat.le_of_eq (congrArg List.length h.2.symm)

/-- The options in words, one entry per option with its value, and the words that are left over. -/
def collect (rules : List (Rule κ)) (accept : σ → κ → Option String → Except ε σ)
    (misused : Misuse → ε) (state : σ) (left : List String) :
    List (Word κ) → Except ε (σ × List String)
  | [] => .ok (state, left)
  | .argument text :: rest => collect rules accept misused state (left ++ [text]) rest
  | .stranger text :: rest => collect rules accept misused state (left ++ [text]) rest
  | .separator :: rest => collect rules accept misused state (left ++ ["--"]) rest
  | .option rule name value :: rest =>
    let acceptAll (found : List (Rule κ × Option String)) : Except ε σ :=
      found.foldlM (fun state entry => accept state entry.1.key entry.2) state
    match value with
    | some text =>
      match bundle rules rule (!name.startsWith "--") text.toList with
      | .error misuse => .error (misused misuse)
      | .ok (found, none) => do
        let state ← acceptAll found
        collect rules accept misused state left rest
      | .ok (found, some last) =>
        match _h : takeValue last rest with
        | .error misuse => .error (misused misuse)
        | .ok (entry, rest) => do
          let state ← acceptAll (found ++ [entry])
          collect rules accept misused state left rest
    | none =>
      match _h : takeValue rule rest with
      | .error misuse => .error (misused misuse)
      | .ok (entry, rest) => do
        let state ← acceptAll [entry]
        collect rules accept misused state left rest
termination_by words => words.length
decreasing_by
  all_goals simp_wf
  all_goals have := length_takeValue _h
  all_goals omega

/-- Reads a command line: every option that is found is accepted in turn, then the required ones
must all have been there, and then no words may be left. -/
def readLine [BEq κ] (rules : List (Rule κ)) (accept : σ → κ → Option String → Except ε σ)
    (misused : Misuse → ε) (start : σ) (line : List String) : Except ε σ := do
  let words ← (readWords rules line).mapError misused
  let keep (state : σ × List κ) (key : κ) (value : Option String) : Except ε (σ × List κ) := do
    return (← accept state.1 key value, key :: state.2)
  let ((state, seen), left) ← collect rules keep misused (start, []) [] words
  let missing := rules.filter fun rule => rule.required && !seen.contains rule.key
  if !missing.isEmpty then throw (misused (.optionsMissing (missing.map Rule.title)))
  if !left.isEmpty then throw (misused (.wordsLeft left))
  return state

end PageHarvest.CommandLine
