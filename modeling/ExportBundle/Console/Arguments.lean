import ExportBundle.Text.Digit

/-! Reading command-line arguments. Long options may be shortened as long as one option is meant, a
value may follow its option, be tied to it by an equals sign, or be glued to a short one, and two
hyphens end the options. A command among the arguments takes all that follow it. -/

namespace ExportBundle.Console

structure Choice (κ : Type) where
  names : List String
  takesValue : Bool
  isHelp : Bool
  key : κ

/-- What the arguments that are no options are for: single values, or a command with its rest. -/
inductive Operand where
  | single
  | command
  deriving DecidableEq, Repr

structure Grammar (κ : Type) where
  choices : List (Choice κ)
  operands : List Operand

/-- Why reading ends early. -/
inductive Stop where
  | help
  | misuse
  deriving DecidableEq, Repr

/-- An option that was recognised: whether under a name of one letter, and the text that is tied to
it, behind an equals sign or glued to the letter. -/
structure Hit (κ : Type) where
  choice : Choice κ
  isShort : Bool
  tied : Option String

inductive Mark (κ : Type) where
  | operand
  | separator
  | option (hit : Option (Hit κ))

structure Argument (κ : Type) where
  text : String
  mark : Mark κ

structure Arguments (κ : Type) where
  options : List (κ × Option String)
  operands : List (List String)
  unknown : List String

variable {κ : Type}

namespace Grammar

def spellings (g : Grammar κ) : List (String × Choice κ) :=
  g.choices.flatMap fun c => c.names.map (·, c)

def spelled? (g : Grammar κ) (name : String) : Option (Choice κ) :=
  (g.spellings.find? fun s => s.1 == name).map (·.2)

def untie (arg : String) : String × Option String :=
  let cs := arg.toList
  match cs.dropWhile (· != '=') with
  | [] => (arg, none)
  | _ :: r => (String.ofList (cs.takeWhile (· != '=')), some (String.ofList r))

def isShortName (name : String) : Bool := !(['-', '-'].isPrefixOf name.toList)

def beginsWith (s lead : String) : Bool := lead.toList.isPrefixOf s.toList

def guesses (g : Grammar κ) (arg : String) : List (Hit κ) :=
  match arg.toList with
  | '-' :: '-' :: _ =>
    let (lead, tied) := untie arg
    g.spellings.filterMap fun (name, choice) =>
      if beginsWith name lead then some ⟨choice, false, tied⟩ else none
  | '-' :: c :: rest =>
    let short := String.ofList ['-', c]
    g.spellings.filterMap fun (name, choice) =>
      if name == short then some ⟨choice, true, some (String.ofList rest)⟩ else none
  | _ => []

def isDigit (c : Char) : Bool := (Text.digitValue? c).isSome

def isNegativeNumber (arg : String) : Bool :=
  match arg.toList with
  | '-' :: r =>
    let r := if r.getLast? == some '\n' then r.dropLast else r
    let after := r.dropWhile isDigit
    match after with
    | [] => !r.isEmpty
    | '.' :: decimals => !decimals.isEmpty && decimals.all isDigit
    | _ => false
  | _ => false

/-- How a single argument is to be taken; an option that could be several is a misuse. -/
def classify (g : Grammar κ) (arg : String) : Except Stop (Mark κ) :=
  if arg.toList.head? ≠ some '-' then .ok .operand
  else match g.spelled? arg with
  | some choice => .ok (.option (some ⟨choice, isShortName arg, none⟩))
  | none =>
    if arg.length = 1 then .ok .operand
    else
      let (name, tied) := untie arg
      match if tied.isNone then none else g.spelled? name with
      | some choice => .ok (.option (some ⟨choice, isShortName name, tied⟩))
      | none =>
        match g.guesses arg with
        | [hit] => .ok (.option (some hit))
        | _ :: _ :: _ => .error .misuse
        | [] =>
          if isNegativeNumber arg || arg.toList.contains ' ' then .ok .operand
          else .ok (.option none)

def classifyAll (g : Grammar κ) : List String → Except Stop (List (Argument κ))
  | [] => .ok []
  | "--" :: rest => .ok (⟨"--", .separator⟩ :: rest.map (⟨·, .operand⟩))
  | arg :: rest => do
    let mark ← g.classify arg
    return ⟨arg, mark⟩ :: (← classifyAll g rest)

end Grammar

def Argument.isOperand (a : Argument κ) : Bool :=
  match a.mark with
  | .operand => true
  | _ => false

def Argument.isSeparator (a : Argument κ) : Bool :=
  match a.mark with
  | .separator => true
  | _ => false

def Argument.isOption (a : Argument κ) : Bool :=
  match a.mark with
  | .option _ => true
  | _ => false

/-- The arguments that the next operand takes, and those after them. A command takes everything from
its name on; a separator goes with the operand next to it and is not part of a single value. -/
def takeOperand (o : Operand) (args : List (Argument κ)) :
    Option (List String × List (Argument κ)) :=
  let lead := args.takeWhile Argument.isSeparator
  match args.drop lead.length with
  | [] => none
  | a :: r =>
    if a.isOperand then
      match o with
      | .command => some ((lead ++ a :: r).map (·.text), [])
      | .single =>
        let trail := r.takeWhile Argument.isSeparator
        let texts := (lead ++ a :: trail).map (·.text)
        some (texts.erase "--", r.drop trail.length)
    else none

def takeOperands : List Operand → List (Argument κ) →
    List (List String) × List Operand × List (Argument κ)
  | [], args => ([], [], args)
  | o :: os, args =>
    match takeOperand o args with
    | none => ([], o :: os, args)
    | some (texts, rest) =>
      let (filled, left, rest) := takeOperands os rest
      (texts :: filled, left, rest)

abbrev Effects (κ : Type) := List (Choice κ × Option String)

def takeValue (choice : Choice κ) (tied : Option String) (rest : List (Argument κ)) :
    Except Stop (Effects κ × List (Argument κ)) :=
  match tied, rest with
  | some text, rest => .ok ([(choice, some text)], rest)
  | none, a :: rest =>
    if a.isOperand then .ok ([(choice, some a.text)], rest) else .error .misuse
  | none, [] => .error .misuse

/-- What the letters that are glued to a short option come to. Each is an option; one with a value
takes the letters behind it, and a letter that is no option is a misuse. -/
def expandGlued (g : Grammar κ) (rest : List (Argument κ)) :
    List Char → Except Stop (Effects κ × List (Argument κ))
  | [] => .ok ([], rest)
  | c :: letters =>
    match g.spelled? (String.ofList ['-', c]) with
    | none => .error .misuse
    | some choice =>
      if choice.takesValue then
        takeValue choice (if letters.isEmpty then none else some (String.ofList letters)) rest
      else do
        let (more, rest) ← expandGlued g rest letters
        return ((choice, none) :: more, rest)

def expand (g : Grammar κ) (hit : Hit κ) (rest : List (Argument κ)) :
    Except Stop (Effects κ × List (Argument κ)) :=
  if hit.choice.takesValue then takeValue hit.choice hit.tied rest
  else match hit.tied with
    | none => .ok ([(hit.choice, none)], rest)
    | some text =>
      if hit.isShort && !text.isEmpty then do
        let (more, rest) ← expandGlued g rest text.toList
        return ((hit.choice, none) :: more, rest)
      else .error .misuse

def note (found : Arguments κ) : Effects κ → Except Stop (Arguments κ)
  | [] => .ok found
  | (c, value) :: r =>
    if c.isHelp then .error .help
    else note { found with options := found.options ++ [(c.key, value)] } r

/-- Go over the arguments with the operands that are still to be filled. `handle` sees what an
operand was filled with, as soon as it is. Each round uses up an argument. -/
def scan (g : Grammar κ) (handle : List String → Except Stop Unit) :
    Nat → List Operand → List (Argument κ) → Arguments κ →
    Except Stop (Arguments κ × List Operand)
  | 0, left, _, found => .ok (found, left)
  | fuel + 1, left, args, found => do
    match args.span (fun a => !a.isOption) with
    | (_, []) =>
      let (filled, left, rest) := takeOperands left args
      for texts in filled do handle texts
      return ({ found with operands := found.operands ++ filled,
                           unknown := found.unknown ++ rest.map (·.text) }, left)
    | (before, option :: after) =>
      let (filled, left, rest) :=
        if before.isEmpty then ([], left, args) else takeOperands left args
      if !filled.isEmpty then
        for texts in filled do handle texts
        scan g handle fuel left rest { found with operands := found.operands ++ filled }
      else
        let found := { found with unknown := found.unknown ++ before.map (·.text) }
        match option.mark with
        | .option (some hit) =>
          let (effects, after) ← expand g hit after
          scan g handle fuel left after (← note found effects)
        | _ =>
          scan g handle fuel left after { found with unknown := found.unknown ++ [option.text] }

def Grammar.read (g : Grammar κ) (handle : List String → Except Stop Unit) (args : List String) :
    Except Stop (Arguments κ) := do
  let marked ← g.classifyAll args
  let (found, left) ← scan g handle (args.length + 1) g.operands marked ⟨[], [], []⟩
  if left.contains .single then throw .misuse
  return found

end ExportBundle.Console
