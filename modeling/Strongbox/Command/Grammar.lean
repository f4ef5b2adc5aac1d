import Strongbox.Environment
/-! Command lines by a grammar: commands inside commands, each with options and operands of its own.
An option may stand anywhere after its command, in a long or a short form. -/
namespace Strongbox.Command

inductive Arity where
  | flag
  /-- Nothing; it counts how often it is given. -/
  | counted
  | value
  deriving DecidableEq, Repr

structure Opt where
  long : String
  short : Option Char
  arity : Arity
  /-- Variable of the environment that stands in for it. -/
  fromVariable : Option String
  required : Bool
  accepts : String → Bool

structure Operand where
  accepts : String → Bool

/-- A command. One that has further commands needs one of them. -/
structure Verb where
  name : String
  options : List Opt
  operands : List Operand
  verbs : List Verb

structure Given where
  options : List (String × String)
  operands : List String
  deriving DecidableEq, Repr

namespace Given

def empty : Given := ⟨[], []⟩

def has (g : Given) (long : String) : Bool := g.options.any (·.1 == long)

def value? (g : Given) (long : String) : Option String :=
  (g.options.find? (·.1 == long)).map (·.2)

def count (g : Given) (long : String) : Nat := g.options.countP (·.1 == long)

end Given

/-- Why reading ends before the command line does. -/
inductive Stop where
  | usage
  | version (program : String)
  | help
  deriving DecidableEq, Repr

structure Position where
  /-- Commands above the present one with what they were given, the outermost first. -/
  above : List (Verb × Given)
  verb : Verb
  given : Given
  /-- Option that waits for its value. -/
  pending : Option Opt
  /-- After two hyphens alone everything is an operand. -/
  ended : Bool

namespace Position

def start (v : Verb) : Position := ⟨[], v, .empty, none, false⟩

def title (p : Position) : String :=
  "-".intercalate ((p.above.map (·.1.name)) ++ [p.verb.name])

def take (p : Position) (o : Opt) (value : String) : Except Stop Position :=
  if (o.arity != .counted && p.given.has o.long) || (o.arity == .value && !o.accepts value) then
    .error .usage
  else .ok { p with given := { p.given with options := p.given.options ++ [(o.long, value)] },
                    pending := none }

/-- Text before the first equals sign, and the text after it. -/
def splitValue (cs : List Char) : String × Option String :=
  let name := String.ofList (cs.takeWhile (· != '='))
  match cs.dropWhile (· != '=') with
  | [] => (name, none)
  | _ :: value => (name, some (String.ofList value))

def readLong (p : Position) (name : String) (attached : Option String) : Except Stop Position :=
  match p.verb.options.find? (·.long == name) with
  | some o => match o.arity, attached with
    | .value, some value => p.take o value
    | .value, none => .ok { p with pending := some o }
    | _, some _ => .error .usage
    | _, none => p.take o ""
  | none =>
    if attached.isSome then .error .usage
    else if name = "help" then .error .help
    else if name = "version" then .error (.version p.title)
    else .error .usage

/-- Options in their short forms, one letter each. What follows the letter of an option that asks
for a value is its value, perhaps after an equals sign. -/
def readShort : List Char → Position → Except Stop Position
  | [], p => .ok p
  | c :: cs, p => match p.verb.options.find? (·.short == some c) with
    | some o =>
      if o.arity = .value then
        match cs with
        | [] => .ok { p with pending := some o }
        | '=' :: value => p.take o (String.ofList value)
        | value => p.take o (String.ofList value)
      else match p.take o "" with
        | .ok p => readShort cs p
        | .error e => .error e
    | none =>
      if c = 'h' then .error .help else if c = 'V' then .error (.version p.title)
      else .error .usage

def readOperand (p : Position) (arg : String) : Except Stop Position :=
  match p.verb.operands[p.given.operands.length]? with
  | some o =>
    if o.accepts arg then
      .ok { p with given := { p.given with operands := p.given.operands ++ [arg] } }
    else .error .usage
  | none => .error .usage

/-- A word that is no option: the value that is waited for, a command, or an operand. -/
def readWord (p : Position) (arg : String) : Except Stop Position :=
  match p.pending with
  | some o => p.take o arg
  | none => match p.verb.verbs.find? (·.name == arg) with
    | some v => .ok ⟨p.above ++ [(p.verb, p.given)], v, .empty, none, false⟩
    | none => p.readOperand arg

/-- One argument. A hyphen alone is a word, and no option follows one that waits for its value. -/
def readArgument (p : Position) (arg : String) : Except Stop Position :=
  if p.ended then p.readOperand arg
  else match arg.toList with
    | ['-', '-'] => if p.pending.isSome then .error .usage else .ok { p with ended := true }
    | '-' :: '-' :: cs =>
      if p.pending.isSome then .error .usage
      else p.readLong (splitValue cs).1 (splitValue cs).2
    | '-' :: c :: cs => if p.pending.isSome then .error .usage else readShort (c :: cs) p
    | _ => p.readWord arg

def leads : List String → Verb → Bool
  | [], _ => true
  | name :: names, v => match v.verbs.find? (·.name == name) with
    | some v => leads names v
    | none => false

/-- A command that has further commands also answers to a request for help about them. -/
def asksHelp (p : Position) (arg : String) : Bool :=
  arg == "help" && !p.ended && p.pending.isNone && !p.verb.verbs.isEmpty

def readAll : List String → Position → Except Stop Position
  | [], p => .ok p
  | arg :: later, p =>
    if p.asksHelp arg then .error (if leads later p.verb then .help else .usage)
    else match p.readArgument arg with
      | .ok p => readAll later p
      | .error e => .error e

/-- Whether a command has what it needs, and its variables hold what it accepts. -/
def complete (e : Environment) (v : Verb) (g : Given) : Bool :=
  g.operands.length == v.operands.length &&
    v.options.all fun o =>
      g.has o.long || (!o.required && (o.fromVariable.bind e.get?).all o.accepts)

end Position

structure Parsed where
  levels : List (String × Given)
  deriving DecidableEq, Repr

namespace Parsed

def read (e : Environment) (v : Verb) (args : List String) : Except Stop Parsed := do
  let p ← Position.readAll args (.start v)
  let levels := p.above ++ [(p.verb, p.given)]
  if p.pending.isSome || !p.verb.verbs.isEmpty ||
      !levels.all fun (v, g) => Position.complete e v g then .error .usage
  else .ok ⟨levels.map fun (v, g) => (v.name, g)⟩

def names (r : Parsed) : List String := (r.levels.map (·.1)).drop 1

def last (r : Parsed) : Given := (r.levels.getLast?.map (·.2)).getD .empty

/-- What the innermost command that was given an option got with it. -/
def innermost (r : Parsed) (long : String) : Given :=
  ((r.levels.reverse.map (·.2)).find? (·.has long)).getD .empty

def value? (r : Parsed) (e : Environment) (o : Opt) : Option String :=
  match (r.innermost o.long).value? o.long with
  | some value => some value
  | none => o.fromVariable.bind e.get?

def has (r : Parsed) (o : Opt) : Bool := (r.innermost o.long).has o.long

def count (r : Parsed) (o : Opt) : Nat := (r.innermost o.long).count o.long

end Parsed
end Strongbox.Command
