import Strongbox.Command.Grammar
import Strongbox.Secret.Kind
import Strongbox.SecurityLevel
import Strongbox.Uuid
/-! What the program can be asked to do, and how it is asked on a command line. -/
namespace Strongbox.Command

inductive Format where
  | table
  | json
  deriving DecidableEq, Repr

def Format.ofName? (s : String) : Option Format :=
  if s = "table" then some .table else if s = "json" then some .json else none

def kindOfName? (s : String) : Option SecretKind :=
  if s = "credential" then some .credential
  else if s = "token" then some .token
  else if s = "token-pair" then some .tokenPair
  else none

def levelOfName? (s : String) : Option SecurityLevel :=
  if s = "must" then some .must else if s = "optional" then some .optional else none

/-- A secret to be stored. A part that was not given is asked for. -/
inductive Proposal where
  | credential (username : String) (password : Option String)
  | token (typeName : String) (value : Option String) (target : Option Uuid)
  | tokenPair (access refresh : Option String)
  deriving DecidableEq, Repr

inductive Action where
  | status (format : Format)
  | get (kind : SecretKind) (key : String) (format : Format) (reveal : Bool)
  | set (key : String) (proposal : Proposal)
  | delete (kind : SecretKind) (key : String)
  | showSettings
  | initSettings (space fallback : Option String) (force : Bool)
  deriving DecidableEq, Repr

structure Invocation where
  /-- Directory of the settings, instead of the user's. -/
  directory : Option String
  verbosity : Nat
  quiet : Bool
  security : Option SecurityLevel
  action : Action
  deriving DecidableEq, Repr

namespace Opt

def anyText (_ : String) : Bool := true

def isPath (s : String) : Bool := s != ""

def flag (long : String) (short : Option Char) : Opt := ⟨long, short, .flag, none, false, anyText⟩

def text (long : String) (short : Option Char) : Opt := ⟨long, short, .value, none, false, anyText⟩

def directory : Opt := ⟨"config", some 'c', .value, some "CREDSTORE_CONFIG_DIR", false, isPath⟩

def verbose : Opt := ⟨"verbose", some 'v', .counted, none, false, anyText⟩

def quiet : Opt := flag "quiet" (some 'q')

def security : Opt :=
  ⟨"secure", some 's', .value, none, false, fun s => (levelOfName? s).isSome⟩

def everywhere : List Opt := [directory, verbose, quiet, security]

def format : Opt :=
  ⟨"format", some 'f', .value, none, false, fun s => (Format.ofName? s).isSome⟩

def reveal : Opt := flag "show-secret" none

def username : Opt := ⟨"username", some 'u', .value, none, true, anyText⟩

def password : Opt := ⟨"password", some 'p', .value, some "CREDSTORE_PASSWORD", false, anyText⟩

def tokenType : Opt := text "token-type" (some 't')

def tokenValue : Opt := ⟨"value", none, .value, some "CREDSTORE_TOKEN", false, anyText⟩

def target : Opt :=
  ⟨"target-identity", none, .value, none, false, fun s => (Uuid.parse s).toOption.isSome⟩

def access : Opt := text "access-token" (some 'a')

def refresh : Opt := text "refresh-token" (some 'r')

def space : Opt := text "namespace" (some 'n')

def fallback : Opt := ⟨"fallback-path", none, .value, none, false, isPath⟩

def force : Opt := flag "force" none

end Opt

namespace Verb

def kindOperand : Operand := ⟨fun s => (kindOfName? s).isSome⟩

def keyOperand : Operand := ⟨Opt.anyText⟩

def leaf (name : String) (options : List Opt) (operands : List Operand) : Verb :=
  ⟨name, Opt.everywhere ++ options, operands, []⟩

def branch (name : String) (verbs : List Verb) : Verb := ⟨name, Opt.everywhere, [], verbs⟩

def program : Verb :=
  branch "credstore-cli"
    [leaf "status" [Opt.format] [],
     leaf "get" [Opt.format, Opt.reveal] [kindOperand, keyOperand],
     branch "set"
       [leaf "credential" [Opt.username, Opt.password] [keyOperand],
        leaf "token" [Opt.tokenType, Opt.tokenValue, Opt.target] [keyOperand],
        leaf "token-pair" [Opt.access, Opt.refresh] [keyOperand]],
     leaf "delete" [] [kindOperand, keyOperand],
     branch "config"
       [leaf "show" [] [],
        leaf "init" [Opt.space, Opt.fallback, Opt.force] []]]

end Verb

namespace Invocation

def formatOf (r : Parsed) (e : Environment) : Format :=
  ((r.value? e Opt.format).bind Format.ofName?).getD .table

def standardTokenType : String := "Personal"

def actionOf (r : Parsed) (e : Environment) : Option Action :=
  match r.names, r.last.operands with
  | ["status"], [] => some (.status (formatOf r e))
  | ["get"], [kind, key] =>
    (kindOfName? kind).map fun kind => .get kind key (formatOf r e) (r.has Opt.reveal)
  | ["set", "credential"], [key] =>
    (r.value? e Opt.username).map fun username =>
      .set key (.credential username (r.value? e Opt.password))
  | ["set", "token"], [key] =>
    some (.set key (.token ((r.value? e Opt.tokenType).getD standardTokenType)
      (r.value? e Opt.tokenValue) ((r.value? e Opt.target).bind fun s => (Uuid.parse s).toOption)))
  | ["set", "token-pair"], [key] =>
    some (.set key (.tokenPair (r.value? e Opt.access) (r.value? e Opt.refresh)))
  | ["delete"], [kind, key] => (kindOfName? kind).map fun kind => .delete kind key
  | ["config", "show"], [] => some .showSettings
  | ["config", "init"], [] =>
    some (.initSettings (r.value? e Opt.space) (r.value? e Opt.fallback) (r.has Opt.force))
  | _, _ => none

def parse (e : Environment) (args : List String) : Except Stop Invocation := do
  let r ← Parsed.read e Verb.program args
  match actionOf r e with
  | some action => .ok ⟨r.value? e Opt.directory, r.count Opt.verbose, r.has Opt.quiet,
      (r.value? e Opt.security).bind levelOfName?, action⟩
  | none => .error .usage

end Invocation
end Strongbox.Command
