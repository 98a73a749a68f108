import BearerGate.Role
import BearerGate.Token.Issuer

/-!
# The Command Line

A tool that issues one token, for trying a service out. Options may be given in any order; a value
follows its option, or is joined to it by an equals sign, which is the only way to give one that
starts with a hyphen. Only `--grant` may be repeated. Arguments are taken from left to right, and
the first that asks for help or the version, or that cannot be used, ends the reading.
-/

namespace BearerGate.CommandLine

/-- What a token is made from. -/
structure Options where
  keyPath : String
  algorithm : String
  id : Int64
  username : String
  grants : List String
  lifetime : Nat
  quiet : Bool

/-- What a command line asks for. -/
inductive Command where
  | help
  | version
  | issue (options : Options)

/-- Why a command line cannot be used. -/
inductive Misuse where
  | unexpectedArgument (text : String)
  | missingValue (option : String)
  | unexpectedValue (option : String)
  | repeated (option : String)
  | invalidValue (option : String)
  | missingOption (option : String)
  deriving DecidableEq

/-! ### Reading arguments -/

/-- The options read so far. -/
structure Draft where
  keyPath : Option String
  algorithm : Option String
  id : Option Int64
  username : Option String
  grants : List String
  lifetime : Option Nat
  quiet : Bool

/-- No options. -/
def Draft.empty : Draft := ⟨none, none, none, none, [], none, false⟩

/-- The options that take a value. -/
inductive ValueOption where
  | keyPath
  | algorithm
  | id
  | username
  | grant
  | lifetime
  deriving DecidableEq

/-- The name of an option. -/
def ValueOption.name : ValueOption → String
  | .keyPath => "private-key"
  | .algorithm => "algorithm"
  | .id => "id"
  | .username => "username"
  | .grant => "grant"
  | .lifetime => "lifetime"

/-- All options that take a value. -/
def ValueOption.all : List ValueOption :=
  [.keyPath, .algorithm, .id, .username, .grant, .lifetime]

/-- What an argument is, by its shape. -/
inductive Argument where
  | help
  | version
  | quiet
  | option (which : ValueOption) (value : Option String)
  | terminator
  | stray

/-- The argument with a long name. -/
def longArgument (cs : List Char) : Argument :=
  let name := String.ofList (cs.takeWhile (· ≠ '='))
  let value := match cs.dropWhile (· ≠ '=') with
    | [] => none
    | _ :: text => some (String.ofList text)
  match ValueOption.all.find? fun o => o.name = name, value with
  | some o, value => .option o value
  | none, some _ => .stray
  | none, none =>
    if name = "quiet" then .quiet
    else if name = "help" then .help
    else if name = "version" then .version
    else .stray

/-- What an argument is. -/
def argument (text : String) : Argument :=
  match text.toList with
  | ['-', '-'] => .terminator
  | '-' :: '-' :: cs => longArgument cs
  | '-' :: 'h' :: _ => .help
  | '-' :: 'V' :: _ => .version
  | _ => .stray

/-- Whether an argument that follows an option is its value. -/
def isValue (text : String) : Bool :=
  match text.toList with
  | ['-'] => true
  | '-' :: _ => false
  | _ => true

/-- Puts a value where there is none yet. -/
def once {α : Type} (o : ValueOption) (present : Option α) (value : Option α) :
    Except Misuse (Option α) :=
  match value with
  | none => .error (.invalidValue o.name)
  | some a => if present.isSome then .error (.repeated o.name) else .ok (some a)

/-- The options with the value of one more. -/
def Draft.put (d : Draft) (o : ValueOption) (text : String) : Except Misuse Draft :=
  match o with
  | .keyPath =>
    (once o d.keyPath (if text = "" then none else some text)).map fun keyPath => { d with keyPath }
  | .algorithm => (once o d.algorithm (some text)).map fun algorithm => { d with algorithm }
  | .id => (once o d.id (Text.readInt64 text.toList)).map fun id => { d with id }
  | .username => (once o d.username (some text)).map fun username => { d with username }
  | .grant => .ok { d with grants := d.grants ++ [text] }
  | .lifetime =>
    (once o d.lifetime (Text.readUnsigned 64 text.toList)).map fun lifetime => { d with lifetime }

/-- The algorithm if none is given. -/
def defaultAlgorithm : String := "RS512"

/-- The lifetime if none is given, in seconds. -/
def defaultLifetime : Nat := 3600

/-- The options once all arguments have been read. -/
def Draft.finish (d : Draft) : Except Misuse Options :=
  match d.keyPath, d.id, d.username with
  | none, _, _ => .error (.missingOption ValueOption.keyPath.name)
  | _, none, _ => .error (.missingOption ValueOption.id.name)
  | _, _, none => .error (.missingOption ValueOption.username.name)
  | some keyPath, some id, some username =>
    .ok
      { keyPath, id, username, grants := d.grants, quiet := d.quiet
        algorithm := d.algorithm.getD defaultAlgorithm
        lifetime := d.lifetime.getD defaultLifetime }

/-- Reads arguments from left to right. -/
def readFrom (d : Draft) : List String → Except Misuse Command
  | [] => d.finish.map .issue
  | text :: rest =>
    match argument text with
    | .help => .ok .help
    | .version => .ok .version
    | .quiet =>
      if d.quiet then .error (.repeated "quiet") else readFrom { d with quiet := true } rest
    | .option o (some value) =>
      match d.put o value with
      | .ok d => readFrom d rest
      | .error misuse => .error misuse
    | .option o none =>
      match rest with
      | [] => .error (.missingValue o.name)
      | value :: rest =>
        if !isValue value then .error (.missingValue o.name)
        else match d.put o value with
          | .ok d => readFrom d rest
          | .error misuse => .error misuse
    | .terminator =>
      match rest with
      | [] => d.finish.map .issue
      | extra :: _ => .error (.unexpectedArgument extra)
    | .stray => .error (.unexpectedArgument text)

/-- What a command line asks for. -/
def read (args : List String) : Except Misuse Command :=
  readFrom Draft.empty args

/-! ### Issuing -/

/-- Why no token was made. -/
inductive Problem where
  | unreadable (path reason : String)
  | unknownAlgorithm (text : String)
  | key (problem : Key.Problem)
  | unknownGrant (text : String)
  | issuing (problem : IssuingProblem)
  deriving DecidableEq

/-- The texts of a problem, outermost first; `said` is what is said of a key that does not sign. -/
def Problem.chain (said : String) : Problem → List String
  | .unreadable path reason => ["failed to read " ++ path, reason]
  | .unknownAlgorithm text => ["unknown algorithm: " ++ text, "InvalidAlgorithmName"]
  | .key problem => "failed to load signing key" :: problem.message :: problem.causes
  | .unknownGrant text => ["unknown grant: " ++ text, Role.unknownMessage]
  | .issuing problem => "failed to sign token" :: problem.message said :: problem.causes said

/-- What is printed about a problem: its first text, and below it what is behind it, numbered where
that is more than one text. -/
def complaint (chain : List String) : String :=
  let behind := match chain.tail with
    | [] => ""
    | [cause] => "\n\nCaused by:\n    " ++ cause
    | causes =>
      let lines := causes.zipIdx.map fun (cause, i) =>
        "    " ++ String.ofList (Text.writeNat i) ++ ": " ++ cause
      "\n\nCaused by:\n" ++ "\n".intercalate lines
  "Error: " ++ chain.headD "" ++ behind

/-- What is printed about a token: only the token, or one line for each thing worth knowing. -/
def report (quiet : Bool) (issuer : Issuer) (who : Identity) (token : String) : String :=
  if quiet then token ++ "\n"
  else
    "token: " ++ token ++ "\n" ++
      "id (jti): " ++ String.ofList (Text.writeInt64 who.id) ++ "\n" ++
      "username (sub): " ++ who.username ++ "\n" ++
      "grants: [" ++ ", ".intercalate who.grants.toList ++ "]\n" ++
      "algorithm: " ++ issuer.algorithm.name ++ "\n" ++
      "expires_in: " ++ String.ofList (Text.writeNat issuer.lifetime) ++ "\n"

/-- The issuer that options ask for, with a key from material. -/
def issuerOf (o : Options) (material : String) : Except Problem Issuer :=
  match Algorithm.ofName? o.algorithm with
  | none => .error (.unknownAlgorithm o.algorithm)
  | some algorithm => (Issuer.load algorithm material o.lifetime).mapError .key

/-- The identity that options ask for. -/
def identityOf (o : Options) : Except Problem Identity :=
  match Role.resolveAll o.grants with
  | .error text => .error (.unknownGrant text)
  | .ok names => .ok ⟨o.id, o.username, NameSet.ofList names⟩

/-- What is printed for options at a time; `readFile` gives the text of a file or the reason why
there is none, and `draw` is the number drawn for the signature. -/
def issue (readFile : String → Except String String) (now : Second) (draw : Nat) (o : Options) :
    Except Problem String := do
  let material ← (readFile o.keyPath).mapError (.unreadable o.keyPath)
  let issuer ← issuerOf o material
  let who ← identityOf o
  let token ← (issuer.issue now draw who).mapError .issuing
  .ok (report o.quiet issuer who token)

end BearerGate.CommandLine
