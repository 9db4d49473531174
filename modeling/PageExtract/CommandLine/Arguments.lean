import PageExtract.CommandLine.Command

/-! # Reading the arguments

The arguments are read from left to right, and what settles the matter first wins. Before the
command stand options of the program, behind it options and operands of the command; behind `--`
stand operands only.
-/
namespace PageExtract.CommandLine

inductive Word where
  | plain (text : String)
  | separator
  | long (name : List Char) (value : Option (List Char))
  | cluster (letters : List Char)
  deriving DecidableEq

def Word.ofString (s : String) : Word :=
  match s.toList with
  | ['-', '-'] => .separator
  | '-' :: '-' :: cs =>
    match cs.dropWhile (· ≠ '=') with
    | [] => .long cs none
    | _ :: value => .long (cs.takeWhile (· ≠ '=')) (some value)
  | '-' :: c :: cs => .cluster (c :: cs)
  | _ => .plain s

structure Given where
  verbose : Bool
  rules : Option String
  operands : List String
  /-- The next argument is the path of the rules. -/
  awaitsRules : Bool
  deriving DecidableEq

namespace Given

def nothing : Given := ⟨false, none, [], false⟩

def addRules (g : Given) (path : String) : Except Halt Given :=
  if g.rules.isSome then .error (.misuse (.repeated .rules))
  else .ok { g with rules := some path, awaitsRules := false }

def addFlag (topic : Topic) (g : Given) : Flag → Except Halt Given
  | .verbose =>
    if g.verbose then .error (.misuse (.repeated .verbose)) else .ok { g with verbose := true }
  | .rules => .ok { g with awaitsRules := true }
  | .version => .error .version
  | .help => .error (.help topic)

def addOperand (topic : Topic) (g : Given) (operand : String) : Except Halt Given :=
  if g.operands.length < topic.operands.length then
    .ok { g with operands := g.operands ++ [operand] }
  else .error (.misuse (.surplus operand))

def addOperands (topic : Topic) : Given → List String → Except Halt Given
  | g, [] => .ok g
  | g, operand :: rest =>
    match g.addOperand topic operand with
    | .error halt => .error halt
    | .ok g => g.addOperands topic rest

/-- Letters behind a dash: each is a flag, until one takes the letters after it as its value. -/
def addCluster (topic : Topic) : Given → List Char → Except Halt Given
  | g, [] => .ok g
  | g, c :: cs =>
    match topic.flags.find? (·.short == c), cs with
    | none, _ => .error (.misuse (.unknownFlag (String.ofList ['-', c])))
    | some .rules, '=' :: value => g.addRules (String.ofList value)
    | some .rules, d :: value => g.addRules (String.ofList (d :: value))
    | some flag, cs =>
      match g.addFlag topic flag with
      | .error halt => .error halt
      | .ok g => g.addCluster topic cs

def addLong (topic : Topic) (g : Given) (name : List Char) (value : Option (List Char)) :
    Except Halt Given :=
  match topic.flags.find? (·.long == String.ofList name), value with
  | none, _ => .error (.misuse (.unknownFlag ("--" ++ String.ofList name)))
  | some .rules, some value => g.addRules (String.ofList value)
  | some flag, some _ => .error (.misuse (.uselessValue flag))
  | some flag, none => g.addFlag topic flag

/-- Only a plain word can be the value of the option before it. -/
def addWord (topic : Topic) (g : Given) (word : Word) : Except Halt Given :=
  match word, g.awaitsRules with
  | .plain path, true => g.addRules path
  | _, true => .error (.misuse (.noValue .rules))
  | .plain operand, false => g.addOperand topic operand
  | .separator, false => .ok g
  | .long name value, false => g.addLong topic name value
  | .cluster letters, false => g.addCluster topic letters

end Given

def readVerb (verb : Verb) : Given → List String → Except Halt Given
  | g, [] => if g.awaitsRules then .error (.misuse (.noValue .rules)) else .ok g
  | g, arg :: rest =>
    let word := Word.ofString arg
    match g.addWord (.verb verb) word with
    | .error halt => .error halt
    | .ok g => if word = .separator then g.addOperands (.verb verb) rest else readVerb verb g rest

def Verb.command (verb : Verb) (g : Given) : Except Misuse Command :=
  match verb, g.operands, g.rules with
  | .check, [rule], _ => .ok (.check rule)
  | .extract, [rule, page], _ => .ok (.extract rule page)
  | .content, [page], some rules => .ok (.content rules page)
  | .content, _, none => .error (.missingFlag .rules)
  | verb, operands, _ =>
    .error (.missingOperand (((Topic.verb verb).operands.drop operands.length).headD ""))

def readHelp : List String → Halt
  | [] => .help .program
  | ["help"] => .help .help
  | [name] =>
    match Verb.ofName? name with
    | some verb => .help (.verb verb)
    | none => .misuse (.unknownCommand name)
  | name :: other :: _ =>
    .misuse (.unknownCommand (if (Verb.ofName? name).isSome then other else name))

/-- The option to log more may stand before the command, behind its name, or at both places. -/
def readInvocation (verb : Verb) (verbose : Bool) (args : List String) : Except Halt Invocation :=
  match readVerb verb .nothing args with
  | .error halt => .error halt
  | .ok g =>
    match verb.command g with
    | .error cause => .error (.misuse cause)
    | .ok command => .ok ⟨verbose || g.verbose, command⟩

def readProgram : Given → List String → Except Halt Invocation
  | _, [] => .error (.misuse .noCommand)
  | g, arg :: rest =>
    match Word.ofString arg with
    | .plain "help" => .error (readHelp rest)
    | .plain name =>
      match Verb.ofName? name with
      | some verb => readInvocation verb g.verbose rest
      | none => .error (.misuse (.unknownCommand name))
    | .separator => .error (.misuse (rest.head?.elim .noCommand .surplus))
    | word =>
      match g.addWord .program word with
      | .error halt => .error halt
      | .ok g => readProgram g rest

def Invocation.ofArguments (args : List String) : Except Halt Invocation :=
  readProgram .nothing args

end PageExtract.CommandLine
